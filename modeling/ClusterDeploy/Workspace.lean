import ClusterDeploy.Text.Echo

/-!
# The local files of a run

A `Workspace` is what a run can read on the local machine: regular files named by paths, either
relative to the working directory or from the root, and the home directory that a leading `~`
stands for.  Directories are not listed: a directory exists where some file lies below it.

`Workspace.read` follows a path the way the operating system does, one name at a time:

* an empty name and `.` stay where they are, `..` goes up (from the root it stays there);
* every name before the last must lead to a directory: a file there is `notDirectory`, nothing
  there is `missing`, and so is an empty path;
* the last name must lead to a file: a directory there is `directory`;
* a name of more than `Workspace.nameLimit` bytes is `nameTooLong` when the walk reaches it, that
  is when the place it is looked up in is a directory;
* a path of `Workspace.pathLimit` bytes or more is `nameTooLong` before any name is looked up;
* a path holding the NUL character is refused before any of that, since no name can hold it.

`Workspace.expandHome` replaces a leading `~` alone, or `~` before a slash, by the home
directory; another user's home (`~name`) is not known here and the path stays as it is.
-/

namespace ClusterDeploy

/-- Why a local file cannot be read. -/
inductive FileError where
  /-- nothing is at the path -/
  | missing
  /-- a directory is at the path -/
  | directory
  /-- a name before the last one leads to a file -/
  | notDirectory
  /-- the path, or a name in it, is longer than the system allows -/
  | nameTooLong
  /-- the path holds the NUL character -/
  | nulInPath
deriving DecidableEq, Repr, Inhabited

namespace FileError

/-- Whether the operating system reports the error; a NUL in a path is refused before that. -/
def fromSystem : FileError → Bool
  | .nulInPath => false
  | _ => true

def message (path : String) : FileError → String
  | .missing => "[Errno 2] No such file or directory: " ++ Text.echo path
  | .directory => "[Errno 21] Is a directory: " ++ Text.echo path
  | .notDirectory => "[Errno 20] Not a directory: " ++ Text.echo path
  | .nameTooLong => "[Errno 36] File name too long: " ++ Text.echo path
  | .nulInPath => "embedded null byte"

end FileError

/-- A place on the local machine: from the root or from the working directory, through these
names.  Above the working directory, the names start with `..`. -/
structure Location where
  rooted : Bool
  names : List String
deriving DecidableEq, Repr, Inhabited

namespace Location

def step (here : Location) (name : String) : Location :=
  if name.isEmpty || name == "." then here
  else if name == ".." then
    match here.names.getLast? with
    | none => if here.rooted then here else ⟨false, [".."]⟩
    | some ".." => ⟨here.rooted, here.names ++ [".."]⟩
    | some _ => ⟨here.rooted, here.names.dropLast⟩
  else ⟨here.rooted, here.names ++ [name]⟩

def parts (path : String) : List String :=
  if path.startsWith "/" then (path.splitOn "/").drop 1 else path.splitOn "/"

/-- Where a path leads, read without looking at what is on the way. -/
def ofPath (path : String) : Location :=
  (parts path).foldl step ⟨path.startsWith "/", []⟩

end Location

/-- The files a run can read, and the home directory. -/
structure Workspace where
  /-- each file's path and its content -/
  files : List (String × String) := []
  /-- the path of the home directory -/
  home : String := "."
deriving Repr, Inhabited

namespace Workspace

/-- What is at a place. -/
inductive Entry where
  | file (content : String)
  | directory
  | nothing
deriving DecidableEq, Repr, Inhabited

/-- What is at `here`: a file listed there, a directory above a listed file, the root, the
working directory or a directory above it. -/
def entryAt (w : Workspace) (here : Location) : Entry :=
  match w.files.find? fun f => Location.ofPath f.1 == here with
  | some (_, content) => .file content
  | none =>
    if here.names.all (· == "..") then .directory
    else if w.files.any fun f =>
        let l := Location.ofPath f.1
        l.rooted == here.rooted && here.names.isPrefixOf l.names then .directory
    else .nothing

def nameLimit : Nat := 255

/-- the bytes a path must stay below, its terminating NUL counted -/
def pathLimit : Nat := 4096

/-- Follows the names of a path from `here`: every place on the way must be a directory, and
each name looked up in one must be short enough; the last place must be a file. -/
def follow (w : Workspace) (here : Location) : List String → Except FileError String
  | [] =>
    match w.entryAt here with
    | .file content => .ok content
    | .directory => .error .directory
    | .nothing => .error .missing
  | name :: rest =>
    match w.entryAt here with
    | .directory =>
      if name.utf8ByteSize > nameLimit then .error .nameTooLong
      else w.follow (here.step name) rest
    | .file _ => .error .notDirectory
    | .nothing => .error .missing

def read (w : Workspace) (path : String) : Except FileError String :=
  if path.contains '\x00' then .error .nulInPath
  else if path.isEmpty then .error .missing
  else if path.utf8ByteSize + 1 > pathLimit then .error .nameTooLong
  else w.follow ⟨path.startsWith "/", []⟩ (Location.parts path)

/-- The path with a leading `~` replaced by the home directory, when it stands alone or before a
slash; the home directory's trailing slashes are dropped, and an empty result is the root. -/
def expandHome (w : Workspace) (path : String) : String :=
  match path.toList with
  | '~' :: rest =>
    if rest.isEmpty || rest.head? == some '/' then
      let home := (w.home.toList.reverse.dropWhile (· == '/')).reverse
      let expanded := String.ofList (home ++ rest)
      if expanded.isEmpty then "/" else expanded
    else path
  | _ => path

end Workspace

end ClusterDeploy
