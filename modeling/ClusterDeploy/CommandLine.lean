import ClusterDeploy.Deploy.Ops
import ClusterDeploy.Remote.Auth
import ClusterDeploy.Text.Echo

/-!
# The command line

`k3se [-h] [--version] [-v] {up,down,kubeconfig} ...` reads its arguments the way the common
option parsers of scripting languages do:

* every argument is first classified: a word, the separator `--` (after which everything is a
  word), a known option (a long option may be shortened to any prefix that names only one
  option, and may carry its value after `=`; short flags may be run together, as in `-vv`), or
  an unknown option; an abbreviation of several options is a mistake at once, wherever it
  stands; a negative number, in the digits of any script, is a word;
* a run of short flags holding a character that names no flag is a mistake before any flag of
  the run takes effect, so `-hx` does not print the help;
* the program's options come before the subcommand, which takes every argument after it;
* each subcommand takes at most one word, the path of the description (`k3se.yml` when none),
  and `up` and `kubeconfig` the option `--kubeconfig PATH`;
* `--version` prints the version and `-h` the help, and both end the run with status 0, unless
  the arguments before them were already wrong; any mistake ends it with status 2.

`Invocation.run` then runs the subcommand against the local files, as far as it can go without
a network: it reads and verifies the description and picks the credentials for the first
machine to connect to.  A failure is printed as `Error: ` and its message, with status 1.
-/

namespace ClusterDeploy

namespace CommandLine

/-- An option of the command line. -/
inductive Flag where
  | help
  | version
  | verbose
  | kubeconfig
deriving DecidableEq, Repr, Inhabited

def Flag.names : Flag → String
  | .help => "-h/--help"
  | .version => "--version"
  | .verbose => "-v/--verbose"
  | .kubeconfig => "--kubeconfig"

def Flag.takesValue : Flag → Bool
  | .kubeconfig => true
  | _ => false

/-- The subcommands. -/
inductive Verb where
  | up
  | down
  | kubeconfig
deriving DecidableEq, Repr, Inhabited

def Verb.name : Verb → String
  | .up => "up"
  | .down => "down"
  | .kubeconfig => "kubeconfig"

def Verb.ofName? : String → Option Verb
  | "up" => some .up
  | "down" => some .down
  | "kubeconfig" => some .kubeconfig
  | _ => none

def programOptions : List (String × Flag) :=
  [("-h", .help), ("--help", .help), ("--version", .version), ("-v", .verbose),
    ("--verbose", .verbose)]

def Verb.options : Verb → List (String × Flag)
  | .down => [("-h", .help), ("--help", .help)]
  | _ => [("-h", .help), ("--help", .help), ("--kubeconfig", .kubeconfig)]

def versionText : String := "k3se 0.1.0\n"

def programUsage : String := "usage: k3se [-h] [--version] [-v] {up,down,kubeconfig} ...\n"

def Verb.usage : Verb → String
  | .down => "usage: k3se down [-h] [config]\n"
  | v => "usage: k3se " ++ v.name ++ " [-h] [--kubeconfig KUBECONFIG] [config]\n"

def programHelp : String :=
  programUsage ++ "\nA lightweight and declarative k3s engine.\n\npositional arguments:\n" ++
  "  {up,down,kubeconfig}\n" ++
  "    up                  Deploy a new cluster or upgrade an existing one.\n" ++
  "    down                Destroy a cluster. All data stored in the cluster is\n" ++
  "                        lost.\n" ++
  "    kubeconfig          Merge the cluster's admin kubeconfig into a local\n" ++
  "                        file.\n\noptions:\n" ++
  "  -h, --help            show this help message and exit\n" ++
  "  --version             show program's version number and exit\n" ++
  "  -v, --verbose         Log debug output, including every remote command.\n"

def Verb.help : Verb → String
  | .down =>
    Verb.down.usage ++ "\npositional arguments:\n" ++
    "  config      Path to the cluster config (default: k3se.yml).\n\noptions:\n" ++
    "  -h, --help  show this help message and exit\n"
  | v =>
    let what := match v with
      | .up => "Also merge the admin kubeconfig into this file."
      | _ => "Local kubeconfig to write (default: ~/.kube/config)."
    v.usage ++ "\npositional arguments:\n" ++
    "  config                Path to the cluster config (default: k3se.yml).\n\noptions:\n" ++
    "  -h, --help            show this help message and exit\n" ++
    "  --kubeconfig KUBECONFIG\n" ++
    "                        " ++ what ++ "\n"

/-- What an argument is to a parser. -/
inductive Piece where
  | word (s : String)
  | separator
  /-- a known option as written, with the text that followed its name (or its `=`) in the same
  argument -/
  | option (f : Flag) (written : String) (attached : Option String)
  | unknown (s : String)
deriving DecidableEq, Repr, Inhabited

/-- How a run of the command line ends: its status and what it printed. -/
structure Exit where
  code : Nat
  stdout : String := ""
  stderr : String := ""
deriving DecidableEq, Repr, Inhabited

def isDigitOfAnyScript (c : Char) : Bool := (Text.decimalValue? c).isSome

/-- whether text is a negative number: a minus and digits, or a minus, digits, a point and
digits (`-1`, `-.5`, `-2.5`), the digits of any script; a line feed may end it -/
def isNegativeNumber (s : String) : Bool :=
  let cs := match s.toList.reverse with
    | '\n' :: rest => rest.reverse
    | _ => s.toList
  match cs with
  | '-' :: rest =>
    let (whole, frac) := (rest.takeWhile isDigitOfAnyScript, rest.dropWhile isDigitOfAnyScript)
    match frac with
    | [] => !whole.isEmpty
    | '.' :: digits => !digits.isEmpty && digits.all isDigitOfAnyScript
    | _ => false
  | _ => false

def candidates (opts : List (String × Flag)) (arg : String) : List Piece :=
  if arg.startsWith "--" then
    let (name, attached) := match arg.splitOn "=" with
      | name :: rest@(_ :: _) => (name, some (String.intercalate "=" rest))
      | _ => (arg, none)
    opts.filterMap fun (s, f) =>
      if s.startsWith name then some (.option f s attached) else none
  else
    let short := String.ofList (arg.toList.take 2)
    opts.filterMap fun (s, f) =>
      if s == short then some (.option f s (some (String.ofList (arg.toList.drop 2))))
      else if s.startsWith arg then some (.option f s none)
      else none

/-- Classifies one argument for a parser with the options `opts`. -/
def classify (opts : List (String × Flag)) (arg : String) : Except String Piece :=
  if !arg.startsWith "-" then .ok (.word arg)
  else
    match opts.lookup arg with
    | some f => .ok (.option f arg none)
    | none =>
      if arg.length == 1 then .ok (.word arg)
      else
        let named := match arg.splitOn "=" with
          | name :: rest@(_ :: _) =>
            (opts.lookup name).map fun f => Piece.option f name (some (String.intercalate "=" rest))
          | _ => none
        match named with
        | some p => .ok p
        | none =>
          match candidates opts arg with
          | [p] => .ok p
          | [] =>
            if isNegativeNumber arg || arg.toList.contains ' ' then .ok (.word arg)
            else .ok (.unknown arg)
          | ps =>
            let names := ps.filterMap fun p => match p with
              | .option _ s _ => some s
              | _ => none
            .error ("ambiguous option: " ++ arg ++ " could match " ++ String.intercalate ", " names)

/-- Classifies the arguments; after `--` every argument is a word.  The first abbreviation of
several options is an error before anything else is read. -/
def classifyAll (opts : List (String × Flag)) : List String → Except String (List (Piece × String))
  | [] => .ok []
  | arg :: rest =>
    if arg == "--" then .ok ((.separator, arg) :: rest.map fun a => (.word a, a))
    else do
      let p ← classify opts arg
      let ps ← classifyAll opts rest
      pure ((p, arg) :: ps)

/-- The flags a run of short flags such as `-vh` sets, in order, `f` being the flag before the
rest of the run.  A character of the run that names no flag makes the rest of the run an
argument `f` cannot take, before any flag of the run takes effect. -/
def shortRun (opts : List (String × Flag)) (f : Flag) : List Char → Except String (List Flag)
  | [] => .ok [f]
  | c :: rest =>
    match opts.lookup (String.ofList ['-', c]) with
    | some g =>
      if g.takesValue then
        .error ("argument " ++ f.names ++ ": ignored explicit argument " ++
          Text.echo (String.ofList (c :: rest)))
      else (shortRun opts g rest).map (f :: ·)
    | none =>
      .error ("argument " ++ f.names ++ ": ignored explicit argument " ++
        Text.echo (String.ofList (c :: rest)))

/-- What one option does: the flags it sets with their values, and how many of the arguments
after it it takes as its value. -/
def consume (opts : List (String × Flag)) (f : Flag) (written : String) (attached : Option String)
    (rest : List (Piece × String)) : Except String (List (Flag × Option String) × Nat) :=
  if f.takesValue then
    match attached, rest with
    | some v, _ => .ok ([(f, some v)], 0)
    | none, (.word v, _) :: _ => .ok ([(f, some v)], 1)
    | none, _ => .error ("argument " ++ f.names ++ ": expected one argument")
  else
    match attached with
    | none => .ok ([(f, none)], 0)
    | some a =>
      if !written.startsWith "--" && !a.isEmpty then
        (shortRun opts f a.toList).map fun fs => (fs.map fun g => (g, none), 0)
      else .error ("argument " ++ f.names ++ ": ignored explicit argument " ++ Text.echo a)

def dropSeparators : List (Piece × String) → List (Piece × String)
  | (.separator, _) :: rest => dropSeparators rest
  | ps => ps

theorem length_dropSeparators_le (ps : List (Piece × String)) :
    (dropSeparators ps).length ≤ ps.length := by
  induction ps with
  | nil => simp [dropSeparators]
  | cons x rest ih =>
    match x with
    | (.separator, _) => simp only [dropSeparators, List.length_cons]; omega
    | (.word _, _) => simp [dropSeparators]
    | (.option _ _ _, _) => simp [dropSeparators]
    | (.unknown _, _) => simp [dropSeparators]

/-- The description's path, if the arguments start with one, after any separators; and the
arguments after it and any separators that follow. -/
def takePath (ps : List (Piece × String)) : Option String × List (Piece × String) :=
  match dropSeparators ps with
  | (.word w, _) :: rest => (some w, dropSeparators rest)
  | other => (none, other)

theorem length_takePath_le (ps : List (Piece × String)) : (takePath ps).2.length ≤ ps.length := by
  have h := length_dropSeparators_le ps
  unfold takePath
  split
  · rename_i w s rest heq
    have h2 := length_dropSeparators_le rest
    rw [heq] at h
    simp only [List.length_cons] at h
    simp only
    omega
  · simpa using h

def failWith (usage prog message : String) : Exit :=
  ⟨2, "", usage ++ prog ++ ": error: " ++ message ++ "\n"⟩

/-- What the command line asks for. -/
structure Invocation where
  verb : Verb
  config : String := defaultDescriptionPath
  kubeconfig : Option String := none
  verbose : Bool := false
deriving DecidableEq, Repr, Inhabited

def applySub (v : Verb) (inv : Invocation) :
    List (Flag × Option String) → Except Exit Invocation
  | [] => .ok inv
  | (.help, _) :: _ => .error ⟨0, v.help, ""⟩
  | (.kubeconfig, some path) :: rest => applySub v { inv with kubeconfig := some path } rest
  | _ :: rest => applySub v inv rest

/-- Reads a subcommand's arguments: the invocation and the arguments it did not know.
`pending` says whether the description's path may still come. -/
def readSub (v : Verb) (inv : Invocation) (pending : Bool) (extras : List String) :
    List (Piece × String) → Except Exit (Invocation × List String)
  | [] => .ok (inv, extras)
  | (.option f written attached, _) :: rest =>
    match consume v.options f written attached rest with
    | .error m => .error (failWith v.usage ("k3se " ++ v.name) m)
    | .ok (effects, used) => do
      let inv ← applySub v inv effects
      readSub v inv pending extras (rest.drop used)
  | (.unknown s, _) :: rest => readSub v inv pending (extras ++ [s]) rest
  | (.word w, _) :: rest =>
    if pending then readSub v { inv with config := w } false extras (dropSeparators rest)
    else readSub v inv pending (extras ++ [w]) rest
  | (.separator, s) :: rest =>
    if pending then
      readSub v { inv with config := (takePath rest).1.getD inv.config } false extras
        (takePath rest).2
    else readSub v inv pending (extras ++ [s]) rest
termination_by ps => ps.length
decreasing_by
  all_goals simp only [List.length_cons, List.length_drop]
  all_goals first
    | omega
    | (have h := length_dropSeparators_le rest; omega)
    | (have h := length_takePath_le rest; omega)

def parseSub (v : Verb) (verbose : Bool) (args : List String) :
    Except Exit (Invocation × List String) :=
  match classifyAll v.options args with
  | .error m => .error (failWith v.usage ("k3se " ++ v.name) m)
  | .ok pieces =>
    let kubeconfig := if v == .kubeconfig then some defaultKubeconfigPath else none
    readSub v ⟨v, defaultDescriptionPath, kubeconfig, verbose⟩ true [] pieces

/-- Reads the subcommand named `w` and its arguments `rest`, the program's unknown arguments
being `extras`. -/
def readVerb (verbose : Bool) (extras : List String) (w : String) (rest : List String) :
    Except Exit Invocation :=
  match Verb.ofName? w with
  | none =>
    .error (failWith programUsage "k3se" ("argument command: invalid choice: " ++ Text.echo w ++
      " (choose from 'up', 'down', 'kubeconfig')"))
  | some v => do
    let (inv, unknown) ← parseSub v verbose rest
    let all := extras ++ unknown
    if all.isEmpty then pure inv
    else throw (failWith programUsage "k3se" ("unrecognized arguments: " ++ String.intercalate " " all))

/-- Reads the program's arguments before the subcommand, then the subcommand's.  The
subcommand must be a word: a separator in its place is not a subcommand's name. -/
def readProgram (verbose : Bool) (extras : List String) :
    List (Piece × String) → Except Exit Invocation
  | [] => .error (failWith programUsage "k3se" "the following arguments are required: command")
  | (.option f written attached, _) :: rest =>
    match consume programOptions f written attached rest with
    | .error m => .error (failWith programUsage "k3se" m)
    | .ok (effects, used) =>
      match effects.find? fun e => e.1 == .help || e.1 == .version with
      | some (.help, _) => .error ⟨0, programHelp, ""⟩
      | some _ => .error ⟨0, versionText, ""⟩
      | none => readProgram (verbose || effects.any (·.1 == .verbose)) extras (rest.drop used)
  | (.unknown s, _) :: rest => readProgram verbose (extras ++ [s]) rest
  | (.word w, _) :: rest => readVerb verbose extras w (rest.map (·.2))
  | (_, s) :: _ =>
    .error (failWith programUsage "k3se" ("argument command: invalid choice: " ++ Text.echo s ++
      " (choose from 'up', 'down', 'kubeconfig')"))
termination_by ps => ps.length
decreasing_by
  all_goals simp only [List.length_cons, List.length_drop]
  all_goals omega

/-- Reads the command line: what it asks for, or how it ends at once. -/
def parse (args : List String) : Except Exit Invocation :=
  match classifyAll programOptions args with
  | .error m => .error (failWith programUsage "k3se" m)
  | .ok pieces => readProgram false [] pieces

def Invocation.operation (inv : Invocation) : Operation :=
  match inv.verb with
  | .up => .up (inv.kubeconfig.getD "")
  | .down => .down
  | .kubeconfig => .kubeconfig (inv.kubeconfig.getD defaultKubeconfigPath)

/-- Runs a subcommand against the local files as far as it goes without a network: reads and
verifies the description, then picks the credentials of the first machine to connect to, the
jump host if there is one.  Connecting is beyond it. -/
def Invocation.reach (inv : Invocation) (files : Workspace) : Except Failure Unit := do
  let text ← readDescription files inv.config
  let spec ← ClusterSpec.ofYaml text
  let spec ← ClusterSpec.verify (some spec)
  let first := match spec.proxy, spec.machines with
    | some p, _ => if spec.hasProxy then some p else none
    | none, _ => none
  let first := first.orElse fun _ => spec.machines.head?.map (·.ssh)
  match first with
  | some t =>
    let _ ← t.credentials files
    throw (.connect ("Failed to connect to " ++ t.address ++ ": no network transport"))
  | none => pure ()

/-- The key files a description names, for the jump host and for every machine. -/
def keyFilesOf (text : String) : List String :=
  match ClusterSpec.ofYaml text with
  | .ok spec =>
    ((spec.proxy.toList ++ spec.machines.map (·.ssh)).map (·.keyFile)).filter (!·.isEmpty)
  | .error _ => []

/-- Runs the command line with the local files: what it prints and its status. -/
def run (args : List String) (files : Workspace) : Exit :=
  match parse args with
  | .error e => e
  | .ok inv =>
    match inv.reach files with
    | .ok () => ⟨0, "", ""⟩
    | .error f => ⟨1, "", "Error: " ++ f.message ++ "\n"⟩

end CommandLine

end ClusterDeploy
