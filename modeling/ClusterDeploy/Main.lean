import ClusterDeploy.CommandLine

/-!
# The program

`main` reads the arguments, the description file the command line names and the key files the
description names (a leading `~` is the home directory), runs the command line over them, prints what it printed and ends with its
status.
-/

open ClusterDeploy

def readLocalFile (path : String) : IO (Option String) := do
  try
    return some (← IO.FS.readFile path)
  catch _ =>
    return none

/-- Reads the files at `paths` that can be read, under their paths. -/
def readLocalFiles (paths : List String) : IO (List (String × String)) :=
  paths.filterMapM fun p => do
    return (← readLocalFile p).map fun t => (p, t)

/-- Runs the command line; `~` in a key file's path is the home directory the environment
names. -/
def main (args : List String) : IO UInt32 := do
  let home := (← IO.getEnv "HOME").getD "."
  let description ← match CommandLine.parse args with
    | .ok inv => readLocalFiles [inv.config]
    | .error _ => pure []
  let keyPaths := description.flatMap fun f =>
    (CommandLine.keyFilesOf f.2).map ({ home := home } : Workspace).expandHome
  let keys ← readLocalFiles keyPaths
  let result := CommandLine.run args { files := description ++ keys, home := home }
  IO.print result.stdout
  IO.eprint result.stderr
  return result.code.toUInt32
