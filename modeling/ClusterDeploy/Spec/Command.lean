import ClusterDeploy.Schema.Model
import ClusterDeploy.Text.ShellWord

/-!
# Remote commands

A `Command` is what is run on a machine: a command text, environment variables to set, and
whether to run it through a shell.  `Command.line` compiles it into the one line sent over the
connection:

* with no variables and no shell, the command text unchanged;
* otherwise `sh -c` and the command as one shell word;
* with variables, `env` and `NAME=value` words in front, names in ascending order and each
  value one shell word, or `***` in the redacted line written to logs and errors.
-/

namespace ClusterDeploy

/-- A command to run on a remote machine. -/
structure Command where
  cmd : String
  env : List (String × String) := []
  shell : Bool := false
deriving DecidableEq, Repr, Inhabited

namespace Command

def sortedEnv (c : Command) : List (String × String) :=
  c.env.mergeSort (fun a b => decide (a.1 ≤ b.1))

/-- The command line sent to the machine; `redact` hides the variables' values. -/
def line (c : Command) (redact : Bool := false) : String :=
  let body := if c.shell || !c.env.isEmpty then "sh -c " ++ ShellWord.quote c.cmd else c.cmd
  if c.env.isEmpty then body
  else
    let words := c.sortedEnv.map fun (k, v) =>
      k ++ "=" ++ (if redact then "***" else ShellWord.quote v)
    String.intercalate " " ("env" :: words ++ [body])

def check (d : Data) : Checked Command :=
  match d.asModel "RemoteCommand" with
  | .error e => .error e
  | .ok es =>
    let cmd := Checked.field es ⟨"cmd", none⟩ Data.asText none
    let env := Checked.field es ⟨"env", none⟩ (Checked.textMap Data.asText) (some [])
    let shell := Checked.field es ⟨"shell", none⟩ Data.asFlag (some false)
    match cmd, env, shell with
    | .ok c, .ok e, .ok s => .ok ⟨c, e, s⟩
    | _, _, _ => .error (cmd.issues ++ env.issues ++ shell.issues)

end Command

end ClusterDeploy
