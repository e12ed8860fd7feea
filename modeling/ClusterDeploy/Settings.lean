import ClusterDeploy.Schema.Model
import ClusterDeploy.Text.Case

/-!
# Engine settings

The tunables of a run: how long to wait for a connection and for each remote command, where the
installation script comes from, the scratch directory on each machine, the directory of the k3s
configuration file, and the default API port.

Each can be given directly or through an environment variable named `K3SE_` and the setting's
name, in any case; a value given directly wins.  Unknown settings given directly are refused.
-/

namespace ClusterDeploy

/-- The tunables of a run. -/
structure Settings where
  connectTimeout : Binary64
  commandTimeout : Option Binary64
  installerUrl : String
  remoteDir : String
  configDir : String
  apiPort : Int
deriving DecidableEq, Repr

namespace Settings

def default : Settings :=
  ⟨Binary64.ofInt 5, none, "https://get.k3s.io", "/tmp/k3se", "/etc/rancher/k3s", 6443⟩

instance : Inhabited Settings := ⟨default⟩

def names : List String :=
  ["connect_timeout", "command_timeout", "installer_url", "remote_dir", "config_dir", "api_port"]

/-- Checks a timeout: a number greater than zero.  A NaN is not greater than zero. -/
def checkTimeout (d : Data) : Checked Binary64 :=
  match d.asNumber with
  | .ok x => if x.isPositive then .ok x else Checked.fail (.notAbove "0")
  | .error e => .error e

def checkOptionalTimeout : Data → Checked (Option Binary64)
  | .null => .ok none
  | d => (checkTimeout d).map some

def checkPort (d : Data) : Checked Int :=
  match d.asInteger with
  | .ok p =>
    if p > 65535 then Checked.fail (.notAtMost "65535")
    else if p < 1 then Checked.fail (.notAtLeast "1")
    else .ok p
  | .error e => .error e

def fromEnv (env : List (String × String)) (name : String) : Option Data :=
  let want := Text.lower ("K3SE_" ++ name)
  ((env.reverse.find? (fun e => Text.lower e.1 == want)).map (·.2)).map Data.str

def check (given : List (Data × Data)) (env : List (String × String)) : Checked Settings :=
  let pick := fun (name : String) =>
    match Data.lookupText given name with
    | some v => some v
    | none => fromEnv env name
  let one := fun {α : Type} (name : String) (f : Data → Checked α) (dflt : α) =>
    match pick name with
    | some v => (f v).within name
    | none => (Except.ok dflt : Checked α)
  let connect := one "connect_timeout" checkTimeout default.connectTimeout
  let command := one "command_timeout" checkOptionalTimeout none
  let url := one "installer_url" Data.asText default.installerUrl
  let remote := one "remote_dir" Data.asText default.remoteDir
  let config := one "config_dir" Data.asText default.configDir
  let port := one "api_port" checkPort default.apiPort
  let extra := Checked.refuseExtra given names
  match connect, command, url, remote, config, port, extra with
  | .ok a, .ok b, .ok c, .ok d, .ok e, .ok f, .ok () => .ok ⟨a, b, c, d, e, f⟩
  | _, _, _, _, _, _, _ =>
    .error (connect.issues ++ command.issues ++ url.issues ++ remote.issues ++ config.issues ++
      port.issues ++ extra.issues)

/-- The settings as a mapping under their names, in JSON form: a timeout that is not a finite
number is written as null. -/
def toData (s : Settings) : Data :=
  .map [(.str "connect_timeout", Data.plainFloat s.connectTimeout),
    (.str "command_timeout",
      match s.commandTimeout with | some x => Data.plainFloat x | none => .null),
    (.str "installer_url", .str s.installerUrl), (.str "remote_dir", .str s.remoteDir),
    (.str "config_dir", .str s.configDir), (.str "api_port", .int s.apiPort)]

end Settings

end ClusterDeploy
