import ClusterDeploy.Spec.Fragment
import ClusterDeploy.Spec.Ssh
import ClusterDeploy.Failure
import ClusterDeploy.Yaml.Load
import ClusterDeploy.Text.Echo

/-!
# Cluster descriptions

A `ClusterSpec` is the desired state of a cluster, as written in its description file:

* `version`   the release channel to install (`stable`, `latest` or `testing`);
* `defaults`  the settings every server and every agent gets (`cluster.server`,
              `cluster.agent`);
* `machines`  the machines, in order, each with its `Role`, how to reach it, and its own
              server and agent settings (only those of its role are used);
* `proxy`     the jump host every connection goes through, if any (`ssh-proxy`).

`ClusterSpec.ofYaml` reads a description from YAML text, `ClusterSpec.check` from a loaded
document and `ClusterSpec.read` from either; `ClusterSpec.verify` then checks what a cluster
needs: a known channel, some machines, and an odd number of servers (for the quorum of the
control plane).  A `Selector` picks the machines of one role, or all of them.
-/

namespace ClusterDeploy

/-- Which machines a selection takes: those of one role, or all. -/
inductive Selector where
  | role (r : Role)
  | any
deriving DecidableEq, Repr, Inhabited

namespace Selector

def ofData (d : Data) : Except Failure Selector :=
  match d with
  | .str "server" => .ok (.role .server)
  | .str "agent" => .ok (.role .agent)
  | .str "any" => .ok .any
  | _ => .error (.value (d.echo ++ " is not a valid Role"))

def admits (s : Selector) (r : Role) : Bool :=
  match s with
  | .any => true
  | .role r' => r == r'

end Selector

/-- Checks the role of a machine named by a word: `server` or `agent`; `any` only selects. -/
def Role.ofWord (w : String) : Checked Role :=
  if w == "server" then .ok .server
  else if w == "agent" then .ok .agent
  else if w == "any" then Checked.fail (.rejected "role 'any' is a selector, use 'server' or 'agent'")
  else Checked.fail (.notChoice "'server', 'agent' or 'any'")

/-- Checks the role of a machine: its word as text, or as bytes of UTF-8 text. -/
def Role.check (d : Data) : Checked Role :=
  match d with
  | .str w => Role.ofWord w
  | .bytes b =>
    match Utf8.decode? b with
    | some w => Role.ofWord w
    | none => Checked.fail (.notChoice "'server', 'agent' or 'any'")
  | _ => Checked.fail (.notChoice "'server', 'agent' or 'any'")

/-- One machine of the cluster. -/
structure Machine where
  role : Role
  ssh : SshTarget
  server : Fragment := Fragment.empty .server
  agent : Fragment := Fragment.empty .agent
deriving Repr, Inhabited

namespace Machine

def address (m : Machine) : String := m.ssh.address

def fragment (m : Machine) : Fragment :=
  match m.role with
  | .server => m.server
  | .agent => m.agent

def check (d : Data) : Checked Machine :=
  match d.asModel "Node" with
  | .error e => .error e
  | .ok es =>
    let role := Checked.field es ⟨"role", none⟩ Role.check none
    let ssh := Checked.field es ⟨"ssh", none⟩ SshTarget.check none
    let server := Checked.field es ⟨"server", none⟩ (Fragment.check .server)
      (some (Fragment.empty .server))
    let agent := Checked.field es ⟨"agent", none⟩ (Fragment.check .agent)
      (some (Fragment.empty .agent))
    match role, ssh, server, agent with
    | .ok r, .ok s, .ok sv, .ok ag => .ok ⟨r, s, sv, ag⟩
    | _, _, _, _ => .error (role.issues ++ ssh.issues ++ server.issues ++ agent.issues)

/-- The machine as a mapping: every field, or with `changedOnly` the fields off their
defaults (the role and the connection are always written). -/
def toData (m : Machine) (changedOnly : Bool) : Data :=
  .map ([(.str "role", .str m.role.name), (.str "ssh", m.ssh.toData changedOnly)] ++
    (if changedOnly && m.server.isEmpty then []
      else [(.str "server", if changedOnly then m.server.changes else m.server.toData)]) ++
    (if changedOnly && m.agent.isEmpty then []
      else [(.str "agent", if changedOnly then m.agent.changes else m.agent.toData)]))

end Machine

/-- The settings shared by every server and every agent. -/
structure ClusterDefaults where
  server : Fragment := Fragment.empty .server
  agent : Fragment := Fragment.empty .agent
deriving Repr, Inhabited

namespace ClusterDefaults

def isEmpty (c : ClusterDefaults) : Bool := c.server.isEmpty && c.agent.isEmpty

def fragment (c : ClusterDefaults) : Role → Fragment
  | .server => c.server
  | .agent => c.agent

def check (d : Data) : Checked ClusterDefaults :=
  match d.asModel "ClusterConfig" with
  | .error e => .error e
  | .ok es =>
    let server := Checked.field es ⟨"server", none⟩ (Fragment.check .server)
      (some (Fragment.empty .server))
    let agent := Checked.field es ⟨"agent", none⟩ (Fragment.check .agent)
      (some (Fragment.empty .agent))
    match server, agent with
    | .ok sv, .ok ag => .ok ⟨sv, ag⟩
    | _, _ => .error (server.issues ++ agent.issues)

/-- The shared settings as a mapping, all or only those off their defaults. -/
def toData (c : ClusterDefaults) (changedOnly : Bool) : Data :=
  .map ((if changedOnly && c.server.isEmpty then []
      else [(.str "server", if changedOnly then c.server.changes else c.server.toData)]) ++
    (if changedOnly && c.agent.isEmpty then []
      else [(.str "agent", if changedOnly then c.agent.changes else c.agent.toData)]))

end ClusterDefaults

def channels : List String := ["stable", "latest", "testing"]

/-- The desired state of a cluster. -/
structure ClusterSpec where
  version : String := ""
  defaults : ClusterDefaults := {}
  machines : List Machine := []
  proxy : Option SshTarget := none
deriving Repr, Inhabited

namespace ClusterSpec

def hasProxy (c : ClusterSpec) : Bool :=
  match c.proxy with
  | some p => !p.host.isEmpty
  | none => false

def select (c : ClusterSpec) (s : Selector) : List Machine :=
  c.machines.filter fun m => s.admits m.role

def servers (c : ClusterSpec) : List Machine := c.select (.role .server)

def agents (c : ClusterSpec) : List Machine := c.select (.role .agent)

def checkProxy (d : Data) : Checked (Option SshTarget) :=
  match d with
  | .null => .ok none
  | _ => (SshTarget.check d).map some

def check (d : Data) : Checked ClusterSpec :=
  match d.asModel "Config" with
  | .error e => .error e
  | .ok es =>
    let version := Checked.field es ⟨"version", none⟩ Data.asText (some "")
    let cluster := Checked.field es ⟨"cluster", none⟩ ClusterDefaults.check (some {})
    let nodes := Checked.field es ⟨"nodes", none⟩
      (fun d => d.asList >>= Checked.each Machine.check) (some [])
    let proxy := Checked.field es ⟨"ssh_proxy", some "ssh-proxy"⟩ checkProxy (some none)
    match version, cluster, nodes, proxy with
    | .ok v, .ok c, .ok n, .ok p => .ok ⟨v, c, n, p⟩
    | _, _, _, _ => .error (version.issues ++ cluster.issues ++ nodes.issues ++ proxy.issues)

/-- The description as a mapping: every field, or with `changedOnly` only the fields off their
defaults. -/
def toData (c : ClusterSpec) (changedOnly : Bool) : Data :=
  .map ((if changedOnly && c.version.isEmpty then [] else [(.str "version", .str c.version)]) ++
    (if changedOnly && c.defaults.isEmpty then []
      else [(.str "cluster", c.defaults.toData changedOnly)]) ++
    (if changedOnly && c.machines.isEmpty then []
      else [(.str "nodes", .seq (c.machines.map fun m => m.toData changedOnly))]) ++
    (match c.proxy with
      | none => if changedOnly then [] else [(.str "ssh-proxy", .null)]
      | some p => [(.str "ssh-proxy", p.toData changedOnly)]))

/-- Reads a description from a loaded document; problems make the description invalid. -/
def ofData (d : Data) : Except Failure ClusterSpec :=
  match check d with
  | .ok c => .ok c
  | .error es => .error (.configInvalid (es.map Issue.text))

def ofYaml (text : String) : Except Failure ClusterSpec :=
  match Yaml.load text with
  | .error (.malformed e) =>
    .error (.configInvalid ["malformed YAML: " ++ e.message text.toList.toArray])
  | .error (.fault f) => .error (.load f)
  | .ok .null => .error (.configInvalid ["configuration empty"])
  | .ok d => ofData d

/-- Checks what a cluster needs; every problem found is reported. -/
def verify (spec : Option ClusterSpec) : Except Failure ClusterSpec :=
  match spec with
  | none => .error (.configInvalid ["configuration empty"])
  | some c =>
    let servers := c.servers.length
    let problems :=
      (if channels.contains c.version then []
        else ["unsupported version must be one of: " ++ String.intercalate ", " channels]) ++
      (if c.machines.isEmpty then ["no nodes specified"] else []) ++
      (if servers == 0 then ["no control-plane nodes specified"]
        else if servers % 2 == 0 then
          ["number of control-plane nodes must be odd to maintain quorum, got " ++ toString servers]
        else [])
    if problems.isEmpty then .ok c else .error (.configInvalid problems)

/-- Where a description comes from: YAML text, a loaded document, or nowhere. -/
inductive Source where
  | text (yaml : String)
  | document (d : Data)
  | nothing
deriving Repr, Inhabited

/-- Reads a description from where it comes from; nowhere gives none. -/
def read : Source → Except Failure (Option ClusterSpec)
  | .text t => (ofYaml t).map some
  | .document d => (ofData d).map some
  | .nothing => .ok none

end ClusterSpec

end ClusterDeploy
