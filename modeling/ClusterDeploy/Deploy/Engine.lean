import ClusterDeploy.Deploy.Lab
import ClusterDeploy.Deploy.Plan
import ClusterDeploy.Kubeconfig.Edit
import ClusterDeploy.Text.Space

/-!
# The deployment engine

The engine drives the machines of a description to a k3s cluster through a fixed lifecycle:

* `Deploy.setSpec`     adopts a verified description and derives the server URL;
* `Deploy.connect`     opens a session to the jump host, if any, then to every machine in
                       order; when one cannot be reached, the sessions opened are closed again;
* `Deploy.install`     configures and installs the servers one after another (the first starts
                       the cluster, the others join it with the token read back from the one
                       before), then every agent; failed agents do not stop the others and are
                       reported together.  The agents are installed together, and
                       `Deploy.installUnder` takes the schedule of their steps (`Deploy.gather`);
                       a lab runs each to its end in turn;
* `Deploy.uninstall`   runs the uninstall script on every machine, stopping at the first failure;
* `Deploy.kubeconfig`  fetches the admin kubeconfig from the first server and merges it into the
                       local one;
* `Deploy.disconnect`  removes the uploaded files, if any, and closes every session; every
                       machine that fails to is reported.

Each operation demands the lifecycle `Stage` it is meant for.  The engine and the lab it drives
form a `Deployment`; an operation is a `Deploy` action on it, and a failed operation keeps what
it did before it failed.
-/

namespace ClusterDeploy

/-- Where the engine is in its lifecycle. -/
inductive Stage where
  | uninitialized
  | specSet
  | connected
  | installing
  | installed
  | disconnected
deriving DecidableEq, Repr, Inhabited

def Stage.name : Stage → String
  | .uninitialized => "uninitialized"
  | .specSet => "spec-set"
  | .connected => "connected"
  | .installing => "installing"
  | .installed => "installed"
  | .disconnected => "disconnected"

/-- A machine of the description and its session, while it has one. -/
structure Handle where
  machine : Machine
  link : Option Nat := none
deriving Repr, Inhabited

def Handle.address (h : Handle) : String := h.machine.address

/-- What the engine knows and holds. -/
structure Engine where
  settings : Settings
  stage : Stage := .uninitialized
  spec : Option ClusterSpec := none
  /-- the machines of the description, in order -/
  handles : List Handle := []
  /-- the session to the jump host -/
  proxy : Option Nat := none
  serverUrl : String := ""
  clusterToken : String := ""
  /-- the agents that failed to install, by address -/
  failedNodes : List (String × Failure) := []
  /-- whether files were uploaded that are still to be removed -/
  cleanupPending : Bool := false
  /-- the installer, once downloaded -/
  installer : Option String := none
deriving Repr, Inhabited

/-- An engine with the machines it drives and the local files it has found or written, by
path. -/
structure Deployment where
  engine : Engine
  lab : Lab
  localFiles : List (String × LocalFile) := []
deriving Repr, Inhabited

namespace Deployment

/-- What is at a local path: nothing unless a file was found or written there. -/
def localFile (d : Deployment) (path : String) : LocalFile :=
  ((d.localFiles.find? (·.1 == path)).map (·.2)).getD .absent

def putLocalFile (d : Deployment) (path : String) (f : LocalFile) : Deployment :=
  { d with localFiles := (path, f) :: d.localFiles.filter (·.1 != path) }

end Deployment

/-- Actions on a deployment; a failure keeps the deployment as it was when it failed. -/
abbrev Deploy := EStateM Failure Deployment

namespace Deploy

def outcome {α : Type} (act : Deploy α) (d : Deployment) : Except Failure α × Deployment :=
  match act.run d with
  | .ok a d' => (.ok a, d')
  | .error e d' => (.error e, d')

def onLab {α : Type} (act : LabM α) : Deploy α := fun d =>
  match act.run d.lab with
  | .ok a l => .ok a { d with lab := l }
  | .error e l => .error e { d with lab := l }

def attempt {α : Type} (act : Deploy α) : Deploy (Except Failure α) := fun d =>
  match act.run d with
  | .ok a d' => .ok (.ok a) d'
  | .error e d' => .ok (.error e) d'

def orFail {α : Type} (r : Except Failure α) : Deploy α :=
  match r with
  | .ok a => pure a
  | .error e => throw e

/-- Runs steps one after another from `s`, each on what the one before gave, stopping at the
first that fails. -/
def chain {σ : Type} : List (σ → Deploy σ) → σ → Deploy σ
  | [], s => pure s
  | f :: fs, s => do chain fs (← f s)

end Deploy

/-- A task running with others on one event loop, part-way through: the steps it has still to
take, each running at once up to where the task next waits, and what it holds between them, or
the failure that ended it. -/
structure Task (σ : Type) where
  rest : List (σ → Deploy σ)
  held : Except Failure σ

namespace Task

def advance {σ : Type} : Task σ → Deploy (Task σ)
  | ⟨f :: fs, .ok s⟩ => do pure ⟨fs, ← Deploy.attempt (f s)⟩
  | t => pure t

def finish {σ : Type} (t : Task σ) : Deploy (Except Failure σ) :=
  match t.held with
  | .ok s => Deploy.attempt (Deploy.chain t.rest s)
  | .error e => pure (.error e)

end Task

namespace Deploy

/-- Runs tasks together: a step of the task each pick names, in the order of the picks (a pick
of a task that has ended, or of none, passes), then, the picks used up, each task in turn to its
end.  Every interleaving of the tasks' steps is the run of some picks. -/
def gather {σ : Type} : List Nat → List (Task σ) → Deploy (List (Except Failure σ))
  | [], ts => ts.mapM Task.finish
  | i :: picks, ts =>
    match ts[i]? with
    | some t => do gather picks (ts.set i (← t.advance))
    | none => gather picks ts

def engine : Deploy Engine := do pure (← get).engine

def update (f : Engine → Engine) : Deploy Unit := modify fun d => { d with engine := f d.engine }

def require (allowed : List Stage) : Deploy Unit := do
  let e ← engine
  if !allowed.contains e.stage then
    throw (.state ("operation requires engine state " ++
      String.intercalate ", " (allowed.map Stage.name) ++ ", current state is " ++ e.stage.name))

def spec : Deploy ClusterSpec := do
  match (← engine).spec with
  | some c => pure c
  | none => throw .noDescription

def linkOf (h : Handle) : Deploy Nat :=
  match h.link with
  | some id => pure id
  | none => throw (.state ("node " ++ h.address ++ " is not connected"))

def select (s : Selector) : Deploy (List Handle) := do
  pure ((← engine).handles.filter fun h => s.admits h.machine.role)

/-- Adopts a description once it is verified, and derives the server URL from it. The
description and its machines are taken before the URL is written, so a URL that cannot be
written leaves them taken at the uninitialized stage. -/
def adopt (given : Option ClusterSpec) : Deploy Unit := do
  require [.uninitialized]
  let c ← orFail (ClusterSpec.verify given)
  update fun e => { e with
    spec := some c
    handles := c.machines.map fun m => { machine := m } }
  let url ← orFail ((c.serverUrl (← engine).settings.apiPort).mapError Failure.unwritable)
  update fun e => { e with
    serverUrl := url
    stage := .specSet }

def setSpec (src : ClusterSpec.Source) : Deploy Unit := do
  adopt (← orFail (ClusterSpec.read src))

def callFor (s : Settings) (t : SshTarget) (via : Option SshTarget) : ConnectCall :=
  ⟨t, via, s.connectTimeout, s.commandTimeout⟩

/-- Opens sessions to the machines from position `i` on, in order. -/
def linkFrom (via : Option SshTarget) : Nat → List Handle → Deploy Unit
  | _, [] => pure ()
  | i, h :: rest => do
    let id ← onLab (Lab.connect (callFor (← engine).settings h.machine.ssh via))
    update fun e => { e with handles := e.handles.modify i fun h => { h with link := some id } }
    linkFrom via (i + 1) rest

def closeQuietly (link : Option Nat) : Deploy Unit :=
  match link with
  | some id => do
    let _ ← attempt (onLab (Lab.close id))
    pure ()
  | none => pure ()

/-- Closes every session after a failed connect: the machines', then the jump host's. -/
def abandon : Deploy Unit := do
  let e ← engine
  (e.handles.map (·.link)).forM closeQuietly
  update fun e => { e with handles := e.handles.map fun h => { h with link := none } }
  closeQuietly e.proxy
  update fun e => { e with proxy := none }

/-- Opens a session to the jump host, if any, and to every machine. -/
def connect : Deploy Unit := do
  require [.specSet]
  let c ← spec
  let opened ← attempt do
    let via ← match c.proxy with
      | some p =>
        if c.hasProxy then do
          let id ← onLab (Lab.connect (callFor (← engine).settings p none))
          update fun e => { e with proxy := some id }
          pure (some p)
        else pure none
      | none => pure none
    linkFrom via 0 (← engine).handles
  match opened with
  | .ok () => update fun e => { e with stage := .connected }
  | .error f => do
    abandon
    throw f

def fetchInstaller : Deploy String := do
  match (← engine).installer with
  | some s => pure s
  | none => do
    let s ← onLab Lab.download
    update fun e => { e with installer := some s }
    pure s

/-- A step that makes one call on the machine's session and passes the installer on. -/
def callStep (h : Handle) (call : String → Engine → Nat → LabM Unit) (script : String) :
    Deploy String := do
  let id ← linkOf h
  onLab (call script (← engine) id)
  pure script

/-- The first step of configuring a machine: its session is looked up, the uploads are marked
for cleanup, and the installer is fetched. -/
def prepare (h : Handle) (_ : String) : Deploy String := do
  let _ ← linkOf h
  update fun e => { e with cleanupPending := true }
  fetchInstaller

/-- The steps of configuring a machine, each up to where it waits for the installer or the
machine: the installer fetched, uploaded and made executable, the machine's configuration
uploaded, its directory made and the configuration moved into place.  Each step passes the
installer on. -/
def configureSteps (h : Handle) : List (String → Deploy String) :=
  [prepare h,
    callStep h fun script e id => Lab.upload id e.settings.installerPath script,
    callStep h fun _ e id => Lab.run id e.settings.chmodCommand,
    fun script => do
      let c ← spec
      let text ← orFail ((c.settingsFor h.machine).toYaml.mapError Failure.unwritable)
      callStep h (fun _ e id => Lab.upload id e.settings.stagedConfig text) script,
    callStep h fun _ e id => Lab.run id e.settings.mkdirCommand,
    callStep h fun _ e id => Lab.run id e.settings.moveCommand]

def runInstaller (id : Nat) (exec : String) (join : Option (String × String)) : Deploy Unit := do
  let s := (← engine).settings
  let c ← spec
  onLab (Lab.run id ⟨s.installerPath, installEnvironment c.version exec join, false⟩)

/-- The last step of installing a machine: the installer runs, told what to run and, when
`joins`, to join the cluster at the server URL with the cluster token. -/
def installStep (h : Handle) (exec : String) (joins : Bool) (script : String) :
    Deploy String := do
  let id ← linkOf h
  let e ← engine
  runInstaller id exec (if joins then some (e.serverUrl, e.clusterToken) else none)
  pure script

/-- The steps of installing a server: it is configured, then the installer runs; the first of
`count` servers starts the cluster, any other joins it. -/
def serverSteps (count : Nat) (first : Bool) (h : Handle) : List (String → Deploy String) :=
  configureSteps h ++
    [if first then installStep h (bootstrapExec count) false else installStep h "server" true]

/-- Reads the cluster's token back from a server; an empty token is a failure. -/
def fetchToken (h : Handle) : Deploy String := do
  let id ← linkOf h
  let token := Text.strip (← onLab (Lab.read id tokenPath))
  if token.isEmpty then throw (.command ("Empty cluster token on " ++ h.address) none "")
  pure token

/-- Installs a server, then keeps the cluster's token read back from it. -/
def installServer (count : Nat) (first : Bool) (h : Handle) : Deploy Unit := do
  let _ ← chain (serverSteps count first h) ""
  let token ← fetchToken h
  update fun e => { e with clusterToken := token }

/-- The steps of installing an agent: it is configured, then the installer joins it to the
cluster. -/
def agentSteps (h : Handle) : List (String → Deploy String) :=
  configureSteps h ++ [installStep h "agent" true]

/-- Installs every agent, their steps interleaved as `picks` schedules them; the failed agents
are recorded and reported together, in the order of the description. -/
def installAgents (picks : List Nat) : Deploy Unit := do
  let agents ← select (.role .agent)
  if !agents.isEmpty then
    let results ← gather picks (agents.map fun h => ⟨agentSteps h, .ok ""⟩)
    let failures := (agents.zip results).foldl (fun fs r =>
      match r.2 with
      | .error f => Failure.record fs r.1.address f
      | .ok _ => fs) []
    update fun e => { e with failedNodes := failures }
    if !failures.isEmpty then throw (.install failures)

/-- Installs servers one after another; the first of the `count` servers starts the cluster. -/
def installServers (count : Nat) (first : Bool) : List Handle → Deploy Unit
  | [] => pure ()
  | h :: rest => do
    installServer count first h
    installServers count false rest

/-- Installs k3s on every machine: the servers first, one after another, then the agents
together, their steps interleaved as `picks` schedules them. -/
def installUnder (picks : List Nat) : Deploy Unit := do
  require [.connected]
  update fun e => { e with stage := .installing }
  let servers ← select (.role .server)
  installServers servers.length true servers
  installAgents picks
  update fun e => { e with stage := .installed }

/-- Installs k3s on every machine, as a lab schedules it: each agent is installed to its end
before the next starts, since a lab machine answers at once. -/
def install : Deploy Unit := installUnder []

/-- Removes k3s from every machine, stopping at the first failure. -/
def uninstall : Deploy Unit := do
  require [.connected, .installed]
  (← engine).handles.forM fun h => do
    let id ← linkOf h
    onLab (Lab.run id (uninstallCommand h.machine.role))

/-- Fetches the admin kubeconfig from the first server and merges it into the local file at
`path`; for machines the entries keep the names k3s gave them. -/
def kubeconfig (path : String) (forMachines : Bool) : Deploy Kubeconfig := do
  require [.connected, .installed]
  let e ← engine
  let h ← match (← select (.role .server)) with
    | h :: _ => pure h
    | [] => throw .noMachine
  let id ← linkOf h
  let text ← match ← attempt (onLab (Lab.read id e.settings.adminKubeconfig)) with
    | .ok t => pure t
    | .error f =>
      throw (.credentials ("Failed to download kubeconfig from " ++ h.address ++ ": " ++ f.message))
  let (result, file) := Kubeconfig.reconcile text e.serverUrl path ((← get).localFile path)
    forMachines e.settings.apiPort
  modify fun d => d.putLocalFile path file
  orFail result

/-- Cleans up and closes the session of one machine, recording what fails. -/
def release (cleanup : Bool) (s : Settings) (fs : List (String × Failure)) (h : Handle) :
    Deploy (List (String × Failure)) := do
  match h.link with
  | none => pure fs
  | some id => do
    let fs ← if cleanup then do
        match ← attempt (onLab (Lab.run id s.cleanupCommand)) with
        | .error f => pure (Failure.record fs h.address f)
        | .ok () => pure fs
      else pure fs
    match ← attempt (onLab (Lab.close id)) with
    | .error f => pure (Failure.recordFirst fs h.address f)
    | .ok () => pure fs

/-- Removes the uploaded files and closes every session, the jump host's last. -/
def disconnect : Deploy Unit := do
  require [.connected, .installing, .installed]
  let e ← engine
  let fs ← e.handles.foldlM (release e.cleanupPending e.settings) []
  update fun e => { e with handles := e.handles.map fun h => { h with link := none } }
  let fs ← match e.proxy with
    | some id => do
      let closed ← attempt (onLab (Lab.close id))
      update fun e => { e with proxy := none }
      match closed with
      | .error f => pure (Failure.record fs "ssh-proxy" f)
      | .ok () => pure fs
    | none => pure fs
  update fun e => { e with stage := .disconnected }
  if !fs.isEmpty then throw (.disconnect fs)

/-- The settings a machine of the description, by position, is installed with; a negative
position counts from the end.  A position is an integer (a boolean counts as one) that fits in
a signed 64-bit word. -/
def effectiveConfig (position : Data) : Deploy Fragment := do
  let c ← spec
  let index ← match position with
    | .int i => pure i
    | .bool b => pure (if b then 1 else 0)
    | d => throw (.kind ("list indices must be integers or slices, not " ++ d.typeName))
  if index < -Int.pow 2 63 || index ≥ Int.pow 2 63 then throw .hugePosition
  let n : Int := c.machines.length
  let i := if index < 0 then index + n else index
  match (if i < 0 then none else c.machines[i.toNat]?) with
  | some m => pure (c.settingsFor m)
  | none => throw .noMachine

end Deploy

end ClusterDeploy
