import ClusterDeploy.Spec.Command
import ClusterDeploy.Spec.Ssh
import ClusterDeploy.Failure
import ClusterDeploy.Number.Binary64
import ClusterDeploy.Deploy.Plan
import ClusterDeploy.Text.Occurs

/-!
# Lab clusters

A `Lab` is a cluster of machines that answer at once, record every call, and fail where they
are told to.  The engine runs against it as against real machines:

* `Lab.connect`   records the call and opens a session, unless the target is to refuse it;
* `Lab.run`       records the command line; an install, uninstall, cleanup, `chmod` or
                  `mkdir` fails on a machine told to fail it, and an install remembers the
                  token the machine joined with;
* `Lab.upload`    records the path and the text;
* `Lab.read`      records the path and answers the join token (the one set for the machine,
                  else the one it joined with, else one made from its host) or the admin
                  kubeconfig; any other file does not exist;
* `Lab.close`     records the close;
* `Lab.download`  serves the installer, refusing the first few downloads if told to.

A machine is told to fail when its host or its `host:port` is in the set of a `Fault`.  A call
on a session is a `LabSession` call lifted by `Lab.onSession`: it sees the lab's tables and
changes its own session only.
-/

namespace ClusterDeploy

/-- What a lab machine can be told to fail. -/
inductive Fault where
  | connect
  | install
  | uninstall
  | cleanup
  | chmod
  | mkdir
  | upload
  | read
  | close
deriving DecidableEq, Repr, Inhabited

def Fault.ofName? : String → Option Fault
  | "connect" => some .connect
  | "install" => some .install
  | "uninstall" => some .uninstall
  | "cleanup" => some .cleanup
  | "chmod" => some .chmod
  | "mkdir" => some .mkdir
  | "upload" => some .upload
  | "read" => some .read
  | "close" => some .close
  | _ => none

/-- What a lab machine saw. -/
inductive LabEvent where
  | run (line : String)
  | upload (path text : String)
  | read (path : String)
  | close
deriving DecidableEq, Repr, Inhabited

/-- A request for a connection. -/
structure ConnectCall where
  target : SshTarget
  /-- the jump host the connection goes through -/
  via : Option SshTarget
  timeout : Binary64
  commandTimeout : Option Binary64
deriving Repr, Inhabited

/-- An open connection to a lab machine. -/
structure LabSession where
  target : SshTarget
  /-- the token the machine was told to join with, empty when none -/
  joinedWith : String := ""
  events : List LabEvent := []
deriving Repr, Inhabited

def labKubeconfig : String :=
  "apiVersion: v1\nclusters:\n- cluster:\n    certificate-authority-data: Q0EtREFUQQ==\n" ++
  "    server: https://127.0.0.1:6443\n  name: default\ncontexts:\n- context:\n" ++
  "    cluster: default\n    user: default\n  name: default\ncurrent-context: default\n" ++
  "kind: Config\npreferences: \x7b\x7d\nusers:\n- name: default\n  user:\n" ++
  "    client-certificate-data: Q0VSVA==\n    client-key-data: S0VZ\n"

def labInstaller : String := "#!/bin/sh\necho installing k3s\n"

/-- A cluster of lab machines and what was asked of it. -/
structure Lab where
  /-- the hosts told to fail each fault -/
  faults : List (Fault × List String) := []
  /-- join tokens set for hosts or `host:port`s -/
  tokens : List (String × String) := []
  kubeconfig : String := labKubeconfig
  installer : String := labInstaller
  /-- how many downloads of the installer are refused first -/
  refusedDownloads : Nat := 0
  downloads : Nat := 0
  connects : List ConnectCall := []
  /-- every session opened, in order -/
  sessions : List LabSession := []
deriving Repr, Inhabited

abbrev LabM := EStateM Failure Lab

/-- Calls on one session of a lab: they see the lab's tables and change only the session. -/
abbrev SessionM := EStateM Failure LabSession

namespace Lab

def faultSet (l : Lab) (f : Fault) : List String :=
  ((l.faults.find? fun e => e.1 == f).map (·.2)).getD []

def fails (l : Lab) (f : Fault) (t : SshTarget) : Bool :=
  (l.faultSet f).any fun h => h == t.host || h == t.address

def setFault (l : Lab) (f : Fault) (hosts : List String) : Lab :=
  { l with faults := (f, hosts) :: l.faults.filter fun e => e.1 != f }

def session (l : Lab) (id : Nat) : LabSession := l.sessions.getD id default

def setSession (l : Lab) (id : Nat) (s : LabSession) : Lab :=
  { l with sessions := l.sessions.set id s }

/-- Makes a call on session `id`: the call sees the lab and changes only that session. -/
def onSession {α : Type} (id : Nat) (call : Lab → SessionM α) : LabM α := fun l =>
  match (call l).run (l.session id) with
  | .ok a s => .ok a (l.setSession id s)
  | .error e s => .error e (l.setSession id s)

def connect (call : ConnectCall) : LabM Nat := do
  modify fun l => { l with connects := l.connects ++ [call] }
  let l ← get
  if l.fails .connect call.target then throw (.connect ("cannot reach " ++ call.target.address))
  set { l with sessions := l.sessions ++ [({ target := call.target } : LabSession)] }
  pure l.sessions.length

def commandFailure (what : String) (address : String) : Failure :=
  .command (what ++ " failed on " ++ address) none ""

/-- The fault command `c` meets on machine `t`, if any: an install, uninstall, cleanup, `chmod`
or `mkdir` that the machine is told to fail, checked in this order. -/
def commandFault (l : Lab) (t : SshTarget) (c : Command) : Option Failure :=
  if (c.env.lookup "INSTALL_K3S_EXEC").isSome && l.fails .install t then
    some (commandFailure "install" t.address)
  else if Text.occursIn "uninstall" c.cmd && l.fails .uninstall t then
    some (commandFailure "uninstall" t.address)
  else if c.cmd.startsWith "rm -rf" && l.fails .cleanup t then
    some (commandFailure "cleanup" t.address)
  else if c.cmd.startsWith "chmod" && l.fails .chmod t then
    some (commandFailure "chmod" t.address)
  else if c.cmd.startsWith "sudo mkdir" && l.fails .mkdir t then
    some (commandFailure "mkdir" t.address)
  else none

def uploadFault (l : Lab) (t : SshTarget) (path : String) : Option Failure :=
  if l.fails .upload t then some (.upload ("upload of " ++ path ++ " failed on " ++ t.address))
  else none

/-- The fault a read of `path` meets on machine `t`, if any: only the join token and the admin
kubeconfig exist, and the kubeconfig cannot be read on a machine told to fail reads. -/
def readFault (l : Lab) (t : SshTarget) (path : String) : Option Failure :=
  if path == tokenPath then none
  else if path.endsWith "/k3s.yaml" then
    if l.fails .read t then some (.command ("cannot read " ++ path ++ " on " ++ t.address) none "")
    else none
  else some (.command ("no such file " ++ path ++ " on " ++ t.address) none "")

def closeFault (l : Lab) (t : SshTarget) : Option Failure :=
  if l.fails .close t then some (.connect ("close failed on " ++ t.address)) else none

/-- The token a machine reports: the one set for it, else the one it joined with, else its
own, made from its host. -/
def tokenOf (l : Lab) (s : LabSession) : String :=
  match l.tokens.lookup s.target.address, l.tokens.lookup s.target.host with
  | some t, _ => t
  | none, some t => t
  | none, none =>
    if s.joinedWith.isEmpty then
      let digits := String.ofList (s.target.host.toList.filter (· != '.'))
      "K10" ++ digits ++ "::server:0123456789abcdef"
    else s.joinedWith

/-- Downloads the installer; the first `refusedDownloads` downloads fail. -/
def download : LabM String := do
  modify fun l => { l with downloads := l.downloads + 1 }
  let l ← get
  if l.downloads ≤ l.refusedDownloads then
    throw (.fetch ("download " ++ toString l.downloads ++ " failed"))
  pure l.installer

end Lab

namespace LabSession

def note (e : LabEvent) : SessionM Unit :=
  modify fun s => { s with events := s.events ++ [e] }

def failWith (fault : Option Failure) : SessionM Unit :=
  match fault with
  | some f => throw f
  | none => pure ()

/-- Runs a command; it prints nothing.  An install remembers the token the machine joined with,
unless the machine is told to fail installs. -/
def run (l : Lab) (c : Command) : SessionM Unit := do
  note (.run (c.line false))
  let t := (← get).target
  if (c.env.lookup "INSTALL_K3S_EXEC").isSome && !l.fails .install t then
    modify fun s => { s with joinedWith := (c.env.lookup "K3S_TOKEN").getD "" }
  failWith (l.commandFault t c)

def upload (l : Lab) (path text : String) : SessionM Unit := do
  note (.upload path text)
  failWith (l.uploadFault (← get).target path)

def read (l : Lab) (path : String) : SessionM String := do
  note (.read path)
  let s ← get
  failWith (l.readFault s.target path)
  pure (if path == tokenPath then l.tokenOf s ++ "\n" else l.kubeconfig)

def close (l : Lab) : SessionM Unit := do
  note .close
  failWith (l.closeFault (← get).target)

end LabSession

namespace Lab

def run (id : Nat) (c : Command) : LabM Unit := onSession id fun l => LabSession.run l c

def upload (id : Nat) (path text : String) : LabM Unit :=
  onSession id fun l => LabSession.upload l path text

def read (id : Nat) (path : String) : LabM String := onSession id fun l => LabSession.read l path

def close (id : Nat) : LabM Unit := onSession id fun l => LabSession.close l

def activity (l : Lab) : List (SshTarget × List LabEvent) :=
  l.sessions.map fun s => (s.target, s.events)

def connectsSince (l before : Lab) : List ConnectCall := l.connects.drop before.connects.length

/-- The sessions that saw something since `before`, in the order they were opened, each with
what it saw since. -/
def activitySince (l before : Lab) : List (SshTarget × List LabEvent) :=
  l.sessions.zipIdx.filterMap fun (s, i) =>
    let fresh := s.events.drop (before.session i).events.length
    if fresh.isEmpty then none else some (s.target, fresh)

end Lab

end ClusterDeploy
