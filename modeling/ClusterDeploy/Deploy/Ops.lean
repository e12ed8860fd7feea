import ClusterDeploy.Deploy.Engine
import ClusterDeploy.Workspace

/-!
# Operations

The operations a user runs.  Each reads the description file, connects to every machine, does
its work and disconnects, also when the work failed; a failure to disconnect cleanly then gives
way to the failure of the work:

* `Operation.up`          installs the cluster, then merges its admin kubeconfig into the local
                          file, if a path is given;
* `Operation.down`        removes k3s from every machine;
* `Operation.kubeconfig`  merges the admin kubeconfig into the local file.
-/

namespace ClusterDeploy

/-- What a user asks for. -/
inductive Operation where
  /-- installs the cluster and, unless the path is empty, writes the kubeconfig there -/
  | up (kubeconfigPath : String)
  | down
  | kubeconfig (path : String)
deriving Repr, Inhabited

def defaultDescriptionPath : String := "k3se.yml"

def defaultKubeconfigPath : String := "~/.kube/config"

/-- The text of the description file at `path`.  A file the system cannot give makes the
description unreadable; a path that is no path at all is a value error. -/
def readDescription (files : Workspace) (path : String) : Except Failure String :=
  match files.read path with
  | .ok text => .ok text
  | .error e =>
    if e.fromSystem then .error (.configInvalid ["cannot read " ++ path ++ ": " ++ e.message path])
    else .error (.value (e.message path))

namespace Deploy

/-- Reads the description, connects, runs `body` and disconnects.  When `body` fails, that
failure is the result even if disconnecting fails cleanly too. -/
def connected (files : Workspace) (path : String) (body : Deploy Unit) : Deploy Unit := do
  let text ← orFail (readDescription files path)
  setSpec (.text text)
  connect
  match ← attempt body with
  | .ok () => disconnect
  | .error f => do
    match ← attempt disconnect with
    | .error (.disconnect _) => pure ()
    | .error g => throw g
    | .ok () => pure ()
    throw f

end Deploy

/-- Runs an operation with the description file at `path` among `files`; `forMachines` keeps
the names k3s gave the kubeconfig entries. -/
def Operation.perform (op : Operation) (files : Workspace) (path : String)
    (forMachines : Bool) : Deploy Unit :=
  Deploy.connected files path do
    match op with
    | .up kubeconfigPath => do
      Deploy.install
      if !kubeconfigPath.isEmpty then
        let _ ← Deploy.kubeconfig kubeconfigPath forMachines
    | .down => Deploy.uninstall
    | .kubeconfig kubeconfigPath => do
      let _ ← Deploy.kubeconfig kubeconfigPath forMachines

end ClusterDeploy
