import ClusterDeploy.Kubeconfig.Basic
import ClusterDeploy.Kubeconfig.ClusterName
import ClusterDeploy.Workspace

/-!
# Editing kubeconfigs

k3s writes an admin kubeconfig on each server whose cluster, user and context are all named
`default` and whose server is the loopback address.  To use it from elsewhere:

* `Kubeconfig.pointToServer` sets the `default` cluster's server to the advertised URL;
* `Kubeconfig.renameForHumans` names the cluster after the server (`clusterNameFor`), the user
  and the context `admin@<cluster>`, and makes that context current;
* `Kubeconfig.merge` lays a new kubeconfig over an existing one: an entry of the new one
  replaces the first entry of the same name, in its place, and the others are added at the end;
  the new current context wins when it has one;
* `Kubeconfig.reconcile` does all of this against the local file, which may be absent, hold a
  kubeconfig, or be a directory (an error), and gives the file's new content.  An absent file
  is still looked up by its path, so a path too long to look up is an error, not a new file.
-/

namespace ClusterDeploy

def defaultName : String := "default"

/-- What is at the local kubeconfig path. -/
inductive LocalFile where
  | absent
  | text (content : String)
  | directory
deriving DecidableEq, Repr, Inhabited

/-- Entries that have a name. -/
class Named (α : Type) where
  nameOf : α → String

instance : Named NamedCluster := ⟨NamedCluster.name⟩
instance : Named NamedUser := ⟨NamedUser.name⟩
instance : Named NamedContext := ⟨NamedContext.name⟩

/-- Replaces the first entry of each incoming name in place and appends the other incoming
entries, in their order. -/
def upsert {α : Type} [Named α] (existing incoming : List α) : List α :=
  let step := fun (acc : List α × List α) (e : α) =>
    let (out, pending) := acc
    match pending.reverse.find? (fun i => Named.nameOf i == Named.nameOf e) with
    | some i => (out ++ [i], pending.filter (fun p => Named.nameOf p != Named.nameOf e))
    | none => (out ++ [e], pending)
  let (merged, left) := existing.foldl step ([], incoming)
  let leftNames := left.map Named.nameOf
  merged ++ incoming.filter (fun i => leftNames.contains (Named.nameOf i))

namespace Kubeconfig

def pointToServer (k : Kubeconfig) (url : String) : Except Failure Kubeconfig :=
  match k.cluster? defaultName with
  | none => .error (.credentials ("kubeconfig has no cluster named '" ++ defaultName ++ "'"))
  | some _ =>
    let rec set : List NamedCluster → List NamedCluster
      | [] => []
      | c :: rest =>
        if c.name == defaultName then { c with cluster := { c.cluster with server := url } } :: rest
        else c :: set rest
    .ok { k with clusters := set k.clusters }

def replaceFirst {α : Type} (p : α → Bool) (f : α → α) : List α → List α
  | [] => []
  | x :: rest => if p x then f x :: rest else x :: replaceFirst p f rest

def renameForHumans (k : Kubeconfig) (url : String) (defaultPort : Int) :
    Except Failure Kubeconfig :=
  match k.cluster? defaultName, k.user? defaultName, k.context? defaultName with
  | some _, some _, some _ =>
    match clusterNameFor url defaultPort with
    | .error e => .error (.value e.message)
    | .ok clusterName =>
      let contextName := "admin@" ++ clusterName
      let isDefault := fun (n : String) => n == defaultName
      .ok { k with
        clusters := replaceFirst (fun c => isDefault c.name) (fun c => { c with name := clusterName })
          k.clusters
        users := replaceFirst (fun u => isDefault u.name) (fun u => { u with name := contextName })
          k.users
        contexts := replaceFirst (fun c => isDefault c.name)
          (fun c => { c with name := contextName,
                             context := { c.context with cluster := clusterName, user := contextName } })
          k.contexts
        currentContext := contextName }
  | _, _, _ =>
    .error (.credentials ("kubeconfig must contain a cluster, user and context named '" ++
      defaultName ++ "'"))

def merge (old new : Kubeconfig) : Kubeconfig :=
  { old with
    clusters := upsert old.clusters new.clusters
    users := upsert old.users new.users
    contexts := upsert old.contexts new.contexts
    currentContext := if new.currentContext.isEmpty then old.currentContext else new.currentContext }

/-- Reads the local kubeconfig at `path`: none when there is no file, unless the path is too
long to look one up. -/
def readLocal (path : String) : LocalFile → Except Failure (Option Kubeconfig)
  | .absent =>
    match ({} : Workspace).read path with
    | .error .nameTooLong =>
      .error (.credentials ("Failed to read kubeconfig " ++ path ++ ": " ++
        FileError.message path .nameTooLong))
    | _ => .ok none
  | .directory =>
    .error (.credentials ("Failed to read kubeconfig " ++ path ++ ": " ++
      FileError.message path .directory))
  | .text t => (ofYaml t).map some

/-- Turns a server's kubeconfig into the local one: pointed at `url`, renamed unless for
machines, and merged into the local file.  Gives the result and the file's new content; the
file is left as it was when the result cannot be written. -/
def reconcile (remote url path : String) (existing : LocalFile) (forMachines : Bool)
    (defaultPort : Int) : Except Failure Kubeconfig × LocalFile :=
  let result : Except Failure Kubeconfig := do
    let fresh ← (← ofYaml remote).pointToServer url
    let fresh ← if forMachines then pure fresh else fresh.renameForHumans url defaultPort
    match ← readLocal path existing with
    | none => pure fresh
    | some old => pure (merge old fresh)
  match result with
  | .ok k =>
    match k.toYaml with
    | .ok t => (.ok k, .text t)
    | .error u => (.error (.unwritable u), existing)
  | .error e => (.error e, existing)

end Kubeconfig

end ClusterDeploy
