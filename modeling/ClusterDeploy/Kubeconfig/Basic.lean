import ClusterDeploy.Schema.Model
import ClusterDeploy.Failure
import ClusterDeploy.Yaml.Load
import ClusterDeploy.Yaml.Emit

/-!
# Kubeconfig documents

A `Kubeconfig` is the file that tells cluster clients where the API servers are and how to log
in: named clusters (each with its server URL), named users (their credentials, kept as they
are), named contexts (a cluster and a user), the current context, and preferences.  Every entry
keeps the keys this library does not model (`extra`), in their order, so that reading and
writing a file back loses nothing.

* `Kubeconfig.check` reads a document; null, empty lists and false values of `clusters`,
  `contexts`, `users` and `current-context` count as empty;
* `Kubeconfig.ofYaml` reads YAML text, an empty or false document being the empty kubeconfig;
* `Kubeconfig.toData` writes the modelled fields first, then the extra keys, with values in
  their JSON form; `Kubeconfig.toYaml` writes that as YAML.  Both fail when a kept value holds
  bytes that are not UTF-8 text, or a collection that holds itself, since those have no JSON
  form, and `toYaml` also when it holds an integer too long to be written.
-/

namespace ClusterDeploy

abbrev Extras := List (String × Data)

/-- Checks the entries of a model that keeps unknown keys: the keys not used by its fields. -/
def Checked.extras (es : List (Data × Data)) (fields : List FieldName) : Checked Extras :=
  Checked.extraEntries es (Checked.usedKeys es fields)

/-- The extra entries as mapping entries, values in their JSON form. -/
def Extras.toEntries (xs : Extras) : Except Data.Unwritable (List (Data × Data)) :=
  xs.mapM fun e => (fun v => (.str e.1, v)) <$> e.2.plain

/-- A cluster's connection: the API server URL. -/
structure ClusterEntry where
  server : String := ""
  extra : Extras := []
deriving BEq, Repr, Inhabited

/-- A cluster with its name. -/
structure NamedCluster where
  name : String
  cluster : ClusterEntry := {}
  extra : Extras := []
deriving BEq, Repr, Inhabited

/-- A user with its name and credentials. -/
structure NamedUser where
  name : String
  user : Extras := []
  extra : Extras := []
deriving BEq, Repr, Inhabited

/-- A context: which cluster and which user. -/
structure ContextEntry where
  cluster : String := ""
  user : String := ""
  extra : Extras := []
deriving BEq, Repr, Inhabited

/-- A context with its name. -/
structure NamedContext where
  name : String
  context : ContextEntry := {}
  extra : Extras := []
deriving BEq, Repr, Inhabited

/-- A kubeconfig file. -/
structure Kubeconfig where
  apiVersion : String := "v1"
  kind : String := "Config"
  clusters : List NamedCluster := []
  contexts : List NamedContext := []
  users : List NamedUser := []
  currentContext : String := ""
  preferences : Extras := []
  extra : Extras := []
deriving BEq, Repr, Inhabited

def Checked.anyMap (d : Data) : Checked Extras := Checked.textMap (fun v => .ok v) d

namespace ClusterEntry

def fields : List FieldName := [⟨"server", none⟩]

def check (d : Data) : Checked ClusterEntry :=
  match d.asModel "ClusterEntry" with
  | .error e => .error e
  | .ok es =>
    match Checked.both (Checked.field es ⟨"server", none⟩ Data.asText (some ""))
      (Checked.extras es fields) with
    | .ok (s, x) => .ok ⟨s, x⟩
    | .error e => .error e

def toData (c : ClusterEntry) : Except Data.Unwritable Data := do
  pure (.map ((.str "server", .str c.server) :: (← c.extra.toEntries)))

end ClusterEntry

namespace NamedCluster

def fields : List FieldName := [⟨"name", none⟩, ⟨"cluster", none⟩]

def check (d : Data) : Checked NamedCluster :=
  match d.asModel "NamedCluster" with
  | .error e => .error e
  | .ok es =>
    let name := Checked.field es ⟨"name", none⟩ Data.asText none
    let cluster := Checked.field es ⟨"cluster", none⟩ ClusterEntry.check (some {})
    match Checked.both (Checked.both name cluster) (Checked.extras es fields) with
    | .ok ((n, c), x) => .ok ⟨n, c, x⟩
    | .error e => .error e

def toData (c : NamedCluster) : Except Data.Unwritable Data := do
  pure (.map ([(.str "name", .str c.name), (.str "cluster", ← c.cluster.toData)] ++
    (← c.extra.toEntries)))

end NamedCluster

namespace NamedUser

def fields : List FieldName := [⟨"name", none⟩, ⟨"user", none⟩]

def check (d : Data) : Checked NamedUser :=
  match d.asModel "NamedUser" with
  | .error e => .error e
  | .ok es =>
    let name := Checked.field es ⟨"name", none⟩ Data.asText none
    let user := Checked.field es ⟨"user", none⟩ Checked.anyMap (some [])
    match Checked.both (Checked.both name user) (Checked.extras es fields) with
    | .ok ((n, u), x) => .ok ⟨n, u, x⟩
    | .error e => .error e

def toData (u : NamedUser) : Except Data.Unwritable Data := do
  pure (.map ([(.str "name", .str u.name), (.str "user", .map (← u.user.toEntries))] ++
    (← u.extra.toEntries)))

end NamedUser

namespace ContextEntry

def fields : List FieldName := [⟨"cluster", none⟩, ⟨"user", none⟩]

def check (d : Data) : Checked ContextEntry :=
  match d.asModel "ContextEntry" with
  | .error e => .error e
  | .ok es =>
    let cluster := Checked.field es ⟨"cluster", none⟩ Data.asText (some "")
    let user := Checked.field es ⟨"user", none⟩ Data.asText (some "")
    match Checked.both (Checked.both cluster user) (Checked.extras es fields) with
    | .ok ((c, u), x) => .ok ⟨c, u, x⟩
    | .error e => .error e

def toData (c : ContextEntry) : Except Data.Unwritable Data := do
  pure (.map ([(.str "cluster", .str c.cluster), (.str "user", .str c.user)] ++
    (← c.extra.toEntries)))

end ContextEntry

namespace NamedContext

def fields : List FieldName := [⟨"name", none⟩, ⟨"context", none⟩]

def check (d : Data) : Checked NamedContext :=
  match d.asModel "NamedContext" with
  | .error e => .error e
  | .ok es =>
    let name := Checked.field es ⟨"name", none⟩ Data.asText none
    let context := Checked.field es ⟨"context", none⟩ ContextEntry.check (some {})
    match Checked.both (Checked.both name context) (Checked.extras es fields) with
    | .ok ((n, c), x) => .ok ⟨n, c, x⟩
    | .error e => .error e

def toData (c : NamedContext) : Except Data.Unwritable Data := do
  pure (.map ([(.str "name", .str c.name), (.str "context", ← c.context.toData)] ++
    (← c.extra.toEntries)))

end NamedContext

namespace Kubeconfig

def fields : List FieldName :=
  [⟨"api_version", some "apiVersion"⟩, ⟨"kind", none⟩, ⟨"clusters", none⟩, ⟨"contexts", none⟩,
   ⟨"users", none⟩, ⟨"current_context", some "current-context"⟩, ⟨"preferences", none⟩]

/-- Checks a list of entries, a false value counting as the empty list. -/
def entryList {α : Type} (check : Data → Checked α) (d : Data) : Checked (List α) :=
  (if d.truthy then d else .seq []).asList >>= Checked.each check

def check (d : Data) : Checked Kubeconfig :=
  match d.asModel "KubeConfig" with
  | .error e => .error e
  | .ok es =>
    let apiVersion := Checked.field es ⟨"api_version", some "apiVersion"⟩ Data.asText (some "v1")
    let kind := Checked.field es ⟨"kind", none⟩ Data.asText (some "Config")
    let clusters := Checked.field es ⟨"clusters", none⟩ (entryList NamedCluster.check) (some [])
    let contexts := Checked.field es ⟨"contexts", none⟩ (entryList NamedContext.check) (some [])
    let users := Checked.field es ⟨"users", none⟩ (entryList NamedUser.check) (some [])
    let current := Checked.field es ⟨"current_context", some "current-context"⟩
      (fun d => (if d.truthy then d else .str "").asText) (some "")
    let preferences := Checked.field es ⟨"preferences", none⟩ Checked.anyMap (some [])
    let extra := Checked.extras es fields
    match apiVersion, kind, clusters, contexts, users, current, preferences, extra with
    | .ok a, .ok k, .ok cl, .ok co, .ok us, .ok cc, .ok pr, .ok x => .ok ⟨a, k, cl, co, us, cc, pr, x⟩
    | _, _, _, _, _, _, _, _ =>
      .error (apiVersion.issues ++ kind.issues ++ clusters.issues ++ contexts.issues ++
        users.issues ++ current.issues ++ preferences.issues ++ extra.issues)

/-- The kubeconfig as a mapping: the modelled fields in order, then the extra keys.  It fails
on the first bytes, in that order, that are not UTF-8 text. -/
def toData (k : Kubeconfig) : Except Data.Unwritable Data := do
  pure (.map ([(.str "apiVersion", .str k.apiVersion), (.str "kind", .str k.kind),
    (.str "clusters", .seq (← k.clusters.mapM NamedCluster.toData)),
    (.str "contexts", .seq (← k.contexts.mapM NamedContext.toData)),
    (.str "users", .seq (← k.users.mapM NamedUser.toData)),
    (.str "current-context", .str k.currentContext),
    (.str "preferences", .map (← k.preferences.toEntries))] ++ (← k.extra.toEntries)))

/-- The kubeconfig as a YAML file, unless it has no JSON form or holds an integer too long to
be written. -/
def toYaml (k : Kubeconfig) : Except Data.Unwritable String := k.toData >>= Yaml.dumpChecked

/-- Reads a kubeconfig from YAML text; an empty or false document is the empty kubeconfig. -/
def ofYaml (text : String) : Except Failure Kubeconfig :=
  match Yaml.load text with
  | .error (.malformed e) =>
    .error (.credentials ("Failed to parse kubeconfig: " ++ e.message text.toList.toArray))
  | .error (.fault f) => .error (.load f)
  | .ok d =>
    match check (if d.truthy then d else .map []) with
    | .ok k => .ok k
    | .error es =>
      .error (.credentials ("invalid kubeconfig: " ++ String.intercalate "; " (es.map Issue.text)))

def cluster? (k : Kubeconfig) (n : String) : Option NamedCluster := k.clusters.find? (·.name == n)

def user? (k : Kubeconfig) (n : String) : Option NamedUser := k.users.find? (·.name == n)

def context? (k : Kubeconfig) (n : String) : Option NamedContext := k.contexts.find? (·.name == n)

end Kubeconfig

end ClusterDeploy
