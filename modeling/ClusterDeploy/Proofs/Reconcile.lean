import ClusterDeploy.Proofs.Upsert
import ClusterDeploy.Proofs.Accounting

/-!
# Reconciling the local kubeconfig

Reconciling turns a server's admin kubeconfig into the local one: the `default` cluster is
pointed at the advertised API server, the `default` entries are renamed after it unless the file
is for machines, and the result is laid over the local file entry by entry (`Kubeconfig.merge`).

* `Data.eq_of_beq`, `Data.beq_self`  equality of loaded values is decided by `Data.beq`, so
                     kubeconfigs have decidable equality and their lookups evaluate;
* `Kubeconfig.fresh`, `Kubeconfig.merged`, `Kubeconfig.reconcile_eq`  reconciling, cut at the
                     fresh kubeconfig and at the merged one;
* `Kubeconfig.reconcile_all_or_nothing`  reconciling writes exactly the YAML form of what it gives,
                     or fails, leaving the file as it was, with one of the failures
                     `Kubeconfig.ReconcileFailure` lists; `Deploy.kubeconfig_all_or_nothing` says
                     the same of fetching the kubeconfig from the first server;
* `Kubeconfig.reconcile_usable`  the written kubeconfig's lookups find the server's entries, pointed
                     and renamed, and its current context is theirs, whatever the local file held,
                     when the server's names are distinct and the renaming takes no name the
                     server's kubeconfig already uses.
-/

namespace ClusterDeploy

namespace Data

/-! `Data.beq` compares values constructor by constructor; it is equality. -/

mutual

theorem eq_of_beq : (a b : Data) → beq a b = true → a = b
  | .null, b, h => by cases b <;> simp_all [beq]
  | .bool x, b, h => by cases b <;> simp_all [beq]
  | .int x, b, h => by cases b <;> simp_all [beq]
  | .float x, b, h => by cases b <;> simp_all [beq]
  | .str x, b, h => by cases b <;> simp_all [beq]
  | .bytes x, b, h => by cases b <;> simp_all [beq]
  | .date x, b, h => by cases b <;> simp_all [beq]
  | .time x, b, h => by cases b <;> simp_all [beq]
  | .seq xs, b, h => by
    cases b with
    | seq ys => rw [eq_of_beqItems xs ys h]
    | _ => simp [beq] at h
  | .map xs, b, h => by
    cases b with
    | map ys => rw [eq_of_beqEntries xs ys h]
    | _ => simp [beq] at h
  | .loop x, b, h => by
    cases b with
    | loop y => rw [eq_of_beq x y h]
    | _ => simp [beq] at h

theorem eq_of_beqItems : (as bs : List Data) → beqItems as bs = true → as = bs
  | [], [], _ => rfl
  | [], _ :: _, h => by simp [beqItems] at h
  | _ :: _, [], h => by simp [beqItems] at h
  | a :: as, b :: bs, h => by
    simp only [beqItems, Bool.and_eq_true] at h
    rw [eq_of_beq a b h.1, eq_of_beqItems as bs h.2]

theorem eq_of_beqEntries : (as bs : List (Data × Data)) → beqEntries as bs = true → as = bs
  | [], [], _ => rfl
  | [], _ :: _, h => by simp [beqEntries] at h
  | _ :: _, [], h => by simp [beqEntries] at h
  | (k, v) :: as, (k', v') :: bs, h => by
    simp only [beqEntries, Bool.and_eq_true] at h
    rw [eq_of_beq k k' h.1.1, eq_of_beq v v' h.1.2, eq_of_beqEntries as bs h.2]

end

mutual

theorem beq_self : (a : Data) → beq a a = true
  | .null => rfl
  | .bool x => by simp [beq]
  | .int x => by simp [beq]
  | .float x => by simp [beq]
  | .str x => by simp [beq]
  | .bytes x => by simp [beq]
  | .date x => by simp [beq]
  | .time x => by simp [beq]
  | .seq xs => beqItems_self xs
  | .map xs => beqEntries_self xs
  | .loop x => beq_self x

theorem beqItems_self : (as : List Data) → beqItems as as = true
  | [] => rfl
  | a :: as => by simp only [beqItems, beq_self a, beqItems_self as, Bool.and_self]

theorem beqEntries_self : (as : List (Data × Data)) → beqEntries as as = true
  | [] => rfl
  | (k, v) :: as => by
    simp only [beqEntries, beq_self k, beq_self v, beqEntries_self as, Bool.and_self]

end

instance : LawfulBEq Data where
  eq_of_beq h := eq_of_beq _ _ h
  rfl := beq_self _

instance : DecidableEq Data := fun a b =>
  decidable_of_iff (beq a b = true) ⟨eq_of_beq a b, fun h => h ▸ beq_self a⟩

end Data

deriving instance DecidableEq for ClusterEntry, NamedCluster, NamedUser, ContextEntry,
  NamedContext, Kubeconfig

theorem Except.eq_ok_of_toOption {ε α : Type} {x : Except ε α} {a : α}
    (h : x.toOption = some a) : x = .ok a := by
  cases x with
  | error e => cases h
  | ok b => cases h; rfl

theorem Except.bind_eq_ok {ε α β : Type} {x : Except ε α} {f : α → Except ε β} {b : β} :
    (x >>= f) = .ok b ↔ ∃ a, x = .ok a ∧ f a = .ok b := by
  cases x with
  | error e => simp only [bind, Except.bind, reduceCtorEq, false_and, exists_false]
  | ok a => simp only [bind, Except.bind, Except.ok.injEq, exists_eq_left']

theorem Except.bind_eq_error {ε α β : Type} {x : Except ε α} {f : α → Except ε β} {e : ε} :
    (x >>= f) = .error e ↔ x = .error e ∨ ∃ a, x = .ok a ∧ f a = .error e := by
  cases x with
  | error e' => simp only [bind, Except.bind, reduceCtorEq, false_and, exists_false, or_false,
    Except.error.injEq]
  | ok a => simp only [bind, Except.bind, reduceCtorEq, Except.ok.injEq, exists_eq_left', false_or]

def NamedCluster.servedAt (url : String) (c : NamedCluster) : NamedCluster :=
  { c with cluster := { c.cluster with server := url } }

/-- A context named for the admin of the cluster `n`, with that cluster and user. -/
def NamedContext.adminOf (n : String) (x : NamedContext) : NamedContext :=
  { x with name := "admin@" ++ n, context := { x.context with cluster := n, user := "admin@" ++ n } }

namespace Kubeconfig

/-! ## Pointing and renaming -/

/-- The kubeconfig with its first `default` cluster served at `url`. -/
def servedAt (k : Kubeconfig) (url : String) : Kubeconfig :=
  { k with
    clusters := replaceFirst (fun c => c.name == defaultName) (NamedCluster.servedAt url) k.clusters }

/-- The kubeconfig renamed after a cluster named `n`: its first `default` cluster takes the name
`n`, its first `default` user and context the name `admin@n`, that context refers to them, and
it is the current one. -/
def renamedAfter (k : Kubeconfig) (n : String) : Kubeconfig :=
  { k with
    clusters := replaceFirst (fun c => c.name == defaultName) (fun c => { c with name := n })
      k.clusters
    users := replaceFirst (fun u => u.name == defaultName) (fun u => { u with name := "admin@" ++ n })
      k.users
    contexts := replaceFirst (fun x => x.name == defaultName) (NamedContext.adminOf n) k.contexts
    currentContext := "admin@" ++ n }

theorem pointToServer.set_eq (url : String) (l : List NamedCluster) :
    pointToServer.set url l =
      replaceFirst (fun c => c.name == defaultName) (NamedCluster.servedAt url) l := by
  induction l with
  | nil => rfl
  | cons c rest ih => simp only [pointToServer.set, replaceFirst, ih, NamedCluster.servedAt]

theorem pointToServer_eq_ok {k k' : Kubeconfig} {url : String} :
    k.pointToServer url = .ok k' ↔ (k.cluster? defaultName).isSome ∧ k' = k.servedAt url := by
  unfold pointToServer
  split
  · rename_i hc
    simp [hc]
  · rename_i c hc
    simp only [hc, Option.isSome_some, true_and, pointToServer.set_eq, servedAt]
    exact ⟨fun h => (Except.ok.inj h).symm, fun h => by rw [h]⟩

theorem renameForHumans_eq_ok {k k' : Kubeconfig} {url : String} {port : Int} :
    k.renameForHumans url port = .ok k' ↔
      (k.cluster? defaultName).isSome ∧ (k.user? defaultName).isSome ∧
        (k.context? defaultName).isSome ∧
        ∃ n, clusterNameFor url port = .ok n ∧ k' = k.renamedAfter n := by
  unfold renameForHumans
  split
  · rename_i c u x hc hu hx
    simp only [hc, hu, hx, Option.isSome_some, true_and]
    cases hn : clusterNameFor url port with
    | error e => simp
    | ok n =>
      simp only [Except.ok.injEq, exists_eq_left']
      exact ⟨fun h => h ▸ rfl, fun h => by rw [h]; rfl⟩
  · rename_i hnone
    simp only [reduceCtorEq, false_iff, not_and]
    intro hc hu hx
    exact (hnone _ _ _ (Option.some_get hc).symm (Option.some_get hu).symm
      (Option.some_get hx).symm).elim

/-- The names of a kubeconfig's clusters are distinct, and so are those of its users and those of
its contexts. -/
structure Distinct (k : Kubeconfig) : Prop where
  clusters : (k.clusters.map NamedCluster.name).Nodup
  users : (k.users.map NamedUser.name).Nodup
  contexts : (k.contexts.map NamedContext.name).Nodup

instance (k : Kubeconfig) : Decidable k.Distinct :=
  decidable_of_iff ((k.clusters.map NamedCluster.name).Nodup ∧ (k.users.map NamedUser.name).Nodup ∧
      (k.contexts.map NamedContext.name).Nodup)
    ⟨fun ⟨hc, hu, hx⟩ => ⟨hc, hu, hx⟩, fun ⟨hc, hu, hx⟩ => ⟨hc, hu, hx⟩⟩

/-- No entry of `k` but a `default` one bears a name that renaming after a cluster named `n`
gives. -/
structure Unclaimed (k : Kubeconfig) (n : String) : Prop where
  cluster : n = defaultName ∨ k.cluster? n = none
  user : k.user? ("admin@" ++ n) = none
  context : k.context? ("admin@" ++ n) = none

instance (k : Kubeconfig) (n : String) : Decidable (k.Unclaimed n) :=
  decidable_of_iff ((n = defaultName ∨ k.cluster? n = none) ∧ k.user? ("admin@" ++ n) = none ∧
      k.context? ("admin@" ++ n) = none)
    ⟨fun ⟨hc, hu, hx⟩ => ⟨hc, hu, hx⟩, fun ⟨hc, hu, hx⟩ => ⟨hc, hu, hx⟩⟩

section Served

variable {k : Kubeconfig} {url : String}

theorem names_servedAt (k : Kubeconfig) (url : String) :
    (k.servedAt url).clusters.map NamedCluster.name = k.clusters.map NamedCluster.name :=
  map_replaceFirst_of_name (f := NamedCluster.servedAt url) (fun _ => rfl) k.clusters

theorem distinct_servedAt (hd : k.Distinct) : (k.servedAt url).Distinct :=
  ⟨(names_servedAt k url).symm ▸ hd.clusters, hd.users, hd.contexts⟩

theorem cluster?_servedAt {c : NamedCluster} (hc : k.cluster? defaultName = some c) :
    (k.servedAt url).cluster? defaultName = some (c.servedAt url) := by
  have hname : c.name = defaultName := by simpa using List.find?_some hc
  exact find?_rename hc hname (.inl rfl)

theorem unclaimed_servedAt {n : String} (hu : k.Unclaimed n) : (k.servedAt url).Unclaimed n := by
  refine ⟨?_, hu.user, hu.context⟩
  rcases hu.cluster with hn | hn
  · exact .inl hn
  · refine .inr (find?_name_eq_none.2 ?_)
    erw [names_servedAt]
    exact find?_name_eq_none.1 hn

end Served

section Renamed

variable {k : Kubeconfig} {n : String}

theorem cluster?_renamedAfter {c : NamedCluster} (hc : k.cluster? defaultName = some c)
    (hu : k.Unclaimed n) : (k.renamedAfter n).cluster? n = some { c with name := n } :=
  find?_rename hc rfl (hu.cluster.imp id find?_name_eq_none.1)

theorem user?_renamedAfter {u : NamedUser} (hd : k.user? defaultName = some u)
    (hu : k.Unclaimed n) :
    (k.renamedAfter n).user? ("admin@" ++ n) = some { u with name := "admin@" ++ n } :=
  find?_rename hd rfl (.inr (find?_name_eq_none.1 hu.user))

theorem context?_renamedAfter {x : NamedContext} (hx : k.context? defaultName = some x)
    (hu : k.Unclaimed n) :
    (k.renamedAfter n).context? ("admin@" ++ n) = some (x.adminOf n) :=
  find?_rename hx rfl (.inr (find?_name_eq_none.1 hu.context))

theorem distinct_renamedAfter (hd : k.Distinct) (hu : k.Unclaimed n) :
    (k.renamedAfter n).Distinct :=
  ⟨nodup_rename hd.clusters (fun _ _ _ => rfl) (hu.cluster.imp id find?_name_eq_none.1),
    nodup_rename hd.users (fun _ _ _ => rfl) (.inr (find?_name_eq_none.1 hu.user)),
    nodup_rename hd.contexts (fun _ _ _ => rfl) (.inr (find?_name_eq_none.1 hu.context))⟩

end Renamed

/-! ## Merging -/

section Merge

variable {old new : Kubeconfig}

theorem merge_self (h : new.Distinct) : merge new new = new := by
  simp only [merge, upsert_self h.clusters, upsert_self h.users, upsert_self h.contexts, ite_self]

/-- **Merging is idempotent**: laying the same kubeconfig, of distinct names, over the result
again changes nothing. -/
theorem merge_merge (old : Kubeconfig) (h : new.Distinct) :
    merge (merge old new) new = merge old new := by
  simp only [merge, upsert_upsert _ h.clusters, upsert_upsert _ h.users,
    upsert_upsert _ h.contexts]
  split <;> rfl

theorem cluster?_merge (h : new.Distinct) {n : String} {c : NamedCluster}
    (hc : new.cluster? n = some c) : (merge old new).cluster? n = some c :=
  find?_upsert_name old.clusters h.clusters hc

theorem user?_merge (h : new.Distinct) {n : String} {u : NamedUser}
    (hu : new.user? n = some u) : (merge old new).user? n = some u :=
  find?_upsert_name old.users h.users hu

theorem context?_merge (h : new.Distinct) {n : String} {x : NamedContext}
    (hx : new.context? n = some x) : (merge old new).context? n = some x :=
  find?_upsert_name old.contexts h.contexts hx

theorem currentContext_merge (h : new.currentContext.isEmpty = false) :
    (merge old new).currentContext = new.currentContext := by
  simp [merge, h]

end Merge

/-! ## Reconciling -/

/-- The server's kubeconfig as reconciling lays it over the local one: served at `url` and,
unless for machines, renamed. -/
def fresh (remote url : String) (forMachines : Bool) (port : Int) : Except Failure Kubeconfig := do
  let served ← (← ofYaml remote).pointToServer url
  if forMachines then pure served else served.renameForHumans url port

/-- The kubeconfig reconciling writes: the fresh one, laid over the local one if there is one. -/
def merged (remote url path : String) (existing : LocalFile) (forMachines : Bool) (port : Int) :
    Except Failure Kubeconfig := do
  let f ← fresh remote url forMachines port
  match ← readLocal path existing with
  | none => pure f
  | some old => pure (merge old f)

theorem reconcile_eq (remote url path : String) (existing : LocalFile) (forMachines : Bool)
    (port : Int) :
    reconcile remote url path existing forMachines port =
      match merged remote url path existing forMachines port with
      | .ok k =>
        match k.toYaml with
        | .ok t => (.ok k, .text t)
        | .error u => (.error (.unwritable u), existing)
      | .error e => (.error e, existing) := by
  -- the two agree once the server's kubeconfig is read and pointed, or fails to be
  unfold reconcile merged fresh
  simp only [bind, Except.bind]
  cases ofYaml remote with
  | error e => rfl
  | ok k =>
    dsimp only
    cases k.pointToServer url with
    | error e => rfl
    | ok s => cases forMachines <;> rfl

section Reconcile

variable {remote url path : String} {existing : LocalFile} {forMachines : Bool} {port : Int}

theorem fresh_ok {f : Kubeconfig} (h : fresh remote url forMachines port = .ok f) :
    ∃ k, ofYaml remote = .ok k ∧ (k.cluster? defaultName).isSome ∧
      (forMachines = true → f = k.servedAt url) ∧
      (forMachines = false → ∃ n, clusterNameFor url port = .ok n ∧
        f = (k.servedAt url).renamedAfter n) := by
  obtain ⟨k, hk, h⟩ := Except.bind_eq_ok.1 h
  obtain ⟨s, hs, h⟩ := Except.bind_eq_ok.1 h
  obtain ⟨hc, rfl⟩ := pointToServer_eq_ok.1 hs
  refine ⟨k, hk, hc, fun hm => ?_, fun hm => ?_⟩
  · subst hm
    exact (Except.ok.inj h).symm
  · subst hm
    obtain ⟨-, -, -, n, hn, rfl⟩ := renameForHumans_eq_ok.1 h
    exact ⟨n, hn, rfl⟩

theorem fresh_distinct {k f : Kubeconfig} (hk : ofYaml remote = .ok k) (hd : k.Distinct)
    (hfree : forMachines = false → ∀ n, clusterNameFor url port = .ok n → k.Unclaimed n)
    (hf : fresh remote url forMachines port = .ok f) : f.Distinct := by
  obtain ⟨k', hk', -, hmach, hpeople⟩ := fresh_ok hf
  obtain rfl : k = k' := Except.ok.inj (hk.symm.trans hk')
  cases forMachines with
  | true => exact (hmach rfl) ▸ distinct_servedAt hd
  | false =>
    obtain ⟨n, hn, rfl⟩ := hpeople rfl
    exact distinct_renamedAfter (distinct_servedAt hd) (unclaimed_servedAt (hfree rfl n hn))

theorem merged_ok {r : Kubeconfig} (h : merged remote url path existing forMachines port = .ok r) :
    ∃ f, fresh remote url forMachines port = .ok f ∧ (r = f ∨ ∃ old, r = merge old f) := by
  obtain ⟨f, hf, h⟩ := Except.bind_eq_ok.1 h
  obtain ⟨o, -, h⟩ := Except.bind_eq_ok.1 h
  refine ⟨f, hf, ?_⟩
  cases o with
  | none => exact .inl (Except.ok.inj h).symm
  | some old => exact .inr ⟨old, (Except.ok.inj h).symm⟩

theorem reconcile_ok {r : Kubeconfig}
    (h : (reconcile remote url path existing forMachines port).1 = .ok r) :
    merged remote url path existing forMachines port = .ok r ∧
      ∃ t, r.toYaml = .ok t ∧ (reconcile remote url path existing forMachines port).2 = .text t := by
  rw [reconcile_eq] at h ⊢
  split at h
  · rename_i k hm
    split at h
    · rename_i t ht
      obtain rfl := Except.ok.inj h
      rw [hm]
      exact ⟨rfl, t, ht, rfl⟩
    · cases h
  · cases h

end Reconcile

/-! ## Failures -/

/-- How reconciling can fail. -/
inductive ReconcileFailure (url : String) (forMachines : Bool) (port : Int) : Failure → Prop
  /-- a kubeconfig could not be read, or lacks the `default` entries to point or rename -/
  | credentials (m : String) : ReconcileFailure url forMachines port (.credentials m)
  /-- the YAML loader could not build a tagged value of a kubeconfig's text -/
  | load (f : Yaml.ScalarFault) : ReconcileFailure url forMachines port (.load f)
  /-- the merged kubeconfig has no YAML form -/
  | unwritable (u : Data.Unwritable) : ReconcileFailure url forMachines port (.unwritable u)
  /-- the server URL gives no cluster name, for a file written for people -/
  | clusterName (u : UrlError) (hm : forMachines = false) (hu : clusterNameFor url port = .error u) :
      ReconcileFailure url forMachines port (.value u.message)

section Failures

variable {remote url path : String} {existing : LocalFile} {forMachines : Bool} {port : Int}
  {e : Failure}

theorem ofYaml_failure {text : String} (h : ofYaml text = .error e) :
    ReconcileFailure url forMachines port e := by
  unfold ofYaml at h
  split at h
  · cases h
    exact .credentials _
  · cases h
    exact .load _
  · split at h
    · cases h
    · cases h
      exact .credentials _

theorem readLocal_failure {f : LocalFile} (h : readLocal path f = .error e) :
    ReconcileFailure url forMachines port e := by
  cases f with
  | absent =>
    simp only [readLocal] at h
    split at h
    · cases h
      exact .credentials _
    · cases h
  | directory =>
    cases h
    exact .credentials _
  | text t =>
    cases ht : ofYaml t with
    | error e' =>
      simp only [readLocal, ht, Except.map, Except.error.injEq] at h
      exact h ▸ ofYaml_failure ht
    | ok k => simp [readLocal, ht, Except.map] at h

theorem fresh_failure (h : fresh remote url forMachines port = .error e) :
    ReconcileFailure url forMachines port e := by
  rcases Except.bind_eq_error.1 h with h | ⟨k, -, h⟩
  · exact ofYaml_failure h
  rcases Except.bind_eq_error.1 h with h | ⟨s, -, h⟩
  · unfold pointToServer at h
    split at h
    · cases h
      exact .credentials _
    · cases h
  cases forMachines with
  | true => cases h
  | false =>
    simp only [Bool.false_eq_true, ↓reduceIte] at h
    unfold renameForHumans at h
    split at h
    · split at h
      · rename_i u hu
        cases h
        exact .clusterName u rfl hu
      · cases h
    · cases h
      exact .credentials _

theorem merged_failure (h : merged remote url path existing forMachines port = .error e) :
    ReconcileFailure url forMachines port e := by
  rcases Except.bind_eq_error.1 h with h | ⟨f, -, h⟩
  · exact fresh_failure h
  rcases Except.bind_eq_error.1 h with h | ⟨o, -, h⟩
  · exact readLocal_failure h
  cases o <;> cases h

end Failures

/-- What reconciling against `existing` leaves: a kubeconfig with the file holding exactly its
YAML form, or a failure with the file as it was. -/
def AllOrNothing (existing : LocalFile) : Except Failure Kubeconfig × LocalFile → Prop
  | (.ok k, file) => ∃ t, k.toYaml = .ok t ∧ file = .text t
  | (.error _, file) => file = existing

theorem reconcile_all_or_nothing (remote url path : String) (existing : LocalFile)
    (forMachines : Bool) (port : Int) :
    AllOrNothing existing (reconcile remote url path existing forMachines port) ∧
      ∀ e, (reconcile remote url path existing forMachines port).1 = .error e →
        ReconcileFailure url forMachines port e := by
  rw [reconcile_eq]
  split
  · split
    · rename_i t ht
      exact ⟨⟨t, ht, rfl⟩, fun e h => by cases h⟩
    · rename_i u _
      exact ⟨rfl, fun e h => by cases h; exact .unwritable u⟩
  · rename_i e' hm
    exact ⟨rfl, fun e h => by cases h; exact merged_failure hm⟩

/-! ## What reconciling writes -/

section Written

variable {remote url path : String} {existing : LocalFile} {forMachines : Bool} {port : Int}
  {k r : Kubeconfig}

/-- **The written kubeconfig reaches the server with the fresh credentials.**  When the server's
kubeconfig has `default` entries, distinct names, and no entry bearing a name the renaming gives,
a reconciled kubeconfig finds the server's `default` cluster, served at `url`, under its name: the
cluster name of `url` for people, `default` for machines.  For people the current context is
`admin@<name>`, which finds the renamed context, on that cluster and user, and that user carries
the server's credentials, whatever entries the local file held. -/
theorem reconcile_usable {c : NamedCluster} {u : NamedUser} {x : NamedContext}
    (hk : ofYaml remote = .ok k) (hd : k.Distinct) (hc : k.cluster? defaultName = some c)
    (hu : k.user? defaultName = some u) (hx : k.context? defaultName = some x)
    (hfree : forMachines = false → ∀ n, clusterNameFor url port = .ok n → k.Unclaimed n)
    (hr : (reconcile remote url path existing forMachines port).1 = .ok r) :
    (forMachines = true → r.cluster? defaultName = some (c.servedAt url)) ∧
    (forMachines = false → ∃ n, clusterNameFor url port = .ok n ∧
      r.cluster? n = some { c.servedAt url with name := n } ∧
      r.currentContext = "admin@" ++ n ∧
      r.context? ("admin@" ++ n) = some (x.adminOf n) ∧
      r.user? ("admin@" ++ n) = some { u with name := "admin@" ++ n }) := by
  obtain ⟨f, hf, hlaid⟩ := merged_ok (reconcile_ok hr).1
  have hdf : f.Distinct := fresh_distinct hk hd hfree hf
  obtain ⟨k', hk', -, hmach, hpeople⟩ := fresh_ok hf
  obtain rfl : k = k' := Except.ok.inj (hk.symm.trans hk')
  refine ⟨fun hm => ?_, fun hm => ?_⟩
  · -- for machines the fresh kubeconfig is the server's, served at `url`
    have hcf : f.cluster? defaultName = some (c.servedAt url) := (hmach hm) ▸ cluster?_servedAt hc
    rcases hlaid with rfl | ⟨old, rfl⟩
    · exact hcf
    · exact cluster?_merge hdf hcf
  · -- for people it is renamed after the cluster name, which no other entry bears
    obtain ⟨n, hn, hfn⟩ := hpeople hm
    have hun : (k.servedAt url).Unclaimed n := unclaimed_servedAt (hfree hm n hn)
    have hcf : f.cluster? n = some { c.servedAt url with name := n } :=
      hfn ▸ cluster?_renamedAfter (cluster?_servedAt hc) hun
    have hccf : f.currentContext = "admin@" ++ n := hfn ▸ rfl
    have hxf : f.context? ("admin@" ++ n) = some (x.adminOf n) :=
      hfn ▸ context?_renamedAfter (k := k.servedAt url) hx hun
    have huf : f.user? ("admin@" ++ n) = some { u with name := "admin@" ++ n } :=
      hfn ▸ user?_renamedAfter (k := k.servedAt url) hu hun
    refine ⟨n, hn, ?_⟩
    rcases hlaid with rfl | ⟨old, rfl⟩
    · exact ⟨hcf, hccf, hxf, huf⟩
    · have hnonempty : f.currentContext.isEmpty = false := by simp [hccf]
      exact ⟨cluster?_merge hdf hcf, (currentContext_merge hnonempty).trans hccf,
        context?_merge hdf hxf, user?_merge hdf huf⟩

theorem lab_reconcile_usable :
    ∃ r n, (reconcile ("clusters: [\x7bname: default\x7d]\nusers: [\x7bname: default, " ++
        "user: \x7btoken: t\x7d\x7d]\ncontexts: [\x7bname: default\x7d]\n") "https://x:6443"
        "kubeconfig" (.text "clusters: [\x7bname: x, cluster: \x7bserver: old\x7d\x7d]\n") false
        6443).1 = .ok r ∧
      clusterNameFor "https://x:6443" 6443 = .ok n ∧
      r.cluster? n = some { name := n, cluster := { server := "https://x:6443" } } ∧
      r.currentContext = "admin@" ++ n ∧
      r.user? ("admin@" ++ n) = some { name := "admin@" ++ n, user := [("token", .str "t")] } := by
  have hk : ofYaml ("clusters: [\x7bname: default\x7d]\nusers: [\x7bname: default, " ++
      "user: \x7btoken: t\x7d\x7d]\ncontexts: [\x7bname: default\x7d]\n") =
      .ok { clusters := [{ name := "default" }]
            users := [{ name := "default", user := [("token", .str "t")] }]
            contexts := [{ name := "default" }] } :=
    Except.eq_ok_of_toOption (by decide +kernel)
  have hr : (reconcile ("clusters: [\x7bname: default\x7d]\nusers: [\x7bname: default, " ++
      "user: \x7btoken: t\x7d\x7d]\ncontexts: [\x7bname: default\x7d]\n") "https://x:6443"
      "kubeconfig" (.text "clusters: [\x7bname: x, cluster: \x7bserver: old\x7d\x7d]\n") false
      6443).1 =
      .ok { clusters := [{ name := "x", cluster := { server := "https://x:6443" } }]
            users := [{ name := "admin@x", user := [("token", .str "t")] }]
            contexts := [{ name := "admin@x", context := { cluster := "x", user := "admin@x" } }]
            currentContext := "admin@x" } :=
    Except.eq_ok_of_toOption (by decide +kernel)
  have hname : clusterNameFor "https://x:6443" 6443 = .ok "x" :=
    Except.eq_ok_of_toOption (by decide +kernel)
  obtain ⟨-, hpeople⟩ := reconcile_usable (c := { name := "default" })
    (u := { name := "default", user := [("token", .str "t")] }) (x := { name := "default" })
    hk (by decide) (by decide) (by decide) (by decide)
    (fun _ n hn => by
      obtain rfl : n = "x" := Except.ok.inj (hn.symm.trans hname)
      decide)
    hr
  obtain ⟨n, hn, hc, hcc, -, hu⟩ := hpeople rfl
  exact ⟨_, n, hr, hn, hc, hcc, hu⟩

/-- Renaming can take a name the server's kubeconfig already uses: then the last entry of that
name wins the merge, and the name finds the server's other cluster, not the one served at the
URL. -/
theorem reconcile_collision_points_elsewhere :
    ((reconcile ("clusters: [\x7bname: default, cluster: \x7bserver: a\x7d\x7d, " ++
        "\x7bname: x, cluster: \x7bserver: b\x7d\x7d]\nusers: [\x7bname: default\x7d]\n" ++
        "contexts: [\x7bname: default\x7d]\n") "https://x:6443" "kubeconfig"
        (.text "clusters: [\x7bname: x\x7d]\n") false 6443).1.toOption.bind
      (·.cluster? "x")).map (·.cluster.server) = some "b" := by
  decide +kernel

/-- A server's kubeconfig that repeats a name is not reconciled twice alike: the second run lays
both entries of the name over the first run's, and the last one wins both places. -/
theorem reconcile_again_repeated_name_differs :
    (reconcile ("clusters: [\x7bname: default, cluster: \x7bserver: a\x7d\x7d, " ++
        "\x7bname: default, cluster: \x7bserver: b\x7d\x7d]\n") "https://u:6443" "kubeconfig"
        (reconcile ("clusters: [\x7bname: default, cluster: \x7bserver: a\x7d\x7d, " ++
          "\x7bname: default, cluster: \x7bserver: b\x7d\x7d]\n") "https://u:6443" "kubeconfig"
          (.text "") true 6443).2 true 6443).2 ≠
      (reconcile ("clusters: [\x7bname: default, cluster: \x7bserver: a\x7d\x7d, " ++
        "\x7bname: default, cluster: \x7bserver: b\x7d\x7d]\n") "https://u:6443" "kubeconfig"
        (.text "") true 6443).2 := by
  decide +kernel

end Written

end Kubeconfig

theorem Deployment.localFile_putLocalFile_self (d : Deployment) (path : String) (f : LocalFile) :
    (d.putLocalFile path f).localFile path = f := by
  simp [Deployment.localFile, Deployment.putLocalFile]

namespace Deploy

open Kubeconfig (reconcile ReconcileFailure AllOrNothing)

theorem outcome_onLab_state {α : Type} (act : LabM α) (d : Deployment) :
    ∃ l, (outcome (onLab act) d).2 = { d with lab := l } := by
  simp only [outcome, run_onLab]
  cases act.run d.lab <;> exact ⟨_, rfl⟩

section Steps

variable {β : Type} {d : Deployment}

theorem outcome_select_bind (s : Selector) (k : List Handle → Deploy β) :
    outcome (select s >>= k) d =
      outcome (k (d.engine.handles.filter fun h => s.admits h.machine.role)) d := rfl

theorem outcome_linkOf_bind {h : Handle} {id : Nat} (hl : h.link = some id) (k : Nat → Deploy β) :
    outcome (linkOf h >>= k) d = outcome (k id) d := by
  simp only [linkOf, hl, pure_bind]

theorem outcome_linkOf_bind_none {h : Handle} (hl : h.link = none) (k : Nat → Deploy β) :
    outcome (linkOf h >>= k) d = (.error (.state ("node " ++ h.address ++ " is not connected")), d) := by
  simp only [linkOf, hl]
  rfl

theorem outcome_get_bind (k : Deployment → Deploy β) : outcome (get >>= k) d = outcome (k d) d :=
  rfl

theorem outcome_putLocalFile_orFail (path : String) (p : Except Failure β × LocalFile) :
    outcome (modify (fun d => d.putLocalFile path p.2) >>= fun _ => orFail p.1) d =
      (p.1, d.putLocalFile path p.2) := by
  obtain ⟨r, f⟩ := p
  cases r <;> rfl

end Steps

/-- **What fetching the kubeconfig can do**: fail before the local file is touched, refused at its
stage, with no server, with a server without a session, or with the server's file unreadable; or
read the server's text and leave what reconciling it against the local file gives, the lab being
all else it changed. -/
theorem outcome_kubeconfig_cases (path : String) (forMachines : Bool) (d : Deployment) :
    (∃ e, (outcome (kubeconfig path forMachines) d).1 = .error e ∧
      (outcome (kubeconfig path forMachines) d).2.localFiles = d.localFiles ∧
      ((∃ m, e = .state m) ∨ e = .noMachine ∨ ∃ m, e = .credentials m)) ∨
    ∃ text l, outcome (kubeconfig path forMachines) d =
      ((reconcile text d.engine.serverUrl path (d.localFile path) forMachines
          d.engine.settings.apiPort).1,
        { d with lab := l }.putLocalFile path
          (reconcile text d.engine.serverUrl path (d.localFile path) forMachines
            d.engine.settings.apiPort).2) := by
  unfold kubeconfig
  by_cases hs : d.engine.stage ∈ [.connected, .installed]
  · rw [outcome_require_bind hs, outcome_engine_bind]
    -- the first server, if there is one, is asked for the admin kubeconfig
    rcases hsel : d.engine.handles.filter (fun h => (Selector.role .server).admits h.machine.role)
      with _ | ⟨g, _⟩
    · -- no server
      rw [outcome_select_bind, hsel]
      exact .inl ⟨_, rfl, rfl, .inr (.inl rfl)⟩
    rw [outcome_select_bind, hsel]
    dsimp only
    rw [pure_bind]
    -- the first server's session, if it holds one, is read
    cases hl : g.link with
    | none =>
      rw [outcome_linkOf_bind_none hl]
      exact .inl ⟨_, rfl, rfl, .inl ⟨_, rfl⟩⟩
    | some id =>
      rw [outcome_linkOf_bind hl, outcome_bind_ok (outcome_attempt _ d)]
      obtain ⟨l, hlab⟩ := outcome_onLab_state (Lab.read id d.engine.settings.adminKubeconfig) d
      cases hread : (outcome (onLab (Lab.read id d.engine.settings.adminKubeconfig)) d).1 with
      | error f =>
        rw [hlab]
        exact .inl ⟨_, rfl, rfl, .inr (.inr ⟨_, rfl⟩)⟩
      | ok text =>
        refine .inr ⟨text, l, ?_⟩
        dsimp only
        rw [pure_bind, hlab, outcome_get_bind]
        exact outcome_putLocalFile_orFail path _
  · obtain ⟨m, hm⟩ := outcome_require_bind_refused (k := fun _ => _) hs
    exact .inl ⟨_, by rw [hm], by rw [hm], .inl ⟨m, rfl⟩⟩

/-- **Reconciling the kubeconfig is all or nothing**, alone or fetched from the first server: it
gives a kubeconfig and the local file then holds exactly its YAML form, or it fails and leaves
the file as it was.  Reconciling fails only as `ReconcileFailure` lists; fetching fails in the
same ways, or refused at its stage or without a server to read. -/
theorem kubeconfig_all_or_nothing (path : String) (forMachines : Bool) :
    (∀ remote url existing port,
      AllOrNothing existing (reconcile remote url path existing forMachines port) ∧
      ∀ e, (reconcile remote url path existing forMachines port).1 = .error e →
        ReconcileFailure url forMachines port e) ∧
    ∀ d, AllOrNothing (d.localFile path)
        ((outcome (kubeconfig path forMachines) d).1,
          (outcome (kubeconfig path forMachines) d).2.localFile path) ∧
      ∀ e, (outcome (kubeconfig path forMachines) d).1 = .error e →
        (∃ m, e = .state m) ∨ e = .noMachine ∨
          ReconcileFailure d.engine.serverUrl forMachines d.engine.settings.apiPort e := by
  refine ⟨fun remote url existing port =>
    Kubeconfig.reconcile_all_or_nothing remote url path existing forMachines port, fun d => ?_⟩
  rcases outcome_kubeconfig_cases path forMachines d with ⟨e, he, hfiles, hwhy⟩ | ⟨text, l, hout⟩
  · -- a failure before the file is touched leaves it as it was
    have hfile : (outcome (kubeconfig path forMachines) d).2.localFile path = d.localFile path := by
      simp only [Deployment.localFile, hfiles]
    rw [he]
    refine ⟨hfile, fun e' he' => ?_⟩
    cases he'
    rcases hwhy with hst | hno | ⟨m, rfl⟩
    · exact .inl hst
    · exact .inr (.inl hno)
    · exact .inr (.inr (.credentials m))
  · -- otherwise the file put is what reconciling the server's text leaves
    obtain ⟨hall, hfail⟩ := Kubeconfig.reconcile_all_or_nothing text d.engine.serverUrl path
      (d.localFile path) forMachines d.engine.settings.apiPort
    rw [hout, Deployment.localFile_putLocalFile_self]
    exact ⟨hall, fun e he => .inr (.inr (hfail e he))⟩

/-- A remote kubeconfig whose scalar is tagged as an integer that is not one fails with the
loader's fault, not as a malformed kubeconfig, and no file is written. -/
theorem reconcile_int_tag_fault :
    ((reconcile "!!int x" "https://u:6443" "kubeconfig" .absent true 6443).1
      matches .error (.load _)) = true := by
  decide +kernel

end Deploy

end ClusterDeploy
