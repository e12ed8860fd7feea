import ClusterDeploy.Kubeconfig.Edit
import Mathlib.Data.List.Nodup

/-!
# Upserting named entries

The lists of a kubeconfig are merged entry by entry by name (`upsert`): the first existing entry
of each incoming name is replaced in place, by the last incoming entry of that name, and the
incoming entries whose names were never met are added at the end.  Renaming and pointing the
`default` entries edit the first entry of a name in place (`Kubeconfig.replaceFirst`).

* `inPlace`, `pendingAfter`, `upsert_eq`  the upsert's fold, undone: what it keeps in place and
                                           what is still pending at the end;
* `find?_upsert`     when the incoming names are distinct, each incoming entry is the first of its
                     name after the upsert, whatever the existing entries were;
* `upsert_of_firsts`, `upsert_upsert`, `upsert_self`  an upsert of entries that are already the
                     first of their names changes nothing, so upserting twice is upserting once;
* `find?_replaceFirst`, `nodup_replaceFirst`, `find?_rename`, `nodup_rename`  what a lookup finds
                     after an entry is edited or renamed in place, and when the names stay
                     distinct.
-/

namespace ClusterDeploy

section Upsert

variable {α : Type} [Named α]

/-- The entries an upsert keeps in place: each existing entry, or, when incoming entries of its
name are pending, the last of them, after which that name is pending no more. -/
def inPlace : List α → List α → List α
  | [], _ => []
  | e :: es, pending =>
    match pending.reverse.find? (fun i => Named.nameOf i == Named.nameOf e) with
    | some i => i :: inPlace es (pending.filter fun p => Named.nameOf p != Named.nameOf e)
    | none => e :: inPlace es pending

/-- The incoming entries still pending once every existing entry was gone through. -/
def pendingAfter : List α → List α → List α
  | [], pending => pending
  | e :: es, pending =>
    match pending.reverse.find? (fun i => Named.nameOf i == Named.nameOf e) with
    | some _ => pendingAfter es (pending.filter fun p => Named.nameOf p != Named.nameOf e)
    | none => pendingAfter es pending

/-- **An upsert**: the existing entries in place, each replaced by the last pending incoming entry
of its name, then the incoming entries whose names were never met. -/
theorem upsert_eq (existing incoming : List α) :
    upsert existing incoming = inPlace existing incoming ++
      incoming.filter (fun i => ((pendingAfter existing incoming).map Named.nameOf).contains
        (Named.nameOf i)) := by
  -- the fold keeps what it has put in place, and what is still pending
  have hfold : ∀ (es out pending : List α),
      es.foldl (fun (acc : List α × List α) (e : α) =>
        match acc.2.reverse.find? (fun i => Named.nameOf i == Named.nameOf e) with
        | some i => (acc.1 ++ [i], acc.2.filter (fun p => Named.nameOf p != Named.nameOf e))
        | none => (acc.1 ++ [e], acc.2)) (out, pending) =
      (out ++ inPlace es pending, pendingAfter es pending) := by
    intro es
    induction es with
    | nil => intro out pending; simp [inPlace, pendingAfter]
    | cons e es ih =>
      intro out pending
      simp only [List.foldl_cons]
      cases h : pending.reverse.find? (fun i => Named.nameOf i == Named.nameOf e) with
      | some i => simp [ih, inPlace, pendingAfter, h]
      | none => simp [ih, inPlace, pendingAfter, h]
  unfold upsert
  dsimp only
  erw [hfold]
  rfl

theorem exists_name_of_mem_inPlace {es pending : List α} {y : α} (hy : y ∈ inPlace es pending) :
    ∃ e ∈ es, Named.nameOf y = Named.nameOf e := by
  induction es generalizing pending with
  | nil => simp [inPlace] at hy
  | cons e es ih =>
    rw [inPlace] at hy
    split at hy
    · rename_i i hi
      rcases List.mem_cons.1 hy with rfl | hy
      · exact ⟨e, List.mem_cons_self, by simpa using List.find?_some hi⟩
      · obtain ⟨e', he', hn⟩ := ih hy
        exact ⟨e', List.mem_cons_of_mem _ he', hn⟩
    · rcases List.mem_cons.1 hy with rfl | hy
      · exact ⟨y, List.mem_cons_self, rfl⟩
      · obtain ⟨e', he', hn⟩ := ih hy
        exact ⟨e', List.mem_cons_of_mem _ he', hn⟩

theorem mem_pendingAfter {es pending : List α} {x : α} (hx : x ∈ pending)
    (hfresh : ∀ e ∈ es, Named.nameOf e ≠ Named.nameOf x) : x ∈ pendingAfter es pending := by
  induction es generalizing pending with
  | nil => exact hx
  | cons e es ih =>
    have hrest : ∀ e' ∈ es, Named.nameOf e' ≠ Named.nameOf x :=
      fun e' he' => hfresh e' (List.mem_cons_of_mem _ he')
    rw [pendingAfter]
    split
    · have hne := hfresh e List.mem_cons_self
      exact ih (List.mem_filter.2 ⟨hx, by simpa using hne.symm⟩) hrest
    · exact ih hx hrest

theorem find?_name_of_nodup {l : List α} (hl : (l.map Named.nameOf).Nodup) {x : α} (hx : x ∈ l) :
    l.find? (fun y => Named.nameOf y == Named.nameOf x) = some x := by
  induction l with
  | nil => cases hx
  | cons y l ih =>
    rw [List.map_cons, List.nodup_cons] at hl
    rcases List.mem_cons.1 hx with rfl | hx
    · simp
    · have hne : Named.nameOf y ≠ Named.nameOf x := fun h => hl.1 (h ▸ List.mem_map_of_mem hx)
      rw [List.find?_cons_of_neg (by simpa using hne)]
      exact ih hl.2 hx

theorem nodup_names_filter {l : List α} (hl : (l.map Named.nameOf).Nodup) (p : α → Bool) :
    ((l.filter p).map Named.nameOf).Nodup :=
  hl.sublist (List.filter_sublist.map _)

theorem find?_inPlace {es pending : List α} {x : α} (hl : (pending.map Named.nameOf).Nodup)
    (hx : x ∈ pending) (hes : ∃ e ∈ es, Named.nameOf e = Named.nameOf x) :
    (inPlace es pending).find? (fun y => Named.nameOf y == Named.nameOf x) = some x := by
  induction es generalizing pending with
  | nil =>
    obtain ⟨e, he, _⟩ := hes
    cases he
  | cons e es ih =>
    by_cases hn : Named.nameOf e = Named.nameOf x
    · -- `x` is the pending entry of the name, and takes `e`'s place
      have hfind : pending.reverse.find? (fun i => Named.nameOf i == Named.nameOf e) = some x := by
        rw [hn]
        exact find?_name_of_nodup (by rwa [List.map_reverse, List.nodup_reverse])
          (List.mem_reverse.2 hx)
      rw [inPlace, hfind]
      simp
    · obtain ⟨e', he', hn'⟩ := hes
      have hrest : ∃ e ∈ es, Named.nameOf e = Named.nameOf x :=
        ⟨e', (List.mem_cons.1 he').resolve_left (by rintro rfl; exact hn hn'), hn'⟩
      rw [inPlace]
      split
      · rename_i i hi
        have hi' : Named.nameOf i = Named.nameOf e := by simpa using List.find?_some hi
        rw [List.find?_cons_of_neg (by simpa [hi'] using hn)]
        exact ih (nodup_names_filter hl _) (List.mem_filter.2 ⟨hx, by simpa using Ne.symm hn⟩)
          hrest
      · rw [List.find?_cons_of_neg (by simpa using hn)]
        exact ih hl hx hrest

/-- **Lookup after an upsert**: when the incoming names are distinct, the first entry of an
incoming entry's name is that incoming entry, whatever the existing entries were. -/
theorem find?_upsert (existing : List α) {incoming : List α}
    (hl : (incoming.map Named.nameOf).Nodup) {x : α} (hx : x ∈ incoming) :
    (upsert existing incoming).find? (fun y => Named.nameOf y == Named.nameOf x) = some x := by
  rw [upsert_eq, List.find?_append]
  by_cases hes : ∃ e ∈ existing, Named.nameOf e = Named.nameOf x
  · rw [find?_inPlace hl hx hes]
    rfl
  · simp only [not_exists, not_and] at hes
    -- no entry kept in place has the name, and `x` is still pending at the end
    have hnone : (inPlace existing incoming).find? (fun y => Named.nameOf y == Named.nameOf x) =
        none := by
      rw [List.find?_eq_none]
      intro y hy
      obtain ⟨e, he, hne⟩ := exists_name_of_mem_inPlace hy
      simpa [hne] using hes e he
    have hkept : x ∈ incoming.filter (fun i =>
        ((pendingAfter existing incoming).map Named.nameOf).contains (Named.nameOf i)) :=
      List.mem_filter.2 ⟨hx, by simpa using ⟨x, mem_pendingAfter hx hes, rfl⟩⟩
    rw [hnone, Option.none_or]
    exact find?_name_of_nodup (nodup_names_filter hl _) hkept

theorem find?_name_eq_none {l : List α} {n : String} :
    l.find? (fun y => Named.nameOf y == n) = none ↔ n ∉ l.map Named.nameOf := by
  simp [List.find?_eq_none]

theorem find?_upsert_name (existing : List α) {incoming : List α}
    (hl : (incoming.map Named.nameOf).Nodup) {n : String} {x : α}
    (hx : incoming.find? (fun y => Named.nameOf y == n) = some x) :
    (upsert existing incoming).find? (fun y => Named.nameOf y == n) = some x := by
  have hn : Named.nameOf x = n := by simpa using List.find?_some hx
  subst hn
  exact find?_upsert existing hl (List.mem_of_find?_eq_some hx)

theorem inPlace_of_firsts {es pending : List α} (hl : (pending.map Named.nameOf).Nodup)
    (hfirst : ∀ x ∈ pending, es.find? (fun y => Named.nameOf y == Named.nameOf x) = some x) :
    inPlace es pending = es ∧ pendingAfter es pending = [] := by
  induction es generalizing pending with
  | nil =>
    have hnil : pending = [] :=
      List.eq_nil_iff_forall_not_mem.2 fun x hx => by simpa using hfirst x hx
    subst hnil
    exact ⟨rfl, rfl⟩
  | cons e es ih =>
    -- the pending entries not named as `e` are the first of their names in the rest
    have hnext : ∀ x ∈ pending, Named.nameOf x ≠ Named.nameOf e →
        es.find? (fun y => Named.nameOf y == Named.nameOf x) = some x := fun x hx hne => by
      rw [← hfirst x hx, List.find?_cons_of_neg (by simpa using Ne.symm hne)]
    rw [inPlace, pendingAfter]
    split
    · rename_i i hi
      have hi' : Named.nameOf i = Named.nameOf e := by simpa using List.find?_some hi
      have hie : e = i := by
        have h := hfirst i (List.mem_reverse.1 (List.mem_of_find?_eq_some hi))
        rw [List.find?_cons_of_pos (by simp [hi'])] at h
        exact Option.some.inj h
      obtain ⟨h1, h2⟩ := @ih (pending.filter fun p => Named.nameOf p != Named.nameOf e)
          (nodup_names_filter hl _) fun x hx => by
        obtain ⟨hx, hne⟩ := List.mem_filter.1 hx
        exact hnext x hx (by simpa using hne)
      exact ⟨by rw [h1, hie], h2⟩
    · rename_i hi
      have hne : ∀ x ∈ pending, Named.nameOf x ≠ Named.nameOf e := fun x hx heq => by
        simpa [heq] using List.find?_eq_none.1 hi x (List.mem_reverse.2 hx)
      obtain ⟨h1, h2⟩ := ih hl fun x hx => hnext x hx (hne x hx)
      exact ⟨by rw [h1], h2⟩

theorem upsert_of_firsts {es pending : List α} (hl : (pending.map Named.nameOf).Nodup)
    (hfirst : ∀ x ∈ pending, es.find? (fun y => Named.nameOf y == Named.nameOf x) = some x) :
    upsert es pending = es := by
  obtain ⟨h1, h2⟩ := inPlace_of_firsts hl hfirst
  rw [upsert_eq, h1, h2]
  simp

/-- **Upserting twice is upserting once**, for incoming entries of distinct names. -/
theorem upsert_upsert (existing : List α) {incoming : List α}
    (hl : (incoming.map Named.nameOf).Nodup) :
    upsert (upsert existing incoming) incoming = upsert existing incoming :=
  upsert_of_firsts hl fun _ hx => find?_upsert existing hl hx

theorem upsert_self {incoming : List α} (hl : (incoming.map Named.nameOf).Nodup) :
    upsert incoming incoming = incoming :=
  upsert_of_firsts hl fun _ hx => find?_name_of_nodup hl hx

end Upsert

section ReplaceFirst

open Kubeconfig (replaceFirst)

variable {α : Type} {p q : α → Bool} {f : α → α}

theorem mem_replaceFirst {l : List α} {z : α} (hz : z ∈ replaceFirst p f l) :
    z ∈ l ∨ ∃ y ∈ l, p y = true ∧ z = f y := by
  induction l with
  | nil => cases hz
  | cons x rest ih =>
    rw [replaceFirst] at hz
    split at hz
    · rename_i hx
      rcases List.mem_cons.1 hz with rfl | hz
      · exact .inr ⟨x, List.mem_cons_self, hx, rfl⟩
      · exact .inl (List.mem_cons_of_mem _ hz)
    · rcases List.mem_cons.1 hz with rfl | hz
      · exact .inl List.mem_cons_self
      · rcases ih hz with hz | ⟨y, hy, hp, rfl⟩
        · exact .inl (List.mem_cons_of_mem _ hz)
        · exact .inr ⟨y, List.mem_cons_of_mem _ hy, hp, rfl⟩

theorem find?_replaceFirst {l : List α} {c : α} (hc : l.find? p = some c) (hq : q (f c) = true)
    (hbefore : ∀ y ∈ l, p y = false → q y = false) :
    (replaceFirst p f l).find? q = some (f c) := by
  induction l with
  | nil => cases hc
  | cons x rest ih =>
    rw [replaceFirst]
    by_cases hx : p x = true
    · rw [List.find?_cons_of_pos hx] at hc
      cases hc
      rw [if_pos hx, List.find?_cons_of_pos hq]
    · rw [List.find?_cons_of_neg hx] at hc
      have hqx : q x = false := hbefore x List.mem_cons_self (by simpa using hx)
      rw [if_neg hx, List.find?_cons_of_neg (by simp [hqx])]
      exact ih hc fun y hy => hbefore y (List.mem_cons_of_mem _ hy)

theorem nodup_replaceFirst [Named α] {l : List α} (hl : (l.map Named.nameOf).Nodup)
    (hf : ∀ y ∈ l, p y = true → ∀ z ∈ l, Named.nameOf z = Named.nameOf (f y) → z = y) :
    ((replaceFirst p f l).map Named.nameOf).Nodup := by
  induction l with
  | nil => exact List.nodup_nil
  | cons x rest ih =>
    rw [List.map_cons, List.nodup_cons] at hl
    rw [replaceFirst]
    split
    · rename_i hx
      rw [List.map_cons, List.nodup_cons]
      refine ⟨fun hmem => ?_, hl.2⟩
      obtain ⟨z, hz, hzn⟩ := List.mem_map.1 hmem
      obtain rfl := hf x List.mem_cons_self hx z (List.mem_cons_of_mem _ hz) hzn
      exact hl.1 (List.mem_map_of_mem hz)
    · rename_i hx
      rw [List.map_cons, List.nodup_cons]
      refine ⟨fun hmem => ?_, ih hl.2 fun y hy hp z hz =>
        hf y (List.mem_cons_of_mem _ hy) hp z (List.mem_cons_of_mem _ hz)⟩
      obtain ⟨z, hz, hzn⟩ := List.mem_map.1 hmem
      rcases mem_replaceFirst hz with hz | ⟨y, hy, hp, rfl⟩
      · exact hl.1 (hzn ▸ List.mem_map_of_mem hz)
      · obtain rfl := hf y (List.mem_cons_of_mem _ hy) hp x List.mem_cons_self hzn.symm
        exact hx hp

variable [Named α]

theorem map_replaceFirst_of_name (hf : ∀ y, Named.nameOf (f y) = Named.nameOf y) (l : List α) :
    (replaceFirst p f l).map Named.nameOf = l.map Named.nameOf := by
  induction l with
  | nil => rfl
  | cons x rest ih =>
    rw [replaceFirst]
    split <;> simp [hf, ih]

theorem find?_rename {l : List α} {d n : String} {c : α}
    (hc : l.find? (fun y => Named.nameOf y == d) = some c) (hf : Named.nameOf (f c) = n)
    (hfree : n = d ∨ n ∉ l.map Named.nameOf) :
    (replaceFirst (fun y => Named.nameOf y == d) f l).find? (fun y => Named.nameOf y == n) =
      some (f c) := by
  refine find?_replaceFirst hc (by simp [hf]) fun y hy hyd => ?_
  rcases hfree with rfl | hfree
  · exact hyd
  · have hne : Named.nameOf y ≠ n := fun h => hfree (h ▸ List.mem_map_of_mem hy)
    simpa using hne

theorem nodup_rename {l : List α} {d n : String} (hl : (l.map Named.nameOf).Nodup)
    (hf : ∀ y ∈ l, Named.nameOf y = d → Named.nameOf (f y) = n)
    (hfree : n = d ∨ n ∉ l.map Named.nameOf) :
    ((replaceFirst (fun y => Named.nameOf y == d) f l).map Named.nameOf).Nodup := by
  refine nodup_replaceFirst hl fun y hy hyd z hz hzn => ?_
  have hy' : Named.nameOf y = d := by simpa using hyd
  rw [hf y hy hy'] at hzn
  rcases hfree with rfl | hfree
  · exact List.inj_on_of_nodup_map hl hz hy (hzn.trans hy'.symm)
  · exact absurd (hzn ▸ List.mem_map_of_mem hz) hfree

end ReplaceFirst

end ClusterDeploy
