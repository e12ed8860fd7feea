import ClusterDeploy.Proofs.Upsert
import Mathlib.Data.List.Perm.Basic

/-!
# Laying one kubeconfig over another

`Kubeconfig.merge` lays a new kubeconfig over an existing one, list by list, entry by entry by
name.  Here the upsert that does it is read in closed form, and what it keeps and adds is said
of that form:

* `overlay`            the existing entries in order, the first of each name that an incoming
                       entry bears replaced by the last incoming entry of that name, and after
                       them the incoming entries whose names no existing entry bears;
* `upsert_eq_overlay`  the upsert is the overlay;
* `filter_overlay`     an existing entry whose name no incoming entry bears is kept, unchanged
                       and in its place among the others;
* `overlay_map`        the overlay looks at names only, so tagging every entry with the list it
                       comes from and dropping the tags afterwards changes nothing;
* `perm_overlay_tagged`  when the incoming names are distinct, the overlay holds each incoming
                       entry exactly once;
* `Kubeconfig.merge_overlays`  the merge of two kubeconfigs in these terms.
-/

namespace ClusterDeploy

/-- An entry tagged with the list it comes from bears the entry's name. -/
instance {β γ : Type} [Named β] [Named γ] : Named (β ⊕ γ) := ⟨Sum.elim Named.nameOf Named.nameOf⟩

@[simp] theorem Named.nameOf_inl {β γ : Type} [Named β] [Named γ] (b : β) :
    Named.nameOf (Sum.inl b : β ⊕ γ) = Named.nameOf b := rfl

@[simp] theorem Named.nameOf_inr {β γ : Type} [Named β] [Named γ] (c : γ) :
    Named.nameOf (Sum.inr c : β ⊕ γ) = Named.nameOf c := rfl

section Overlay

variable {α : Type} [Named α]

def lastNamed (l : List α) (n : String) : Option α :=
  l.reverse.find? fun x => Named.nameOf x == n

theorem lastNamed_eq_some {l : List α} {n : String} {x : α} (h : lastNamed l n = some x) :
    x ∈ l ∧ Named.nameOf x = n :=
  ⟨List.mem_reverse.1 (List.mem_of_find?_eq_some h), by simpa using List.find?_some h⟩

theorem lastNamed_eq_none {l : List α} {n : String} :
    lastNamed l n = none ↔ ∀ x ∈ l, Named.nameOf x ≠ n := by
  simp [lastNamed, List.find?_eq_none]

/-- The entry put in the place of the existing entry `e`: the last incoming entry of its name,
unless that name is among `seen` or no incoming entry bears it. -/
def placed (incoming : List α) (seen : List String) (e : α) : α :=
  if Named.nameOf e ∈ seen then e else (lastNamed incoming (Named.nameOf e)).getD e

/-- An entry put in place bears the name of the entry whose place it takes. -/
@[simp] theorem nameOf_placed (incoming : List α) (seen : List String) (e : α) :
    Named.nameOf (placed incoming seen e) = Named.nameOf e := by
  unfold placed
  split
  · rfl
  · cases h : lastNamed incoming (Named.nameOf e) with
    | none => rfl
    | some x => exact (lastNamed_eq_some h).2

/-- The existing entries `es` in order, each put in place, the names met growing as they go. -/
def overlayFrom (incoming : List α) : List String → List α → List α
  | _, [] => []
  | seen, e :: es => placed incoming seen e :: overlayFrom incoming (Named.nameOf e :: seen) es

/-- `incoming` laid over `existing` by name: the existing entries in order, the first of each
name that an incoming entry bears replaced by the last incoming entry of that name (later
existing entries of that name are kept as they are), then the incoming entries, in order, whose
names no existing entry bears. -/
def overlay (existing incoming : List α) : List α :=
  overlayFrom incoming [] existing ++
    incoming.filter fun x => Named.nameOf x ∉ existing.map Named.nameOf

/-! ### The upsert's fold in closed form -/

theorem find?_pending (incoming : List α) (seen : List String) (n : String) :
    (incoming.filter fun x => Named.nameOf x ∉ seen).reverse.find? (fun i => Named.nameOf i == n) =
      if n ∈ seen then none else lastNamed incoming n := by
  rw [← List.filter_reverse, List.find?_filter, lastNamed]
  split
  · rename_i hn
    rw [List.find?_eq_none]
    intro x _ hx
    have : Named.nameOf x ∉ seen ∧ Named.nameOf x = n := by simpa using hx
    exact this.1 (this.2 ▸ hn)
  · rename_i hn
    congr 1
    funext x
    by_cases hx : Named.nameOf x = n
    · simp [hx, hn]
    · simp [hx]

theorem filter_pending (incoming : List α) (seen : List String) (n : String) :
    (incoming.filter fun x => Named.nameOf x ∉ seen).filter (fun p => Named.nameOf p != n) =
      incoming.filter fun x => Named.nameOf x ∉ n :: seen := by
  rw [List.filter_filter]
  exact List.filter_congr fun x _ => by by_cases hx : Named.nameOf x = n <;> simp [hx]

theorem filter_pending_of_none {pending : List α} {n : String}
    (h : pending.reverse.find? (fun i => Named.nameOf i == n) = none) :
    pending.filter (fun p => Named.nameOf p != n) = pending := by
  rw [List.filter_eq_self]
  intro x hx
  have := List.find?_eq_none.1 h x (List.mem_reverse.2 hx)
  simpa using this

theorem inPlace_filter (incoming es : List α) (seen : List String) :
    inPlace es (incoming.filter fun x => Named.nameOf x ∉ seen) = overlayFrom incoming seen es := by
  induction es generalizing seen with
  | nil => rfl
  | cons e es ih =>
    rw [inPlace, overlayFrom, ← ih, ← filter_pending]
    -- the fold finds the last pending entry of `e`'s name, if any
    cases hfind : (incoming.filter fun x => Named.nameOf x ∉ seen).reverse.find?
        (fun i => Named.nameOf i == Named.nameOf e) with
    | some i =>
      rw [find?_pending] at hfind
      split at hfind
      · cases hfind
      · rename_i hseen
        simp [placed, hseen, hfind]
    | none =>
      rw [filter_pending_of_none hfind]
      rw [find?_pending] at hfind
      split at hfind
      · rename_i hseen
        simp [placed, hseen]
      · rename_i hseen
        simp [placed, hseen, hfind]

theorem pendingAfter_filter (incoming es : List α) (seen : List String) :
    pendingAfter es (incoming.filter fun x => Named.nameOf x ∉ seen) =
      incoming.filter fun x => Named.nameOf x ∉ es.map Named.nameOf ++ seen := by
  induction es generalizing seen with
  | nil => rfl
  | cons e es ih =>
    have hnext : (incoming.filter fun x => Named.nameOf x ∉ es.map Named.nameOf ++ Named.nameOf e :: seen) =
        incoming.filter fun x => Named.nameOf x ∉ (e :: es).map Named.nameOf ++ seen :=
      List.filter_congr fun x _ => by simp [or_left_comm]
    rw [pendingAfter, ← hnext, ← ih, ← filter_pending]
    split
    · rfl
    · rename_i hnone
      rw [filter_pending_of_none hnone]

/-- **The upsert is the overlay.** -/
theorem upsert_eq_overlay (existing incoming : List α) :
    upsert existing incoming = overlay existing incoming := by
  have hall : (incoming.filter fun x => Named.nameOf x ∉ ([] : List String)) = incoming := by simp
  have hleft := pendingAfter_filter incoming existing []
  rw [hall, List.append_nil] at hleft
  rw [upsert_eq, overlay, ← inPlace_filter incoming existing [], hall, hleft]
  congr 1
  -- an incoming entry's name is pending exactly when no existing entry bears it
  refine List.filter_congr fun x hx => ?_
  rw [Bool.eq_iff_iff]
  simp only [List.contains_iff_mem, List.mem_map, List.mem_filter, decide_eq_true_eq]
  constructor
  · rintro ⟨y, ⟨-, hy⟩, hyx⟩
    exact hyx ▸ hy
  · intro hn
    exact ⟨x, ⟨hx, hn⟩, rfl⟩

/-! ### What the overlay keeps -/

theorem filter_overlayFrom (incoming : List α) (seen : List String) (es : List α) :
    (overlayFrom incoming seen es).filter (fun e => Named.nameOf e ∉ incoming.map Named.nameOf) =
      es.filter fun e => Named.nameOf e ∉ incoming.map Named.nameOf := by
  induction es generalizing seen with
  | nil => rfl
  | cons e es ih =>
    rw [overlayFrom, List.filter_cons, List.filter_cons, nameOf_placed, ih]
    split
    · -- no incoming entry bears the name, so the entry stays
      rename_i hn
      have hnone : lastNamed incoming (Named.nameOf e) = none :=
        lastNamed_eq_none.2 fun x hx hxe => by simp_all
      simp [placed, hnone]
    · rfl

/-- **An existing entry whose name no incoming entry bears is kept**, unchanged and in its place
among the others. -/
theorem filter_overlay (existing incoming : List α) :
    (overlay existing incoming).filter (fun e => Named.nameOf e ∉ incoming.map Named.nameOf) =
      existing.filter fun e => Named.nameOf e ∉ incoming.map Named.nameOf := by
  rw [overlay, List.filter_append, filter_overlayFrom, List.filter_filter]
  -- the incoming entries added at the end all bear incoming names
  have hnil : (incoming.filter fun x => decide (Named.nameOf x ∉ incoming.map Named.nameOf) &&
      decide (Named.nameOf x ∉ existing.map Named.nameOf)) = [] :=
    List.filter_eq_nil_iff.2 fun x hx => by simp [List.mem_map_of_mem hx]
  rw [hnil, List.append_nil]

section Map

variable {β : Type} [Named β] {g : α → β} (hg : ∀ a, Named.nameOf (g a) = Named.nameOf a)
include hg

theorem lastNamed_map (l : List α) (n : String) : lastNamed (l.map g) n = (lastNamed l n).map g := by
  rw [lastNamed, lastNamed, ← List.map_reverse, List.find?_map]
  congr 2
  funext x
  simp [hg]

theorem overlayFrom_map (incoming : List α) (seen : List String) (es : List α) :
    (overlayFrom incoming seen es).map g = overlayFrom (incoming.map g) seen (es.map g) := by
  induction es generalizing seen with
  | nil => rfl
  | cons e es ih =>
    simp only [overlayFrom, List.map_cons, ih, hg]
    congr 1
    unfold placed
    rw [hg, lastNamed_map hg]
    split
    · rfl
    · cases lastNamed incoming (Named.nameOf e) <;> rfl

/-- **The overlay looks at names only**: a map that keeps names commutes with it. -/
theorem overlay_map (existing incoming : List α) :
    (overlay existing incoming).map g = overlay (existing.map g) (incoming.map g) := by
  rw [overlay, overlay, List.map_append, overlayFrom_map hg, List.filter_map, List.map_map]
  congr 2
  refine List.filter_congr fun x _ => ?_
  simp [hg, Function.comp_def]

end Map

theorem filter_name_eq_of_nodup {l : List α} (hl : (l.map Named.nameOf).Nodup) {x : α} (hx : x ∈ l) :
    l.filter (fun y => Named.nameOf y == Named.nameOf x) = [x] := by
  induction l with
  | nil => cases hx
  | cons y l ih =>
    rw [List.map_cons, List.nodup_cons] at hl
    rcases List.mem_cons.1 hx with rfl | hx
    · -- no later entry bears the name
      have hrest : l.filter (fun y => Named.nameOf y == Named.nameOf x) = [] :=
        List.filter_eq_nil_iff.2 fun z hz hzx => hl.1 (List.mem_map.2 ⟨z, hz, by simpa using hzx⟩)
      simp [hrest]
    · have hne : Named.nameOf y ≠ Named.nameOf x := fun h => hl.1 (h ▸ List.mem_map_of_mem hx)
      rw [List.filter_cons_of_neg (by simpa using hne)]
      exact ih hl.2 hx

variable {new : List α} (hnd : (new.map Named.nameOf).Nodup)
include hnd

theorem perm_overlayFrom_tagged (seen : List String) (old : List α) :
    ((overlayFrom (new.map Sum.inr) seen (old.map Sum.inl)).filterMap Sum.getRight?).Perm
      (new.filter fun x => Named.nameOf x ∈ old.map Named.nameOf ∧ Named.nameOf x ∉ seen) := by
  induction old generalizing seen with
  | nil => simp [overlayFrom]
  | cons e old ih =>
    have hlast : lastNamed (new.map Sum.inr : List (α ⊕ α)) (Named.nameOf e) =
        (lastNamed new (Named.nameOf e)).map Sum.inr :=
      @lastNamed_map _ _ _ _ Sum.inr (fun _ => rfl) new _
    -- the entries of the names still to meet once `e`'s name is met too
    have hrest : ∀ y ∈ new, Named.nameOf y ≠ Named.nameOf e →
        (decide (Named.nameOf y ∈ (e :: old).map Named.nameOf ∧ Named.nameOf y ∉ seen) =
          decide (Named.nameOf y ∈ old.map Named.nameOf ∧ Named.nameOf y ∉ Named.nameOf e :: seen)) :=
      fun y _ hy => by simp [hy]
    simp only [List.map_cons, overlayFrom, List.filterMap_cons]
    by_cases hseen : Named.nameOf e ∈ seen
    · -- `e` keeps its place, and its name was met before
      simp only [placed, Named.nameOf_inl, hseen, if_true, Sum.getRight?_inl]
      refine (ih _).trans (List.Perm.of_eq (List.filter_congr fun y hym => ?_))
      by_cases hy : Named.nameOf y = Named.nameOf e
      · simp [hy, hseen]
      · exact (hrest y hym hy).symm
    · simp only [placed, Named.nameOf_inl, hseen, if_false, hlast]
      cases hx : lastNamed new (Named.nameOf e) with
      | none =>
        -- no incoming entry bears the name
        simp only [Option.map_none, Option.getD_none, Sum.getRight?_inl]
        refine (ih _).trans (List.Perm.of_eq (List.filter_congr fun y hy => ?_))
        exact (hrest y hy (lastNamed_eq_none.1 hx y hy)).symm
      | some x =>
        -- the incoming entry of the name takes `e`'s place, and only it bears the name
        obtain ⟨hxm, hxn⟩ := lastNamed_eq_some hx
        simp only [Option.map_some, Option.getD_some, Sum.getRight?_inr]
        refine ((List.perm_cons x).2 (ih _)).trans ?_
        have hsplit := List.filter_append_perm (fun y => Named.nameOf y == Named.nameOf x)
          (new.filter fun x => Named.nameOf x ∈ (e :: old).map Named.nameOf ∧ Named.nameOf x ∉ seen)
        have hone : (new.filter fun y => Named.nameOf y ∈ (e :: old).map Named.nameOf ∧
            Named.nameOf y ∉ seen).filter (fun y => Named.nameOf y == Named.nameOf x) = [x] := by
          rw [List.filter_filter, ← filter_name_eq_of_nodup hnd hxm]
          refine List.filter_congr fun y _ => ?_
          by_cases hy : Named.nameOf y = Named.nameOf x
          · simp [hy, hxn, hseen]
          · simp [hy]
        have hothers : (new.filter fun y => Named.nameOf y ∈ (e :: old).map Named.nameOf ∧
            Named.nameOf y ∉ seen).filter (fun y => !(Named.nameOf y == Named.nameOf x)) =
            new.filter fun y => Named.nameOf y ∈ old.map Named.nameOf ∧
              Named.nameOf y ∉ Named.nameOf e :: seen := by
          rw [List.filter_filter]
          refine List.filter_congr fun y hy => ?_
          by_cases hyx : Named.nameOf y = Named.nameOf x
          · simp [hyx, hxn]
          · rw [hrest y hy (hxn ▸ hyx)]
            simp [hyx]
        rw [hone, hothers] at hsplit
        exact hsplit

/-- **Each incoming entry is laid over exactly once** when the incoming names are distinct: of
the entries the overlay takes from the incoming list, tagged by where they come from, each
incoming entry is one, once. -/
theorem perm_overlay_tagged (old : List α) :
    ((overlay (old.map Sum.inl) (new.map Sum.inr)).filterMap Sum.getRight?).Perm new := by
  rw [overlay, List.filterMap_append]
  have hadded : ((new.map Sum.inr : List (α ⊕ α)).filter fun x => Named.nameOf x ∉
      (old.map Sum.inl : List (α ⊕ α)).map Named.nameOf).filterMap Sum.getRight? =
      new.filter fun x => Named.nameOf x ∉ old.map Named.nameOf := by
    have hright : (Sum.getRight? ∘ (Sum.inr : α → α ⊕ α)) = some := rfl
    rw [List.filter_map, List.filterMap_map, hright, List.filterMap_some, List.map_map]
    rfl
  rw [hadded]
  refine ((perm_overlayFrom_tagged hnd [] old).append (List.Perm.refl _)).trans ?_
  have hsplit := List.filter_append_perm (fun x => decide (Named.nameOf x ∈ old.map Named.nameOf)) new
  refine List.Perm.trans (List.Perm.of_eq ?_) hsplit
  congr 1
  · exact List.filter_congr fun x _ => by simp
  · exact List.filter_congr fun x _ => decide_not

end Overlay

/-- What laying `new` over `old` by name keeps: every entry of `old` whose name no entry of `new`
bears, unchanged and in order; and, with the entries tagged by the list they come from, each
entry of `new` exactly once when the names of `new` are distinct. -/
structure LaysOver {α : Type} [Named α] (old new : List α) : Prop where
  untouched : (overlay old new).filter (fun e => Named.nameOf e ∉ new.map Named.nameOf) =
    old.filter fun e => Named.nameOf e ∉ new.map Named.nameOf
  tagged : (overlay (old.map Sum.inl) (new.map Sum.inr)).map (Sum.elim id id) = overlay old new
  once : (new.map Named.nameOf).Nodup →
    ((overlay (old.map Sum.inl) (new.map Sum.inr)).filterMap Sum.getRight?).Perm new

theorem laysOver {α : Type} [Named α] (old new : List α) : LaysOver old new where
  untouched := filter_overlay old new
  tagged := by
    rw [overlay_map (fun x => by cases x <;> rfl), List.map_map, List.map_map]
    simp [Function.comp_def]
  once := fun hnd => perm_overlay_tagged hnd old

/-- **Merging kubeconfigs.**  The clusters, users and contexts of the merge are those of `new`
laid over those of `old` by name (`overlay`), which keeps every entry of `old` that `new` does
not name and, when the names of a list of `new` are distinct, holds each of its entries exactly
once; the current context is `new`'s unless that is empty; the API version, kind, preferences
and every other top-level key are `old`'s. -/
theorem Kubeconfig.merge_overlays (old new : Kubeconfig) :
    old.merge new = { old with
      clusters := overlay old.clusters new.clusters
      users := overlay old.users new.users
      contexts := overlay old.contexts new.contexts
      currentContext := if new.currentContext.isEmpty then old.currentContext
        else new.currentContext } ∧
    LaysOver old.clusters new.clusters ∧ LaysOver old.users new.users ∧
    LaysOver old.contexts new.contexts := by
  refine ⟨?_, laysOver _ _, laysOver _ _, laysOver _ _⟩
  simp only [Kubeconfig.merge, upsert_eq_overlay]

end ClusterDeploy
