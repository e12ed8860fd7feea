import ClusterDeploy.Proofs.Layering

/-!
# Fields of written mappings

A model is written out as a mapping from its keys to its values, and read back by looking each
field up in that mapping (`Checked.field`).  The lemmas here say what the lookup finds:

* `Data.lookupText_written`   in a mapping written from items with distinct keys, an item's key
                              finds the item's value, unless the item was left out;
* `Checked.field_written`     so a field whose alias is no written key reads back as its item's
                              value, or as its default when the item was left out at it;
* `Checked.field_optional`    the same for a field written by hand, under its key or not at all;
* `Checked.field_inv`         what a field reads as has every property that both its default
                              and its check give;
* `Checked.each_map`, `Checked.each_inv`  the same for lists checked item by item.
-/

namespace ClusterDeploy

namespace Data

@[simp] theorem lookupText_nil (k : String) : lookupText [] k = none := rfl

@[simp] theorem lookupText_cons_str (a k : String) (v : Data) (es : List (Data × Data)) :
    lookupText ((.str a, v) :: es) k = if a = k then some v else lookupText es k := by
  have hbeq : (Data.str a == Data.str k) = (a == k) := rfl
  unfold lookupText
  rw [List.find?_cons]
  by_cases h : a = k
  · have hb : (Data.str a == Data.str k) = true := hbeq.trans (by simp [h])
    rw [hb]
    simp [h]
  · have hb : (Data.str a == Data.str k) = false := hbeq.trans (by simp [h])
    rw [hb]
    simp [h]

@[simp] theorem lookupText_append (xs ys : List (Data × Data)) (k : String) :
    lookupText (xs ++ ys) k = (lookupText xs k).or (lookupText ys k) := by
  simp only [lookupText, List.find?_append]
  cases xs.find? (fun e => e.1 == .str k) <;> rfl

@[simp] theorem lookupText_ite (c : Prop) [Decidable c] (xs ys : List (Data × Data)) (k : String) :
    lookupText (if c then xs else ys) k = if c then lookupText xs k else lookupText ys k :=
  apply_ite (lookupText · k) c xs ys

section Written

variable {α : Type} (key : α → String) (val : α → Data)

theorem lookupText_written_absent {ps : List α} {k : String} (hk : k ∉ ps.map key)
    (q : α → Bool) : lookupText ((ps.filter q).map fun x => (.str (key x), val x)) k = none := by
  induction ps with
  | nil => rfl
  | cons x xs ih =>
    rw [List.map_cons, List.mem_cons, not_or] at hk
    rw [List.filter_cons]
    split
    · rw [List.map_cons, lookupText_cons_str, if_neg (Ne.symm hk.1), ih hk.2]
    · exact ih hk.2

theorem lookupText_written {ps : List α} (hd : (ps.map key).Nodup) {p : α} (hp : p ∈ ps)
    (q : α → Bool) :
    lookupText ((ps.filter q).map fun x => (.str (key x), val x)) (key p) =
      if q p then some (val p) else none := by
  induction ps with
  | nil => cases hp
  | cons x xs ih =>
    rw [List.map_cons, List.nodup_cons] at hd
    rw [List.filter_cons]
    rcases List.mem_cons.1 hp with rfl | hp
    · -- the item itself comes first; its key is nowhere after it
      by_cases hq : q p
      · simp [hq, lookupText_cons_str]
      · simp only [hq, Bool.false_eq_true, if_false]
        exact lookupText_written_absent key val hd.1 q
    · have hne : key x ≠ key p := fun h => hd.1 (h ▸ List.mem_map_of_mem hp)
      split
      · rw [List.map_cons, lookupText_cons_str, if_neg hne, ih hd.2 hp]
      · exact ih hd.2 hp

end Written

theorem fieldEntry?_keys {es : List (Data × Data)} {f : FieldName}
    (hname : f.spelled ≠ none → lookupText es f.name = none) :
    fieldEntry? es f.keys = (lookupText es f.key).map (f.key, ·) := by
  obtain ⟨name, spelled⟩ := f
  cases spelled with
  | none =>
    simp only [FieldName.keys, FieldName.key, Option.getD_none, fieldEntry?]
    cases lookupText es name <;> rfl
  | some a =>
    simp only [FieldName.keys, FieldName.key, Option.getD_some, fieldEntry?]
    have habsent : lookupText es name = none := hname (by simp)
    cases lookupText es a <;> simp [habsent]

end Data

@[simp] theorem FieldName.key_none (n : String) : (⟨n, none⟩ : FieldName).key = n := rfl

@[simp] theorem FieldName.key_some (n a : String) : (⟨n, some a⟩ : FieldName).key = a := rfl

namespace Checked

variable {β : Type} {es : List (Data × Data)} {f : FieldName} {check : Data → Checked β}

theorem field_of_lookup {d : Option β} {v : Data} {a : β}
    (hname : f.spelled ≠ none → Data.lookupText es f.name = none)
    (hkey : Data.lookupText es f.key = some v) (hv : check v = .ok a) :
    field es f check d = .ok a := by
  unfold field
  rw [Data.fieldEntry?_keys hname, hkey]
  simp [hv, within]

theorem field_of_lookup_none {d : β}
    (hname : f.spelled ≠ none → Data.lookupText es f.name = none)
    (hkey : Data.lookupText es f.key = none) : field es f check (some d) = .ok d := by
  unfold field
  rw [Data.fieldEntry?_keys hname, hkey]
  rfl

theorem field_optional {dflt a : β} {w : Data} (left : Bool)
    (hname : f.spelled ≠ none → Data.lookupText es f.name = none)
    (hkey : Data.lookupText es f.key = if left then none else some w) (hw : check w = .ok a)
    (hleft : left = true → dflt = a) : field es f check (some dflt) = .ok a := by
  cases left
  · rw [if_neg Bool.false_ne_true] at hkey
    exact field_of_lookup hname hkey hw
  · rw [if_pos rfl] at hkey
    rw [← hleft rfl]
    exact field_of_lookup_none hname hkey

/-- **A field of a written mapping reads back.**  The mapping holds the items of `ps` that pass
`q`, each under its key; the field's key is the key of item `p`, and its own name, when it has
an alias, is no item's key.  Then the field reads as `a` when the item's value checks as `a`
and, in case the item was left out, the default is `a`. -/
theorem field_written {α : Type} (key : α → String) (val : α → Data) {ps : List α}
    (hd : (ps.map key).Nodup) (q : α → Bool) {p : α} (hp : p ∈ ps) (hk : f.key = key p)
    (hname : f.spelled ≠ none → f.name ∉ ps.map key) {dflt a : β} (hv : check (val p) = .ok a)
    (hq : q p = false → dflt = a) :
    field ((ps.filter q).map fun x => (.str (key x), val x)) f check (some dflt) = .ok a := by
  have hname' : f.spelled ≠ none →
      Data.lookupText ((ps.filter q).map fun x => (.str (key x), val x)) f.name = none :=
    fun hs => Data.lookupText_written_absent key val (hname hs) q
  -- the item is left out exactly when it does not pass `q`
  have hlook : Data.lookupText ((ps.filter q).map fun x => (.str (key x), val x)) f.key =
      if !q p then none else some (val p) := by
    rw [hk, Data.lookupText_written key val hd hp q]
    cases q p <;> rfl
  exact field_optional (!q p) hname' hlook hv fun h => hq (by simpa using h)

theorem field_inv {d : Option β} {a : β} {P : β → Prop} (hd : ∀ x, d = some x → P x)
    (hc : ∀ v x, check v = .ok x → P x) (h : field es f check d = .ok a) : P a := by
  unfold field at h
  split at h
  · rename_i k v _
    cases hv : check v with
    | error e => simp [hv, within] at h
    | ok x =>
      simp only [hv, within, Except.ok.injEq] at h
      exact h ▸ hc v x hv
  · split at h
    · cases h
      exact hd _ rfl
    · cases h

theorem each_map {α : Type} {f : α → Checked β} {g : β → α} {ys : List β}
    (h : ∀ y ∈ ys, f (g y) = .ok y) : each f (ys.map g) = .ok ys := by
  unfold each
  generalize 0 = i
  induction ys generalizing i with
  | nil => rfl
  | cons y ys ih =>
    rw [List.map_cons, each.go, h y List.mem_cons_self,
      ih (fun z hz => h z (List.mem_cons_of_mem y hz))]
    rfl

theorem each_inv {α : Type} {f : α → Checked β} {xs : List α} {ys : List β}
    (h : each f xs = .ok ys) : ∀ y ∈ ys, ∃ x ∈ xs, f x = .ok y := by
  unfold each at h
  generalize 0 = i at h
  induction xs generalizing i ys with
  | nil =>
    cases h
    intro y hy
    cases hy
  | cons x xs ih =>
    rw [each.go] at h
    split at h
    · rename_i y ys' hboth
      cases h
      obtain ⟨h1, h2⟩ := Fragment.both_eq_ok hboth
      intro z hz
      rcases List.mem_cons.1 hz with rfl | hz
      · cases hx : f x with
        | error e => simp [hx, within] at h1
        | ok w =>
          simp only [hx, within, Except.ok.injEq] at h1
          exact ⟨x, List.mem_cons_self, h1 ▸ hx⟩
      · obtain ⟨x', hx', hf⟩ := ih (i + 1) h2 z hz
        exact ⟨x', List.mem_cons_of_mem x hx', hf⟩
    · cases h

end Checked

end ClusterDeploy
