import ClusterDeploy.Spec.Fragment

/-!
# Laying machine settings over cluster settings

`Fragment.merge` lays a machine's own settings over the cluster-wide ones of the same role,
setting by setting.  A fragment as the library reads it holds, for each setting of its role's
table in order, one value of that setting's kind (`Fragment.Valid`, given by
`Fragment.check_valid`), and on such fragments the laying is a monoid whose unit is the fragment
of defaults:

* `Setting.eq_default_of_not_isSet`  a value that is not set is its kind's default, so the
                                     defaults are exactly the values that are not set;
* `Setting.overlay_assoc`, `Setting.default_overlay`, `Setting.overlay_default`  the laws of one
                                     setting, for values of one kind;
* `Fragment.layer_assoc`, `Fragment.empty_layer`, `Fragment.layer_empty`  the same laws for whole
                                     fragments, setting by setting;
* `Fragment.LaidOver`                the rule of each field: lists joined, the cluster's first,
                                     any other setting the machine's when set;
* `Fragment.merge_monoid`            merging follows that rule, is associative, has the fragment
                                     of defaults as unit on both sides, and refuses fragments of
                                     different roles.
-/

namespace ClusterDeploy

namespace Setting

def kind : Setting → SettingKind
  | .text _ => .text
  | .count _ => .count
  | .flag _ => .flag
  | .words _ => .words

@[simp] theorem kind_default (k : SettingKind) : (default k).kind = k := by
  cases k <;> rfl

@[simp] theorem isSet_default (k : SettingKind) : (default k).isSet = false := by
  cases k <;> rfl

/-- **A value that is not set is its kind's default**: the empty text, zero, false or the empty
list. -/
theorem eq_default_of_not_isSet {a : Setting} (h : a.isSet = false) : a = default a.kind := by
  cases a with
  | text s => simpa [isSet, default, kind] using h
  | count n => simpa [isSet, default, kind] using h
  | flag b => simpa [isSet, default, kind] using h
  | words ws => simpa [isSet, default, kind] using h

theorem overlay_of_ne_words {a : Setting} (hw : a.kind ≠ .words) (b : Setting) :
    a.overlay b = if b.isSet then b else a := by
  cases a with
  | words ws => exact absurd rfl hw
  | _ => rfl

theorem eq_words_of_kind {a : Setting} (h : a.kind = .words) : ∃ ws, a = .words ws := by
  cases a with
  | words ws => exact ⟨ws, rfl⟩
  | _ => cases h

theorem kind_overlay {a b : Setting} (h : a.kind = b.kind) : (a.overlay b).kind = a.kind := by
  by_cases hw : a.kind = .words
  · obtain ⟨xs, rfl⟩ := eq_words_of_kind hw
    obtain ⟨ys, rfl⟩ := eq_words_of_kind (h ▸ hw)
    rfl
  · rw [overlay_of_ne_words hw]
    split
    · exact h.symm
    · rfl

/-- **Laying settings is associative**, for values of one kind. -/
theorem overlay_assoc {a b c : Setting} (hab : a.kind = b.kind) (hbc : b.kind = c.kind) :
    (a.overlay b).overlay c = a.overlay (b.overlay c) := by
  by_cases hw : a.kind = .words
  · -- three lists are joined in order
    obtain ⟨xs, rfl⟩ := eq_words_of_kind hw
    obtain ⟨ys, rfl⟩ := eq_words_of_kind (hab ▸ hw)
    obtain ⟨zs, rfl⟩ := eq_words_of_kind (hbc ▸ hab ▸ hw)
    simp [overlay]
  · -- otherwise the last value that is set wins
    have ha' : ∀ x, a.overlay x = if x.isSet then x else a := overlay_of_ne_words hw
    have hb' : ∀ x, b.overlay x = if x.isSet then x else b := overlay_of_ne_words (hab ▸ hw)
    by_cases hb : b.isSet <;> by_cases hc : c.isSet <;> simp [ha', hb', hb, hc]

/-- **The default laid under a value leaves it**: its list joined after an empty one, or its own
value, set or not. -/
theorem default_overlay (a : Setting) : (default a.kind).overlay a = a := by
  by_cases hw : a.kind = .words
  · obtain ⟨ws, rfl⟩ := eq_words_of_kind hw
    simp [default, kind, overlay]
  · rw [overlay_of_ne_words (by rwa [kind_default])]
    split
    · rfl
    · rename_i h
      exact (eq_default_of_not_isSet (by simpa using h)).symm

/-- **The default laid over a value leaves it.** -/
theorem overlay_default (a : Setting) : a.overlay (default a.kind) = a := by
  by_cases hw : a.kind = .words
  · obtain ⟨ws, rfl⟩ := eq_words_of_kind hw
    simp [default, kind, overlay]
  · rw [overlay_of_ne_words hw, isSet_default, if_neg Bool.false_ne_true]

theorem check_kind {k : SettingKind} {d : Data} {s : Setting} (h : check k d = .ok s) :
    s.kind = k := by
  cases k <;> simp only [check, Except.map] at h <;> split at h <;> cases h <;> rfl

end Setting

section Settings

open Setting

theorem map_kind_zipWith_overlay {as bs : List Setting} (h : as.map kind = bs.map kind) :
    (List.zipWith overlay as bs).map kind = as.map kind := by
  induction as generalizing bs with
  | nil => rfl
  | cons a as ih =>
    cases bs with
    | nil => cases h
    | cons b bs =>
      simp only [List.map_cons, List.cons.injEq] at h
      simp [kind_overlay h.1, ih h.2]

theorem zipWith_overlay_assoc {as bs cs : List Setting} (hab : as.map kind = bs.map kind)
    (hbc : bs.map kind = cs.map kind) :
    List.zipWith overlay (List.zipWith overlay as bs) cs =
      List.zipWith overlay as (List.zipWith overlay bs cs) := by
  induction as generalizing bs cs with
  | nil => rfl
  | cons a as ih =>
    cases bs with
    | nil => cases hab
    | cons b bs =>
      cases cs with
      | nil => cases hbc
      | cons c cs =>
        simp only [List.map_cons, List.cons.injEq] at hab hbc
        simp [overlay_assoc hab.1 hbc.1, ih hab.2 hbc.2]

theorem zipWith_default_overlay {as : List Setting} :
    List.zipWith overlay (as.map (Setting.default ∘ kind)) as = as := by
  induction as with
  | nil => rfl
  | cons a as ih => simp [default_overlay, ih]

theorem zipWith_overlay_default {as : List Setting} :
    List.zipWith overlay as (as.map (Setting.default ∘ kind)) = as := by
  induction as with
  | nil => rfl
  | cons a as ih => simp [overlay_default, ih]

end Settings

namespace Fragment

/-- A fragment of role `r` as the library reads it: of that role, with one value for each
setting of the role's table, in order, of the setting's kind. -/
structure Valid (f : Fragment) (r : Role) : Prop where
  role : f.role = r
  kinds : f.values.map Setting.kind = r.table.map SettingSpec.kind

theorem valid_empty (r : Role) : (empty r).Valid r :=
  ⟨rfl, by simp [empty, Function.comp_def]⟩

theorem both_eq_ok {α β : Type} {x : Checked α} {y : Checked β} {a : α} {b : β}
    (h : Checked.both x y = .ok (a, b)) : x = .ok a ∧ y = .ok b := by
  cases x <;> cases y <;> simp_all [Checked.both]

theorem field_kind {es : List (Data × Data)} {fn : FieldName} {k : SettingKind} {v : Setting}
    (h : Checked.field es fn (Setting.check k) (some (Setting.default k)) = .ok v) :
    v.kind = k := by
  unfold Checked.field at h
  split at h
  · -- a value was given: it was checked as a setting of kind `k`
    rename_i key value _
    cases hc : Setting.check k value with
    | error e => simp [hc, Checked.within] at h
    | ok s =>
      simp only [hc, Checked.within, Except.ok.injEq] at h
      exact h ▸ Setting.check_kind hc
  · cases h
    exact Setting.kind_default k

theorem check_go_kinds (es : List (Data × Data)) (specs : List SettingSpec) {vs : List Setting}
    (h : check.go es specs = .ok vs) : vs.map Setting.kind = specs.map SettingSpec.kind := by
  induction specs generalizing vs with
  | nil =>
    cases h
    rfl
  | cons s rest ih =>
    rw [check.go] at h
    split at h
    · rename_i v vs' hboth
      cases h
      obtain ⟨h1, h2⟩ := both_eq_ok hboth
      simp [field_kind h1, ih h2]
    · cases h

/-- **Every fragment read from a document is valid** for the role it was read as. -/
theorem check_valid {r : Role} {d : Data} {f : Fragment} (h : check r d = .ok f) : f.Valid r := by
  unfold check at h
  split at h
  · cases h
  · rename_i es _
    cases hgo : check.go es r.table with
    | error e =>
      rw [hgo] at h
      cases h
    | ok vs =>
      rw [hgo] at h
      cases h
      exact ⟨rfl, check_go_kinds _ _ hgo⟩

section Laws

variable {r : Role} {a b c : Fragment}

theorem Valid.layer (ha : a.Valid r) (hb : b.Valid r) : (a.layer b).Valid r :=
  ⟨ha.role, by rw [Fragment.layer, map_kind_zipWith_overlay (ha.kinds.trans hb.kinds.symm), ha.kinds]⟩

/-- **Laying fragments is associative.** -/
theorem layer_assoc (ha : a.Valid r) (hb : b.Valid r) (hc : c.Valid r) :
    (a.layer b).layer c = a.layer (b.layer c) := by
  simp only [layer, mk.injEq, true_and]
  exact zipWith_overlay_assoc (ha.kinds.trans hb.kinds.symm) (hb.kinds.trans hc.kinds.symm)

theorem empty_values (ha : a.Valid r) : (empty r).values = a.values.map (Setting.default ∘ Setting.kind) := by
  rw [← List.map_map, ha.kinds, List.map_map]
  rfl

/-- **The fragment of defaults is a unit on the left.** -/
theorem empty_layer (ha : a.Valid r) : (empty r).layer a = a := by
  obtain ⟨role, values⟩ := a
  have hr : role = r := ha.role
  subst hr
  simp only [layer, empty_values ha]
  rw [zipWith_default_overlay]
  rfl

/-- **The fragment of defaults is a unit on the right.** -/
theorem layer_empty (ha : a.Valid r) : a.layer (empty r) = a := by
  obtain ⟨role, values⟩ := a
  simp only [layer, empty_values ha]
  rw [zipWith_overlay_default]

theorem merge_of_role_eq (h : a.role = b.role) : a.merge b = .ok (a.layer b) := by
  simp [merge, h]

theorem merge_of_role_ne (h : a.role ≠ b.role) :
    a.merge b = .error ("cannot merge " ++ b.role.modelName ++ " into " ++ a.role.modelName) := by
  simp [merge, h]

end Laws

/-- `m` is `top` laid over `base`, the fragments being of role `r`, field by field in the order
of the role's table: each list setting holds the words of `base` followed by those of `top`, and
each other setting holds the value of `top` when that is set (not empty, zero or false), else
the value of `base`. -/
def LaidOver (r : Role) (base top m : Fragment) : Prop :=
  m.role = r ∧ ∀ (i : Nat) (s : SettingSpec), r.table[i]? = some s → ∃ x y, base.values[i]? = some x ∧
    top.values[i]? = some y ∧
    (s.kind = .words → ∃ xs ys, x = .words xs ∧ y = .words ys ∧
      m.values[i]? = some (.words (xs ++ ys))) ∧
    (s.kind ≠ .words → m.values[i]? = some (if y.isSet then y else x))

theorem Valid.getElem? {f : Fragment} (hf : f.Valid r) {i : Nat} {s : SettingSpec}
    (hs : r.table[i]? = some s) : ∃ x, f.values[i]? = some x ∧ x.kind = s.kind := by
  have hk := congrArg (·[i]?) hf.kinds
  simp only [List.getElem?_map, hs, Option.map_some] at hk
  cases hx : f.values[i]? with
  | none => simp [hx] at hk
  | some x => exact ⟨x, rfl, by simpa [hx] using hk⟩

/-- **Laying fragments follows the rule of each field.** -/
theorem laidOver_layer {r : Role} {a b : Fragment} (ha : a.Valid r) (hb : b.Valid r) :
    LaidOver r a b (a.layer b) := by
  refine ⟨ha.role, fun i s hs => ?_⟩
  obtain ⟨x, hx, hxk⟩ := ha.getElem? hs
  obtain ⟨y, hy, hyk⟩ := hb.getElem? hs
  have hval : (a.layer b).values[i]? = some (x.overlay y) := by
    simp [layer, List.getElem?_zipWith, hx, hy]
  refine ⟨x, y, hx, hy, fun hw => ?_, fun hw => ?_⟩
  · -- both values are lists
    obtain ⟨xs, rfl⟩ := Setting.eq_words_of_kind (hxk.trans hw)
    obtain ⟨ys, rfl⟩ := Setting.eq_words_of_kind (hyk.trans hw)
    exact ⟨xs, ys, rfl, rfl, hval⟩
  · rw [hval, Setting.overlay_of_ne_words (hxk ▸ hw)]

/-- **Merging settings is a monoid.**  For fragments `a`, `b`, `c` of role `r` as read from
documents: `a` and `b` merge into the fragment of `r` that follows the rule of each field (lists
joined, any other setting `b`'s when set and `a`'s otherwise); merging is associative; the
fragment of defaults is a unit on both sides; and a fragment of another role does not merge with
`a`, either way round. -/
theorem merge_monoid {r : Role} {a b c : Fragment} (ha : a.Valid r) (hb : b.Valid r)
    (hc : c.Valid r) :
    (∃ m, a.merge b = .ok m ∧ m.Valid r ∧ LaidOver r a b m) ∧
    (a.merge b >>= fun ab => ab.merge c) = (b.merge c >>= fun bc => a.merge bc) ∧
    (empty r).merge a = .ok a ∧ a.merge (empty r) = .ok a ∧
    ∀ g : Fragment, g.role ≠ r →
      a.merge g = .error ("cannot merge " ++ g.role.modelName ++ " into " ++ r.modelName) ∧
      g.merge a = .error ("cannot merge " ++ r.modelName ++ " into " ++ g.role.modelName) := by
  have hab : a.role = b.role := ha.role.trans hb.role.symm
  have hbc : b.role = c.role := hb.role.trans hc.role.symm
  have hlayer : (a.layer b).role = c.role := hab.trans hbc
  refine ⟨⟨a.layer b, merge_of_role_eq hab, ha.layer hb, laidOver_layer ha hb⟩, ?_,
    ?_, ?_, fun g hg => ⟨?_, ?_⟩⟩
  · -- both ways the three are laid in order
    have hbc' : a.role = (b.layer c).role := hab
    rw [merge_of_role_eq hab, merge_of_role_eq hbc]
    show (a.layer b).merge c = a.merge (b.layer c)
    rw [merge_of_role_eq hlayer, merge_of_role_eq hbc', layer_assoc ha hb hc]
  · rw [merge_of_role_eq (ha.role.symm : (empty r).role = a.role), empty_layer ha]
  · rw [merge_of_role_eq (ha.role : a.role = (empty r).role), layer_empty ha]
  · rw [merge_of_role_ne (fun h => hg (h.symm.trans ha.role)), ha.role]
  · rw [merge_of_role_ne (fun h => hg (h.trans ha.role)), ha.role]

/-- The cluster's agent settings (a label and debugging), a machine's own (another label and its
name) and a later change (the log level) merge as a monoid. -/
theorem agent_merge_monoid :
    let a : Fragment := ⟨.agent, ((empty .agent).values.set 8 (.words ["zone=a"])).set 0 (.flag true)⟩
    let b : Fragment :=
      ⟨.agent, ((empty .agent).values.set 8 (.words ["disk=ssd"])).set 6 (.text "worker-1")⟩
    let c : Fragment := ⟨.agent, (empty .agent).values.set 1 (.count 2)⟩
    a.Valid .agent ∧ b.Valid .agent ∧ c.Valid .agent ∧
    ((∃ m, a.merge b = .ok m ∧ m.Valid .agent ∧ LaidOver .agent a b m) ∧
      (a.merge b >>= fun ab => ab.merge c) = (b.merge c >>= fun bc => a.merge bc) ∧
      (empty .agent).merge a = .ok a ∧ a.merge (empty .agent) = .ok a ∧
      ∀ g : Fragment, g.role ≠ .agent →
        a.merge g = .error ("cannot merge " ++ g.role.modelName ++ " into " ++ Role.agent.modelName) ∧
        g.merge a = .error ("cannot merge " ++ Role.agent.modelName ++ " into " ++ g.role.modelName)) := by
  intro a b c
  have ha : a.Valid .agent := ⟨rfl, by decide⟩
  have hb : b.Valid .agent := ⟨rfl, by decide⟩
  have hc : c.Valid .agent := ⟨rfl, by decide⟩
  exact ⟨ha, hb, hc, merge_monoid ha hb hc⟩

end Fragment

end ClusterDeploy
