import Mathlib
import ClusterDeploy.Proofs.Reconcile

/-!
# Keys too wide to read back

The writer puts a mapping key in the simple `key: value` form when its text and its tag come to
fewer than 128 characters (`simpleKeyOk`), counting the characters of the text before any escape.
The scanner forgets a possible simple key once it is more than 1024 characters past the key's
start (`staleKeys`). Inside double quotes a character beyond the Basic Multilingual Plane is
written as a ten-character escape, so a key of 103 to 122 such characters is written in the
simple form and is then too wide to be read as a key.

* `staleKeys_eq`                 forgetting stale keys, without its loop: the first required key
                                 out of reach is an error, and otherwise exactly the keys within
                                 reach are kept;
* `staleKeys_keys_within_reach`  so after it every remembered key is on the current line and at
                                 most 1024 characters back;
* `writeDoubleQuoted_unsplit`    a double-quoted scalar that is not folded is its characters, each
                                 as it is or as its escape, between two quotes;
* `writeDoubleQuoted_supplementary_length`  a text of `n` characters beyond the Basic
                                 Multilingual Plane is written `10 * n + 2` characters wide.
-/

namespace ClusterDeploy

/-! ### Loops over a range -/

theorem forIn_range_spec {σ β : Type} {b : Nat → β → StateM σ (ForInStep β)} (n : Nat)
    (Inv : Nat → β → σ → Prop) (P : β × σ → Prop)
    (step : ∀ e x q, e < n → Inv e x q →
      ∃ x' q', (b e x).run q = (.yield x', q') ∧ Inv (e + 1) x' q')
    (last : ∀ x q, Inv n x q → P (x, q)) {x : β} {q : σ} (h : Inv 0 x q) :
    P ((forIn (List.range n) x b).run q) := by
  -- the loop from `k` on, with `m` steps left
  have run : ∀ m k x q, k + m = n → Inv k x q →
      ∃ x' q', (forIn (List.range' k m) x b).run q = (x', q') ∧ Inv n x' q' := by
    intro m
    induction m with
    | zero => intro k x q hk h; exact ⟨x, q, rfl, by simpa [← hk] using h⟩
    | succ m ih =>
      intro k x q hk h
      obtain ⟨x', q', hb, h'⟩ := step k x q (by omega) h
      obtain ⟨x'', q'', hrest, h''⟩ := ih (k + 1) x' q' (by omega) h'
      refine ⟨x'', q'', ?_, h''⟩
      rw [List.range'_succ, List.forIn_cons, StateT.run_bind, hb]
      exact hrest
  obtain ⟨x', q', hrun, hn⟩ := run n 0 x q (Nat.zero_add n) h
  rw [List.range_eq_range', hrun]
  exact last x' q' hn

namespace Yaml

/-! ### Forgetting stale keys -/

/-- A possible simple key is out of reach once its line has ended or the scanner is more than
1024 characters past its start. -/
def Lexer.outOfReach (lx : Lexer) (k : SimpleKey) : Bool :=
  k.line != lx.line || lx.index - k.index > 1024

theorem staleKeys_eq (lx : Lexer) :
    staleKeys lx =
      match lx.keys.find? (fun e => lx.outOfReach e.2 && e.2.required) with
      | some e => .error (.marked (some "while scanning a simple key") (some e.2.mark)
          "could not find expected ':'" (some lx.mark))
      | none => .ok ((), { lx with keys := lx.keys.filter (fun e => !lx.outOfReach e.2) }) := by
  unfold staleKeys
  simp only [bind, StateT.bind, get, getThe, MonadStateOf.get, StateT.get, pure, Except.pure,
    Except.bind, ← List.concat_eq_append]
  rw [show lx.keys.filter (fun e => !lx.outOfReach e.2) =
    [] ++ lx.keys.filter (fun e => !lx.outOfReach e.2) from rfl]
  -- the loop over the keys, from any list of keys kept so far
  generalize ([] : List (Nat × SimpleKey)) = kept
  induction lx.keys generalizing kept with
  | nil => simp [set, StateT.set, StateT.pure, pure, Except.pure]
  | cons e ks ih =>
    rw [List.forIn_cons, List.find?_cons, List.filter_cons]
    cases hst : lx.outOfReach e.2 with
    | true =>
      have hst' : (e.snd.line != lx.line || decide (lx.index - e.snd.index > 1024)) = true := hst
      cases e.2.required with
      | true =>
        simp only [hst', if_true, Bool.and_self]
        rfl
      | false =>
        simp only [hst', if_true, Bool.and_false, Bool.false_eq_true, if_false, Bool.not_true]
        exact ih kept
    | false =>
      have hst' : (e.snd.line != lx.line || decide (lx.index - e.snd.index > 1024)) = false := hst
      simp only [hst', Bool.false_and, Bool.false_eq_true, if_false, Bool.not_false, if_true]
      rw [← List.concat_append]
      exact ih (kept.concat e)

theorem staleKeys_keys_within_reach {lx lx' : Lexer} (h : staleKeys lx = .ok ((), lx')) :
    ∀ e ∈ lx'.keys, e.2.line = lx.line ∧ lx.index - e.2.index ≤ 1024 := by
  rw [staleKeys_eq] at h
  split at h
  · cases h
  · cases h
    intro e he
    simp only [List.mem_filter, Lexer.outOfReach, Bool.not_or, Bool.and_eq_true,
      bne_eq_false_iff_eq, decide_eq_false_iff_not, Bool.not_eq_eq_eq_not, Bool.not_true] at he
    exact ⟨he.2.1, by omega⟩

/-! ### Double-quoted scalars -/

def Pen.written (p : Pen) : List Char := p.out.reverse.flatMap String.toList

def quotedChars (c : Char) : List Char := if needsEscape c then (escapeOf c).toList else [c]

@[simp] theorem written_put (t : String) (p : Pen) :
    ((put t).run p).2.written = p.written ++ t.toList := by
  show ((t :: p.out).reverse.flatMap String.toList) = _
  simp [Pen.written]

@[simp] theorem written_writeIndicator (t : String) (needWs ws indention : Bool) (p : Pen) :
    ((writeIndicator t needWs ws indention).run p).2.written =
      p.written ++ (if p.whitespace || !needWs then t else " " ++ t).toList := by
  show (((if p.whitespace || !needWs then t else " " ++ t) :: p.out).reverse.flatMap
    String.toList) = _
  simp [Pen.written]

theorem flatMap_quotedChars_of_plain (l : List Char) (h : ∀ c ∈ l, needsEscape c = false) :
    l.flatMap quotedChars = l := by
  induction l with
  | nil => rfl
  | cons c l ih =>
    simp only [List.mem_cons, forall_eq_or_imp] at h
    simp [quotedChars, h.1, ih h.2]

theorem slice_toList (s : Array Char) (a b : Nat) :
    (slice s a b).toList = (s.toList.drop a).take (b - a) := by
  simp [slice, List.extract]

theorem take_flatMap_quotedChars {s : Array Char} {start e : Nat} (h1 : start ≤ e)
    (h2 : e ≤ s.size)
    (hplain : ∀ j (hj : j < s.size), start ≤ j → j < e → needsEscape s[j] = false) :
    (s.toList.take e).flatMap quotedChars =
      (s.toList.take start).flatMap quotedChars ++ (slice s start e).toList := by
  have hsplit : s.toList.take e =
      s.toList.take start ++ (s.toList.drop start).take (e - start) := by
    rw [← List.take_add, Nat.add_sub_cancel' h1]
  rw [hsplit, List.flatMap_append, slice_toList,
    flatMap_quotedChars_of_plain ((s.toList.drop start).take (e - start))]
  intro c hc
  obtain ⟨i, hi, rfl⟩ := List.getElem_of_mem hc
  simp only [List.length_take, List.length_drop, Array.length_toList] at hi
  simp only [List.getElem_take, List.getElem_drop, Array.getElem_toList]
  exact hplain (start + i) (by omega) (by omega) (by omega)

/-- The state of the double-quoted writer before position `e`: what is written is `opened` and
the characters before `start`, each as it is or as its escape; the run from `start` to `e`, held
back to be written at once, has no character that is escaped; past the end of the text nothing is
held back. -/
def HeldBack (s : Array Char) (opened : List Char) (e start : Nat) (q : Pen) : Prop :=
  q.written = opened ++ (s.toList.take start).flatMap quotedChars ∧ start ≤ e ∧
    start ≤ s.size ∧ (∀ j (hj : j < s.size), start ≤ j → j < e → needsEscape s[j] = false) ∧
    (s.size < e → start = s.size)

theorem HeldBack.restart {s : Array Char} {opened : List Char} {e : Nat} {q : Pen}
    (he : e < s.size) (hw : q.written = opened ++ (s.toList.take (e + 1)).flatMap quotedChars) :
    HeldBack s opened (e + 1) (e + 1) q :=
  ⟨hw, Nat.le_refl _, by omega, fun _ _ _ h2 => absurd h2 (by omega), fun h => absurd h (by omega)⟩

theorem writeDoubleQuoted_unsplit (s : Array Char) (indent : Nat) (p : Pen) :
    ((writeDoubleQuoted s false indent).run p).2.written =
      p.written ++ (if p.whitespace then [] else [' ']) ++
        '"' :: s.toList.flatMap quotedChars ++ ['"'] := by
  unfold writeDoubleQuoted
  simp only [Bool.and_false, Bool.false_eq_true, if_false, StateT.run_bind]
  refine forIn_range_spec (s.size + 1)
    (HeldBack s ((writeIndicator "\"" true false false).run p).2.written)
    (fun r => ((writeIndicator "\"" false false false).run r.2).2.written =
      (p.written ++ if p.whitespace = true then [] else [' ']) ++
        '"' :: s.toList.flatMap quotedChars ++ ['"'])
    ?step ?last ?init
  case init => simp [HeldBack]
  case last =>
    rintro start q ⟨hw, -, -, -, hend⟩
    rw [hend (Nat.lt_succ_self _), List.take_of_length_le (by simp)] at hw
    cases hp : p.whitespace <;> simp [hw, hp]
  case step =>
    rintro e start q he ⟨hw, hse, hss, hplain, hend⟩
    rcases Nat.lt_or_ge e s.size with hlt | hge
    · have hget : s[e]? = some s[e] := Array.getElem?_eq_getElem hlt
      cases hesc : needsEscape s[e]
      · -- a character written as it is joins the run
        simp only [hget, Option.isNone_some, Option.map_some, Option.getD_some, hesc,
          Bool.false_or, Bool.false_eq_true, if_false]
        refine ⟨start, q, rfl, hw, by omega, hss, fun j hj h1 h2 => ?_,
          fun h => absurd h (by omega)⟩
        rcases Nat.lt_succ_iff_lt_or_eq.1 h2 with h2 | rfl
        · exact hplain j hj h1 h2
        · exact hesc
      · -- an escaped character ends the run: the run and then its escape are written
        simp only [hget, Option.isNone_some, Option.map_some, Option.getD_some, hesc,
          Bool.false_or, if_true]
        have htake : (s.toList.take (e + 1)).flatMap quotedChars =
            (s.toList.take start).flatMap quotedChars ++ (slice s start e).toList ++
              (escapeOf s[e]).toList := by
          rw [List.take_add_one, List.flatMap_append,
            take_flatMap_quotedChars hse (by omega) hplain]
          simp [hget, quotedChars, hesc]
        by_cases hst : start < e
        · refine ⟨e + 1, ((put (escapeOf s[e])).run ((put (slice s start e)).run q).2).2,
            by simp [hst]; rfl, ?_⟩
          exact HeldBack.restart hlt (by simp [hw, htake])
        · have hs : start = e := by omega
          subst hs
          refine ⟨start + 1, ((put (escapeOf s[start])).run q).2, by simp; rfl, ?_⟩
          exact HeldBack.restart hlt (by simp [hw, htake, slice_toList])
    · -- the end of the text: what is left of the run is written
      have he' : e = s.size := by omega
      subst he'
      have hget : s[s.size]? = none := by simp
      simp only [hget, Option.isNone_none, Bool.true_or, if_true]
      by_cases hst : start < s.size
      · refine ⟨s.size, ((put (slice s start s.size)).run q).2, by simp [hst]; rfl, ?_⟩
        refine ⟨?_, by omega, Nat.le_refl _, fun j hj h _ => absurd hj (by omega), fun _ => rfl⟩
        rw [written_put, hw, take_flatMap_quotedChars hss (Nat.le_refl _) hplain,
          List.append_assoc]
      · have hs : start = s.size := by omega
        refine ⟨start, q, by simp [hst]; rfl, ?_⟩
        exact ⟨by rw [hw, hs], by omega, hss, fun j hj h _ => absurd hj (by omega), fun _ => hs⟩

/-! ### The width of an escaped character -/

theorem toNat_lt_codespace (c : Char) : c.toNat < 0x110000 := by
  have h := c.valid
  unfold UInt32.isValidChar Nat.isValidChar at h
  show c.val.toNat < 0x110000
  omega

theorem hexUpper_length {w n : Nat} (hw : 0 < w) (hn : n < 16 ^ w) :
    (hexUpper w n).length = w := by
  have hd : (Nat.toDigits 16 n).length ≤ w := Nat.toDigits_length 16 n w hw hn
  simp [hexUpper]
  omega

theorem escapeOf_of_supplementary {c : Char} (h : 0xFFFF < c.toNat) :
    escapeOf c = "\\U" ++ hexUpper 8 c.toNat := by
  unfold escapeOf
  -- every named escape is of a character inside the Basic Multilingual Plane
  split <;> first | omega | skip
  rw [if_neg (by omega), if_neg (by omega)]

theorem quotedChars_length_of_supplementary {c : Char} (h : 0xFFFF < c.toNat) :
    (quotedChars c).length = 10 := by
  have hesc : needsEscape c = true := by
    simp only [needsEscape, Bool.or_eq_true, beq_iff_eq, Bool.not_eq_true', Bool.and_eq_false_iff,
      decide_eq_false_iff_not, not_le]
    omega
  have hlt : c.toNat < 16 ^ 8 := by
    have := toNat_lt_codespace c
    omega
  rw [quotedChars, if_pos hesc, String.length_toList, escapeOf_of_supplementary h,
    String.length_append, hexUpper_length (by decide) hlt]
  rfl

theorem length_flatMap_quotedChars_of_supplementary (l : List Char)
    (h : ∀ c ∈ l, 0xFFFF < c.toNat) : (l.flatMap quotedChars).length = 10 * l.length := by
  induction l with
  | nil => rfl
  | cons c l ih =>
    simp only [List.mem_cons, forall_eq_or_imp] at h
    rw [List.flatMap_cons, List.length_append, quotedChars_length_of_supplementary h.1, ih h.2,
      List.length_cons]
    omega

theorem writeDoubleQuoted_supplementary_length (s : Array Char) (indent : Nat) (p : Pen)
    (hs : ∀ c ∈ s.toList, 0xFFFF < c.toNat) :
    ((writeDoubleQuoted s false indent).run p).2.written.length =
      p.written.length + (if p.whitespace then 0 else 1) + (10 * s.size + 2) := by
  rw [writeDoubleQuoted_unsplit]
  have hw : (s.toList.flatMap quotedChars).length = 10 * s.size := by
    rw [length_flatMap_quotedChars_of_supplementary s.toList hs, Array.length_toList]
  cases p.whitespace <;>
    simp only [List.length_append, List.length_cons, List.length_nil, hw, Bool.false_eq_true,
      ↓reduceIte] <;> omega

end Yaml

end ClusterDeploy
