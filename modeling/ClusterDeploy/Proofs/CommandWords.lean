import ClusterDeploy.Remote.Session

/-!
# Command lines, read back by the shell

A machine is sent `Command.line`; here that line is read back with `ShellWord.split`, the way the
machine's shell cuts it into words.

* `ShellWord.readFrom_gap_quote`  a quoted text, met between words, reads back as the text, from
                                  whatever place it leaves the reader in;
* `ShellWord.split_intercalate`   texts that each read back as a word, joined by blanks, read back
                                  as the list of those words;
* `Command.split_line`            the line of a command with variables reads as `env`, then
                                  `NAME=value` for each variable in the order of `sortedEnv`,
                                  then `sh`, `-c` and the command text;
* `Command.sortedEnv_lt`          that order is strictly ascending in the names;
* `Command.line_redacted_congr`   the redacted line does not depend on the variables' values;
* `Session.run_congr`             a session's log and answer depend on the command only through
                                  its redacted line;
* `Command.line_words`            all of it together.
-/

namespace ClusterDeploy

namespace ShellWord

open Place

section Reading

variable {c : Char}

/-- **A safe character stands for itself outside quotes**: it is no blank, quote, backslash,
comment sign or special character. -/
theorem safe_plain (h : isSafe c = true) :
    isBlank c = false ∧ c ≠ '\'' ∧ c ≠ '"' ∧ c ≠ '\\' ∧ c ≠ '#' ∧ isSpecial c = false := by
  have hmarks : [' ', '\t', '\'', '"', '\\', '#'].all (fun d => !isSafe d) = true := by decide
  have hnot : c ∉ [' ', '\t', '\'', '"', '\\', '#'] := fun hc => by
    simpa [h] using List.all_eq_true.1 hmarks c hc
  simp only [List.mem_cons, List.not_mem_nil, or_false, not_or] at hnot
  obtain ⟨hsp, htab, hq, hdq, hbs, hh⟩ := hnot
  refine ⟨by simp [isBlank, hsp, htab], hq, hdq, hbs, hh, ?_⟩
  cases hs : isSpecial c with
  | false => rfl
  | true =>
    have hspecials : "|&;<>()$`*?[~\n".toList.all (fun d => !isSafe d) = true := by decide
    have hc : c ∈ "|&;<>()$`*?[~\n".toList := by simpa [isSpecial] using hs
    simpa [h] using List.all_eq_true.1 hspecials c hc

theorem toNat_lt_of_isAlphanum (h : c.isAlphanum = true) : c.toNat < 128 := by
  change ((decide (c.val ≥ 'A'.val ∧ c.val ≤ 'Z'.val) || (c.val ≥ 'a'.val && c.val ≤ 'z'.val))
    || (c.val ≥ '0'.val && c.val ≤ '9'.val)) = true at h
  simp [UInt32.le_iff_toNat_le] at h
  omega

theorem unquoted_safe (h : isSafe c = true) (w : List Char) :
    unquoted w c = some (.bare (w ++ [c]), none) := by
  obtain ⟨-, hq, hdq, hbs, -, hs⟩ := safe_plain h
  simp [unquoted, hq, hdq, hbs, hs]

theorem next_bare_safe (h : isSafe c = true) (w : List Char) :
    (bare w).next c = some (.bare (w ++ [c]), none) := by
  simp [next, (safe_plain h).1, unquoted_safe h]

theorem next_gap_safe (h : isSafe c = true) : gap.next c = some (.bare [c], none) := by
  obtain ⟨hb, -, -, hbs, hh, -⟩ := safe_plain h
  simp [next, hb, hbs, hh, unquoted_safe h]

@[simp] theorem readFrom_nil (p : Place) : readFrom p [] = p.finish := rfl

theorem readFrom_cons_of_next {p q : Place} {cs : List Char} (h : p.next c = some (q, none)) :
    readFrom p (c :: cs) = readFrom q cs := by
  simp [readFrom, h]

theorem readFrom_cons_of_ends {p q : Place} {cs : List Char} {w : String}
    (h : p.next c = some (q, some w)) : readFrom p (c :: cs) = (readFrom q cs).map (w :: ·) := by
  simp [readFrom, h]

theorem readFrom_bare_safe {s : List Char} (hs : ∀ c ∈ s, isSafe c = true) (w rest : List Char) :
    readFrom (bare w) (s ++ rest) = readFrom (bare (w ++ s)) rest := by
  induction s generalizing w with
  | nil => simp
  | cons c s ih =>
    rw [List.cons_append, readFrom_cons_of_next (next_bare_safe (hs c (by simp)) w),
      ih (fun d hd => hs d (by simp [hd]))]
    simp

theorem readFrom_gap_safe {s : List Char} (hs : ∀ c ∈ s, isSafe c = true) (hne : s ≠ [])
    (rest : List Char) : readFrom gap (s ++ rest) = readFrom (bare s) rest := by
  obtain ⟨c, cs, rfl⟩ : ∃ c cs, s = c :: cs := List.exists_cons_of_ne_nil hne
  rw [List.cons_append, readFrom_cons_of_next (next_gap_safe (hs c (by simp))),
    readFrom_bare_safe (fun d hd => hs d (by simp [hd]))]
  rfl

/-- **Single quotes read back**: inside single quotes, the written form of `s` and the closing
quote add `s` to the word. -/
theorem readFrom_single (s w rest : List Char) :
    readFrom (single w) (s.flatMap quotedChar ++ '\'' :: rest) = readFrom (bare (w ++ s)) rest := by
  induction s generalizing w with
  | nil => simp [readFrom, next]
  | cons c s ih =>
    rw [List.flatMap_cons, List.append_assoc]
    by_cases hc : c = '\''
    · -- a quote closes the quotes, stands inside double quotes, and reopens them
      subst hc
      have hq : quotedChar '\'' = ['\'', '"', '\'', '"', '\''] := by decide
      rw [hq]
      simp [readFrom, next, unquoted, isBlank, ih]
    · have hq : quotedChar c = [c] := by simp [quotedChar, hc]
      rw [hq]
      simp [readFrom, next, hc, ih]

theorem quote_eq_self {s : String} (h : (!s.isEmpty && s.all isSafe) = true) : quote s = s := by
  rw [quote, if_pos h]

theorem quote_eq_quoted {s : String} (h : (!s.isEmpty && s.all isSafe) = false) :
    quote s = String.ofList ('\'' :: (s.toList.flatMap quotedChar ++ ['\''])) := by
  rw [quote, if_neg (Bool.eq_false_iff.1 h)]

theorem all_safe_of_quote_eq_self {s : String} (h : (!s.isEmpty && s.all isSafe) = true) :
    ∀ c ∈ s.toList, isSafe c = true := by
  simp only [Bool.and_eq_true, String.all_bool_eq, List.all_eq_true] at h
  exact h.2

/-- **A quoted text inside a word adds the text to the word.** -/
theorem readFrom_bare_quote (s : String) (w rest : List Char) :
    readFrom (bare w) ((quote s).toList ++ rest) = readFrom (bare (w ++ s.toList)) rest := by
  cases h : (!s.isEmpty && s.all isSafe) with
  | true => rw [quote_eq_self h, readFrom_bare_safe (all_safe_of_quote_eq_self h)]
  | false =>
    have hopen : (bare w).next '\'' = some (single w, none) := by simp [next, unquoted, isBlank]
    rw [quote_eq_quoted h, String.toList_ofList, List.cons_append, readFrom_cons_of_next hopen,
      List.append_assoc, List.singleton_append, readFrom_single]

/-- **A quoted text between words starts a word that is the text.** -/
theorem readFrom_gap_quote (s : String) (rest : List Char) :
    readFrom gap ((quote s).toList ++ rest) = readFrom (bare s.toList) rest := by
  cases h : (!s.isEmpty && s.all isSafe) with
  | true =>
    have hne : s.toList ≠ [] := fun hl => by simp [String.toList_eq_nil_iff.1 hl] at h
    rw [quote_eq_self h, readFrom_gap_safe (all_safe_of_quote_eq_self h) hne]
  | false =>
    have hopen : gap.next '\'' = some (single [], none) := by simp [next, unquoted, isBlank]
    rw [quote_eq_quoted h, String.toList_ofList, List.cons_append, readFrom_cons_of_next hopen,
      List.append_assoc, List.singleton_append, readFrom_single, List.nil_append]

end Reading

/-- `t` is written so that a reader between words reads it as the word `u`, whatever follows. -/
def Spells (t u : String) : Prop :=
  ∀ rest : List Char, readFrom .gap (t.toList ++ rest) = readFrom (.bare u.toList) rest

theorem spells_quote (s : String) : Spells (quote s) s := readFrom_gap_quote s

theorem spells_safe_quote {p : String} (hp : ∀ c ∈ p.toList, isSafe c = true) (hne : p ≠ "")
    (v : String) : Spells (p ++ quote v) (p ++ v) := by
  intro rest
  have hne' : p.toList ≠ [] := fun hl => hne (String.toList_eq_nil_iff.1 hl)
  rw [String.toList_append, List.append_assoc, readFrom_gap_safe hp hne', readFrom_bare_quote,
    String.toList_append]

theorem spells_safe {p : String} (hp : ∀ c ∈ p.toList, isSafe c = true) (hne : p ≠ "") :
    Spells p p :=
  readFrom_gap_safe hp (fun hl => hne (String.toList_eq_nil_iff.1 hl))

/-- **Words joined by blanks read back as the list of words.** -/
theorem split_intercalate (ps : List (String × String)) (h : ∀ p ∈ ps, Spells p.1 p.2) :
    split (String.intercalate " " (ps.map Prod.fst)) = some (ps.map Prod.snd) := by
  induction ps with
  | nil => rfl
  | cons p ps ih =>
    have hp := h p (by simp)
    have hrest := ih (fun q hq => h q (by simp [hq]))
    cases ps with
    | nil =>
      have hend := hp []
      simp only [List.append_nil] at hend
      simp [split, hend, Place.finish]
    | cons q qs =>
      -- the word, a blank that ends it, and the words after it
      have hblank : (bare p.2.toList).next ' ' = some (gap, some p.2) := by
        simp [next, isBlank]
      simp only [List.map_cons, String.intercalate_cons_cons, split, String.toList_append,
        List.append_assoc] at hrest ⊢
      have hsp : " ".toList = [' '] := by decide
      rw [hp, hsp, List.singleton_append, readFrom_cons_of_ends hblank, hrest]
      rfl

end ShellWord

namespace Command

open ShellWord

theorem line_of_env_ne_nil {c : Command} (h : c.env ≠ []) (redact : Bool) :
    c.line redact = String.intercalate " " ("env" ::
      c.sortedEnv.map (fun kv => kv.1 ++ "=" ++ (if redact then "***" else quote kv.2)) ++
      ["sh", "-c", quote c.cmd]) := by
  have he : c.env.isEmpty = false := List.isEmpty_eq_false_iff.2 h
  simp only [line, he, Bool.not_false, Bool.or_true, if_true, Bool.false_eq_true, if_false]
  -- the shell and its command text are the last three words
  rw [String.intercalate_append_of_ne_nil (by simp) (by simp),
    String.intercalate_append_of_ne_nil (by simp) (by simp)]
  have hsh : "sh -c " = "sh" ++ " " ++ "-c" ++ " " := by decide
  simp only [String.intercalate_singleton, String.intercalate_cons_cons, hsh,
    String.append_assoc]

theorem line_of_env_nil {c : Command} (h : c.env = []) (redact : Bool) :
    c.line redact = if c.shell then "sh -c " ++ quote c.cmd else c.cmd := by
  simp [line, h]

theorem safe_of_word_char {d : Char} (h : d.isAlphanum = true ∨ d = '_') : isSafe d = true := by
  rcases h with ha | rfl
  · simp [isSafe, ha, toNat_lt_of_isAlphanum ha]
  · decide

theorem safe_of_isName {k : String} (h : isName k = true) :
    ∀ c ∈ (k ++ "=").toList, isSafe c = true := by
  have hname : ∀ c ∈ k.toList, isSafe c = true := by
    unfold isName at h
    cases hk : k.toList with
    | nil => simp [hk] at h
    | cons c cs =>
      simp only [hk, Bool.and_eq_true, Bool.or_eq_true, beq_iff_eq, List.all_eq_true] at h
      have hfirst : c.isAlphanum = true ∨ c = '_' :=
        h.1.imp (fun ha => by simp [Char.isAlphanum, ha]) id
      intro d hd
      rcases List.mem_cons.1 hd with rfl | hd
      · exact safe_of_word_char hfirst
      · exact safe_of_word_char (h.2 d hd)
  intro c hc
  simp only [String.toList_append, List.mem_append] at hc
  rcases hc with hc | hc
  · exact hname c hc
  · obtain rfl : c = '=' := by simpa using hc
    decide

/-- **The line of a command with variables reads back** as `env`, `NAME=value` for each
variable in the order of `sortedEnv`, then `sh`, `-c` and the command text. -/
theorem split_line {c : Command} (h : c.env ≠ []) (hnames : ∀ kv ∈ c.env, isName kv.1 = true) :
    split (c.line false) = some ("env" :: c.sortedEnv.map (fun kv => kv.1 ++ "=" ++ kv.2) ++
      ["sh", "-c", c.cmd]) := by
  -- each word of the line, paired with the word it reads back as
  let ps : List (String × String) := ("env", "env") ::
    c.sortedEnv.map (fun kv => (kv.1 ++ "=" ++ quote kv.2, kv.1 ++ "=" ++ kv.2)) ++
    [("sh", "sh"), ("-c", "-c"), (quote c.cmd, c.cmd)]
  have hspells : ∀ p ∈ ps, Spells p.1 p.2 := by
    intro p hp
    simp only [ps, List.cons_append, List.mem_cons, List.mem_append, List.mem_map,
      List.not_mem_nil, or_false] at hp
    rcases hp with rfl | ⟨kv, hkv, rfl⟩ | rfl | rfl | rfl
    · exact spells_safe (List.all_eq_true.1 (by decide)) (by decide)
    · have hname := hnames kv ((List.mergeSort_perm _ _).mem_iff.1 hkv)
      exact spells_safe_quote (safe_of_isName hname) (by simp) kv.2
    · exact spells_safe (List.all_eq_true.1 (by decide)) (by decide)
    · exact spells_safe (List.all_eq_true.1 (by decide)) (by decide)
    · exact spells_quote c.cmd
  have hread := split_intercalate ps hspells
  simp only [ps, List.map_cons, List.map_append, List.map_map, Function.comp_def,
    List.map_nil] at hread
  rw [line_of_env_ne_nil h]
  simpa using hread

theorem sortedEnv_perm (c : Command) : c.sortedEnv.Perm c.env := List.mergeSort_perm _ _

theorem le_trans_decide (a b d : String) (hab : decide (a ≤ b) = true)
    (hbd : decide (b ≤ d) = true) : decide (a ≤ d) = true := by
  simp only [decide_eq_true_eq] at *
  exact String.le_trans hab hbd

theorem le_total_decide (a b : String) : (decide (a ≤ b) || decide (b ≤ a)) = true := by
  simpa using String.le_total a b

/-- **The variables are written in strictly ascending order of their names**, when the names
are distinct. -/
theorem sortedEnv_lt (c : Command) (h : (c.env.map Prod.fst).Nodup) :
    c.sortedEnv.Pairwise (fun a b => a.1 < b.1) := by
  have hle : c.sortedEnv.Pairwise (fun a b => decide (a.1 ≤ b.1) = true) :=
    @List.pairwise_mergeSort (String × String) (fun a b => decide (a.1 ≤ b.1))
      (fun a b d => le_trans_decide a.1 b.1 d.1) (fun a b => le_total_decide a.1 b.1) c.env
  have hne : c.sortedEnv.Pairwise (fun a b => a.1 ≠ b.1) :=
    List.pairwise_map.1 (((sortedEnv_perm c).map Prod.fst).nodup_iff.2 h)
  apply (hle.and hne).imp
  intro a b ⟨hab, hne⟩
  -- distinct names in order are strictly in order
  exact String.not_le.1 fun hba => hne (String.le_antisymm (of_decide_eq_true hab) hba)

theorem sortedEnv_names (c : Command) :
    c.sortedEnv.map Prod.fst = (c.env.map Prod.fst).mergeSort (fun a b => decide (a ≤ b)) :=
  List.map_mergeSort (fun _ _ _ _ => rfl)

/-- **The redacted line does not depend on the variables' values**: commands with the same
text, the same shell flag and the same names, in any order, have the same redacted line. -/
theorem line_redacted_congr {c c' : Command} (hcmd : c'.cmd = c.cmd) (hshell : c'.shell = c.shell)
    (hnames : (c'.env.map Prod.fst).Perm (c.env.map Prod.fst)) : c'.line true = c.line true := by
  -- sorted lists of the same names are the same list
  have hsorted : c'.sortedEnv.map Prod.fst = c.sortedEnv.map Prod.fst := by
    rw [sortedEnv_names, sortedEnv_names]
    exact List.Perm.eq_of_pairwise
      (fun a b _ _ hab hba => String.le_antisymm (of_decide_eq_true hab) (of_decide_eq_true hba))
      (List.pairwise_mergeSort le_trans_decide le_total_decide _)
      (List.pairwise_mergeSort le_trans_decide le_total_decide _)
      ((List.mergeSort_perm _ _).trans (hnames.trans (List.mergeSort_perm _ _).symm))
  have hlen : c'.env.length = c.env.length := by simpa using hnames.length_eq
  by_cases h : c.env = []
  · have h' : c'.env = [] := List.eq_nil_of_length_eq_zero (by simp [hlen, h])
    rw [line_of_env_nil h, line_of_env_nil h', hcmd, hshell]
  · have h' : c'.env ≠ [] := fun h' => h (List.eq_nil_of_length_eq_zero (by simp [← hlen, h']))
    rw [line_of_env_ne_nil h, line_of_env_ne_nil h', hcmd]
    have hwords : ∀ d : Command, d.sortedEnv.map (fun kv => kv.1 ++ "=" ++
        (if true = true then "***" else quote kv.2)) =
        (d.sortedEnv.map Prod.fst).map (· ++ "=" ++ "***") := by
      intro d
      simp [List.map_map, Function.comp_def]
    rw [hwords c', hwords c, hsorted]

end Command

namespace Session

variable (s : Session) (c : Command) (logOutput : Bool) (j : Job)

/-- **A session sends the plain line**, unless its time limit is up before it starts. -/
theorem run_events : (s.run c logOutput j).events =
    if (s.timeout.map Seconds.spent).getD false then [] else [.process (c.line false)] := by
  by_cases hsp : (s.timeout.map Seconds.spent).getD false = true
  · simp [run, hsp]
  · cases j with
    | refused m => simp [run, hsp]
    | hangs out err => simp [run, hsp]
    | exits out err st => by_cases hst : st = 0 <;> simp [run, hsp, hst]

/-- **A session logs the redacted line first.** -/
theorem run_log_head :
    (s.run c logOutput j).log.head? = some ⟨.debug, "Running: " ++ c.line true⟩ := by
  by_cases hsp : (s.timeout.map Seconds.spent).getD false = true
  · simp [run, hsp]
  · cases j with
    | refused m => simp [run, hsp]
    | hangs out err => simp [run, hsp]
    | exits out err st => by_cases hst : st = 0 <;> simp [run, hsp, hst]

/-- **Every failure of a session names the redacted line**, after the machine, and followed by
nothing or by what the far side said when it refused the command. -/
theorem run_failure {f : Failure} (h : (s.run c logOutput j).result = .error f) :
    ∃ pre post st err, f = .command (pre ++ s.target.host ++ ": " ++ c.line true ++ post) st err ∧
      (post = "" ∨ ∃ m, j = .refused m ∧ post = ": " ++ m) := by
  by_cases hsp : (s.timeout.map Seconds.spent).getD false = true
  · -- the time limit is up before anything starts
    simp only [run, hsp, if_true, Except.error.injEq] at h
    exact ⟨_, "", _, _, by rw [← h, String.append_empty], .inl rfl⟩
  · cases j with
    | refused m =>
      simp only [run, hsp, Bool.false_eq_true, if_false, Except.error.injEq] at h
      exact ⟨_, ": " ++ m, _, _, by rw [← h, String.append_assoc], .inr ⟨m, rfl, rfl⟩⟩
    | hangs out err =>
      simp only [run, hsp, Bool.false_eq_true, if_false, Except.error.injEq] at h
      exact ⟨_, "", _, _, by rw [← h, String.append_empty], .inl rfl⟩
    | exits out err st =>
      by_cases hst : st = 0
      · simp [run, hsp, hst] at h
      · simp only [run, hsp, Bool.false_eq_true, if_false, bne_iff_ne, ne_eq, hst,
          not_false_eq_true, if_true, Except.error.injEq] at h
        exact ⟨_, "", _, _, by rw [← h, String.append_empty], .inl rfl⟩

/-- **A session's log and answer see the command only through its redacted line.** -/
theorem run_congr {c' : Command} (h : c'.line true = c.line true) :
    (s.run c' logOutput j).log = (s.run c logOutput j).log ∧
      (s.run c' logOutput j).result = (s.run c logOutput j).result := by
  by_cases hsp : (s.timeout.map Seconds.spent).getD false = true
  · simp [run, hsp, h]
  · cases j with
    | refused m => simp [run, hsp, h]
    | hangs out err => simp [run, hsp, h]
    | exits out err st => by_cases hst : st = 0 <;> simp [run, hsp, hst, h]

end Session

namespace Command

open ShellWord

/-- **Command lines read back as their words, and the log never shows a value.**  For a command
whose variables have distinct names that are shell names:

* without variables, the line is the command text, or `sh -c` and the quoted text, which reads
  back as `sh`, `-c` and the text, and it is its own redacted line;
* with variables, there is an order of them, strictly ascending in their names, in which the
  line reads back as `env`, each `NAME=value`, `sh`, `-c` and the text; the line writes each
  value quoted, and the redacted line is the same text with `***` for each quoted value;
* any command with the same text, shell flag and names has the same redacted line, and so the
  same log and the same answer from a session;
* a session sends the plain line (unless its time limit is up before it starts), logs the
  redacted line first, and every failure it answers names the redacted line. -/
theorem line_words (c : Command) (hnames : ∀ kv ∈ c.env, isName kv.1 = true)
    (hdistinct : (c.env.map Prod.fst).Nodup) :
    (c.env = [] → (c.shell = false → c.line = c.cmd) ∧
      (c.shell = true → split c.line = some ["sh", "-c", c.cmd]) ∧ c.line true = c.line) ∧
    (c.env ≠ [] → ∃ kvs : List (String × String), kvs.Perm c.env ∧
      kvs.Pairwise (fun a b => a.1 < b.1) ∧
      split c.line = some ("env" :: kvs.map (fun kv => kv.1 ++ "=" ++ kv.2) ++
        ["sh", "-c", c.cmd]) ∧
      c.line = String.intercalate " " ("env" :: kvs.map (fun kv => kv.1 ++ "=" ++ quote kv.2) ++
        ["sh", "-c", quote c.cmd]) ∧
      c.line true = String.intercalate " " ("env" :: kvs.map (fun kv => kv.1 ++ "=" ++ "***") ++
        ["sh", "-c", quote c.cmd])) ∧
    (∀ c' : Command, c'.cmd = c.cmd → c'.shell = c.shell →
      (c'.env.map Prod.fst).Perm (c.env.map Prod.fst) →
      c'.line true = c.line true ∧ ∀ (s : Session) (logOutput : Bool) (j : Job),
        (s.run c' logOutput j).log = (s.run c logOutput j).log ∧
        (s.run c' logOutput j).result = (s.run c logOutput j).result) ∧
    (∀ (s : Session) (logOutput : Bool) (j : Job),
      (s.run c logOutput j).events =
        (if (s.timeout.map Seconds.spent).getD false then [] else [.process c.line]) ∧
      (s.run c logOutput j).log.head? = some ⟨.debug, "Running: " ++ c.line true⟩ ∧
      ∀ f, (s.run c logOutput j).result = .error f →
        ∃ pre post st err, f = .command (pre ++ s.target.host ++ ": " ++ c.line true ++ post) st err ∧
          (post = "" ∨ ∃ m, j = .refused m ∧ post = ": " ++ m)) := by
  refine ⟨?_, ?_, ?_, ?_⟩
  · -- no variables
    intro h
    refine ⟨fun hs => by simp [line_of_env_nil h, hs], fun hs => ?_, ?_⟩
    · -- `sh -c` and the quoted text are three words
      have hsh : "sh -c " ++ quote c.cmd = String.intercalate " " ["sh", "-c", quote c.cmd] := by
        simp only [String.intercalate_cons_cons, String.intercalate_singleton,
          ← String.append_assoc]
        rfl
      have hread := split_intercalate [("sh", "sh"), ("-c", "-c"), (quote c.cmd, c.cmd)] (by
        intro p hp
        simp only [List.mem_cons, List.not_mem_nil, or_false] at hp
        rcases hp with rfl | rfl | rfl
        · exact spells_safe (List.all_eq_true.1 (by decide)) (by decide)
        · exact spells_safe (List.all_eq_true.1 (by decide)) (by decide)
        · exact spells_quote c.cmd)
      rw [line_of_env_nil h, hs, if_pos rfl, hsh]
      simpa using hread
    · rw [line_of_env_nil h, line_of_env_nil h]
  · -- variables, in the order of `sortedEnv`
    intro h
    refine ⟨c.sortedEnv, sortedEnv_perm c, sortedEnv_lt c hdistinct, split_line h hnames, ?_, ?_⟩
    · rw [line_of_env_ne_nil h]
      simp
    · rw [line_of_env_ne_nil h]
      simp
  · intro c' hcmd hshell hkeys
    have hline := line_redacted_congr hcmd hshell hkeys
    exact ⟨hline, fun s logOutput j => Session.run_congr s c logOutput j hline⟩
  · intro s logOutput j
    exact ⟨Session.run_events s c logOutput j, Session.run_log_head s c logOutput j,
      fun f hf => Session.run_failure s c logOutput j hf⟩

/-- Two install commands that differ only in the join token have the same redacted line, which
shows neither token. -/
theorem lab_line_words :
    let c : Command := ⟨"/tmp/k3se/install.sh",
      [("K3S_TOKEN", "it's $ecret"), ("INSTALL_K3S_EXEC", "server --cluster-init")], false⟩
    let c' : Command := ⟨"/tmp/k3se/install.sh",
      [("K3S_TOKEN", "other"), ("INSTALL_K3S_EXEC", "server --cluster-init")], false⟩
    (∀ kv ∈ c.env, isName kv.1 = true) ∧ (c.env.map Prod.fst).Nodup ∧
      c'.line true = c.line true := by
  intro c c'
  have hnames : ∀ kv ∈ c.env, isName kv.1 = true :=
    List.all_eq_true.1 (show c.env.all (fun kv => isName kv.1) = true by decide)
  have hdistinct : (c.env.map Prod.fst).Nodup := by decide
  exact ⟨hnames, hdistinct, ((line_words c hnames hdistinct).2.2.1 c' rfl rfl (by decide)).1⟩

end Command

end ClusterDeploy
