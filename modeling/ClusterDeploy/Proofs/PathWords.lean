import ClusterDeploy.Proofs.CommandWords
import ClusterDeploy.Deploy.Plan

/-!
# Configured paths in remote commands

The engine writes the scratch directory, the configuration directory and the paths it joins
from them into its remote commands as they are; only the path of a file it reads is quoted.  The
shell then reads each such path as shell text of its own: a path is one word of its command
exactly when the shell reads it back as itself, which a plain word (one that quoting leaves as it
is) does, and a path with a blank, a quote or an operator in it becomes other words.

* `ShellWord.quote_eq_self_iff`     quoting leaves exactly the non-empty texts of safe characters;
* `ShellWord.split_words_append`    plain words and a blank after each, then any text: the words,
                                    then the words of the text;
* `ShellWord.readListFrom_words`    the same inside an and-list of commands;
* `Settings.splitList_move`         the move of the configuration reads as three commands when
                                    its two paths are plain;
* `Settings.path_words`             all of it together, for every setting of the directories.
-/

namespace ClusterDeploy

namespace ShellWord

open Place

section Words

variable {t u w : String}

theorem length_le_flatMap_quotedChar (cs : List Char) :
    cs.length ≤ (cs.flatMap quotedChar).length := by
  induction cs with
  | nil => simp
  | cons c cs ih =>
    have hc : 1 ≤ (quotedChar c).length := by
      unfold quotedChar
      split <;> simp
    simp only [List.flatMap_cons, List.length_append, List.length_cons]
    omega

/-- **Quoting leaves exactly the plain words as they are**: texts, not empty, of safe
characters. -/
theorem quote_eq_self_iff : quote w = w ↔ w ≠ "" ∧ ∀ c ∈ w.toList, isSafe c = true := by
  constructor
  · intro h
    cases hp : (!w.isEmpty && w.all isSafe) with
    | true => exact ⟨fun he => by simp [he] at hp, all_safe_of_quote_eq_self hp⟩
    | false =>
      -- a quoted text is longer than the text, by its two quotes at least
      have hlen := congrArg (fun s => s.toList.length) (quote_eq_quoted hp)
      rw [h] at hlen
      have hge := length_le_flatMap_quotedChar w.toList
      simp only [String.toList_ofList, List.length_cons, List.length_append] at hlen
      omega
  · rintro ⟨hne, hs⟩
    apply quote_eq_self
    simpa [String.all_bool_eq, List.all_eq_true, hne] using hs

theorem spells_of_quote_eq (h : quote w = w) : Spells w w := by
  simpa only [h] using spells_quote w

/-- **A quoted text reads back as the text**, one word. -/
theorem split_quote (w : String) : split (quote w) = some [w] := by
  have hread := spells_quote w []
  rw [List.append_nil] at hread
  simp [split, hread, Place.finish]

theorem split_of_quote_eq (h : quote w = w) : split w = some [w] := by
  simpa only [h] using split_quote w

theorem readFrom_spells_blank (h : Spells t u) (rest : List Char) :
    readFrom gap (t.toList ++ ' ' :: rest) = (readFrom gap rest).map (u :: ·) := by
  rw [h, readFrom_cons_of_ends (q := gap) (w := u) (by simp [next, isBlank])]

/-- **Words written out, each with a blank after it, then any text**: the words, then the
words of the text. -/
theorem split_words_append (ws : List String) (hws : ∀ w ∈ ws, Spells w w) (x : String) :
    split (String.join (ws.map (· ++ " ")) ++ x) = (split x).map (ws ++ ·) := by
  induction ws with
  | nil => simp
  | cons w ws ih =>
    have hw := hws w List.mem_cons_self
    have hrest := ih fun v hv => hws v (List.mem_cons_of_mem w hv)
    simp only [split, List.map_cons, String.join_cons, String.toList_append,
      List.append_assoc] at hrest ⊢
    have hsp : " ".toList = [' '] := by decide
    rw [hsp, List.singleton_append, readFrom_spells_blank hw, hrest, Option.map_map]
    rfl

end Words

section Lists

variable {c : Char} {p q : Place} {cs : List Char}

@[simp] theorem readListFrom_nil (p : Place) :
    readListFrom p [] = p.finish.map fun ws => [ws] := rfl

theorem readListFrom_cons_of_next (h : p.next c = some (q, none)) :
    readListFrom p (c :: cs) = readListFrom q cs := by
  rw [readListFrom.eq_def]
  simp only [h]

theorem readListFrom_cons_of_ends {w : String} (h : p.next c = some (q, some w)) :
    readListFrom p (c :: cs) =
      (readListFrom q cs).map fun cmds => (w :: cmds.headD []) :: cmds.tail := by
  rw [readListFrom.eq_def]
  simp only [h]

theorem readListFrom_gap_and (rest : List Char) :
    readListFrom gap ('&' :: '&' :: rest) = (readListFrom gap rest).map ([] :: ·) := by
  have hnext : gap.next '&' = none := by decide
  rw [readListFrom.eq_def]
  simp only [hnext, Place.finish]

theorem readListFrom_bare_safe {s : List Char} (hs : ∀ c ∈ s, isSafe c = true)
    (w rest : List Char) :
    readListFrom (bare w) (s ++ rest) = readListFrom (bare (w ++ s)) rest := by
  induction s generalizing w with
  | nil => simp
  | cons c s ih =>
    rw [List.cons_append, readListFrom_cons_of_next (next_bare_safe (hs c (by simp)) w),
      ih (fun d hd => hs d (by simp [hd]))]
    simp

theorem readListFrom_plain_blank {w : String} (h : quote w = w) (rest : List Char) :
    readListFrom gap (w.toList ++ ' ' :: rest) =
      (readListFrom gap rest).map fun cmds => (w :: cmds.headD []) :: cmds.tail := by
  obtain ⟨hne, hs⟩ := quote_eq_self_iff.1 h
  obtain ⟨c, cs, hcs⟩ : ∃ c cs, w.toList = c :: cs :=
    List.exists_cons_of_ne_nil fun hl => hne (String.toList_eq_nil_iff.1 hl)
  have hc : isSafe c = true := hs c (by simp [hcs])
  rw [hcs, List.cons_append, readListFrom_cons_of_next (next_gap_safe hc),
    readListFrom_bare_safe (fun d hd => hs d (by simp [hcs, hd])),
    readListFrom_cons_of_ends (q := gap) (w := w) (by simp [next, isBlank, ← hcs])]

theorem readListFrom_ne_nil (p : Place) (cs : List Char) : readListFrom p cs ≠ some [] := by
  induction cs generalizing p with
  | nil => cases p.finish <;> simp
  | cons c cs ih =>
    rw [readListFrom.eq_def]
    dsimp only
    -- a word read on, a word ended, or the operator `&&`: each adds to a command
    split
    · exact ih _
    · simp
    · split <;> simp

theorem readListFrom_gap_blank (rest : List Char) :
    readListFrom gap (' ' :: rest) = readListFrom gap rest :=
  readListFrom_cons_of_next (by decide)

/-- **Plain words, each with a blank after it, start the command read after them.** -/
theorem readListFrom_words (ws : List String) (hws : ∀ w ∈ ws, quote w = w) (rest : List Char) :
    readListFrom gap ((String.join (ws.map (· ++ " "))).toList ++ rest) =
      (readListFrom gap rest).map fun cmds => (ws ++ cmds.headD []) :: cmds.tail := by
  induction ws with
  | nil =>
    -- the command read after nothing is the command read
    cases hr : readListFrom gap rest with
    | none => simp [hr]
    | some cmds =>
      cases cmds with
      | nil => exact absurd hr (readListFrom_ne_nil gap rest)
      | cons first more => simp [hr]
  | cons w ws ih =>
    have hrest := ih fun v hv => hws v (List.mem_cons_of_mem w hv)
    simp only [List.map_cons, String.join_cons, String.toList_append, List.append_assoc]
    have hsp : " ".toList = [' '] := by decide
    rw [hsp, List.singleton_append, readListFrom_plain_blank (hws w List.mem_cons_self), hrest,
      Option.map_map]
    rfl

theorem readListFrom_plain_end {v : String} (hv : quote v = v) :
    readListFrom gap v.toList = some [[v]] := by
  obtain ⟨hne, hs⟩ := quote_eq_self_iff.1 hv
  obtain ⟨c, cs, hcs⟩ : ∃ c cs, v.toList = c :: cs :=
    List.exists_cons_of_ne_nil fun hl => hne (String.toList_eq_nil_iff.1 hl)
  have hc : isSafe c = true := hs c (by simp [hcs])
  have hword := readListFrom_bare_safe (s := cs) (fun d hd => hs d (by simp [hcs, hd])) [c] []
  rw [hcs, readListFrom_cons_of_next (next_gap_safe hc), ← List.append_nil cs, hword]
  simp [Place.finish, ← hcs]

end Lists

theorem plain_of_all {ws : List String}
    (h : ws.all (fun w => w != "" && w.toList.all isSafe) = true) : ∀ w ∈ ws, quote w = w := by
  intro w hw
  have hw' := List.all_eq_true.1 h w hw
  simp only [Bool.and_eq_true, bne_iff_ne, ne_eq, List.all_eq_true] at hw'
  exact quote_eq_self_iff.2 hw'

theorem quote_joinPath {dir name : String} (hd : quote dir = dir) (hn : quote name = name)
    (hslash : name.startsWith "/" = false) : quote (joinPath dir name) = joinPath dir name := by
  obtain ⟨hdne, hds⟩ := quote_eq_self_iff.1 hd
  obtain ⟨-, hns⟩ := quote_eq_self_iff.1 hn
  have hempty : dir.isEmpty = false := by simpa [String.isEmpty_iff] using hdne
  have hslash' : isSafe '/' = true := by decide
  apply quote_eq_self_iff.2
  unfold joinPath
  simp only [hslash, hempty, Bool.false_eq_true, if_false, Bool.false_or]
  -- the parts are joined with a slash unless the directory ends in one
  split
  · refine ⟨fun h => hdne (String.append_eq_empty_iff.1 h).1, fun c hc => ?_⟩
    simp only [String.toList_append, List.mem_append] at hc
    exact hc.elim (hds c) (hns c)
  · refine ⟨fun h => hdne (String.append_eq_empty_iff.1 (String.append_eq_empty_iff.1 h).1).1,
      fun c hc => ?_⟩
    simp only [String.toList_append, List.mem_append] at hc
    rcases hc with (hc | hc) | hc
    · exact hds c hc
    · have hsl : "/".toList = ['/'] := by decide
      rw [hsl, List.mem_singleton] at hc
      exact hc ▸ hslash'
    · exact hns c hc

end ShellWord

namespace Settings

open ShellWord

variable (s : Settings)

theorem cleanupCommand_line : s.cleanupCommand.line = "rm -rf " ++ s.remoteDir := rfl

theorem chmodCommand_line : s.chmodCommand.line = "chmod +x " ++ s.installerPath := rfl

theorem mkdirCommand_line : s.mkdirCommand.line = "sudo mkdir -m 755 -p " ++ s.configDir := rfl

theorem moveCommand_line : s.moveCommand.line =
    "sudo chown root:root " ++ s.stagedConfig ++ " && sudo chmod 644 " ++ s.stagedConfig ++
      " && sudo mv " ++ s.stagedConfig ++ " " ++ s.systemConfig := rfl

theorem split_fixed_path (ws : List String)
    (hws : ws.all (fun w => w != "" && w.toList.all isSafe) = true) (path : String) :
    split (String.join (ws.map (· ++ " ")) ++ path) = (split path).map (ws ++ ·) :=
  split_words_append ws (fun w hw => spells_of_quote_eq (plain_of_all hws w hw)) path

theorem split_cleanup :
    split s.cleanupCommand.line = (split s.remoteDir).map (["rm", "-rf"] ++ ·) := by
  rw [cleanupCommand_line, show "rm -rf " = String.join (["rm", "-rf"].map (· ++ " ")) by decide]
  exact split_fixed_path _ (by decide) _

theorem split_chmod :
    split s.chmodCommand.line = (split s.installerPath).map (["chmod", "+x"] ++ ·) := by
  rw [chmodCommand_line, show "chmod +x " = String.join (["chmod", "+x"].map (· ++ " ")) by decide]
  exact split_fixed_path _ (by decide) _

theorem split_mkdir : split s.mkdirCommand.line =
    (split s.configDir).map (["sudo", "mkdir", "-m", "755", "-p"] ++ ·) := by
  rw [mkdirCommand_line, show "sudo mkdir -m 755 -p " =
    String.join (["sudo", "mkdir", "-m", "755", "-p"].map (· ++ " ")) by decide]
  exact split_fixed_path _ (by decide) _

theorem installEnvironment_names (v exec : String) (join : Option (String × String)) :
    ∀ kv ∈ installEnvironment v exec join, isName kv.1 = true := by
  intro kv hkv
  have hmem : kv.1 ∈ ["INSTALL_K3S_FORCE_RESTART", "INSTALL_K3S_EXEC", "INSTALL_K3S_CHANNEL",
      "K3S_URL", "K3S_TOKEN"] := by
    cases join with
    | none =>
      simp only [installEnvironment, List.cons_append, List.nil_append, List.mem_cons,
        List.not_mem_nil, or_false] at hkv
      rcases hkv with rfl | rfl | rfl <;> simp
    | some uj =>
      simp only [installEnvironment, List.cons_append, List.nil_append, List.mem_cons,
        List.not_mem_nil, or_false] at hkv
      rcases hkv with rfl | rfl | rfl | rfl | rfl <;> simp
  exact List.all_eq_true.1 (show ["INSTALL_K3S_FORCE_RESTART", "INSTALL_K3S_EXEC",
    "INSTALL_K3S_CHANNEL", "K3S_URL", "K3S_TOKEN"].all isName = true by decide) _ hmem

/-- **The installer is run through `sh -c` with its path as the one word after `-c`**, which
that shell then reads as a command line of its own. -/
theorem split_install (v exec : String) (join : Option (String × String)) :
    ∃ pre, split (⟨s.installerPath, installEnvironment v exec join, false⟩ : Command).line =
      some (pre ++ ["sh", "-c", s.installerPath]) := by
  have hne : installEnvironment v exec join ≠ [] := by simp [installEnvironment]
  exact ⟨_, Command.split_line hne (installEnvironment_names v exec join)⟩

/-- **A file is read with its path quoted**, so the path is one word, whatever it holds. -/
theorem split_read (path : String) :
    split (Session.readCommand path).line = some ["sudo", "cat", path] := by
  have hline : (Session.readCommand path).line =
      String.join (["sudo", "cat"].map (· ++ " ")) ++ quote path := rfl
  rw [hline, split_fixed_path _ (by decide), split_quote]
  rfl

theorem splitList_move (hS : quote s.stagedConfig = s.stagedConfig)
    (hT : quote s.systemConfig = s.systemConfig) :
    splitList s.moveCommand.line = some [["sudo", "chown", "root:root", s.stagedConfig],
      ["sudo", "chmod", "644", s.stagedConfig],
      ["sudo", "mv", s.stagedConfig, s.systemConfig]] := by
  have h1 : "sudo chown root:root ".toList =
      (String.join (["sudo", "chown", "root:root"].map (· ++ " "))).toList := by decide
  have h2 : " && sudo chmod 644 ".toList =
      ' ' :: '&' :: '&' :: ' ' ::
        (String.join (["sudo", "chmod", "644"].map (· ++ " "))).toList := by
    decide
  have h3 : " && sudo mv ".toList =
      ' ' :: '&' :: '&' :: ' ' :: (String.join (["sudo", "mv"].map (· ++ " "))).toList := by decide
  have h4 : " ".toList = [' '] := by decide
  unfold splitList
  rw [moveCommand_line]
  simp only [String.toList_append, List.append_assoc, h1, h2, h3, h4, List.cons_append]
  rw [readListFrom_words _ (plain_of_all (by decide)), readListFrom_plain_blank hS,
    readListFrom_gap_and, readListFrom_gap_blank, readListFrom_words _ (plain_of_all (by decide)),
    readListFrom_plain_blank hS, readListFrom_gap_and, readListFrom_gap_blank,
    readListFrom_words _ (plain_of_all (by decide)), readListFrom_plain_blank hS,
    List.nil_append, readListFrom_plain_end hT]
  simp

/-- **Configured paths are written into the remote commands as they are.**  Whatever the
settings:

* a file is read with its path quoted, so the path is one word whatever it holds;
* the cleanup, the `chmod` of the installer and the `mkdir` of the configuration directory are
  read by the shell as their fixed words followed by the words the shell reads in the path;
* the installer is run as the one word after `sh -c`, which that shell reads as a command line;
* so the cleanup removes exactly the scratch directory when, and only when, the shell reads that
  directory back as itself;
* and when both directories are plain words, which quoting leaves as they are, every command
  passes each path as one word: the move of the configuration reads as three commands, and the
  installer's path is one word to the shell that runs it. -/
theorem path_words :
    (∀ path, split (Session.readCommand path).line = some ["sudo", "cat", path]) ∧
    split s.cleanupCommand.line = (split s.remoteDir).map (["rm", "-rf"] ++ ·) ∧
    split s.chmodCommand.line = (split s.installerPath).map (["chmod", "+x"] ++ ·) ∧
    split s.mkdirCommand.line =
      (split s.configDir).map (["sudo", "mkdir", "-m", "755", "-p"] ++ ·) ∧
    (∀ v exec join, ∃ pre,
      split (⟨s.installerPath, installEnvironment v exec join, false⟩ : Command).line =
        some (pre ++ ["sh", "-c", s.installerPath])) ∧
    (split s.cleanupCommand.line = some ["rm", "-rf", s.remoteDir] ↔
      split s.remoteDir = some [s.remoteDir]) ∧
    (quote s.remoteDir = s.remoteDir → quote s.configDir = s.configDir →
      split s.cleanupCommand.line = some ["rm", "-rf", s.remoteDir] ∧
      split s.chmodCommand.line = some ["chmod", "+x", s.installerPath] ∧
      split s.mkdirCommand.line = some ["sudo", "mkdir", "-m", "755", "-p", s.configDir] ∧
      splitList s.moveCommand.line = some [["sudo", "chown", "root:root", s.stagedConfig],
        ["sudo", "chmod", "644", s.stagedConfig],
        ["sudo", "mv", s.stagedConfig, s.systemConfig]] ∧
      split s.installerPath = some [s.installerPath]) := by
  have hcleanup : split s.cleanupCommand.line = some ["rm", "-rf", s.remoteDir] ↔
      split s.remoteDir = some [s.remoteDir] := by
    rw [split_cleanup]
    cases split s.remoteDir <;> simp
  refine ⟨split_read, split_cleanup s, split_chmod s, split_mkdir s, split_install s, hcleanup,
    fun hr hc => ?_⟩
  -- the paths joined from plain directories are plain too
  have hnames : ∀ w ∈ ["install.sh", "config.yaml"], quote w = w := plain_of_all (by decide)
  have hinstaller : quote s.installerPath = s.installerPath :=
    quote_joinPath hr (hnames _ (by simp)) (by simp)
  have hstaged : quote s.stagedConfig = s.stagedConfig :=
    quote_joinPath hr (hnames _ (by simp)) (by simp)
  have hsystem : quote s.systemConfig = s.systemConfig :=
    quote_joinPath hc (hnames _ (by simp)) (by simp)
  refine ⟨hcleanup.2 (split_of_quote_eq hr), ?_, ?_, splitList_move s hstaged hsystem,
    split_of_quote_eq hinstaller⟩
  · rw [split_chmod, split_of_quote_eq hinstaller]
    rfl
  · rw [split_mkdir, split_of_quote_eq hc]
    rfl

/-- The default settings: both directories are plain words, so each path is one word. -/
theorem default_path_words :
    quote default.remoteDir = default.remoteDir ∧ quote default.configDir = default.configDir ∧
      splitList default.moveCommand.line = some [
        ["sudo", "chown", "root:root", "/tmp/k3se/config.yaml"],
        ["sudo", "chmod", "644", "/tmp/k3se/config.yaml"],
        ["sudo", "mv", "/tmp/k3se/config.yaml", "/etc/rancher/k3s/config.yaml"]] := by
  have hr : quote default.remoteDir = default.remoteDir :=
    quote_eq_self_iff.2 ⟨by decide, List.all_eq_true.1 (by decide)⟩
  have hc : quote default.configDir = default.configDir :=
    quote_eq_self_iff.2 ⟨by decide, List.all_eq_true.1 (by decide)⟩
  have hstaged : default.stagedConfig = "/tmp/k3se/config.yaml" := by decide +kernel
  have hsystem : default.systemConfig = "/etc/rancher/k3s/config.yaml" := by decide +kernel
  have hmove := ((path_words default).2.2.2.2.2.2 hr hc).2.2.2.1
  rw [hstaged, hsystem] at hmove
  exact ⟨hr, hc, hmove⟩

/-- A scratch directory with a blank in it: the cleanup removes `/tmp/a` and `b`, not the
directory `/tmp/a b`. -/
theorem cleanup_splits_blank_dir :
    split { default with remoteDir := "/tmp/a b" }.cleanupCommand.line =
      some ["rm", "-rf", "/tmp/a", "b"] := by
  decide

end Settings

end ClusterDeploy
