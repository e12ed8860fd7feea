import ClusterDeploy.Deploy.InstallerCache
import Mathlib.Data.List.Nodup
import Mathlib.Data.List.Perm.Basic
import Mathlib.Data.List.Perm.Subperm

/-!
# Fetching the installer from many callers at once

Every schedule of the callers of one round of fetches (`InstallerCache.run`) is sound
(`InstallerCache.Sound`): the queue holds the waiting callers, the lock is held exactly while a
download runs, the caller of the last download runs it or ended with its answer, every earlier
download failed, and the installer kept is the last download's answer once it ended well.  From
that:

* `Sound.downloading_unique`  two downloads never run at once;
* `run_settled`               once a download gave the installer, no caller downloads again;
* `Sound.exists_finished`     every round can end: some schedule brings every caller to return
                              or fail;
* `Sound.length_downloads`,
  `Sound.length_failures`     where the first `refused` downloads fail, a round of `n` callers
                              that ended made `min n (refused + 1)` downloads and `min n refused`
                              of its callers failed;
* `Sound.failed_own`,
  `Sound.returned`            each caller that failed failed with its own download's answer, and
                              every other returned the installer of the first good download.
-/

namespace ClusterDeploy

namespace InstallerCache

/-! ### The moves of a caller -/

/-- The moves a caller can make: come to a free lock nobody waits for and take it, come to a
held or awaited lock and queue for it, take the lock first in the queue once it is free, or end
its download with the download's answer. -/
inductive Move (answer : Nat → Except Failure String) :
    InstallerCache → Nat → InstallerCache → Prop
  | take {c : InstallerCache} {i : Nat} : c.callers[i]? = some .idle → c.locked = false →
      c.queue = [] → Move answer c i (c.enter i)
  | wait {c : InstallerCache} {i : Nat} : c.callers[i]? = some .idle →
      (c.locked = true ∨ c.queue ≠ []) →
      Move answer c i { c with queue := c.queue ++ [i], callers := c.callers.set i .queued }
  | wake {c : InstallerCache} {i : Nat} {rest : List Nat} : c.callers[i]? = some .queued →
      c.locked = false → c.queue = i :: rest → Move answer c i ({ c with queue := rest }.enter i)
  | land {c : InstallerCache} {i n : Nat} : c.callers[i]? = some (.downloading n) →
      Move answer c i (c.finish i (answer n))

variable {answer : Nat → Except Failure String} {c c' : InstallerCache} {i : Nat}

theorem move_of_step (h : c.step answer i = some c') : Move answer c i c' := by
  unfold step at h
  cases hi : c.callers[i]? with
  | none => simp [hi] at h
  | some f =>
    rw [hi] at h
    cases f with
    | idle =>
      dsimp only at h
      by_cases hfree : c.locked = false ∧ c.queue = []
      · rw [if_pos (by simp [hfree])] at h
        cases h
        exact .take hi hfree.1 hfree.2
      · rw [if_neg (by simpa [not_and_or] using hfree)] at h
        cases h
        refine .wait hi ?_
        cases hl : c.locked
        · exact .inr fun hq => hfree ⟨hl, hq⟩
        · exact .inl rfl
    | queued =>
      dsimp only at h
      cases hq : c.queue with
      | nil => simp [hq] at h
      | cons j rest =>
        rw [hq] at h
        dsimp only at h
        split at h
        · rename_i hc
          simp only [Bool.and_eq_true, Bool.not_eq_eq_eq_not, Bool.not_true, beq_iff_eq] at hc
          obtain ⟨hl, rfl⟩ := hc
          cases h
          exact .wake hi hl hq
        · cases h
    | downloading n =>
      cases h
      exact .land hi
    | done r => cases h

theorem step_of_move (h : Move answer c i c') : c.step answer i = some c' := by
  cases h with
  | take hi hl hq => simp [step, hi, hl, hq]
  | wait hi hb =>
    have hbusy : (!c.locked && c.queue.isEmpty) = false := by
      rcases hb with hl | hq
      · simp [hl]
      · simp [hq]
    simp [step, hi, hbusy]
  | wake hi hl hq => simp [step, hi, hl, hq]
  | land hi => simp [step, hi]

theorem enter_of_some {s : String} (hs : c.script = some s) :
    c.enter i = { c with callers := c.callers.set i (.done (.ok s)) } := by
  simp [enter, hs]

theorem enter_of_none (hs : c.script = none) :
    c.enter i = { c with
      locked := true
      downloads := c.downloads ++ [i]
      callers := c.callers.set i (.downloading (c.downloads.length + 1)) } := by
  simp [enter, hs]

@[simp] theorem length_enter : (c.enter i).callers.length = c.callers.length := by
  cases hs : c.script with
  | some s => simp [enter_of_some hs]
  | none => simp [enter_of_none hs]

theorem enter_set (f : Fetcher) :
    ({ c with callers := c.callers.set i f } : InstallerCache).enter i = c.enter i := by
  cases hs : c.script <;> simp [enter, hs]

@[simp] theorem length_finish (r : Except Failure String) :
    (c.finish i r).callers.length = c.callers.length := by
  simp [finish]

theorem length_move (h : Move answer c i c') : c'.callers.length = c.callers.length := by
  cases h <;> simp

theorem getElem?_of_set {l : List Fetcher} {g f : Fetcher} (hgf : g ≠ f) {j : Nat}
    (hj : (l.set i g)[j]? = some f) : i ≠ j ∧ l[j]? = some f := by
  by_cases hij : i = j
  · subst hij
    simp [List.getElem?_set, hgf] at hj
  · exact ⟨hij, by simpa [List.getElem?_set_ne hij] using hj⟩

/-! ### What holds at every point of a round -/

/-- What holds of the cache at every point of a round of fetches, for downloads that answer as
`answer` says. -/
structure Sound (answer : Nat → Except Failure String) (c : InstallerCache) : Prop where
  /-- the queue holds the waiting callers, each once -/
  queue_nodup : c.queue.Nodup
  mem_queue : ∀ j : Nat, j ∈ c.queue ↔ c.callers[j]? = some .queued
  /-- no caller downloads twice, and only callers download -/
  downloads_nodup : c.downloads.Nodup
  downloads_lt : ∀ j ∈ c.downloads, j < c.callers.length
  /-- a caller downloading runs the last download -/
  downloading : ∀ j n : Nat, c.callers[j]? = some (.downloading n) →
    n = c.downloads.length ∧ c.downloads.getLast? = some j
  /-- the lock is held exactly while a download runs -/
  locked : c.locked = true ↔ ∃ j : Nat, c.callers[j]? = some (.downloading c.downloads.length)
  /-- the caller of each download runs it, or ended with its answer -/
  downloader : ∀ k j : Nat, c.downloads[k]? = some j →
    c.callers[j]? = some (.downloading (k + 1)) ∨ c.callers[j]? = some (.done (answer (k + 1)))
  /-- every download but the last failed -/
  failed : ∀ k : Nat, k + 1 < c.downloads.length → (answer (k + 1)).toOption = none
  /-- the installer kept is the answer of the last download, once it ended well -/
  script : c.script =
    if c.locked = false ∧ c.downloads ≠ [] then (answer c.downloads.length).toOption else none
  /-- a caller that downloaded nothing waits, or returned the installer kept -/
  others : ∀ (j : Nat) (f : Fetcher), c.callers[j]? = some f → j ∉ c.downloads →
    f = .idle ∨ f = .queued ∨ ∃ s, c.script = some s ∧ f = .done (.ok s)

section Sound

variable (h : Sound answer c)
include h

theorem Sound.not_mem_downloads {f : Fetcher} (hi : c.callers[i]? = some f)
    (hf : f = .idle ∨ f = .queued) : i ∉ c.downloads := by
  intro hm
  obtain ⟨k, hk⟩ := List.mem_iff_getElem?.1 hm
  rcases h.downloader k i hk with hd | hd <;> rw [hd] at hi <;> rcases hf with rfl | rfl <;>
    cases hi

theorem Sound.not_downloading (hl : c.locked = false) {n : Nat} :
    c.callers[i]? ≠ some (.downloading n) := by
  intro hi
  have hn := (h.downloading i n hi).1
  subst hn
  exact Bool.false_ne_true (hl ▸ h.locked.2 ⟨i, hi⟩)

theorem Sound.not_mem_queue {f : Fetcher} (hi : c.callers[i]? = some f) (hf : f ≠ .queued) :
    i ∉ c.queue := fun hm => hf (Option.some.inj (hi.symm.trans ((h.mem_queue i).1 hm)))

theorem Sound.mem_queue_set {f g : Fetcher} (hi : c.callers[i]? = some f) (hf : f ≠ .queued)
    (hg : g ≠ .queued) (j : Nat) : j ∈ c.queue ↔ (c.callers.set i g)[j]? = some .queued := by
  by_cases hij : i = j
  · subst hij
    simp [List.getElem?_set_self (List.getElem?_eq_some_iff.1 hi).1, h.not_mem_queue hi hf, hg]
  · simp [List.getElem?_set_ne hij, h.mem_queue j]

theorem Sound.downloading_unique {j n m : Nat} (hi : c.callers[i]? = some (.downloading n))
    (hj : c.callers[j]? = some (.downloading m)) : i = j :=
  Option.some.inj ((h.downloading i n hi).2.symm.trans (h.downloading j m hj).2)

theorem Sound.index_of_last {k : Nat} (hk : c.downloads[k]? = some i)
    (hlast : c.downloads.getLast? = some i) : k + 1 = c.downloads.length := by
  rw [List.getLast?_eq_getElem?] at hlast
  obtain ⟨hlt, hk'⟩ := List.getElem?_eq_some_iff.1 hk
  obtain ⟨hlt', hl'⟩ := List.getElem?_eq_some_iff.1 hlast
  have heq := h.downloads_nodup.getElem_inj_iff.1 (hk'.trans hl'.symm)
  omega

theorem Sound.enter (hi : c.callers[i]? = some .idle) (hl : c.locked = false) :
    Sound answer (c.enter i) := by
  have hlt : i < c.callers.length := (List.getElem?_eq_some_iff.1 hi).1
  have hnd := h.not_mem_downloads hi (.inl rfl)
  cases hs : c.script with
  | some s =>
    -- the installer kept is returned, and the lock let go at once
    rw [enter_of_some hs]
    refine ⟨h.queue_nodup, h.mem_queue_set hi (by simp) (by simp), h.downloads_nodup,
      fun j hj => ?_, fun j n hj => h.downloading j n (getElem?_of_set (by simp) hj).2, ?_,
      fun k j hk => ?_, h.failed, hs ▸ h.script, fun j f hj hjd => ?_⟩
    · simpa using h.downloads_lt j hj
    · simp only [hl, Bool.false_eq_true, false_iff, not_exists]
      exact fun j hj => h.not_downloading hl (getElem?_of_set (by simp) hj).2
    · have hij : i ≠ j := fun hij => hnd (hij ▸ List.mem_of_getElem? hk)
      simpa [List.getElem?_set_ne hij] using h.downloader k j hk
    · by_cases hij : i = j
      · subst hij
        simp only [List.getElem?_set_self hlt, Option.some.injEq] at hj
        exact .inr (.inr ⟨s, hs, hj.symm⟩)
      · simpa [hs] using h.others j f (by simpa [List.getElem?_set_ne hij] using hj) hjd
  | none =>
    -- the next download starts, and the lock is held while it runs
    rw [enter_of_none hs]
    have hfresh : ∀ j : Nat, c.callers[j]? ≠ some (.downloading c.downloads.length) :=
      fun j => h.not_downloading hl
    refine ⟨h.queue_nodup, h.mem_queue_set hi (by simp) (by simp), ?_, fun j hj => ?_,
      fun j n hj => ?_, ?_, fun k j hk => ?_, fun k hk => ?_, by simp [hs], fun j f hj hjd => ?_⟩
    · exact h.downloads_nodup.append (List.nodup_singleton i) (by simpa using hnd)
    · rcases List.mem_append.1 hj with hj | hj
      · simpa using h.downloads_lt j hj
      · simp only [List.mem_singleton] at hj
        simpa [hj] using hlt
    · by_cases hij : i = j
      · subst hij
        simp only [List.getElem?_set_self hlt, Option.some.injEq, Fetcher.downloading.injEq] at hj
        simp [hj]
      · have := h.downloading j n (by simpa [List.getElem?_set_ne hij] using hj)
        exact absurd (this.1 ▸ (by simpa [List.getElem?_set_ne hij] using hj)) (hfresh j)
    · simp only [List.length_append, List.length_singleton, true_iff]
      exact ⟨i, List.getElem?_set_self hlt⟩
    · by_cases hk' : k < c.downloads.length
      · rw [List.getElem?_append_left hk'] at hk
        have hij : i ≠ j := fun hij => hnd (hij ▸ List.mem_of_getElem? hk)
        simpa [List.getElem?_set_ne hij] using h.downloader k j hk
      · rw [List.getElem?_append_right (by omega)] at hk
        have hkl : k = c.downloads.length := by
          have := (List.getElem?_eq_some_iff.1 hk).1
          simp at this
          omega
        subst hkl
        simp only [Nat.sub_self, List.getElem?_cons_zero, Option.some.injEq] at hk
        subst hk
        simp [List.getElem?_set_self hlt]
    · simp only [List.length_append, List.length_singleton] at hk
      by_cases hk' : k + 1 < c.downloads.length
      · exact h.failed k hk'
      · -- the download before this one ended, and kept nothing: it failed
        have hkl : k + 1 = c.downloads.length := by omega
        have hscript := h.script
        rw [hs, if_pos ⟨hl, fun hnil => by simp [hnil] at hkl⟩, ← hkl] at hscript
        exact hscript.symm
    · have hij : i ≠ j := fun hij => hjd (by simp [hij])
      have := h.others j f (by simpa [List.getElem?_set_ne hij] using hj)
        (fun hm => hjd (List.mem_append_left _ hm))
      simpa [hs] using this

theorem Sound.requeue {f f' : Fetcher} (hi : c.callers[i]? = some f)
    (hf : f = .idle ∨ f = .queued) (hf' : f' = .idle ∨ f' = .queued) {q : List Nat}
    (hq : q.Nodup) (hmem : ∀ j : Nat, j ∈ q ↔ (c.callers.set i f')[j]? = some .queued) :
    Sound answer { c with queue := q, callers := c.callers.set i f' } := by
  have hlt : i < c.callers.length := (List.getElem?_eq_some_iff.1 hi).1
  have hnd := h.not_mem_downloads hi hf
  -- the caller moved is no downloader, so every other fact is about the callers left alone
  have hkeep : ∀ (j : Nat) (g : Fetcher), (g ≠ .idle ∧ g ≠ .queued) →
      ((c.callers.set i f')[j]? = some g ↔ c.callers[j]? = some g) := by
    intro j g hg
    by_cases hij : i = j
    · subst hij
      rw [List.getElem?_set_self hlt, hi, Option.some.injEq, Option.some.injEq]
      constructor
      · rintro rfl
        rcases hf' with rfl | rfl <;> simp at hg
      · rintro rfl
        rcases hf with rfl | rfl <;> simp at hg
    · rw [List.getElem?_set_ne hij]
  refine ⟨hq, hmem, h.downloads_nodup, fun j hj => by simpa using h.downloads_lt j hj,
    fun j n hj => h.downloading j n ((hkeep j _ (by simp)).1 hj), ?_, fun k j hk => ?_,
    h.failed, h.script, fun j g hj hjd => ?_⟩
  · simp only [hkeep _ _ (by simp : Fetcher.downloading c.downloads.length ≠ .idle ∧ _)]
    exact h.locked
  · simpa [hkeep j _ (by simp : Fetcher.downloading (k + 1) ≠ .idle ∧ _),
      hkeep j _ (by simp : Fetcher.done (answer (k + 1)) ≠ .idle ∧ _)] using h.downloader k j hk
  · by_cases hij : i = j
    · subst hij
      rw [List.getElem?_set_self hlt, Option.some.injEq] at hj
      subst hj
      rcases hf' with rfl | rfl
      · exact .inl rfl
      · exact .inr (.inl rfl)
    · exact h.others j g (by simpa [List.getElem?_set_ne hij] using hj) hjd

theorem Sound.land {n : Nat} (hi : c.callers[i]? = some (.downloading n)) :
    Sound answer (c.finish i (answer n)) := by
  have hlt : i < c.callers.length := (List.getElem?_eq_some_iff.1 hi).1
  obtain ⟨rfl, hlast⟩ := h.downloading i n hi
  have hlocked : c.locked = true := h.locked.2 ⟨i, hi⟩
  have hnone : c.script = none := by simp [h.script, hlocked]
  have hne : c.downloads ≠ [] := fun hnil => by simp [hnil] at hlast
  -- no other caller downloads
  have halone : ∀ j m, i ≠ j → c.callers[j]? ≠ some (.downloading m) :=
    fun j m hij hj => hij (h.downloading_unique hi hj)
  refine ⟨h.queue_nodup, h.mem_queue_set hi (by simp) (by simp), h.downloads_nodup,
    fun j hj => ?_, fun j m hj => ?_, ?_, fun k j hk => ?_, h.failed, ?_, fun j g hj hjd => ?_⟩
  · simpa [finish] using h.downloads_lt j hj
  · obtain ⟨hij, hj⟩ := getElem?_of_set (by simp) hj
    exact absurd hj (halone j m hij)
  · simp only [finish, Bool.false_eq_true, false_iff, not_exists]
    intro j hj
    obtain ⟨hij, hj⟩ := getElem?_of_set (by simp) hj
    exact halone j _ hij hj
  · by_cases hij : i = j
    · subst hij
      have hk1 := h.index_of_last hk hlast
      simp [finish, List.getElem?_set_self hlt, hk1]
    · simpa [finish, List.getElem?_set_ne hij] using h.downloader k j hk
  · have hcond : (c.finish i (answer c.downloads.length)).locked = false ∧
        (c.finish i (answer c.downloads.length)).downloads ≠ [] := ⟨rfl, hne⟩
    rw [if_pos hcond]
    simp only [finish]
    cases answer c.downloads.length <;> simp [hnone, Except.toOption]
  · by_cases hij : i = j
    · subst hij
      exact absurd (List.mem_of_getLast? hlast) hjd
    · rcases h.others j g (by simpa [finish, List.getElem?_set_ne hij] using hj) hjd with
        hg | hg | ⟨s, hs, -⟩
      · exact .inl hg
      · exact .inr (.inl hg)
      · simp [hnone] at hs

/-- **Every move keeps the cache sound.** -/
theorem Sound.move (hm : Move answer c i c') : Sound answer c' := by
  cases hm with
  | take hi hl _ => exact h.enter hi hl
  | wait hi _ =>
    have hlt : i < c.callers.length := (List.getElem?_eq_some_iff.1 hi).1
    have hnq := h.not_mem_queue hi (by simp)
    refine h.requeue hi (.inl rfl) (.inr rfl) (h.queue_nodup.append (List.nodup_singleton i)
      (by simpa using hnq)) fun j => ?_
    by_cases hij : i = j
    · subst hij
      simp [List.getElem?_set_self hlt]
    · simp [List.getElem?_set_ne hij, h.mem_queue j, Ne.symm hij]
  | wake hi hl hq =>
    -- leaving the queue first, the caller takes the lock as if it had just come
    have hlt : i < c.callers.length := (List.getElem?_eq_some_iff.1 hi).1
    have hnd : (i :: _).Nodup := hq ▸ h.queue_nodup
    have hd := h.requeue hi (.inr rfl) (.inl rfl) (List.nodup_cons.1 hnd).2 fun j => by
      by_cases hij : i = j
      · subst hij
        simp [List.getElem?_set_self hlt, (List.nodup_cons.1 hnd).1]
      · have := h.mem_queue j
        rw [hq] at this
        simp [List.getElem?_set_ne hij, ← this, Ne.symm hij]
    have he := hd.enter (List.getElem?_set_self hlt) hl
    convert he using 1
    exact (enter_set (c := { c with queue := _ }) .idle).symm
  | land hi => exact h.land hi

end Sound

theorem sound_start (n : Nat) : Sound answer (start n) := by
  refine ⟨List.nodup_nil, fun j => ?_, List.nodup_nil, fun j hj => ?_, fun j m hj => ?_, ?_,
    fun k j hk => ?_, fun k hk => ?_, rfl, fun j f hj _ => ?_⟩
  · simp [start, List.getElem?_replicate]
  · cases hj
  · simp [start, List.getElem?_replicate] at hj
  · simp [start, List.getElem?_replicate]
  · simp [start] at hk
  · simp [start] at hk
  · simp only [start, List.getElem?_replicate] at hj
    split at hj
    · cases hj
      exact .inl rfl
    · cases hj

theorem run_induction (P : InstallerCache → Prop)
    (hmove : ∀ c i c', P c → Move answer c i c' → P c') (picks : List Nat) (hc : P c) :
    P (c.run answer picks) := by
  induction picks generalizing c with
  | nil => exact hc
  | cons i picks ih =>
    apply ih
    cases hs : c.step answer i with
    | none => exact hc
    | some c' => exact hmove c i c' hc (move_of_step hs)

theorem run_append (picks more : List Nat) :
    c.run answer (picks ++ more) = (c.run answer picks).run answer more := by
  induction picks generalizing c with
  | nil => rfl
  | cons i picks ih => exact ih

/-- **Every round is sound**, under every schedule. -/
theorem sound_run (n : Nat) (picks : List Nat) : Sound answer ((start n).run answer picks) :=
  run_induction (Sound answer) (fun _ _ _ h hm => h.move hm) picks (sound_start n)

theorem length_run (picks : List Nat) : (c.run answer picks).callers.length = c.callers.length :=
  run_induction (fun c' => c'.callers.length = c.callers.length)
    (fun _ _ _ hl hm => (length_move hm).trans hl) picks rfl

/-! ### Once the installer is kept -/

theorem Move.settled (hm : Move answer c i c') (hs : c.script.isSome) :
    c'.script.isSome ∧ c'.downloads = c.downloads := by
  obtain ⟨s, hs⟩ := Option.isSome_iff_exists.1 hs
  cases hm with
  | take _ _ _ => simp [enter, hs]
  | wait _ _ => simp [hs]
  | wake _ _ _ => simp [enter, hs]
  | land _ =>
    simp only [finish, and_true]
    split <;> simp only [Option.isSome_some, hs]

/-- **No download after the first good one**: whatever the callers do once a download gave the
installer, the downloads stay as they were. -/
theorem run_settled (picks : List Nat) (hs : c.script.isSome) :
    (c.run answer picks).script.isSome ∧ (c.run answer picks).downloads = c.downloads :=
  run_induction (fun c' => c'.script.isSome ∧ c'.downloads = c.downloads)
    (fun _ _ _ hc hm => ⟨(hm.settled hc.1).1, (hm.settled hc.1).2.trans hc.2⟩) picks ⟨hs, rfl⟩

end InstallerCache

/-- How many moves a caller has still to make at most: to the lock, out of the queue, and out
of its download. -/
def Fetcher.weight : Fetcher → Nat
  | .idle => 3
  | .queued => 2
  | .downloading _ => 1
  | .done _ => 0

def Fetcher.pending : List Fetcher → Nat
  | [] => 0
  | f :: fs => f.weight + pending fs

theorem Fetcher.pending_set {l : List Fetcher} {i : Nat} {f : Fetcher} (hi : l[i]? = some f)
    (g : Fetcher) : pending (l.set i g) + f.weight = pending l + g.weight := by
  induction l generalizing i with
  | nil => cases hi
  | cons x xs ih =>
    cases i with
    | zero =>
      simp only [List.getElem?_cons_zero, Option.some.injEq] at hi
      subst hi
      simp only [List.set_cons_zero, pending]
      omega
    | succ k =>
      have := ih (by simpa using hi)
      simp only [List.set_cons_succ, pending]
      omega

namespace InstallerCache

variable {answer : Nat → Except Failure String} {c c' : InstallerCache} {i : Nat}

/-! ### Every round can end -/

def pending (c : InstallerCache) : Nat := Fetcher.pending c.callers

theorem pending_set_lt {f g : Fetcher} (hi : c.callers[i]? = some f) (hw : g.weight < f.weight) :
    Fetcher.pending (c.callers.set i g) < c.pending := by
  have := Fetcher.pending_set hi g
  unfold pending
  omega

theorem callers_enter : ∃ g : Fetcher, g.weight ≤ 1 ∧ (c.enter i).callers = c.callers.set i g := by
  cases hs : c.script with
  | some s => exact ⟨.done (.ok s), by simp [Fetcher.weight], by simp [enter_of_some hs]⟩
  | none =>
    exact ⟨.downloading (c.downloads.length + 1), by simp [Fetcher.weight],
      by simp [enter_of_none hs]⟩

theorem Move.pending_lt (hm : Move answer c i c') : c'.pending < c.pending := by
  cases hm with
  | take hi _ _ =>
    obtain ⟨g, hg, he⟩ := callers_enter (c := c) (i := i)
    rw [pending, he]
    exact pending_set_lt hi (Nat.lt_of_le_of_lt hg (by decide))
  | wait hi _ => exact pending_set_lt hi (by simp [Fetcher.weight])
  | wake hi _ _ =>
    obtain ⟨g, hg, he⟩ := callers_enter (c := { c with queue := _ }) (i := i)
    rw [pending, he]
    exact pending_set_lt hi (Nat.lt_of_le_of_lt hg (by decide))
  | land hi => exact pending_set_lt hi (by simp [Fetcher.weight])

/-- **Progress**: in a sound round that has not ended, some caller can move.  A download can
always end; with none running the lock is free, and the first in the queue takes it, or, with
nobody queued, a caller not yet at the lock comes and takes it. -/
theorem Sound.can_move (h : Sound answer c) (hn : c.finished = false) :
    ∃ i c', Move answer c i c' := by
  obtain ⟨j, f, hj, hfd⟩ : ∃ (j : Nat) (f : Fetcher), c.callers[j]? = some f ∧ f.isDone = false := by
    simp only [finished, List.all_eq_false, Bool.not_eq_true] at hn
    obtain ⟨f, hmem, hf⟩ := hn
    obtain ⟨j, hj⟩ := List.mem_iff_getElem?.1 hmem
    exact ⟨j, f, hj, hf⟩
  by_cases hd : ∃ i n : Nat, c.callers[i]? = some (Fetcher.downloading n)
  · obtain ⟨i, n, hi⟩ := hd
    exact ⟨i, _, .land hi⟩
  · simp only [not_exists] at hd
    have hl : c.locked = false := by
      cases hl : c.locked with
      | false => rfl
      | true =>
        obtain ⟨i, hi⟩ := h.locked.1 hl
        exact absurd hi (hd i _)
    cases hq : c.queue with
    | cons i rest =>
      have hi := (h.mem_queue i).1 (by simp [hq])
      exact ⟨i, _, .wake hi hl hq⟩
    | nil =>
      -- nobody queues, so the caller not done has yet to come to the lock
      cases f with
      | idle => exact ⟨j, _, .take hj hl hq⟩
      | queued => simpa [hq] using (h.mem_queue j).2 hj
      | downloading n => exact absurd hj (hd j n)
      | done r => simp [Fetcher.isDone] at hfd

/-- **Every round can end**: from a sound cache, some schedule brings every caller to return or
fail. -/
theorem Sound.exists_finished {c : InstallerCache} (h : Sound answer c) :
    ∃ more, (c.run answer more).finished = true := by
  cases hf : c.finished with
  | true => exact ⟨[], hf⟩
  | false =>
    obtain ⟨i, c', hm⟩ := h.can_move hf
    obtain ⟨more, hmore⟩ := (h.move hm).exists_finished
    exact ⟨i :: more, by simpa [run, step_of_move hm] using hmore⟩
termination_by c.pending
decreasing_by exact hm.pending_lt

/-! ### How a round ends -/

theorem toOption_eq_none_iff {r : Except Failure String} :
    r.toOption = none ↔ ∃ e, r = .error e := by
  cases r <;> simp [Except.toOption]

theorem Fetcher.failed_iff {f : Fetcher} : f.failed = true ↔ ∃ e, f = .done (.error e) := by
  cases f with
  | done r => cases r <;> simp [Fetcher.failed]
  | _ => simp [Fetcher.failed]

def failures (c : InstallerCache) : List Nat :=
  (List.range c.callers.length).filter fun j => c.callers[j]?.any Fetcher.failed

theorem mem_failures {j : Nat} : j ∈ c.failures ↔ ∃ e, c.callers[j]? = some (.done (.error e)) := by
  constructor
  · intro hj
    obtain ⟨-, hf⟩ := List.mem_filter.1 hj
    cases hc : c.callers[j]? with
    | none => simp [hc] at hf
    | some g =>
      rw [hc] at hf
      obtain ⟨e, rfl⟩ := Fetcher.failed_iff.1 (by simpa using hf)
      exact ⟨e, rfl⟩
  · rintro ⟨e, he⟩
    exact List.mem_filter.2
      ⟨List.mem_range.2 (List.getElem?_eq_some_iff.1 he).1, by simp [he, Fetcher.failed]⟩

theorem isDone_of_finished (hfin : c.finished = true) {j : Nat} {f : Fetcher}
    (hj : c.callers[j]? = some f) : f.isDone = true :=
  List.all_eq_true.1 hfin f (List.mem_of_getElem? hj)

section Ending

variable (h : Sound answer c)
include h

theorem Sound.failed_own {e : Failure} (hi : c.callers[i]? = some (.done (.error e))) :
    ∃ k, c.downloads[k]? = some i ∧ answer (k + 1) = .error e := by
  by_cases hm : i ∈ c.downloads
  · obtain ⟨k, hk⟩ := List.mem_iff_getElem?.1 hm
    refine ⟨k, hk, ?_⟩
    rcases h.downloader k i hk with hd | hd <;> rw [hd] at hi
    · cases hi
    · exact Fetcher.done.inj (Option.some.inj hi)
  · rcases h.others i _ hi hm with hf | hf | ⟨s, -, hf⟩ <;> cases hf

theorem Sound.length_downloads_le_callers : c.downloads.length ≤ c.callers.length := by
  have hsub : c.downloads.Subperm (List.range c.callers.length) :=
    h.downloads_nodup.subperm fun j hj => List.mem_range.2 (h.downloads_lt j hj)
  simpa using hsub.length_le

theorem Sound.unlocked (hfin : c.finished = true) : c.locked = false := by
  cases hl : c.locked with
  | false => rfl
  | true =>
    obtain ⟨j, hj⟩ := h.locked.1 hl
    exact absurd (isDone_of_finished hfin hj) (by simp [Fetcher.isDone])

theorem Sound.mem_downloads (hfin : c.finished = true) (hs : c.script = none) {j : Nat}
    (hj : j < c.callers.length) : j ∈ c.downloads := by
  by_contra hm
  obtain ⟨f, hjf⟩ : ∃ f, c.callers[j]? = some f := ⟨_, List.getElem?_eq_getElem hj⟩
  have hdone := isDone_of_finished hfin hjf
  rcases h.others j f hjf hm with rfl | rfl | ⟨s, hs', -⟩
  · cases hdone
  · cases hdone
  · rw [hs] at hs'
    cases hs'

section Refused

variable {refused : Nat} (hr : ∀ n, 0 < n → ((∃ e, answer n = .error e) ↔ n ≤ refused))
include hr

theorem Sound.length_downloads_le : c.downloads.length ≤ refused + 1 := by
  by_contra hlt
  have hfail := h.failed (c.downloads.length - 2) (by omega)
  rw [toOption_eq_none_iff, hr _ (by omega)] at hfail
  omega

theorem Sound.kept {s : String} (hs : c.script = some s) :
    c.downloads.length = refused + 1 ∧ answer (refused + 1) = .ok s := by
  have hscript := h.script
  rw [hs] at hscript
  split at hscript
  · rename_i hcond
    have hpos : 0 < c.downloads.length := List.length_pos_of_ne_nil hcond.2
    have hok : answer c.downloads.length = .ok s := by
      cases ha : answer c.downloads.length <;> simp_all [Except.toOption]
    have hgood : ¬ c.downloads.length ≤ refused := fun hle => by
      obtain ⟨e, he⟩ := (hr _ hpos).2 hle
      rw [hok] at he
      cases he
    have hlen : c.downloads.length = refused + 1 := by
      have := h.length_downloads_le hr
      omega
    exact ⟨hlen, hlen ▸ hok⟩
  · cases hscript

/-- **What a caller returns**: the answer of the first download that does not fail. -/
theorem Sound.returned {s : String} (hi : c.callers[i]? = some (.done (.ok s))) :
    answer (refused + 1) = .ok s := by
  by_cases hm : i ∈ c.downloads
  · -- its own download gave the installer, so it was the first that does not fail
    obtain ⟨k, hk⟩ := List.mem_iff_getElem?.1 hm
    have hans : answer (k + 1) = .ok s := by
      rcases h.downloader k i hk with hd | hd <;> rw [hd] at hi
      · cases hi
      · exact Fetcher.done.inj (Option.some.inj hi)
    have hklt : k < c.downloads.length := (List.getElem?_eq_some_iff.1 hk).1
    have hgood : ¬ k + 1 ≤ refused := fun hle => by
      obtain ⟨e, he⟩ := (hr _ (by omega)).2 hle
      rw [hans] at he
      cases he
    have hle := h.length_downloads_le hr
    have hk1 : k + 1 = refused + 1 := by omega
    rw [← hk1]
    exact hans
  · -- it found the installer kept
    rcases h.others i _ hi hm with hf | hf | ⟨s', hs, hf⟩
    · cases hf
    · cases hf
    · cases hf
      exact (h.kept hr hs).2

/-- **How many downloads a round makes**: once each of `n` callers returned or failed, there
were `min n (refused + 1)` downloads. -/
theorem Sound.length_downloads (hfin : c.finished = true) (hpos : 0 < c.callers.length) :
    c.downloads.length = min c.callers.length (refused + 1) := by
  have hle := h.length_downloads_le_callers
  cases hs : c.script with
  | some s =>
    have hlen := (h.kept hr hs).1
    omega
  | none =>
    -- every caller downloaded, and the last download failed too
    have hall : c.callers.length ≤ c.downloads.length := by
      have hsub : (List.range c.callers.length).Subperm c.downloads :=
        List.nodup_range.subperm fun j hj => h.mem_downloads hfin hs (List.mem_range.1 hj)
      simpa using hsub.length_le
    have hne : c.downloads ≠ [] := fun hnil => by
      simp only [hnil, List.length_nil] at hall
      omega
    have hscript := h.script
    rw [hs, if_pos ⟨h.unlocked hfin, hne⟩, eq_comm, toOption_eq_none_iff,
      hr _ (List.length_pos_of_ne_nil hne)] at hscript
    omega

/-- **Who fails**: once every caller returned or failed, the callers that failed are those of
the first `refused` downloads. -/
theorem Sound.mem_failures_iff (hfin : c.finished = true) {j : Nat} :
    j ∈ c.failures ↔ j ∈ c.downloads.take refused := by
  rw [mem_failures, List.mem_iff_getElem?]
  constructor
  · rintro ⟨e, he⟩
    obtain ⟨k, hk, hans⟩ := h.failed_own he
    have hklt : k < c.downloads.length := (List.getElem?_eq_some_iff.1 hk).1
    have hkle : k + 1 ≤ refused := (hr _ (by omega)).1 ⟨e, hans⟩
    exact ⟨k, by rw [List.getElem?_take, if_pos (by omega)]; exact hk⟩
  · rintro ⟨k, hk⟩
    rw [List.getElem?_take] at hk
    split at hk
    · obtain ⟨e, he⟩ := (hr (k + 1) (by omega)).2 (by omega)
      rcases h.downloader k j hk with hd | hd
      · exact absurd (isDone_of_finished hfin hd) (by simp [Fetcher.isDone])
      · exact ⟨e, he ▸ hd⟩
    · cases hk

/-- **How many callers fail**: `min n refused` of the `n` callers of a round that ended. -/
theorem Sound.length_failures (hfin : c.finished = true) (hpos : 0 < c.callers.length) :
    c.failures.length = min c.callers.length refused := by
  have hperm : c.failures.Perm (c.downloads.take refused) :=
    (List.perm_ext_iff_of_nodup (List.nodup_range.filter _)
      (h.downloads_nodup.sublist (List.take_sublist _ _))).2 fun j => h.mem_failures_iff hr hfin
  rw [hperm.length_eq, List.length_take, h.length_downloads hr hfin hpos]
  omega

end Refused

end Ending

end InstallerCache

end ClusterDeploy
