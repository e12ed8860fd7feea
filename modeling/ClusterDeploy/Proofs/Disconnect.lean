import ClusterDeploy.Proofs.Reachable

/-!
# Disconnecting

A disconnect is best-effort: it releases every machine in the order of the description, running
the cleanup when an install has begun and closing the session whatever failed before, then
closes the jump host's session, and reports every failure at the end.

* `LabSession.released`      a machine's session after its release: the cleanup command when the
                             cleanup runs, then the close;
* `Lab.releaseFailure`       the failure a release is reported with: its cleanup's, else its
                             close's;
* `Lab.noteRelease`          the failures after a release, noted as the engine notes them: a
                             cleanup failure in place of any earlier one of that address, a close
                             failure only where the address has none;
* `Lab.disconnectFailures`, `Lab.disconnected`  what a disconnect reports, and the lab after it;
* `Deploy.outcome_release`, `Deploy.outcome_foldlM_release`, `Deploy.outcome_disconnect`
                             the disconnect, step by step and whole;
* `Lab.disconnectFailures_eq_nil`  nothing is reported exactly when nothing failed;
  `Lab.disconnectFailures_of_nodup`  for machines of distinct addresses, each failed machine is
                             reported once, in order;
* `Deploy.disconnect_best_effort`  what a disconnect from a live stage of the lifecycle does.
-/

namespace ClusterDeploy

theorem SshTarget.address_ne_sshProxy (t : SshTarget) : t.address ≠ "ssh-proxy" := by
  intro h
  have hcolon := congrArg (fun s : String => ':' ∈ s.toList) h
  simp [SshTarget.address] at hcolon

namespace Failure

variable {fs : List (String × Failure)} {a : String} {f : Failure}

theorem any_address_of_fresh (h : ∀ e ∈ fs, e.1 ≠ a) : fs.any (·.1 == a) = false :=
  List.any_eq_false.2 fun e he => by simpa using h e he

theorem record_of_fresh (h : ∀ e ∈ fs, e.1 ≠ a) : record fs a f = fs ++ [(a, f)] := by
  simp [record, any_address_of_fresh h]

theorem recordFirst_of_fresh (h : ∀ e ∈ fs, e.1 ≠ a) : recordFirst fs a f = fs ++ [(a, f)] := by
  simp [recordFirst, any_address_of_fresh h]

theorem recordFirst_of_mem {e : String × Failure} (he : e ∈ fs) (ha : e.1 = a) :
    recordFirst fs a f = fs := by
  have hany : fs.any (·.1 == a) = true := List.any_eq_true.2 ⟨e, he, by simpa using ha⟩
  simp [recordFirst, hany]

theorem perMachine_eq_map (fs : List (String × Failure)) :
    perMachine fs = fs.map fun e => e.1 ++ ": " ++ e.2.message := by
  induction fs with
  | nil => simp [perMachine]
  | cons e fs ih =>
    obtain ⟨a, f⟩ := e
    simp [perMachine, ih]

theorem message_disconnect (fs : List (String × Failure)) :
    (disconnect fs).message = "Failed to disconnect cleanly: " ++
      String.intercalate ", " (fs.map fun e => e.1 ++ ": " ++ e.2.message) := by
  rw [← perMachine_eq_map]
  rfl

theorem record_ne_nil : record fs a f ≠ [] := by
  unfold record
  split
  · rename_i hany
    intro hnil
    simp [List.map_eq_nil_iff.1 hnil] at hany
  · simp

theorem recordFirst_ne_nil : recordFirst fs a f ≠ [] := by
  unfold recordFirst
  split
  · rename_i hany
    intro hnil
    simp [hnil] at hany
  · simp

end Failure

namespace LabSession

/-- The session after its machine is released: the cleanup command when the cleanup runs, then
the close. -/
def released (s : LabSession) (cleanup : Bool) (settings : Settings) : LabSession :=
  { s with events := s.events ++
    ((if cleanup then [LabEvent.run (settings.cleanupCommand.line false)] else []) ++ [.close]) }

end LabSession

namespace Lab

section Release

variable (l : Lab) (cleanup : Bool) (s : Settings)

/-- The failure the cleanup of machine `t` meets, when the cleanup runs. -/
def cleanupFault (t : SshTarget) : Option Failure :=
  if cleanup then l.commandFault t s.cleanupCommand else none

/-- The failure the release of machine `g` is reported with, keyed by its address: its
cleanup's, else its close's. -/
def releaseFailure (g : Handle) : Option (String × Failure) :=
  g.link.bind fun id =>
    ((l.cleanupFault cleanup s (l.session id).target).or (l.closeFault (l.session id).target)).map
      (g.address, ·)

/-- The failures after the release of machine `g`, noted as a release notes them: a cleanup
failure in place of any the address had, then a close failure only where it has none. -/
def noteRelease (fs : List (String × Failure)) (g : Handle) : List (String × Failure) :=
  match g.link with
  | some id =>
    let t := (l.session id).target
    let fs := ((l.cleanupFault cleanup s t).map (Failure.record fs g.address)).getD fs
    ((l.closeFault t).map (Failure.recordFirst fs g.address)).getD fs
  | none => fs

def releasing (ids : List Nat) : Lab :=
  { l with sessions := l.sessions.mapIdx fun i x => if i ∈ ids then x.released cleanup s else x }

/-- The failures a disconnect reports: the machines', noted in turn, then the jump host's close's,
keyed by `ssh-proxy`. -/
def disconnectFailures (hs : List Handle) (proxy : Option Nat) : List (String × Failure) :=
  let fs := hs.foldl (l.noteRelease cleanup s) []
  ((proxy.bind fun p => l.closeFault (l.session p).target).map
    (Failure.record fs "ssh-proxy")).getD fs

/-- The lab after a disconnect: every machine's session released, then the jump host's closed. -/
def disconnected (hs : List Handle) (proxy : Option Nat) : Lab :=
  let l' := l.releasing cleanup s (hs.filterMap Handle.link)
  match proxy with
  | some p => l'.setSession p (l.session p).closed
  | none => l'

end Release

section ReleaseFacts

variable {l : Lab} {cleanup : Bool} {s : Settings}

theorem releaseFailure_address {g : Handle} {e : String × Failure}
    (h : l.releaseFailure cleanup s g = some e) : e.1 = g.address := by
  simp only [releaseFailure, Option.bind_eq_some_iff, Option.map_eq_some_iff] at h
  obtain ⟨_, _, _, _, rfl⟩ := h
  rfl

/-- **A release appends its failure**, if any, for a machine whose address has none yet. -/
theorem noteRelease_of_fresh {fs : List (String × Failure)} {g : Handle}
    (h : ∀ e ∈ fs, e.1 ≠ g.address) :
    l.noteRelease cleanup s fs g = fs ++ (l.releaseFailure cleanup s g).toList := by
  unfold noteRelease releaseFailure
  cases hg : g.link with
  | none => simp
  | some id =>
    -- a failed cleanup is recorded, and the close's failure, if any, is then dropped
    cases hc : l.cleanupFault cleanup s (l.session id).target with
    | some f =>
      have hmem : (g.address, f) ∈ fs ++ [(g.address, f)] := by simp
      cases hk : l.closeFault (l.session id).target <;>
        simp [hc, hk, Failure.record_of_fresh h, Failure.recordFirst_of_mem hmem rfl]
    | none =>
      cases hk : l.closeFault (l.session id).target <;>
        simp [hc, hk, Failure.recordFirst_of_fresh h]

theorem noteRelease_eq_nil {fs : List (String × Failure)} {g : Handle} :
    l.noteRelease cleanup s fs g = [] ↔ fs = [] ∧ l.releaseFailure cleanup s g = none := by
  unfold noteRelease releaseFailure
  cases hg : g.link with
  | none => simp
  | some id =>
    cases hc : l.cleanupFault cleanup s (l.session id).target <;>
      cases hk : l.closeFault (l.session id).target <;>
      simp [hc, hk, Failure.record_ne_nil, Failure.recordFirst_ne_nil]

/-- **Released one after another**, machines with distinct addresses are reported in order, each
with its own failure. -/
theorem foldl_noteRelease_of_nodup (hs : List Handle) (hnodup : (hs.map Handle.address).Nodup) :
    ∀ fs : List (String × Failure), (∀ g ∈ hs, ∀ e ∈ fs, e.1 ≠ g.address) →
      hs.foldl (l.noteRelease cleanup s) fs = fs ++ hs.filterMap (l.releaseFailure cleanup s) := by
  induction hs with
  | nil => simp
  | cons g hs ih =>
    intro fs hfresh
    simp only [List.map_cons, List.nodup_cons, List.mem_map] at hnodup
    rw [List.foldl_cons, noteRelease_of_fresh (hfresh g List.mem_cons_self)]
    -- the failure just noted is keyed by an address no later machine has
    rw [ih hnodup.2 _ fun g' hg' e he => ?_]
    · cases hr : l.releaseFailure cleanup s g <;> simp [hr]
    · rcases List.mem_append.1 he with he | he
      · exact hfresh g' (List.mem_cons_of_mem _ hg') e he
      · obtain ⟨e', he', rfl⟩ : ∃ e', l.releaseFailure cleanup s g = some e' ∧ e' = e := by
          cases hr : l.releaseFailure cleanup s g <;> simp_all
        rw [releaseFailure_address he']
        exact fun heq => hnodup.1 ⟨g', hg', heq.symm⟩

theorem foldl_noteRelease_eq_nil (hs : List Handle) :
    ∀ fs : List (String × Failure), hs.foldl (l.noteRelease cleanup s) fs = [] ↔
      fs = [] ∧ ∀ g ∈ hs, l.releaseFailure cleanup s g = none := by
  induction hs with
  | nil => simp
  | cons g hs ih =>
    intro fs
    rw [List.foldl_cons, ih, noteRelease_eq_nil]
    simp [and_assoc]

theorem disconnectFailures_eq_nil (hs : List Handle) (proxy : Option Nat) :
    l.disconnectFailures cleanup s hs proxy = [] ↔
      (∀ g ∈ hs, l.releaseFailure cleanup s g = none) ∧
        (proxy.bind fun p => l.closeFault (l.session p).target) = none := by
  unfold disconnectFailures
  cases proxy.bind fun p => l.closeFault (l.session p).target with
  | none => simp [foldl_noteRelease_eq_nil]
  | some f => simp [Failure.record_ne_nil]

/-- **For machines of distinct addresses**, a disconnect reports each failed machine, in order,
with its cleanup's failure, else its close's, then the jump host's close, keyed `ssh-proxy`. -/
theorem disconnectFailures_of_nodup {hs : List Handle} (hnodup : (hs.map Handle.address).Nodup)
    (proxy : Option Nat) :
    l.disconnectFailures cleanup s hs proxy = hs.filterMap (l.releaseFailure cleanup s) ++
      ((proxy.bind fun p => l.closeFault (l.session p).target).map ("ssh-proxy", ·)).toList := by
  unfold disconnectFailures
  rw [foldl_noteRelease_of_nodup hs hnodup [] (by simp), List.nil_append]
  cases proxy.bind fun p => l.closeFault (l.session p).target with
  | none => simp
  | some f =>
    -- no machine's failure is keyed by the jump host's key
    dsimp only
    rw [Option.map_some, Option.getD_some, Failure.record_of_fresh fun e he => ?_]
    · rfl
    obtain ⟨g, -, hg⟩ := List.mem_filterMap.1 he
    rw [releaseFailure_address hg]
    exact SshTarget.address_ne_sshProxy _

@[simp] theorem length_releasing (ids : List Nat) :
    (l.releasing cleanup s ids).sessions.length = l.sessions.length := by
  simp [releasing]

theorem session_releasing_of_mem {ids : List Nat} {id : Nat} (hm : id ∈ ids)
    (hid : id < l.sessions.length) :
    (l.releasing cleanup s ids).session id = (l.session id).released cleanup s := by
  simp [releasing, session, List.getD_eq_getElem?_getD, hid, hm]

theorem session_releasing_of_not_mem {ids : List Nat} {id : Nat} (hm : id ∉ ids) :
    (l.releasing cleanup s ids).session id = l.session id := by
  simp only [releasing, session, List.getD_eq_getElem?_getD, List.getElem?_mapIdx]
  cases l.sessions[id]? <;> simp [hm]

@[simp] theorem releasing_nil : l.releasing cleanup s [] = l := by
  have hsame : l.sessions.mapIdx (fun _ x => x) = l.sessions :=
    List.ext_getElem (by simp) fun i _ _ => by simp
  simp [releasing, hsame]

theorem releasing_setSession {ids : List Nat} {id : Nat} (hid : id < l.sessions.length)
    (hfresh : id ∉ ids) :
    (l.setSession id ((l.session id).released cleanup s)).releasing cleanup s ids =
      l.releasing cleanup s (id :: ids) := by
  simp only [releasing, setSession, Lab.mk.injEq, true_and]
  refine List.ext_getElem (by simp) fun i h₁ h₂ => ?_
  simp only [List.getElem_mapIdx, List.getElem_set, List.mem_cons]
  by_cases hi : i = id
  · subst hi
    simp [hfresh, session, List.getD_eq_getElem?_getD, hid]
  · simp [hi, Ne.symm hi]

theorem noteRelease_of_unlinked {g : Handle} (hg : g.link = none) (fs : List (String × Failure)) :
    l.noteRelease cleanup s fs g = fs := by
  simp [noteRelease, hg]

@[simp] theorem closeFault_setSession (id : Nat) (x : LabSession) :
    (l.setSession id x).closeFault = l.closeFault := rfl

@[simp] theorem closeFault_releasing (ids : List Nat) :
    (l.releasing cleanup s ids).closeFault = l.closeFault := rfl

section Disconnected

variable {hs : List Handle} {proxy : Option Nat}

@[simp] theorem length_disconnected :
    (l.disconnected cleanup s hs proxy).sessions.length = l.sessions.length := by
  unfold disconnected
  cases proxy <;> simp

theorem session_disconnected_of_mem {id : Nat} (hm : id ∈ hs.filterMap Handle.link)
    (hid : id < l.sessions.length) (hproxy : proxy ≠ some id) :
    (l.disconnected cleanup s hs proxy).session id = (l.session id).released cleanup s := by
  unfold disconnected
  cases proxy with
  | none => exact session_releasing_of_mem hm hid
  | some p =>
    rw [session_setSession_ne _ _ fun hpi => hproxy (congrArg some hpi),
      session_releasing_of_mem hm hid]

theorem session_disconnected_proxy {p : Nat} (hp : proxy = some p) (hpb : p < l.sessions.length) :
    (l.disconnected cleanup s hs proxy).session p = (l.session p).closed := by
  unfold disconnected
  subst hp
  exact session_setSession_self _ _ (by simpa using hpb)

theorem session_disconnected_of_not_mem {id : Nat} (hm : id ∉ hs.filterMap Handle.link)
    (hproxy : proxy ≠ some id) :
    (l.disconnected cleanup s hs proxy).session id = l.session id := by
  unfold disconnected
  cases proxy with
  | none => exact session_releasing_of_not_mem hm
  | some p =>
    rw [session_setSession_ne _ _ fun hpi => hproxy (congrArg some hpi),
      session_releasing_of_not_mem hm]

end Disconnected

theorem noteRelease_setSession {g : Handle} {id : Nat} (hg : ∀ j, g.link = some j → j ≠ id)
    (x : LabSession) (fs : List (String × Failure)) :
    (l.setSession id x).noteRelease cleanup s fs g = l.noteRelease cleanup s fs g := by
  unfold noteRelease
  cases hl : g.link with
  | none => rfl
  | some j =>
    simp only [session_setSession_ne _ _ (hg j hl).symm]
    rfl

end ReleaseFacts

end Lab

theorem Deployment.Accounted.nodup {d : Deployment} (h : d.Accounted) : d.held.Nodup := by
  rw [List.nodup_iff_count_le_one]
  intro n
  by_cases hn : n ∈ d.held
  · have honce := h.once n (h.bounded n hn)
    omega
  · simp [List.count_eq_zero_of_not_mem hn]

namespace Deploy

variable {d : Deployment}

/-- **Releasing a machine** runs its cleanup, if asked, then closes its session, whatever the
cleanup answered, and notes what failed. -/
theorem outcome_release (cleanup : Bool) (s : Settings) (fs : List (String × Failure))
    {g : Handle} {id : Nat} (hg : g.link = some id) (hid : id < d.lab.sessions.length) :
    outcome (release cleanup s fs g) d =
      (.ok (d.lab.noteRelease cleanup s fs g),
        d.withSession id ((d.lab.session id).released cleanup s)) := by
  unfold release Lab.noteRelease
  rw [hg]
  dsimp only
  cases cleanup with
  | false =>
    simp only [outcome, Bool.false_eq_true, if_false, pure_bind, EStateM.run_bind, run_attempt,
      run_onLab, Lab.run_close]
    cases d.lab.closeFault (d.lab.session id).target <;> rfl
  | true =>
    have hrun : Lab.run id s.cleanupCommand =
        Lab.onSession id fun l => (Call.run s.cleanupCommand).make l := rfl
    -- the cleanup command installs nothing, so the session only records it
    have hafter : (Call.run s.cleanupCommand).after d.lab (d.lab.session id) =
        { d.lab.session id with events := (d.lab.session id).events ++
          [LabEvent.run (s.cleanupCommand.line false)] } := by
      simp [Call.after, Settings.cleanupCommand, Call.event]
    have hfault : d.lab.cleanupFault true s (d.lab.session id).target =
        (Call.run s.cleanupCommand).fault d.lab (d.lab.session id).target := rfl
    simp only [outcome, if_true, EStateM.run_bind, run_attempt, hrun, run_onSession_make, hfault]
    -- the cleanup and the close each succeed or fail
    cases (Call.run s.cleanupCommand).fault d.lab (d.lab.session id).target <;>
      cases hk : d.lab.closeFault (d.lab.session id).target <;>
      simp [EStateM.run_bind, run_attempt, run_onLab, Lab.run_close, hafter, hk,
        Deployment.withSession, LabSession.released, LabSession.closed,
        Lab.session_setSession_self _ _ hid]

/-- **Releasing the machines one after another** releases each session, and notes the failures
in turn, as the lab was before the first. -/
theorem outcome_foldlM_release (cleanup : Bool) (s : Settings) (hs : List Handle) :
    ∀ (fs : List (String × Failure)) (d : Deployment),
      (∀ id ∈ hs.filterMap Handle.link, id < d.lab.sessions.length) →
      (hs.filterMap Handle.link).Nodup →
      outcome (hs.foldlM (release cleanup s) fs) d =
        (.ok (hs.foldl (d.lab.noteRelease cleanup s) fs),
          { d with lab := d.lab.releasing cleanup s (hs.filterMap Handle.link) }) := by
  induction hs with
  | nil => intro fs d _ _; simp; rfl
  | cons g hs ih =>
    intro fs d hb hnodup
    rw [List.foldlM_cons]
    cases hg : g.link with
    | none =>
      -- a machine that holds no session is passed over
      have hrel : release cleanup s fs g = pure fs := by
        unfold release
        rw [hg]
      simp only [List.filterMap_cons, hg] at hb hnodup ⊢
      rw [hrel, pure_bind, ih fs d hb hnodup, List.foldl_cons, Lab.noteRelease_of_unlinked hg]
    | some id =>
      simp only [List.filterMap_cons, hg, List.mem_cons, List.nodup_cons] at hb hnodup ⊢
      have hid := hb id (.inl rfl)
      rw [outcome_bind_ok (outcome_release cleanup s fs hg hid),
        ih _ _ (fun j hj => by simpa using hb j (.inr hj)) hnodup.2]
      -- the later machines' sessions are not this one
      have hother : ∀ g' ∈ hs, ∀ j, g'.link = some j → j ≠ id := by
        intro g' hg' j hj hji
        exact hnodup.1 (hji ▸ List.mem_filterMap.2 ⟨g', hg', hj⟩)
      simp only [Deployment.withSession, List.foldl_cons]
      rw [List.foldl_ext _ _ _ fun fs' g' hg' => Lab.noteRelease_setSession (hother g' hg') _ fs',
        Lab.releasing_setSession hid hnodup.1]

theorem outcome_attempt_close_bind {β : Type} (id : Nat) (k : Except Failure Unit → Deploy β)
    (d : Deployment) :
    outcome (attempt (onLab (Lab.close id)) >>= k) d =
      outcome (k ((d.lab.closeFault (d.lab.session id).target).elim (.ok ()) .error))
        (d.withSession id (d.lab.session id).closed) := by
  refine outcome_bind_ok ?_
  simp only [outcome, run_attempt, run_onLab, Lab.run_close]
  cases d.lab.closeFault (d.lab.session id).target <;> rfl

theorem outcome_report (f : Engine → Engine) (fs : List (String × Failure)) (d : Deployment) :
    outcome (update f >>= fun _ => if !fs.isEmpty then throw (Failure.disconnect fs) else pure ()) d =
      (if fs.isEmpty then .ok () else .error (.disconnect fs), { d with engine := f d.engine }) := by
  rw [outcome_update_check]
  cases fs.isEmpty <;> rfl

/-- **A disconnect from a live stage** releases the machines in order, closes the jump host's
session, lets go of every session and ends disconnected; it fails when anything failed, with
every failure noted. -/
theorem outcome_disconnect (hstage : d.engine.stage ∈ [.connected, .installing, .installed])
    (h : d.Accounted) :
    outcome disconnect d =
      (let fs := d.lab.disconnectFailures d.engine.cleanupPending d.engine.settings
          d.engine.handles d.engine.proxy
        if fs.isEmpty then .ok () else .error (.disconnect fs),
       { d with
         engine := { d.engine with
           handles := d.engine.handles.map fun g => { g with link := none }, proxy := none,
           stage := .disconnected }
         lab := d.lab.disconnected d.engine.cleanupPending d.engine.settings d.engine.handles
           d.engine.proxy }) := by
  have hnodup := h.nodup
  have hb : ∀ id ∈ d.engine.handles.filterMap Handle.link, id < d.lab.sessions.length :=
    fun id hid => h.bounded id (by simp only [Deployment.held, List.mem_append]; exact .inr hid)
  unfold disconnect
  rw [outcome_require_bind hstage, outcome_engine_bind,
    outcome_bind_ok (outcome_foldlM_release _ _ _ [] d hb (List.Nodup.of_append_right hnodup)),
    outcome_update_bind]
  cases hp : d.engine.proxy with
  | none =>
    dsimp only
    rw [pure_bind, outcome_report]
    rfl
  | some p =>
    -- the jump host's session is held, and not by a machine
    have hpfree : p ∉ d.engine.handles.filterMap Handle.link := by
      have hn := hnodup
      simp only [Deployment.held, hp, Option.toList_some, List.singleton_append,
        List.nodup_cons] at hn
      exact hn.1
    have hsession : (d.lab.releasing d.engine.cleanupPending d.engine.settings
        (d.engine.handles.filterMap Handle.link)).session p = d.lab.session p := by
      rw [Lab.session_releasing_of_not_mem hpfree]
    rw [outcome_attempt_close_bind, outcome_update_bind]
    dsimp only
    rw [hsession, Lab.closeFault_releasing]
    -- the jump host's close fails, and is recorded, or passes
    split
    · rename_i f hf
      have hk : d.lab.closeFault (d.lab.session p).target = some f := by
        revert hf
        cases d.lab.closeFault (d.lab.session p).target <;> simp
      rw [pure_bind, outcome_report]
      simp only [Lab.disconnectFailures, Lab.disconnected, Option.bind_some, hk]
      rfl
    · rename_i hf
      have hk : d.lab.closeFault (d.lab.session p).target = none := by
        revert hf
        cases d.lab.closeFault (d.lab.session p).target <;> simp
      rw [pure_bind, outcome_report]
      simp only [Lab.disconnectFailures, Lab.disconnected, Option.bind_some, hk]
      rfl

/-- **Disconnecting is best-effort.**  From a live stage of the lifecycle, a disconnect visits
every machine: it runs the cleanup on each when an install has begun (on machines never
configured too), and closes each session once whatever failed before; then it closes the jump
host's session once.  No other session is touched and none is opened.  It always ends
disconnected, holding nothing.  It fails exactly when a cleanup or a close failed, and for
machines of distinct addresses it reports each failed machine in order, with its cleanup's
failure, else its close's, then the jump host's close under `ssh-proxy`, all in its message. -/
theorem disconnect_best_effort {d : Deployment} (h : d.Lifecycle) (hlive : d.engine.stage.live) :
    let cleanup := d.engine.stage.hasInstalled
    let failures := d.engine.handles.filterMap (d.lab.releaseFailure cleanup d.engine.settings) ++
      ((d.engine.proxy.bind fun p => d.lab.closeFault (d.lab.session p).target).map
        ("ssh-proxy", ·)).toList
    let r := outcome disconnect d
    r.2.engine.stage = .disconnected ∧ r.2.held = [] ∧
    (∀ g ∈ d.engine.handles, ∃ id, g.link = some id ∧
      r.2.lab.session id = (d.lab.session id).released cleanup d.engine.settings) ∧
    (∀ p, d.engine.proxy = some p → r.2.lab.session p = (d.lab.session p).closed) ∧
    r.2.lab.sessions.length = d.lab.sessions.length ∧
    (∀ id ∉ d.held, r.2.lab.session id = d.lab.session id) ∧
    (r.1 = .ok () ↔ failures = []) ∧
    ((d.engine.handles.map Handle.address).Nodup → failures ≠ [] →
      r.1 = .error (.disconnect failures) ∧
      (Failure.disconnect failures).message = "Failed to disconnect cleanly: " ++
        String.intercalate ", " (failures.map fun e => e.1 ++ ": " ++ e.2.message)) := by
  intro cleanup failures r
  -- the cleanup is armed exactly when an install has begun
  have harmed : d.engine.cleanupPending = cleanup :=
    h.armed fun hd => by simp [hd, Stage.live] at hlive
  obtain ⟨c, -, hlinks, -⟩ := h.live hlive
  have hnodup := h.accounted.nodup
  have hout := outcome_disconnect (Stage.live_iff_mem.1 hlive) h.accounted
  rw [harmed] at hout
  -- the sessions held: the jump host's apart from the machines'
  have hbound : ∀ id ∈ d.held, id < d.lab.sessions.length := h.accounted.bounded
  have hsplit : ∀ p, d.engine.proxy = some p → p ∉ d.engine.handles.filterMap Handle.link := by
    intro p hp
    simp only [Deployment.held, hp, Option.toList_some, List.singleton_append,
      List.nodup_cons] at hnodup
    exact hnodup.1
  have hfs : r.1 = if (d.lab.disconnectFailures cleanup d.engine.settings d.engine.handles
      d.engine.proxy).isEmpty then .ok () else .error (.disconnect (d.lab.disconnectFailures
        cleanup d.engine.settings d.engine.handles d.engine.proxy)) := by
    simp only [r, hout]
  have hlab : r.2.lab = d.lab.disconnected cleanup d.engine.settings d.engine.handles
      d.engine.proxy := by
    simp only [r, hout]
  have hfailures : failures = [] ↔ (∀ g ∈ d.engine.handles,
      d.lab.releaseFailure cleanup d.engine.settings g = none) ∧
      (d.engine.proxy.bind fun p => d.lab.closeFault (d.lab.session p).target) = none := by
    simp [failures, List.filterMap_eq_nil_iff]
  refine ⟨by simp [r, hout], by simp [r, hout, Deployment.held, List.filterMap_map],
    fun g hg => ?_, fun p hp => ?_, by rw [hlab, Lab.length_disconnected], fun id hid => ?_, ?_,
    fun hdistinct hne => ?_⟩
  · -- a machine's session is released
    obtain ⟨id, hgid⟩ := Option.isSome_iff_exists.1 (hlinks g hg)
    have hm : id ∈ d.engine.handles.filterMap Handle.link := List.mem_filterMap.2 ⟨g, hg, hgid⟩
    refine ⟨id, hgid, ?_⟩
    rw [hlab, Lab.session_disconnected_of_mem hm (hbound id (by simp [Deployment.held, hm]))
      fun hp => hsplit id hp hm]
  · -- the jump host's session is closed
    rw [hlab, Lab.session_disconnected_proxy hp (hbound p (by simp [Deployment.held, hp]))]
  · -- the others are not touched
    simp only [Deployment.held, List.mem_append, not_or] at hid
    rw [hlab, Lab.session_disconnected_of_not_mem hid.2 fun hp => hid.1 (by simp [hp])]
  · -- it fails exactly when something failed
    rw [hfs, hfailures, ← Lab.disconnectFailures_eq_nil]
    cases hnil : (d.lab.disconnectFailures cleanup d.engine.settings d.engine.handles
      d.engine.proxy).isEmpty <;> simp_all
  · -- with distinct addresses the report is the failures in order
    rw [Lab.disconnectFailures_of_nodup hdistinct] at hfs
    refine ⟨?_, Failure.message_disconnect _⟩
    rw [hfs]
    exact if_neg fun hempty => hne (List.isEmpty_iff.1 hempty)

theorem labConnected_lifecycle : labConnected.Lifecycle where
  described c hc := by
    cases hc
    exact ⟨rfl, rfl⟩
  live _ := ⟨labCluster, rfl, by simp [labConnected, labCluster], by decide⟩
  idle h := by cases h
  accounted := ⟨by decide, by decide⟩
  armed _ := rfl

/-- The two lab machines, connected, disconnect as the lifecycle says. -/
theorem lab_disconnect_best_effort :
    let d := labConnected
    d.Lifecycle ∧ d.engine.stage.live ∧
    (let cleanup := d.engine.stage.hasInstalled
      let failures := d.engine.handles.filterMap (d.lab.releaseFailure cleanup d.engine.settings) ++
        ((d.engine.proxy.bind fun p => d.lab.closeFault (d.lab.session p).target).map
          ("ssh-proxy", ·)).toList
      let r := outcome disconnect d
      r.2.engine.stage = .disconnected ∧ r.2.held = [] ∧
      (∀ g ∈ d.engine.handles, ∃ id, g.link = some id ∧
        r.2.lab.session id = (d.lab.session id).released cleanup d.engine.settings) ∧
      (∀ p, d.engine.proxy = some p → r.2.lab.session p = (d.lab.session p).closed) ∧
      r.2.lab.sessions.length = d.lab.sessions.length ∧
      (∀ id ∉ d.held, r.2.lab.session id = d.lab.session id) ∧
      (r.1 = .ok () ↔ failures = []) ∧
      ((d.engine.handles.map Handle.address).Nodup → failures ≠ [] →
        r.1 = .error (.disconnect failures) ∧
        (Failure.disconnect failures).message = "Failed to disconnect cleanly: " ++
          String.intercalate ", " (failures.map fun e => e.1 ++ ": " ++ e.2.message))) :=
  ⟨labConnected_lifecycle, rfl, disconnect_best_effort labConnected_lifecycle rfl⟩

end Deploy

end ClusterDeploy
