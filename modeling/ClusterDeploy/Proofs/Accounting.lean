import ClusterDeploy.Proofs.Steady

/-!
# Session accounting

The engine holds sessions of the lab: one for the jump host, when it has one, and one for each
machine that is connected (`Deployment.held`).  `Deployment.Accounted` says that every session
the lab ever opened is either held, by exactly one of them, or was closed exactly once.

Opening a session and holding it in an empty place keeps the account (`Accounted.hold`), and so
does closing sessions and letting them go (`Closing`, `Accounted.release`).  Connecting opens
the sessions (`linkFrom_went`), and abandoning a failed connect or disconnecting closes every
session held, once (`abandon_went`, `foldlM_release`).
-/

namespace ClusterDeploy

def LabSession.closed (s : LabSession) : LabSession := { s with events := s.events ++ [.close] }

@[simp] theorem LabSession.closes_closed (s : LabSession) : s.closed.closes = s.closes + 1 := by
  simp [closed, closes]

@[simp] theorem LabSession.target_closed (s : LabSession) : s.closed.target = s.target := rfl

theorem Lab.run_close (l : Lab) (id : Nat) : (Lab.close id).run l =
    match l.closeFault (l.session id).target with
    | some f => .error f (l.setSession id (l.session id).closed)
    | none => .ok () (l.setSession id (l.session id).closed) := by
  simp only [Lab.close, Lab.run_onSession, LabSession.close, LabSession.note, LabSession.failWith,
    EStateM.run_bind, EStateM.run_modify, EStateM.run_get]
  cases l.closeFault (l.session id).target <;> rfl

namespace Lab

def asked (l : Lab) (call : ConnectCall) : Lab := { l with connects := l.connects ++ [call] }

def opened (l : Lab) (call : ConnectCall) : Lab :=
  { l.asked call with sessions := l.sessions ++ [{ target := call.target }] }

@[simp] theorem sessions_asked (l : Lab) (call : ConnectCall) :
    (l.asked call).sessions = l.sessions := rfl

@[simp] theorem length_opened (l : Lab) (call : ConnectCall) :
    (l.opened call).sessions.length = l.sessions.length + 1 := by
  simp [opened]

theorem session_opened_lt (l : Lab) (call : ConnectCall) {j : Nat} (hj : j < l.sessions.length) :
    (l.opened call).session j = l.session j := by
  simp [opened, session, List.getD_eq_getElem?_getD, List.getElem?_append_left hj]

theorem session_opened_self (l : Lab) (call : ConnectCall) :
    (l.opened call).session l.sessions.length = { target := call.target } := by
  simp [opened, session, List.getD_eq_getElem?_getD]

theorem run_connect (l : Lab) (call : ConnectCall) : (Lab.connect call).run l =
    if l.fails .connect call.target then
      .error (.connect ("cannot reach " ++ call.target.address)) (l.asked call)
    else .ok l.sessions.length (l.opened call) := by
  have hfails : ({ l with connects := l.connects ++ [call] } : Lab).fails = l.fails := rfl
  by_cases hf : l.fails .connect call.target <;>
    simp only [Lab.connect, EStateM.run_bind, EStateM.run_modify, EStateM.run_get, hfails, hf,
      if_true] <;> rfl

end Lab

theorem count_link_modify {hs : List Handle} {i : Nat} {g : Handle} (hg : hs[i]? = some g)
    (hnone : g.link = none) (id j : Nat) :
    ((hs.modify i fun h => { h with link := some id }).filterMap Handle.link).count j =
      (hs.filterMap Handle.link).count j + if id = j then 1 else 0 := by
  induction hs generalizing i with
  | nil => cases hg
  | cons h t ih =>
    cases i with
    | zero =>
      obtain rfl : h = g := by simpa using hg
      simp [List.modify_zero_cons, hnone, List.count_cons]
    | succ k =>
      rw [List.modify_succ_cons]
      have ih' := ih (i := k) (by simpa using hg)
      cases hl : h.link with
      | none => simp [hl, ih']
      | some x =>
        simp only [List.filterMap_cons, hl, List.count_cons, ih']
        omega

namespace Deployment

/-- The sessions the engine holds: the jump host's, then the machines', in order. -/
def held (d : Deployment) : List Nat :=
  d.engine.proxy.toList ++ d.engine.handles.filterMap Handle.link

/-- Every session the lab opened is held by exactly one of the jump host and the machines, or
was closed exactly once and is held no more. -/
structure Accounted (d : Deployment) : Prop where
  bounded : ∀ id ∈ d.held, id < d.lab.sessions.length
  once : ∀ id < d.lab.sessions.length, (d.lab.session id).closes + d.held.count id = 1

/-- `d'` is `d` after calls on its sessions that closed each of `ids` once more for each time it
appears there, and no other: the same handles, jump host, description, stage and cleanup. -/
structure Closing (d d' : Deployment) (ids : List Nat) : Prop where
  handles : d'.engine.handles = d.engine.handles
  proxy : d'.engine.proxy = d.engine.proxy
  spec : d'.engine.spec = d.engine.spec
  stage : d'.engine.stage = d.engine.stage
  length : d'.lab.sessions.length = d.lab.sessions.length
  closes : ∀ j, (d'.lab.session j).closes = (d.lab.session j).closes + ids.count j
  pending : d'.engine.cleanupPending = d.engine.cleanupPending

theorem Steady.closing {d d' : Deployment} (h : d.Steady d')
    (hp : d'.engine.cleanupPending = d.engine.cleanupPending) : d.Closing d' [] :=
  ⟨h.handles, h.proxy, h.spec, h.stage, h.length, fun j => by simp [h.closes j], hp⟩

theorem Closing.trans {d d' d'' : Deployment} {ids ids' : List Nat} (h : d.Closing d' ids)
    (h' : d'.Closing d'' ids') : d.Closing d'' (ids ++ ids') :=
  ⟨h'.handles.trans h.handles, h'.proxy.trans h.proxy, h'.spec.trans h.spec,
    h'.stage.trans h.stage, h'.length.trans h.length, fun j => by
      rw [h'.closes, h.closes, List.count_append, Nat.add_assoc], h'.pending.trans h.pending⟩

theorem closing_closed (d : Deployment) {id : Nat} (hid : id < d.lab.sessions.length) :
    d.Closing (d.withSession id (d.lab.session id).closed) [id] := by
  refine ⟨rfl, rfl, rfl, rfl, by simp, fun j => ?_, rfl⟩
  simp only [lab_withSession, List.count_singleton, beq_iff_eq]
  by_cases hj : id = j
  · subst hj
    rw [Lab.session_setSession_self _ _ hid, LabSession.closes_closed, if_pos rfl]
  · rw [Lab.session_setSession_ne _ _ hj, if_neg hj, Nat.add_zero]

theorem mem_held_of_count {d : Deployment} {id : Nat} (h : 0 < d.held.count id) :
    id ∈ d.held :=
  List.count_pos_iff.mp h

theorem Accounted.hold {d d' : Deployment} (h : d.Accounted) (call : ConnectCall)
    (hlab : d'.lab = d.lab.opened call)
    (hheld : ∀ j, d'.held.count j = d.held.count j + if d.lab.sessions.length = j then 1 else 0) :
    d'.Accounted := by
  -- the new session is the lab's last, which nothing held before
  have hfresh : d.held.count d.lab.sessions.length = 0 :=
    List.count_eq_zero.mpr fun hmem => Nat.lt_irrefl _ (h.bounded _ hmem)
  constructor
  · intro id hid
    rw [hlab, Lab.length_opened]
    have hpos := List.count_pos_iff.mpr hid
    rw [hheld] at hpos
    by_cases hnew : d.lab.sessions.length = id
    · omega
    · rw [if_neg hnew, Nat.add_zero] at hpos
      exact Nat.lt_succ_of_lt (h.bounded id (mem_held_of_count hpos))
  · intro id hid
    rw [hlab, Lab.length_opened] at hid
    rw [hlab, hheld]
    rcases Nat.lt_succ_iff_lt_or_eq.mp hid with hlt | rfl
    · rw [Lab.session_opened_lt _ _ hlt, if_neg (Nat.ne_of_gt hlt), Nat.add_zero]
      exact h.once id hlt
    · rw [Lab.session_opened_self, if_pos rfl, hfresh]
      rfl

theorem Accounted.release {d d' : Deployment} (h : d.Accounted)
    (hlen : d'.lab.sessions.length = d.lab.sessions.length)
    (hcloses : ∀ j, (d'.lab.session j).closes = (d.lab.session j).closes + d.held.count j)
    (hheld : d'.held = []) : d'.Accounted := by
  constructor
  · intro id hid
    rw [hheld] at hid
    cases hid
  · intro id hid
    rw [hheld, List.count_nil, Nat.add_zero, hcloses]
    exact h.once id (hlen ▸ hid)

/-- `d'` is `d` with sessions opened or closed and held or let go: the same description, stage,
machines and cleanup, and the account kept. -/
structure Kept (d d' : Deployment) : Prop where
  spec : d'.engine.spec = d.engine.spec
  stage : d'.engine.stage = d.engine.stage
  machines : d'.engine.handles.map Handle.machine = d.engine.handles.map Handle.machine
  accounted : d'.Accounted
  pending : d'.engine.cleanupPending = d.engine.cleanupPending

theorem Kept.trans {d d' d'' : Deployment} (h : d.Kept d') (h' : d'.Kept d'') : d.Kept d'' :=
  ⟨h'.spec.trans h.spec, h'.stage.trans h.stage, h'.machines.trans h.machines, h'.accounted,
    h'.pending.trans h.pending⟩

theorem Accounted.kept {d : Deployment} (h : d.Accounted) : d.Kept d := ⟨rfl, rfl, rfl, h, rfl⟩

theorem Accounted.asked {d : Deployment} (h : d.Accounted) (call : ConnectCall) :
    Deployment.Accounted { d with lab := d.lab.asked call } :=
  ⟨h.bounded, h.once⟩

theorem machines_link_modify (hs : List Handle) (i id : Nat) :
    (hs.modify i fun h => { h with link := some id }).map Handle.machine =
      hs.map Handle.machine := by
  apply List.ext_getElem?
  intro j
  simp only [List.getElem?_map, List.getElem?_modify]
  cases hs[j]? with
  | none => rfl
  | some h =>
    simp only [Functor.map, Option.map]
    split <;> rfl

theorem Accounted.letGo {d d' : Deployment} (h : d.Accounted) (s : Stage)
    (hhandles : d'.engine.handles = d.engine.handles.map fun g => { g with link := none })
    (hproxy : d'.engine.proxy = none) (hspec : d'.engine.spec = d.engine.spec)
    (hstage : d'.engine.stage = s) (hlen : d'.lab.sessions.length = d.lab.sessions.length)
    (hcloses : ∀ j, (d'.lab.session j).closes = (d.lab.session j).closes + d.held.count j)
    (hpending : d'.engine.cleanupPending = d.engine.cleanupPending) :
    d'.held = [] ∧ (d.withStage s).Kept d' := by
  have hheld : d'.held = [] := by simp [held, hhandles, hproxy, List.filterMap_map]
  exact ⟨hheld, hspec, hstage, by simp [hhandles, withStage], h.release hlen hcloses hheld,
    hpending⟩

end Deployment

namespace Deploy

/-- `act` never fails and only makes calls on the sessions, closing each of `ids`, which the
lab opened, once more for each time it appears there. -/
def Closes {α : Type} (ids : List Nat) (act : Deploy α) : Prop :=
  ∀ d : Deployment, (∀ id ∈ ids, id < d.lab.sessions.length) →
    (∃ a, (outcome act d).1 = .ok a) ∧ d.Closing (outcome act d).2 ids

section Closes

variable {α β : Type}

theorem closes_pure (a : α) : Closes [] (pure a : Deploy α) :=
  fun d _ => ⟨⟨a, rfl⟩, (Deployment.Steady.refl d).closing rfl⟩

theorem closes_bind {ids ids' : List Nat} {a : Deploy α} {k : α → Deploy β} (ha : Closes ids a)
    (hk : ∀ x, Closes ids' (k x)) : Closes (ids ++ ids') (a >>= k) := by
  intro d hb
  obtain ⟨⟨x, hx⟩, hc⟩ := ha d fun id hid => hb id (List.mem_append_left _ hid)
  have hp : outcome a d = (.ok x, (outcome a d).2) := by rw [← hx]
  rw [outcome_bind_ok hp]
  obtain ⟨hy, hc'⟩ := hk x (outcome a d).2 fun id hid => hc.length ▸ hb id (List.mem_append_right _ hid)
  exact ⟨hy, hc.trans hc'⟩

theorem closes_attempt_call (id : Nat) (c : Call) :
    Closes [] (attempt (onLab (Lab.onSession id fun l => c.make l))) := by
  intro d _
  rw [outcome_attempt]
  refine ⟨⟨_, rfl⟩, ?_⟩
  have hs := Deployment.steady_withSession d id (c.after d.lab (d.lab.session id))
    (Call.closes_after _ _ _)
  simp only [outcome, run_onSession_make]
  cases c.fault d.lab (d.lab.session id).target <;> exact hs.closing rfl

theorem closes_attempt_close (id : Nat) : Closes [id] (attempt (onLab (Lab.close id))) := by
  intro d hb
  rw [outcome_attempt]
  refine ⟨⟨_, rfl⟩, ?_⟩
  have hc := Deployment.closing_closed d (hb id List.mem_cons_self)
  simp only [outcome, run_onLab, Lab.run_close]
  cases d.lab.closeFault (d.lab.session id).target <;> exact hc

theorem closes_bind_outcome {ids : List Nat} {a : Deploy α} (ha : Closes ids a) {k : α → Deploy β}
    {d : Deployment} (hb : ∀ id ∈ ids, id < d.lab.sessions.length) :
    ∃ x d1, d.Closing d1 ids ∧ outcome (a >>= k) d = outcome (k x) d1 := by
  obtain ⟨⟨x, hx⟩, hc⟩ := ha d hb
  have hp : outcome a d = (.ok x, (outcome a d).2) := by rw [← hx]
  exact ⟨x, _, hc, outcome_bind_ok hp⟩

theorem closes_call_bind {ids : List Nat} (id : Nat) (c : Call) {k : Except Failure Unit → Deploy β}
    (hk : ∀ r, Closes ids (k r)) :
    Closes ids (attempt (onLab (Lab.onSession id fun l => c.make l)) >>= k) :=
  closes_bind (closes_attempt_call id c) hk

theorem closes_close_bind (id : Nat) {k : Except Failure Unit → Deploy β}
    (hk : ∀ r, Closes [] (k r)) : Closes [id] (attempt (onLab (Lab.close id)) >>= k) :=
  closes_bind (closes_attempt_close id) hk

theorem closes_closeQuietly (o : Option Nat) : Closes o.toList (closeQuietly o) := by
  cases o with
  | none => exact closes_pure ()
  | some id => exact closes_close_bind id fun _ => closes_pure ()

theorem closes_forM_closeQuietly (os : List (Option Nat)) :
    Closes (os.filterMap id) (os.forM closeQuietly) := by
  induction os with
  | nil => exact closes_pure _
  | cons o os ih =>
    show Closes _ (closeQuietly o >>= fun _ => os.forM closeQuietly)
    have h := closes_bind (closes_closeQuietly o) fun _ => ih
    cases o <;> simpa using h

theorem closes_release (cleanup : Bool) (s : Settings) (fs : List (String × Failure))
    (h : Handle) : Closes h.link.toList (release cleanup s fs h) := by
  unfold release
  cases h.link with
  | none => exact closes_pure fs
  | some id =>
    dsimp only
    -- the cleanup, if asked, only runs a command; the close counts, whatever it answers
    split
    · refine closes_call_bind id (.run _) fun r => ?_
      split <;>
        (rw [pure_bind]; exact closes_close_bind id fun r => by split <;> exact closes_pure _)
    · rw [pure_bind]
      exact closes_close_bind id fun r => by split <;> exact closes_pure _

theorem closes_foldlM_release (cleanup : Bool) (s : Settings) (hs : List Handle) :
    ∀ fs, Closes (hs.filterMap Handle.link) (hs.foldlM (release cleanup s) fs) := by
  induction hs with
  | nil => exact fun fs => closes_pure fs
  | cons h hs ih =>
    intro fs
    rw [List.foldlM_cons]
    have hc := closes_bind (closes_release cleanup s fs h) fun fs' => ih fs'
    cases hl : h.link <;> simpa [hl] using hc

end Closes

theorem outcome_engine_bind {β : Type} {k : Engine → Deploy β} (d : Deployment) :
    outcome (engine >>= k) d = outcome (k d.engine) d := rfl

theorem outcome_update_bind {β : Type} {f : Engine → Engine} {k : Unit → Deploy β}
    (d : Deployment) : outcome (update f >>= k) d = outcome (k ()) { d with engine := f d.engine } :=
  rfl

theorem outcome_update (f : Engine → Engine) (d : Deployment) :
    outcome (update f) d = (.ok (), { d with engine := f d.engine }) := rfl

theorem outcome_update_check (f : Engine → Engine) (b : Bool) (x : Failure) (d : Deployment) :
    outcome (update f >>= fun _ => if b then throw x else pure ()) d =
      (if b then .error x else .ok (), { d with engine := f d.engine }) := by
  cases b <;> rfl

theorem outcome_connect_bind {β : Type} (call : ConnectCall) {k : Nat → Deploy β}
    (d : Deployment) : outcome (onLab (Lab.connect call) >>= k) d =
      if d.lab.fails .connect call.target then
        (.error (.connect ("cannot reach " ++ call.target.address)),
          { d with lab := d.lab.asked call })
      else outcome (k d.lab.sessions.length) { d with lab := d.lab.opened call } := by
  by_cases hf : d.lab.fails .connect call.target
  · simp only [outcome, EStateM.run_bind, run_onLab, Lab.run_connect, hf, if_true]
  · simp only [outcome, EStateM.run_bind, run_onLab, Lab.run_connect, hf, Bool.false_eq_true,
      if_false]


/-- **Opening the machines' sessions** from position `i` on, where the machines before `i` hold
sessions and the others none: each machine the lab connects to holds its new session, and when
every connect succeeds every machine holds one.  A connect fails as a connect, never as a
refusal. -/
theorem linkFrom_went (via : Option SshTarget) (rest : List Handle) :
    ∀ (i : Nat) (d : Deployment), d.Accounted → i + rest.length = d.engine.handles.length →
      (∀ j g, d.engine.handles[j]? = some g → (g.link.isSome ↔ j < i)) →
      Unrefused (outcome (linkFrom via i rest) d).1 ∧ d.Kept (outcome (linkFrom via i rest) d).2 ∧
      (outcome (linkFrom via i rest) d).2.engine.proxy = d.engine.proxy ∧
      ((outcome (linkFrom via i rest) d).1.isOk →
        ∀ g ∈ (outcome (linkFrom via i rest) d).2.engine.handles, g.link.isSome) := by
  -- by induction on the machines left, the machines before the position holding sessions
  induction rest with
  | nil =>
    intro i d hacc hlen hlinks
    refine ⟨unrefused_ok _, hacc.kept, rfl, fun _ g hg => ?_⟩
    change g ∈ d.engine.handles at hg
    obtain ⟨j, hj⟩ := List.mem_iff_getElem?.mp hg
    have hlt : j < i := by
      have := (List.getElem?_eq_some_iff.mp hj).1
      simp only [List.length_nil, Nat.add_zero] at hlen
      omega
    exact (hlinks j g hj).mpr hlt
  | cons h rest ih =>
    intro i d hacc hlen hlinks
    have hi : i < d.engine.handles.length := by
      simp only [List.length_cons] at hlen
      omega
    obtain ⟨g, hg⟩ : ∃ g, d.engine.handles[i]? = some g := ⟨_, List.getElem?_eq_getElem hi⟩
    have hnone : g.link = none := by simpa using hlinks i g hg
    rw [linkFrom, outcome_engine_bind, outcome_connect_bind]
    split
    · -- the connect fails, and the machine holds nothing
      exact ⟨by simp, ⟨rfl, rfl, rfl, hacc.asked _, rfl⟩, rfl, fun hok => by
        simp [Except.isOk, Except.toBool] at hok⟩
    · -- the machine at the position holds the new session
      rw [outcome_update_bind]
      let d2 : Deployment := { d with
        lab := d.lab.opened (callFor d.engine.settings h.machine.ssh via)
        engine := { d.engine with
          handles := d.engine.handles.modify i fun h => { h with link := some d.lab.sessions.length } } }
      have hacc2 : d2.Accounted := by
        refine Deployment.Accounted.hold hacc _ rfl fun j => ?_
        simp only [d2, Deployment.held, List.count_append, count_link_modify hg hnone]
        omega
      have hlinks2 : ∀ j g', d2.engine.handles[j]? = some g' → (g'.link.isSome ↔ j < i + 1) := by
        intro j g' hj
        simp only [d2, List.getElem?_modify] at hj
        cases ha : d.engine.handles[j]? with
        | none => simp [ha] at hj
        | some a =>
          simp only [ha, Option.map_eq_map, Option.map_some, Option.some.injEq] at hj
          subst hj
          by_cases hij : i = j
          · simp [hij]
          · rw [if_neg hij, hlinks j a ha]
            omega
      have hw := ih (i + 1) d2 hacc2
        (by simp only [d2, List.length_cons, List.length_modify] at hlen ⊢; omega) hlinks2
      exact ⟨hw.1, (⟨rfl, rfl, Deployment.machines_link_modify _ _ _, hacc2, rfl⟩ : d.Kept d2).trans hw.2.1,
        hw.2.2.1, hw.2.2.2⟩

/-- **Abandoning a connect** closes every session held, once, and lets it go. -/
theorem abandon_went {d : Deployment} (h : d.Accounted) :
    (outcome abandon d).1 = .ok () ∧ (outcome abandon d).2.held = [] ∧
      d.Kept (outcome abandon d).2 := by
  have hmem : ∀ n ∈ d.engine.proxy.toList ++ (d.engine.handles.map (·.link)).filterMap id,
      n < d.lab.sessions.length := fun n hn => h.bounded n (by simpa [Deployment.held] using hn)
  unfold abandon
  rw [outcome_engine_bind]
  -- the machines' sessions are closed first, then the jump host's
  obtain ⟨_, d1, hc1, heq1⟩ := closes_bind_outcome (closes_forM_closeQuietly
    (d.engine.handles.map (·.link))) (k := fun _ => _) fun n hn => hmem n (List.mem_append_right _ hn)
  rw [heq1, outcome_update_bind]
  let d2 : Deployment := { d1 with
    engine := { d1.engine with handles := d1.engine.handles.map fun h => { h with link := none } } }
  obtain ⟨_, d3, hc3, heq3⟩ := closes_bind_outcome (closes_closeQuietly d.engine.proxy)
    (k := fun _ => _) (d := d2) fun n hn => hc1.length ▸ hmem n (List.mem_append_left _ hn)
  rw [heq3, outcome_update]
  have hheld : Deployment.held { d3 with engine := { d3.engine with proxy := none } } = [] := by
    simp [Deployment.held, hc3.handles, d2, List.filterMap_map]
  refine ⟨rfl, hheld, ⟨hc3.spec.trans hc1.spec, hc3.stage.trans hc1.stage, ?_, ?_,
    hc3.pending.trans hc1.pending⟩⟩
  · simp [hc3.handles, hc1.handles, d2]
  · refine h.release (hc3.length.trans hc1.length) (fun j => ?_) hheld
    have hlinks : (d.engine.handles.map (·.link)).filterMap id =
        d.engine.handles.filterMap Handle.link := by
      rw [List.filterMap_map]
      rfl
    simp only [hc3.closes, d2, hc1.closes, hlinks, Deployment.held, List.count_append]
    omega

/-- **Disconnecting** closes every session held, once, lets it go and ends disconnected; the
failures it gathers on the way are reported as such, never as a refusal. -/
theorem disconnect_went {d : Deployment} (hstage : d.engine.stage ∈ [.connected, .installing,
    .installed]) (h : d.Accounted) :
    Unrefused (outcome disconnect d).1 ∧ (outcome disconnect d).2.held = [] ∧
      (d.withStage .disconnected).Kept (outcome disconnect d).2 := by
  have hmem : ∀ n ∈ d.engine.handles.filterMap Handle.link ++ d.engine.proxy.toList,
      n < d.lab.sessions.length :=
    fun n hn => h.bounded n (by simp only [Deployment.held, List.mem_append] at hn ⊢; tauto)
  unfold disconnect
  rw [outcome_require_bind hstage, outcome_engine_bind]
  -- the machines are released first
  obtain ⟨fs, d1, hc1, heq1⟩ := closes_bind_outcome (closes_foldlM_release d.engine.cleanupPending
    d.engine.settings d.engine.handles []) (k := fun _ => _)
    fun n hn => hmem n (List.mem_append_left _ hn)
  rw [heq1, outcome_update_bind]
  let d2 : Deployment := { d1 with
    engine := { d1.engine with handles := d1.engine.handles.map fun h => { h with link := none } } }
  -- what is left once the jump host's session is closed too
  have htail : ∀ (fs' : List (String × Failure)) (d3 : Deployment),
      d3.engine.handles = d2.engine.handles → d3.engine.proxy = none →
      d3.engine.spec = d.engine.spec → d3.lab.sessions.length = d.lab.sessions.length →
      (∀ j, (d3.lab.session j).closes = (d.lab.session j).closes + d.held.count j) →
      d3.engine.cleanupPending = d.engine.cleanupPending →
      Unrefused (outcome (update (fun e => { e with stage := .disconnected }) >>= fun _ =>
          if !fs'.isEmpty then throw (Failure.disconnect fs') else pure ()) d3).1 ∧
        (outcome (update (fun e => { e with stage := .disconnected }) >>= fun _ =>
          if !fs'.isEmpty then throw (Failure.disconnect fs') else pure ()) d3).2.held = [] ∧
        (d.withStage .disconnected).Kept (outcome (update (fun e => { e with stage := .disconnected })
          >>= fun _ => if !fs'.isEmpty then throw (Failure.disconnect fs') else pure ()) d3).2 := by
    intro fs' d3 hhandles hproxy hspec hlen hcloses hpending
    rw [outcome_update_check]
    refine ⟨?_, h.letGo .disconnected (by simp [hhandles, d2, hc1.handles]) hproxy hspec rfl hlen
      hcloses hpending⟩
    split <;> simp
  cases hp : d.engine.proxy with
  | none =>
    refine htail fs d2 rfl (hc1.proxy.trans hp) hc1.spec hc1.length (fun j => ?_) hc1.pending
    simp [d2, hc1.closes, Deployment.held, hp]
  | some n =>
    dsimp only
    obtain ⟨r, d3, hc3, heq3⟩ := closes_bind_outcome (closes_attempt_close n) (k := fun _ => _)
      (d := d2) fun m hm => hc1.length ▸ hmem m (List.mem_append_right _ (by simpa [hp] using hm))
    rw [heq3, outcome_update_bind]
    -- whether the close fails or not, the jump host's session was closed once more
    have hcloses : ∀ j, (d3.lab.session j).closes = (d.lab.session j).closes + d.held.count j := by
      intro j
      simp only [hc3.closes, d2, hc1.closes, Deployment.held, hp, Option.toList_some,
        List.count_append, List.count_cons]
      omega
    cases r <;>
      exact htail _ _ hc3.handles rfl (hc3.spec.trans hc1.spec) (hc3.length.trans hc1.length) hcloses
        (hc3.pending.trans hc1.pending)

end Deploy

end ClusterDeploy
