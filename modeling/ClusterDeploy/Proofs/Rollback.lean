import ClusterDeploy.Proofs.Disconnect
import Mathlib.Data.List.TakeWhile

/-!
# Rolling back a failed connect

`connect` asks the lab for the jump host, when the description has one, then for every machine
in order, and stops at the first connection the lab refuses.  This module says exactly what it
leaves, in both outcomes:

* `ClusterSpec.connectCalls`  the connections a description asks for, in order;
* `Lab.granted`, `Lab.attempted`  the ones the lab opens, and the ones it is asked for, up to
                              the first it refuses, whose refusal is `Lab.connectFailure`;
* `Lab.connectAll`            the lab once asked for them;
* `Lab.closing`               the lab once some of its sessions were closed once more;
* `Deploy.outcome_linkFrom`   the machines' sessions opened from a position on;
* `Deploy.outcome_abandon`    abandoning closes every session held once, whatever the closes
                              answer, and lets it go;
* `Deploy.abandon_order`      it closes the machines' sessions in order, then the jump host's;
* `Deploy.connect_rolls_back` the whole connect: a refusal is the connect's failure, every
                              session opened on the way is closed exactly once and the engine
                              is left as it was, ready for the same connect again.
-/

namespace ClusterDeploy

namespace ClusterSpec

/-- The jump host the machines are reached through, if the description has one to use. -/
def via (c : ClusterSpec) : Option SshTarget := if c.hasProxy then c.proxy else none

/-- The connections a description asks for, in order: the jump host's, directly, when it has
one, then every machine's, through it. -/
def connectCalls (c : ClusterSpec) (s : Settings) : List ConnectCall :=
  c.via.toList.map (fun p => Deploy.callFor s p none) ++
    c.machines.map fun m => Deploy.callFor s m.ssh c.via

end ClusterSpec

namespace Lab

/-- Whether the lab refuses the connection `call`: its machine is told to fail connects. -/
def refuses (l : Lab) (call : ConnectCall) : Bool := l.fails .connect call.target

/-- The connections of `calls` the lab opens when asked for them in order: those before the
first it refuses. -/
def granted (l : Lab) (calls : List ConnectCall) : List ConnectCall :=
  calls.takeWhile fun call => !l.refuses call

/-- The connections the lab is asked for: those it opens, then the first it refuses, if any. -/
def attempted (l : Lab) (calls : List ConnectCall) : List ConnectCall :=
  l.granted calls ++ (calls.find? l.refuses).toList

/-- The failure asking for `calls` in order meets: the refusal of the first the lab refuses. -/
def connectFailure (l : Lab) (calls : List ConnectCall) : Option Failure :=
  (calls.find? l.refuses).map fun call => .connect ("cannot reach " ++ call.target.address)

/-- The lab once asked for `calls` in order, up to the first it refuses: each request is
recorded, and each granted opens a session. -/
def connectAll (l : Lab) (calls : List ConnectCall) : Lab :=
  { l with
    connects := l.connects ++ l.attempted calls
    sessions := l.sessions ++ (l.granted calls).map fun call => { target := call.target } }

/-- The lab once each of the sessions `ids` was closed once more. -/
def closing (l : Lab) (ids : List Nat) : Lab :=
  { l with sessions := l.sessions.mapIdx fun i s => if i ∈ ids then s.closed else s }

section Connecting

variable {l : Lab} {call : ConnectCall} {calls : List ConnectCall}

@[simp] theorem refuses_asked : (l.asked call).refuses = l.refuses := rfl

@[simp] theorem refuses_opened : (l.opened call).refuses = l.refuses := rfl

@[simp] theorem granted_opened : (l.opened call).granted calls = l.granted calls := rfl

@[simp] theorem connectFailure_opened :
    (l.opened call).connectFailure calls = l.connectFailure calls := rfl

@[simp] theorem connectAll_nil (l : Lab) : l.connectAll [] = l := by
  simp [connectAll, attempted, granted]

theorem granted_cons_refused (h : l.refuses call = true) : l.granted (call :: calls) = [] := by
  simp [granted, h]

theorem granted_cons (h : l.refuses call = false) :
    l.granted (call :: calls) = call :: l.granted calls := by
  simp [granted, h]

theorem connectFailure_cons_refused (h : l.refuses call = true) :
    l.connectFailure (call :: calls) = some (.connect ("cannot reach " ++ call.target.address)) := by
  simp [connectFailure, h]

theorem connectFailure_cons (h : l.refuses call = false) :
    l.connectFailure (call :: calls) = l.connectFailure calls := by
  simp [connectFailure, h]

theorem connectAll_cons_refused (h : l.refuses call = true) :
    l.connectAll (call :: calls) = l.asked call := by
  simp [connectAll, attempted, granted_cons_refused h, h, asked]

theorem connectAll_cons (h : l.refuses call = false) :
    l.connectAll (call :: calls) = (l.opened call).connectAll calls := by
  simp only [connectAll, attempted, granted_opened, refuses_opened, granted_cons h,
    List.find?_cons, h]
  simp [opened, asked]

theorem granted_eq_self (h : l.connectFailure calls = none) : l.granted calls = calls := by
  simp only [connectFailure, Option.map_eq_none_iff, List.find?_eq_none] at h
  exact List.takeWhile_eq_self_iff.2 fun c hc => by simpa using h c hc

end Connecting

section Closing

variable {l : Lab} {ids ids' : List Nat}

@[simp] theorem length_closing : (l.closing ids).sessions.length = l.sessions.length := by
  simp [closing]

@[simp] theorem closing_nil (l : Lab) : l.closing [] = l := by
  have hsame : l.sessions.mapIdx (fun _ s => s) = l.sessions :=
    List.ext_getElem (by simp) fun i _ _ => by simp
  simp [closing, hsame]

theorem closing_congr (h : ∀ i, i ∈ ids ↔ i ∈ ids') : l.closing ids = l.closing ids' := by
  simp only [closing, h]

theorem closing_singleton {id : Nat} (hid : id < l.sessions.length) :
    l.closing [id] = l.setSession id (l.session id).closed := by
  simp only [closing, setSession, Lab.mk.injEq, true_and]
  refine List.ext_getElem (by simp) fun i h₁ h₂ => ?_
  simp only [List.getElem_mapIdx, List.mem_singleton, List.getElem_set]
  by_cases hi : i = id
  · subst hi
    simp [session, List.getD_eq_getElem?_getD, hid]
  · simp [hi, Ne.symm hi]

theorem closing_closing (h : ∀ i ∈ ids, i ∉ ids') :
    (l.closing ids).closing ids' = l.closing (ids ++ ids') := by
  simp only [closing, Lab.mk.injEq, true_and]
  refine List.ext_getElem (by simp) fun i h₁ h₂ => ?_
  simp only [List.getElem_mapIdx, List.mem_append]
  by_cases hi : i ∈ ids
  · simp [hi, h i hi]
  · simp [hi]

theorem connectAll_closing (h : ∀ i, i ∈ ids ↔
      l.sessions.length ≤ i ∧ i < l.sessions.length + (l.granted calls).length) :
    (l.connectAll calls).closing ids = { l with
      connects := l.connects ++ l.attempted calls
      sessions := l.sessions ++ (l.granted calls).map fun call =>
        { target := call.target, events := [.close] } } := by
  simp only [closing, connectAll, Lab.mk.injEq, true_and]
  refine List.ext_getElem (by simp) fun i h₁ h₂ => ?_
  simp only [List.getElem_mapIdx]
  by_cases hi : i < l.sessions.length
  · rw [if_neg fun hm => by have := (h i).1 hm; omega, List.getElem_append_left hi,
      List.getElem_append_left hi]
  · simp only [List.length_mapIdx, List.length_append, List.length_map] at h₁
    rw [if_pos ((h i).2 ⟨by omega, h₁⟩), List.getElem_append_right (by omega),
      List.getElem_append_right (by omega)]
    simp [LabSession.closed]

end Closing

end Lab

namespace Deploy

/-- The machines once those from position `i` on, `k` of them, were linked in order to the
sessions numbered from `n`. -/
def linkedFrom (hs : List Handle) (i n k : Nat) : List Handle :=
  hs.mapIdx fun j g => if i ≤ j ∧ j < i + k then { g with link := some (n + (j - i)) } else g

section Linking

variable (hs : List Handle) (i n k : Nat)

theorem linkedFrom_zero : linkedFrom hs i n 0 = hs :=
  List.ext_getElem (by simp [linkedFrom]) fun j _ _ => by
    simp only [linkedFrom, List.getElem_mapIdx]
    exact if_neg fun hj => by omega

theorem linkedFrom_succ :
    linkedFrom (hs.modify i fun g => { g with link := some n }) (i + 1) (n + 1) k =
      linkedFrom hs i n (k + 1) := by
  refine List.ext_getElem (by simp [linkedFrom]) fun j _ _ => ?_
  simp only [linkedFrom, List.getElem_mapIdx, List.getElem_modify]
  by_cases hij : i = j
  · subst hij
    rw [if_neg (by omega)]
    simp
  · rw [if_neg hij]
    by_cases hj : i + 1 ≤ j ∧ j < i + 1 + k
    · have hn : n + 1 + (j - (i + 1)) = n + (j - i) := by omega
      rw [if_pos hj, if_pos (by omega), hn]
    · rw [if_neg hj, if_neg (by omega)]

theorem linkedFrom_cons_succ (g : Handle) :
    linkedFrom (g :: hs) (i + 1) n k = g :: linkedFrom hs i n k := by
  simp only [linkedFrom, List.mapIdx_cons]
  refine congrArg₂ _ (if_neg (by omega)) (congrArg₂ _ (funext₂ fun j x => ?_) rfl)
  have hj : j + 1 - (i + 1) = j - i := by omega
  simp only [hj]
  congr 1
  exact propext ⟨fun h => ⟨by omega, by omega⟩, fun h => ⟨by omega, by omega⟩⟩

theorem linkedFrom_all : linkedFrom hs 0 n hs.length =
    hs.mapIdx fun j g => { g with link := some (n + j) } :=
  List.ext_getElem (by simp [linkedFrom]) fun j h _ => by
    simp only [linkedFrom, List.length_mapIdx] at h
    simp [linkedFrom, h]

theorem unlink_linkedFrom : (linkedFrom hs i n k).map (fun g => { g with link := none }) =
    hs.map fun g => { g with link := none } :=
  List.ext_getElem (by simp [linkedFrom]) fun j _ _ => by
    simp only [linkedFrom, List.getElem_map, List.getElem_mapIdx]
    split <;> rfl

theorem unlink_of_none {hs : List Handle} (hnone : ∀ g ∈ hs, g.link = none) :
    hs.map (fun g => { g with link := none }) = hs := by
  conv_rhs => rw [← List.map_id hs]
  refine List.map_congr_left fun g hg => ?_
  have hl : g.link = none := hnone g hg
  cases g
  subst hl
  rfl

theorem filterMap_link_linkedFrom (hnone : ∀ g ∈ hs, g.link = none) (hk : k ≤ hs.length) :
    (linkedFrom hs 0 n k).filterMap Handle.link = List.range' n k := by
  induction hs generalizing n k with
  | nil =>
    obtain rfl : k = 0 := by simpa using hk
    rfl
  | cons g hs ih =>
    cases k with
    | zero =>
      rw [linkedFrom_zero, List.filterMap_eq_nil_iff.2 fun a ha => hnone a ha]
      rfl
    | succ k =>
      rw [← linkedFrom_succ, List.modify_zero_cons, linkedFrom_cons_succ, List.filterMap_cons,
        ih (n + 1) k (fun a ha => hnone a (List.mem_cons_of_mem g ha))
          (by simpa using hk)]
      rfl

end Linking

/-- **Opening the machines' sessions** from position `i` on: the lab is asked for each machine
in turn, up to the first it refuses, whose refusal is the failure, and each machine it opens a
session for holds that session. -/
theorem outcome_linkFrom (via : Option SshTarget) (rest : List Handle) :
    ∀ (i : Nat) (D : Deployment),
      let calls := rest.map fun g => callFor D.engine.settings g.machine.ssh via
      outcome (linkFrom via i rest) D =
        ((D.lab.connectFailure calls).elim (.ok ()) .error, { D with
          lab := D.lab.connectAll calls
          engine := { D.engine with
            handles := linkedFrom D.engine.handles i D.lab.sessions.length
              (D.lab.granted calls).length } }) := by
  -- by induction on the machines left, from any position and deployment
  induction rest with
  | nil =>
    intro i D
    simp [linkFrom, Lab.connectFailure, Lab.granted, linkedFrom_zero]
    rfl
  | cons g rest ih =>
    intro i D
    rw [linkFrom, outcome_engine_bind, outcome_connect_bind]
    cases hr : D.lab.refuses (callFor D.engine.settings g.machine.ssh via) with
    | true =>
      -- the machine is refused: nothing is opened, and nothing after it asked for
      have hf : D.lab.fails .connect (callFor D.engine.settings g.machine.ssh via).target = true := hr
      simp only [hf, if_true, List.map_cons, Lab.connectFailure_cons_refused hr,
        Lab.connectAll_cons_refused hr, Lab.granted_cons_refused hr, List.length_nil,
        linkedFrom_zero]
      rfl
    | false =>
      -- the machine holds the new session, and the rest are opened from the next position
      have hf : D.lab.fails .connect (callFor D.engine.settings g.machine.ssh via).target = false := hr
      simp only [hf, Bool.false_eq_true, if_false, outcome_update_bind]
      rw [ih (i + 1)]
      simp only [List.map_cons, Lab.connectFailure_cons hr, Lab.connectAll_cons hr,
        Lab.granted_cons hr, List.length_cons, Lab.connectFailure_opened, Lab.granted_opened,
        Lab.length_opened, linkedFrom_succ]

theorem outcome_forM_closeQuietly_bind {β : Type} (os : List (Option Nat)) (k : Unit → Deploy β) :
    ∀ D : Deployment, (os.filterMap id).Nodup →
      (∀ j ∈ os.filterMap id, j < D.lab.sessions.length) →
      outcome (os.forM closeQuietly >>= k) D =
        outcome (k ()) { D with lab := D.lab.closing (os.filterMap id) } := by
  induction os with
  | nil =>
    intro D _ _
    rw [show ([] : List (Option Nat)).forM closeQuietly = pure () from rfl, pure_bind]
    simp only [List.filterMap_nil, Lab.closing_nil]
  | cons o os ih =>
    intro D hnodup hb
    rw [show (o :: os).forM closeQuietly = (closeQuietly o >>= fun _ => os.forM closeQuietly)
      from rfl, bind_assoc]
    cases o with
    | none =>
      rw [List.filterMap_cons_none rfl] at hnodup hb ⊢
      rw [closeQuietly, pure_bind]
      exact ih D hnodup hb
    | some j =>
      rw [List.filterMap_cons_some (show id (some j) = some j from rfl)] at hnodup hb ⊢
      simp only [List.nodup_cons, List.mem_cons, forall_eq_or_imp] at hnodup hb
      rw [closeQuietly, bind_assoc, outcome_attempt_close_bind]
      simp only [pure_bind]
      rw [ih _ hnodup.2 fun i hi => by simpa [Deployment.withSession, Lab.setSession] using hb.2 i hi]
      simp only [Deployment.withSession, ← Lab.closing_singleton hb.1]
      rw [Lab.closing_closing fun i hi => by
        simp only [List.mem_singleton] at hi
        exact hi ▸ hnodup.1]
      rfl

/-- **Abandoning a connect** closes every session held once, whatever the closes answer, and
lets the sessions go. -/
theorem outcome_abandon (D : Deployment) (hnodup : D.held.Nodup)
    (hb : ∀ j ∈ D.held, j < D.lab.sessions.length) :
    outcome abandon D = (.ok (), { D with
      lab := D.lab.closing D.held
      engine := { D.engine with
        handles := D.engine.handles.map fun g => { g with link := none }
        proxy := none } }) := by
  have hlinks : (D.engine.handles.map (·.link)).filterMap id =
      D.engine.handles.filterMap Handle.link := by
    rw [List.filterMap_map]
    rfl
  have hheld : D.held = D.engine.proxy.toList ++ D.engine.handles.filterMap Handle.link := rfl
  rw [hheld] at hnodup hb ⊢
  unfold abandon
  -- the machines' sessions are closed first
  rw [outcome_engine_bind, outcome_forM_closeQuietly_bind _ _ D (hlinks ▸ hnodup.of_append_right)
    (hlinks ▸ fun j hj => hb j (List.mem_append_right _ hj)), outcome_update_bind, hlinks]
  cases hp : D.engine.proxy with
  | none =>
    simp only [closeQuietly, pure_bind, outcome_update, Option.toList_none, List.nil_append]
  | some p =>
    -- then the jump host's, which is none of theirs
    simp only [hp, Option.toList_some, List.singleton_append, List.nodup_cons, List.mem_cons,
      forall_eq_or_imp] at hnodup hb
    rw [closeQuietly, bind_assoc, outcome_attempt_close_bind]
    simp only [pure_bind, outcome_update, Deployment.withSession]
    rw [← Lab.closing_singleton (by simpa using hb.1), Lab.closing_closing fun i hi hp' => by
      simp only [List.mem_singleton] at hp'
      exact hnodup.1 (hp' ▸ hi)]
    have hsame : ∀ i, i ∈ D.engine.handles.filterMap Handle.link ++ [p] ↔
        i ∈ p :: D.engine.handles.filterMap Handle.link := fun i => by
      simp [or_comm]
    rw [Lab.closing_congr hsame]
    rfl

theorem update_closeQuietly (f g : Engine → Engine) (o : Option Nat) :
    (update f >>= fun _ => closeQuietly o >>= fun _ => update g) =
      (closeQuietly o >>= fun _ => update (g ∘ f)) := by
  funext D
  cases o with
  | none => rfl
  | some p =>
    have hu : ∀ (h : Engine → Engine) (D : Deployment),
        (update h).run D = .ok () { D with engine := h D.engine } := fun _ _ => rfl
    change EStateM.run _ D = EStateM.run _ D
    simp only [closeQuietly, EStateM.run_bind, run_attempt, run_onLab, bind_assoc, pure_bind, hu]
    cases (Lab.close p).run D.lab <;> rfl

/-- **The order of a rollback**: the machines' sessions are closed in order, then the jump
host's, each quietly, and every session is let go. -/
theorem abandon_order : abandon = (do
    let e ← engine
    (e.handles.map (·.link) ++ [e.proxy]).forM closeQuietly
    update fun e => { e with
      handles := e.handles.map fun h => { h with link := none }
      proxy := none }) := by
  unfold abandon
  refine congrArg (engine >>= ·) (funext fun e => ?_)
  rw [show (e.handles.map (·.link) ++ [e.proxy]).forM closeQuietly =
      forM (e.handles.map (·.link) ++ [e.proxy]) closeQuietly from rfl, List.forM_append,
    bind_assoc]
  refine congrArg (_ >>= ·) (funext fun _ => ?_)
  rw [update_closeQuietly]
  simp only [List.forM_cons, List.forM_nil, bind_assoc]
  rfl

section Connect

variable {d : Deployment} {c : ClusterSpec}

theorem length_granted_le (l : Lab) (calls : List ConnectCall) :
    (l.granted calls).length ≤ calls.length :=
  (List.takeWhile_prefix _).length_le

theorem machineCalls_eq (h : d.Lifecycle) (hc : d.engine.spec = some c) (via : Option SshTarget) :
    d.engine.handles.map (fun g => callFor d.engine.settings g.machine.ssh via) =
      c.machines.map fun m => callFor d.engine.settings m.ssh via := by
  rw [← (h.described c hc).2, List.map_map]
  rfl

theorem connectCalls_direct (h : d.Lifecycle) (hc : d.engine.spec = some c)
    (hx : c.hasProxy = false) : c.connectCalls d.engine.settings =
      d.engine.handles.map fun g => callFor d.engine.settings g.machine.ssh none := by
  simp [ClusterSpec.connectCalls, ClusterSpec.via, hx, machineCalls_eq h hc]

theorem connectCalls_through (h : d.Lifecycle) (hc : d.engine.spec = some c) {p : SshTarget}
    (hp : c.proxy = some p) (hx : c.hasProxy = true) : c.connectCalls d.engine.settings =
      callFor d.engine.settings p none ::
        d.engine.handles.map fun g => callFor d.engine.settings g.machine.ssh (some p) := by
  simp [ClusterSpec.connectCalls, ClusterSpec.via, hx, hp, machineCalls_eq h hc]

/-- What opening the sessions leaves, from `d` and for the description `c`: the answer `r` is
the first refusal, if any, and the lab was asked for the connections up to it; the jump host
holds `P` and the first `k` machines are linked to the sessions after it, which together are
every session opened; and when nothing is refused, the jump host holds a session exactly when
the description has one, and every machine is linked. -/
structure Opened (d : Deployment) (c : ClusterSpec) (r : Except Failure Unit) (D : Deployment)
    (P : Option Nat) (k : Nat) : Prop where
  answer : r = (d.lab.connectFailure (c.connectCalls d.engine.settings)).elim (.ok ()) .error
  state : D = { d with
    lab := d.lab.connectAll (c.connectCalls d.engine.settings)
    engine := { d.engine with
      proxy := P
      handles := linkedFrom d.engine.handles 0 (d.lab.sessions.length + P.toList.length) k } }
  held : P.toList ++ List.range' (d.lab.sessions.length + P.toList.length) k =
    List.range' d.lab.sessions.length (d.lab.granted (c.connectCalls d.engine.settings)).length
  bound : k ≤ d.engine.handles.length
  complete : d.lab.connectFailure (c.connectCalls d.engine.settings) = none →
    P = (if c.hasProxy then some d.lab.sessions.length else none) ∧ k = d.engine.handles.length

theorem opened_direct (h : d.Lifecycle) (hc : d.engine.spec = some c) (hx : c.hasProxy = false)
    (hproxy0 : d.engine.proxy = none) :
    Opened d c (outcome (linkFrom none 0 d.engine.handles) d).1
      (outcome (linkFrom none 0 d.engine.handles) d).2 none
      (d.lab.granted (c.connectCalls d.engine.settings)).length := by
  have hcalls := connectCalls_direct h hc hx
  rw [outcome_linkFrom, ← hcalls]
  refine ⟨rfl, by simp [hproxy0], by simp, ?_, fun hf => ⟨by simp [hx], ?_⟩⟩
  · simpa [hcalls] using length_granted_le d.lab (c.connectCalls d.engine.settings)
  · rw [Lab.granted_eq_self hf, hcalls, List.length_map]

theorem opened_refused (h : d.Lifecycle) (hc : d.engine.spec = some c) {p : SshTarget}
    (hp : c.proxy = some p) (hx : c.hasProxy = true) (hproxy0 : d.engine.proxy = none)
    (hr : d.lab.refuses (callFor d.engine.settings p none) = true) :
    Opened d c (.error (.connect ("cannot reach " ++ (callFor d.engine.settings p none).target.address)))
      { d with lab := d.lab.asked (callFor d.engine.settings p none) } none 0 := by
  have hcalls := connectCalls_through h hc hp hx
  refine ⟨?_, ?_, by simp [hcalls, Lab.granted_cons_refused hr], by simp, fun hf => ?_⟩
  · rw [hcalls, Lab.connectFailure_cons_refused hr]
    rfl
  · rw [hcalls, Lab.connectAll_cons_refused hr, linkedFrom_zero, ← hproxy0]
  · simp [hcalls, Lab.connectFailure_cons_refused hr] at hf

theorem opened_through (h : d.Lifecycle) (hc : d.engine.spec = some c) {p : SshTarget}
    (hp : c.proxy = some p) (hx : c.hasProxy = true)
    (hr : d.lab.refuses (callFor d.engine.settings p none) = false) :
    let D0 : Deployment := { d with
      lab := d.lab.opened (callFor d.engine.settings p none)
      engine := { d.engine with proxy := some d.lab.sessions.length } }
    let mcalls := d.engine.handles.map fun g => callFor d.engine.settings g.machine.ssh (some p)
    Opened d c (outcome (linkFrom (some p) 0 d.engine.handles) D0).1
      (outcome (linkFrom (some p) 0 d.engine.handles) D0).2 (some d.lab.sessions.length)
      (d.lab.granted mcalls).length := by
  intro D0 mcalls
  have hcalls : c.connectCalls d.engine.settings = callFor d.engine.settings p none :: mcalls :=
    connectCalls_through h hc hp hx
  rw [outcome_linkFrom]
  refine ⟨?_, ?_, ?_, ?_, fun hf => ?_⟩
  · rw [hcalls, Lab.connectFailure_cons hr]
    rfl
  · rw [hcalls, Lab.connectAll_cons hr]
    simp [D0, mcalls]
  · rw [hcalls, Lab.granted_cons hr]
    simp [List.range'_succ]
  · simpa [mcalls] using length_granted_le d.lab mcalls
  · rw [hcalls, Lab.connectFailure_cons hr] at hf
    refine ⟨by simp [hx], ?_⟩
    rw [Lab.granted_eq_self hf, List.length_map]

section Opened

variable {r : Except Failure Unit} {D : Deployment} {P : Option Nat} {k : Nat}

theorem Opened.held_eq (ho : Opened d c r D P k) (hnone : ∀ g ∈ d.engine.handles, g.link = none) :
    D.held = List.range' d.lab.sessions.length
      (d.lab.granted (c.connectCalls d.engine.settings)).length := by
  rw [ho.state, ← ho.held]
  simp [Deployment.held, filterMap_link_linkedFrom _ _ _ hnone ho.bound]

/-- **A refusal rolls back** what was opened: every session opened is closed once, the lab
recording nothing else, and the engine is left as it was. -/
theorem Opened.rollback (ho : Opened d c r D P k) (hnone : ∀ g ∈ d.engine.handles, g.link = none)
    (hproxy0 : d.engine.proxy = none) (f : Failure) :
    let calls := c.connectCalls d.engine.settings
    outcome (abandon >>= fun _ => throw f : Deploy Unit) D = (.error f, { d with
      lab := { d.lab with
        connects := d.lab.connects ++ d.lab.attempted calls
        sessions := d.lab.sessions ++ (d.lab.granted calls).map fun g =>
          { target := g.target, events := [.close] } } }) := by
  intro calls
  have hheld : D.held = List.range' d.lab.sessions.length (d.lab.granted calls).length :=
    ho.held_eq hnone
  have hlen : D.lab.sessions.length = d.lab.sessions.length + (d.lab.granted calls).length := by
    simp [ho.state, Lab.connectAll, calls]
  rw [outcome_bind_ok (outcome_abandon D (hheld ▸ List.nodup_range')
    fun j hj => by rw [hheld, List.mem_range'_1] at hj; omega)]
  refine Prod.ext rfl ?_
  show { D with lab := _, engine := _ } = _
  rw [hheld, ho.state]
  simp only [unlink_linkedFrom, unlink_of_none hnone]
  rw [Lab.connectAll_closing fun i => List.mem_range'_1]
  congr 1
  rw [← hproxy0]

theorem Opened.connected (ho : Opened d c r D P k)
    (hok : d.lab.connectFailure (c.connectCalls d.engine.settings) = none) :
    let n := d.lab.sessions.length
    outcome (update fun e => { e with stage := .connected }) D = (.ok (), { d with
      lab := d.lab.connectAll (c.connectCalls d.engine.settings)
      engine := { d.engine with
        stage := .connected
        proxy := if c.hasProxy then some n else none
        handles := d.engine.handles.mapIdx fun j g =>
          { g with link := some (n + c.via.toList.length + j) } } }) := by
  intro n
  obtain ⟨hP, hk⟩ := ho.complete hok
  -- the machines' sessions come after the jump host's, when there is one
  have hvia : P.toList.length = c.via.toList.length := by
    rw [hP]
    unfold ClusterSpec.via
    cases hx : c.hasProxy with
    | false => rfl
    | true =>
      cases hp : c.proxy with
      | none => simp [ClusterSpec.hasProxy, hp] at hx
      | some q => rfl
  rw [outcome_update, ho.state, hk, linkedFrom_all, hvia, hP]

end Opened

/-- **Connecting rolls back.**  From the stage a description was adopted at, the lab is asked
for the jump host, when the description has one, then for every machine in order, up to the
first it refuses.  When it refuses one, that refusal is the connect's failure, every session
opened on the way is closed exactly once, the machines' in order then the jump host's, whatever
the closes answer, and the engine is left exactly as it was, so the same connect can be asked
for again.  Otherwise the engine is connected, the jump host and each machine holding its own
new session. -/
theorem connect_rolls_back (h : d.Lifecycle) (hs : d.engine.stage = .specSet)
    (hc : d.engine.spec = some c) :
    let calls := c.connectCalls d.engine.settings
    let n := d.lab.sessions.length
    abandon = (do
      let e ← engine
      (e.handles.map (·.link) ++ [e.proxy]).forM closeQuietly
      update fun e => { e with
        handles := e.handles.map fun h => { h with link := none }
        proxy := none }) ∧
    match calls.find? d.lab.refuses with
    | some call => outcome connect d =
        (.error (.connect ("cannot reach " ++ call.target.address)), { d with
          lab := { d.lab with
            connects := d.lab.connects ++ d.lab.attempted calls
            sessions := d.lab.sessions ++ (d.lab.granted calls).map fun g =>
              { target := g.target, events := [.close] } } })
    | none => outcome connect d = (.ok (), { d with
        lab := d.lab.connectAll calls
        engine := { d.engine with
          stage := .connected
          proxy := if c.hasProxy then some n else none
          handles := d.engine.handles.mapIdx fun j g =>
            { g with link := some (n + c.via.toList.length + j) } } }) := by
  intro calls n
  refine ⟨abandon_order, ?_⟩
  -- at the adopted stage nothing is held yet
  have hidle := h.idle (by simp [hs, Stage.live])
  have hproxy0 : d.engine.proxy = none := by
    cases hp : d.engine.proxy with
    | none => rfl
    | some p => simp [Deployment.held, hp] at hidle
  have hnone : ∀ g ∈ d.engine.handles, g.link = none := by
    simpa [Deployment.held, hproxy0, List.filterMap_eq_nil_iff] using hidle
  unfold connect
  rw [outcome_require_bind (by simp [hs]), outcome_spec_bind hc _,
    outcome_bind_ok (outcome_attempt _ d)]
  generalize hX : outcome _ d = p
  obtain ⟨r, D1⟩ := p
  -- opening: the jump host's session, when the description has one, then the machines'
  obtain ⟨P, k, ho⟩ : ∃ P k, Opened d c r D1 P k := by
    cases hx : c.hasProxy with
    | false =>
      have hout : outcome (linkFrom none 0 d.engine.handles) d = (r, D1) := by
        cases hp : c.proxy with
        | none =>
          rw [hp] at hX
          dsimp only at hX
          rwa [pure_bind, outcome_engine_bind] at hX
        | some p =>
          rw [hp] at hX
          dsimp only at hX
          rwa [hx, if_neg Bool.false_ne_true, pure_bind, outcome_engine_bind] at hX
      have ho := opened_direct h hc hx hproxy0
      rw [hout] at ho
      exact ⟨_, _, ho⟩
    | true =>
      obtain ⟨p, hp⟩ : ∃ p, c.proxy = some p := by
        cases hp : c.proxy with
        | none => simp [ClusterSpec.hasProxy, hp] at hx
        | some p => exact ⟨p, rfl⟩
      rw [hp] at hX
      dsimp only at hX
      rw [if_pos hx, outcome_engine_bind, outcome_connect_bind] at hX
      cases hr : d.lab.refuses (callFor d.engine.settings p none) with
      | true =>
        have hf : d.lab.fails .connect (callFor d.engine.settings p none).target = true := hr
        rw [if_pos hf, Prod.mk.injEq] at hX
        obtain ⟨rfl, rfl⟩ := hX
        exact ⟨_, _, opened_refused h hc hp hx hproxy0 hr⟩
      | false =>
        have hf : d.lab.fails .connect (callFor d.engine.settings p none).target = false := hr
        rw [if_neg (by simp [hf]), outcome_update_bind, pure_bind, outcome_engine_bind] at hX
        have ho := opened_through h hc hp hx hr
        dsimp only at ho
        rw [hX] at ho
        exact ⟨_, _, ho⟩
  -- a refusal rolls back; otherwise the engine is connected
  cases hf : calls.find? d.lab.refuses with
  | some call =>
    have hfail : d.lab.connectFailure calls =
        some (.connect ("cannot reach " ++ call.target.address)) := by
      simp [Lab.connectFailure, hf]
    rw [ho.answer, hfail]
    exact ho.rollback hnone hproxy0 _
  | none =>
    have hok : d.lab.connectFailure calls = none := by simp [Lab.connectFailure, hf]
    rw [ho.answer, hok]
    exact ho.connected hok

/-- The lab cluster with its description adopted, where the agent's machine refuses
connections. -/
def labAdopted : Deployment :=
  { engine := { settings := Settings.default, stage := .specSet, spec := some labCluster
                handles := labCluster.machines.map fun m => { machine := m } }
    lab := { faults := [(.connect, ["10.0.0.2"])] } }

theorem labAdopted_lifecycle : labAdopted.Lifecycle where
  described c hc := by
    cases hc
    exact ⟨rfl, rfl⟩
  live h := absurd h (by decide)
  idle _ := rfl
  accounted := ⟨by decide, by decide⟩
  armed _ := rfl

/-- The server's session is opened, the agent's machine refuses, and the server's session is
closed again. -/
theorem lab_connect_rolls_back :
    let d := labAdopted
    let c := labCluster
    d.Lifecycle ∧ d.engine.stage = .specSet ∧ d.engine.spec = some c ∧
    (let calls := c.connectCalls d.engine.settings
    let n := d.lab.sessions.length
    abandon = (do
      let e ← engine
      (e.handles.map (·.link) ++ [e.proxy]).forM closeQuietly
      update fun e => { e with
        handles := e.handles.map fun h => { h with link := none }
        proxy := none }) ∧
    match calls.find? d.lab.refuses with
    | some call => outcome connect d =
        (.error (.connect ("cannot reach " ++ call.target.address)), { d with
          lab := { d.lab with
            connects := d.lab.connects ++ d.lab.attempted calls
            sessions := d.lab.sessions ++ (d.lab.granted calls).map fun g =>
              { target := g.target, events := [.close] } } })
    | none => outcome connect d = (.ok (), { d with
        lab := d.lab.connectAll calls
        engine := { d.engine with
          stage := .connected
          proxy := if c.hasProxy then some n else none
          handles := d.engine.handles.mapIdx fun j g =>
            { g with link := some (n + c.via.toList.length + j) } } })) :=
  ⟨labAdopted_lifecycle, rfl, rfl, connect_rolls_back labAdopted_lifecycle rfl rfl⟩

end Connect

end Deploy

end ClusterDeploy
