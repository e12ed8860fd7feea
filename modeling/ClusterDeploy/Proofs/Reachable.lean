import ClusterDeploy.Proofs.Lifecycle
import ClusterDeploy.Deploy.Step
import Mathlib.Order.Defs.Unbundled

/-!
# Every reachable deployment

A deployment is reached (`Reaches`) from a fresh engine, over a lab that has opened no session
yet, by steps of any kind in any order and any number of times; the faults of the lab's machines
may be changed between them.  Every reached deployment is in the lifecycle
(`Deployment.Lifecycle`), and every step from it is lawful (`Step.Lawful`).

* `Deploy.Within R act`   whatever `act` does, the deployment after it is related to the one
                          before by `R`; closed under `>>=`, `attempt` and `forM` when `R` is a
                          preorder;
* `Deployment.Quiet`      the engine as it was, and every session closed as often: what reading
                          the engine, calling on sessions and writing local files leave;
* `Step.Lawful`           the stage moves along `Stage.Moves`; a failed adoption or connect
                          leaves it, a failed install leaves it installing, uninstalling,
                          fetching the kubeconfig and the reading steps leave it, and a step
                          refused at its stage changes neither the engine nor the lab;
* `step_went`             every step from a deployment in the lifecycle is lawful and keeps it;
* `reaches_lifecycle`     the lifecycle as it shows in every reached deployment.
-/

namespace ClusterDeploy

namespace Deployment

/-- `d'` is `d` with the same engine, as many sessions and none closed once more. -/
structure Quiet (d d' : Deployment) : Prop where
  engine : d'.engine = d.engine
  length : d'.lab.sessions.length = d.lab.sessions.length
  closes : ∀ id, (d'.lab.session id).closes = (d.lab.session id).closes

theorem Quiet.refl (d : Deployment) : d.Quiet d := ⟨rfl, rfl, fun _ => rfl⟩

theorem Quiet.trans {d d' d'' : Deployment} (h : d.Quiet d') (h' : d'.Quiet d'') : d.Quiet d'' :=
  ⟨h'.engine.trans h.engine, h'.length.trans h.length, fun id => (h'.closes id).trans (h.closes id)⟩

instance : Std.Refl Deployment.Quiet := ⟨Quiet.refl⟩

instance : IsTrans Deployment Deployment.Quiet := ⟨fun _ _ _ => Quiet.trans⟩

theorem Steady.quiet {d d' : Deployment} (h : d.Steady d') (he : d'.engine = d.engine) :
    d.Quiet d' :=
  ⟨he, h.length, h.closes⟩

theorem Lifecycle.quiet {d d' : Deployment} (h : d.Lifecycle) (hq : d.Quiet d') : d'.Lifecycle := by
  have hheld : d'.held = d.held := by simp [held, hq.engine]
  refine ⟨hq.engine ▸ h.described, hq.engine ▸ h.live, fun hs => hheld ▸ h.idle (hq.engine ▸ hs),
    ⟨fun n hn => ?_, fun n hn => ?_⟩, hq.engine ▸ h.armed⟩
  · rw [hq.length]
    exact h.accounted.bounded n (hheld ▸ hn)
  · rw [hheld, hq.closes]
    exact h.accounted.once n (hq.length ▸ hn)

end Deployment

namespace Deploy

/-- Whatever `act` does, the deployment it leaves is related by `R` to the one it started from. -/
def Within {α : Type} (R : Deployment → Deployment → Prop) (act : Deploy α) : Prop :=
  ∀ d, R d (outcome act d).2

section Within

variable {α β : Type} {R : Deployment → Deployment → Prop}

theorem within_pure [Std.Refl R] (a : α) : Within R (pure a : Deploy α) :=
  fun d => Std.Refl.refl d

theorem within_throw [Std.Refl R] (f : Failure) : Within R (throw f : Deploy α) :=
  fun d => Std.Refl.refl d

theorem within_throw_bind [Std.Refl R] (f : Failure) (k : α → Deploy β) :
    Within R (throw f >>= k) :=
  fun d => Std.Refl.refl d

theorem within_bind [IsTrans Deployment R] {a : Deploy α} {k : α → Deploy β} (ha : Within R a)
    (hk : ∀ x, Within R (k x)) : Within R (a >>= k) := by
  intro d
  have h1 := ha d
  rcases hp : outcome a d with ⟨r, d1⟩
  rw [hp] at h1
  cases r with
  | error e =>
    rw [outcome_bind_error hp]
    exact h1
  | ok x =>
    rw [outcome_bind_ok hp]
    exact IsTrans.trans _ _ _ h1 (hk x d1)

theorem within_attempt {a : Deploy α} (ha : Within R a) : Within R (attempt a) := fun d => by
  rw [outcome_attempt]
  exact ha d

theorem within_orFail [Std.Refl R] (r : Except Failure α) : Within R (orFail r) := by
  cases r with
  | ok a => exact within_pure a
  | error e => exact within_throw e

theorem within_engine [Std.Refl R] : Within R engine := fun d => Std.Refl.refl d

theorem within_get [Std.Refl R] : Within R (get : Deploy Deployment) := fun d => Std.Refl.refl d

theorem within_require [Std.Refl R] [IsTrans Deployment R] (allowed : List Stage) :
    Within R (require allowed) :=
  within_bind within_engine fun _ => by
    split
    · exact within_throw _
    · exact within_pure ()

theorem within_spec [Std.Refl R] [IsTrans Deployment R] : Within R spec :=
  within_bind within_engine fun e => by
    split
    · exact within_pure _
    · exact within_throw _

theorem within_select [Std.Refl R] (s : Selector) : Within R (select s) := fun d => Std.Refl.refl d

theorem within_linkOf [Std.Refl R] (h : Handle) : Within R (linkOf h) := by
  unfold linkOf
  split
  · exact within_pure _
  · exact within_throw _

theorem within_forM [Std.Refl R] [IsTrans Deployment R] {xs : List α} {f : α → Deploy PUnit}
    (hf : ∀ x ∈ xs, Within R (f x)) : Within R (xs.forM f) := by
  induction xs with
  | nil => exact within_pure _
  | cons x xs ih =>
    show Within R (f x >>= fun _ => xs.forM f)
    exact within_bind (hf x List.mem_cons_self) fun _ =>
      ih fun x' hx' => hf x' (List.mem_cons_of_mem x hx')

end Within

theorem outcome_bind_pure (act : Deploy α) (f : α → β) (d : Deployment) :
    outcome (act >>= fun a => pure (f a)) d = ((outcome act d).1.map f, (outcome act d).2) := by
  rcases hout : outcome act d with ⟨r, d1⟩
  cases r with
  | ok a => rw [outcome_bind_ok hout]; rfl
  | error e => rw [outcome_bind_error hout]; rfl

section Quiet

variable {α : Type}

theorem quiet_call (id : Nat) (c : Call) :
    Within Deployment.Quiet (onLab (Lab.onSession id fun l => c.make l)) := fun d => by
  have hs := Deployment.steady_withSession d id (c.after d.lab (d.lab.session id))
    (Call.closes_after _ _ _)
  simp only [outcome, run_onSession_make]
  cases c.fault d.lab (d.lab.session id).target <;> exact hs.quiet rfl

theorem quiet_read (id : Nat) (p : String) :
    Within Deployment.Quiet (onLab (Lab.read id p)) := fun d => by
  have hs := Deployment.steady_withSession d id ((Call.read p).after d.lab (d.lab.session id))
    (Call.closes_after _ _ _)
  simp only [outcome, run_onLab, Lab.read, Lab.run_onSession, Call.read_run]
  cases d.lab.readFault (d.lab.session id).target p <;> exact hs.quiet rfl

/-- **Uninstalling only calls on the sessions**: it leaves the engine as it was, at any stage. -/
theorem quiet_uninstall : Within Deployment.Quiet uninstall :=
  within_bind (within_require _) fun _ => within_bind within_engine fun _ =>
    within_forM fun g _ => within_bind (within_linkOf g) fun id => quiet_call id (.run _)

/-- **Fetching the kubeconfig only reads a server and writes the local file**: it leaves the
engine as it was, at any stage. -/
theorem quiet_kubeconfig (path : String) (forMachines : Bool) :
    Within Deployment.Quiet (kubeconfig path forMachines) := by
  unfold kubeconfig
  refine within_bind (within_require _) fun _ => within_bind within_engine fun e =>
    within_bind (within_select _) fun hs => ?_
  -- the first server, if there is one, is asked for the admin kubeconfig
  cases hs with
  | nil => exact within_throw_bind _ _
  | cons g _ =>
    dsimp only
    rw [pure_bind]
    refine within_bind (within_linkOf g) fun id =>
      within_bind (within_attempt (quiet_read id _)) fun r => ?_
    cases r with
    | error f => exact within_throw_bind _ _
    | ok text =>
      dsimp only
      rw [pure_bind]
      exact within_bind within_get fun d =>
        within_bind (fun d => ⟨rfl, rfl, fun _ => rfl⟩) fun _ => within_orFail _

/-- **Working out a machine's settings only reads the engine.** -/
theorem reads_effectiveConfig (position : Data) : Within Eq (effectiveConfig position) := by
  unfold effectiveConfig
  refine within_bind within_spec fun c => ?_
  dsimp only
  -- the position is read as an index (or refused), the index bounded, then the machine looked up
  split
  case h_3 => exact within_throw_bind _ _
  all_goals
    refine within_bind (within_pure _) fun index => ?_
    split
    · exact within_throw_bind _ _
    · split
      · exact within_pure _
      · exact within_throw _

end Quiet

end Deploy

namespace Deployment

variable {d d' : Deployment}

theorem Lifecycle.proxy_eq_none (h : d.Lifecycle) (hs : d.engine.stage = .uninitialized) :
    d.engine.proxy = none := by
  have hidle := h.idle (by simp [hs, Stage.live])
  cases hp : d.engine.proxy with
  | none => rfl
  | some n => simp [held, hp] at hidle

theorem Lifecycle.taken (h : d.Lifecycle) (hs : d.engine.stage = .uninitialized)
    {c : ClusterSpec} (hv : ClusterSpec.verify (some c) = .ok c) : (d.taking c).Lifecycle := by
  have hidle := h.idle (by simp [hs, Stage.live])
  have hheld : (d.taking c).held = [] := by
    simp [taking, held, h.proxy_eq_none hs, List.filterMap_map]
  refine ⟨fun c' hc' => ?_, fun hlive => absurd hlive (by simp [taking, hs, Stage.live]),
    fun _ => hheld, ⟨fun n hn => by simp [hheld] at hn, fun n hn => ?_⟩, h.armed⟩
  · cases hc'
    exact ⟨hv, by simp [taking, List.map_map, Function.comp_def]⟩
  · rw [hheld]
    have := h.accounted.once n hn
    rwa [hidle] at this

theorem Lifecycle.adopted (h : d.Lifecycle) (hs : d.engine.stage = .uninitialized)
    {c : ClusterSpec} (hv : ClusterSpec.verify (some c) = .ok c) (url : String) :
    Deployment.Lifecycle { d with engine := { d.engine with
      spec := some c, handles := c.machines.map fun m => { machine := m }, serverUrl := url,
      stage := .specSet } } := by
  -- nothing was held before, and the new handles hold nothing
  have hidle := h.idle (by simp [hs, Stage.live])
  have hheld : Deployment.held { d with engine := { d.engine with
      spec := some c, handles := c.machines.map fun m => { machine := m }, serverUrl := url,
      stage := .specSet } } = [] := by
    simp [held, h.proxy_eq_none hs, List.filterMap_map]
  refine ⟨fun c' hc' => ?_, fun hlive => absurd hlive (by simp [Stage.live]), fun _ => hheld,
    ⟨fun n hn => by simp [hheld] at hn, fun n hn => ?_⟩, fun _ => ?_⟩
  · cases hc'
    exact ⟨hv, by simp [List.map_map, Function.comp_def]⟩
  · rw [hheld]
    have := h.accounted.once n hn
    rwa [hidle] at this
  · have harmed := h.armed (by simp [hs])
    rw [hs] at harmed
    exact harmed

theorem Lifecycle.disconnected (h : d.Lifecycle) (hk : (d.withStage .disconnected).Kept d')
    (hheld : d'.held = []) : d'.Lifecycle := by
  have hstage : d'.engine.stage = .disconnected := hk.stage
  refine ⟨fun c hc => ?_, fun hlive => absurd hlive (by simp [hstage, Stage.live]),
    fun _ => hheld, hk.accounted, fun hne => absurd hstage hne⟩
  obtain ⟨hv, hm⟩ := h.described c (hk.spec ▸ hc)
  exact ⟨hv, hk.machines.trans hm⟩

end Deployment

namespace Step

/-- The stage a failed step leaves: an install from the connected stage fails installing, a
disconnect from a live stage ends disconnected even when it fails, and any other failure leaves
the stage as it was. -/
def failedStage : Step → Stage → Stage
  | .install, s => if s = .connected then .installing else s
  | .disconnect, s => if s.live then .disconnected else s
  | _, s => s

def keepsStage : Step → Bool
  | .setSpec _ | .connect | .install | .disconnect => false
  | _ => true

/-- What the lifecycle allows of the step `st` from `d`, which gave `r` and left `d'`. -/
structure Lawful {α : Type} (st : Step) (d : Deployment) (r : Except Failure α) (d' : Deployment) :
    Prop where
  /-- the stage moves along the lifecycle -/
  moves : Relation.ReflTransGen Stage.Moves d.engine.stage d'.engine.stage
  /-- a failed step leaves the stage its kind of step fails at -/
  failed : r.isOk = false → d'.engine.stage = st.failedStage d.engine.stage
  /-- some steps never move it -/
  kept : st.keepsStage = true → d'.engine.stage = d.engine.stage
  /-- a step refused at its stage changes neither the engine nor the lab -/
  refused : ∀ m, r = .error (.state m) → d'.engine = d.engine ∧ d'.lab = d.lab

variable {α β : Type} {st : Step} {d d' : Deployment}

theorem lawful_stay {r : Except Failure α} (he : d'.engine = d.engine) (hl : d'.lab = d.lab)
    (hf : r.isOk = false → st.failedStage d.engine.stage = d.engine.stage) : Lawful st d r d' :=
  ⟨he ▸ .refl, fun hr => he ▸ (hf hr).symm, fun _ => he ▸ rfl, fun _ _ => ⟨he, hl⟩⟩

theorem Lawful.map {r : Except Failure α} (h : Lawful st d r d') (f : α → β) :
    Lawful st d (r.map f) d' := by
  cases r with
  | ok a => exact ⟨h.moves, fun hr => h.failed hr, h.kept, fun m hm => by cases hm⟩
  | error e => exact ⟨h.moves, fun hr => h.failed hr, h.kept, fun m hm => h.refused m (by simpa [Except.map] using hm)⟩

/-- `act`, run from `d` as the step `st`, is lawful and keeps the lifecycle. -/
def Keeps (st : Step) (act : Deploy α) (d : Deployment) : Prop :=
  Lawful st d (Deploy.outcome act d).1 (Deploy.outcome act d).2 ∧ (Deploy.outcome act d).2.Lifecycle

theorem Keeps.map {act : Deploy α} (h : st.Keeps act d) (f : α → β) :
    st.Keeps (act >>= fun a => pure (f a)) d := by
  unfold Keeps
  rw [Deploy.outcome_bind_pure]
  exact ⟨h.1.map f, h.2⟩

theorem Lawful.congr {d₁ : Deployment} {r : Except Failure α} (h : Lawful st d₁ r d')
    (he : d₁.engine = d.engine) (hl : d₁.lab = d.lab) : Lawful st d r d' :=
  ⟨he ▸ h.moves, he ▸ h.failed, he ▸ h.kept, hl ▸ he ▸ h.refused⟩

theorem Keeps.of_bind_ok {d₁ : Deployment} {pre : Deploy Unit} {k : Unit → Deploy α}
    (hpre : Deploy.outcome pre d = (.ok (), d₁)) (he : d₁.engine = d.engine) (hl : d₁.lab = d.lab)
    (h : st.Keeps (k ()) d₁) : st.Keeps (pre >>= k) d := by
  unfold Keeps
  rw [Deploy.outcome_bind_ok hpre]
  exact ⟨h.1.congr he hl, h.2⟩

theorem keeps_of_reads {act : Deploy α} (hr : Deploy.Within Eq act)
    (hfs : st.failedStage d.engine.stage = d.engine.stage) (h : d.Lifecycle) : st.Keeps act d := by
  have heq := (hr d).symm
  refine ⟨lawful_stay (by rw [heq]) (by rw [heq]) fun _ => hfs, ?_⟩
  rw [heq]
  exact h

theorem keeps_of_quiet {act : Deploy α} (hq : Deploy.Within Deployment.Quiet act)
    (hfs : st.failedStage d.engine.stage = d.engine.stage)
    (hr : ∀ m, (Deploy.outcome act d).1 = .error (.state m) → (Deploy.outcome act d).2.lab = d.lab)
    (h : d.Lifecycle) : st.Keeps act d := by
  have he := (hq d).engine
  exact ⟨⟨he ▸ .refl, fun _ => he ▸ hfs.symm, fun _ => he ▸ rfl, fun m hm => ⟨he, hr m hm⟩⟩,
    h.quiet (hq d)⟩

end Step

namespace Stage

theorem live_iff_mem {s : Stage} : s.live ↔ s ∈ [.connected, .installing, .installed] := by
  cases s <;> simp [live]

end Stage

namespace Deploy

variable {α : Type} {d : Deployment}

theorem refused_unchanged {allowed : List Stage} {k : Unit → Deploy α}
    (hun : d.engine.stage ∈ allowed → Unrefused (outcome (require allowed >>= k) d).1) (m : String)
    (hm : (outcome (require allowed >>= k) d).1 = .error (.state m)) :
    (outcome (require allowed >>= k) d).2 = d := by
  by_cases hs : d.engine.stage ∈ allowed
  · exact absurd hm (hun hs m)
  · obtain ⟨_, hout⟩ := outcome_require_bind_refused (k := k) hs
    rw [hout]

theorem keeps_refused {st : Step} {allowed : List Stage} {k : Unit → Deploy α}
    (hs : d.engine.stage ∉ allowed) (hfs : st.failedStage d.engine.stage = d.engine.stage)
    (h : d.Lifecycle) : st.Keeps (require allowed >>= k) d := by
  obtain ⟨_, hout⟩ := outcome_require_bind_refused (k := k) hs
  unfold Step.Keeps
  rw [hout]
  exact ⟨Step.lawful_stay rfl rfl fun _ => hfs, h⟩

theorem setSpec_keeps (src : ClusterSpec.Source) (h : d.Lifecycle) :
    (Step.setSpec src).Keeps (setSpec src) d := by
  rcases setSpec_went src d with ⟨f, hout⟩ | ⟨hs, c, hv, ⟨u, hout⟩ | ⟨url, hout⟩⟩
  · unfold Step.Keeps
    rw [hout]
    exact ⟨Step.lawful_stay rfl rfl fun _ => rfl, h⟩
  · -- the description is taken and the URL cannot be written: the stage stays
    unfold Step.Keeps
    rw [hout]
    exact ⟨⟨.refl, fun _ => rfl, fun hk => (by cases hk), fun _ hm => (by cases hm)⟩,
      h.taken hs hv⟩
  · unfold Step.Keeps
    rw [hout]
    refine ⟨⟨?_, fun hr => (by cases hr), fun hk => (by cases hk), fun _ hm => (by cases hm)⟩,
      h.adopted hs hv url⟩
    show Relation.ReflTransGen Stage.Moves d.engine.stage .specSet
    rw [hs]
    exact .single .adopt

theorem connect_keeps (h : d.Lifecycle) : Step.connect.Keeps connect d := by
  by_cases hs : d.engine.stage = .specSet
  · obtain ⟨hun, hlife, hstage⟩ := connect_went h hs
    refine ⟨⟨?_, fun hr => ?_, fun hk => (by cases hk), fun m hm => absurd hm (hun m)⟩, hlife⟩
    · rw [hstage, hs]
      split
      · exact .single .connect
      · exact .refl
    · rw [hstage, hr, hs]
      rfl
  · unfold connect
    exact keeps_refused (by simpa using hs) rfl h

theorem install_keeps (h : d.Lifecycle) : Step.install.Keeps install d := by
  by_cases hs : d.engine.stage = .connected
  · obtain ⟨hstage, hlife, hun⟩ := install_lifecycle h hs
    refine ⟨⟨?_, fun hr => ?_, fun hk => (by cases hk), fun m hm => absurd hm (hun m)⟩, hlife⟩
    · rw [hstage, hs]
      split
      · exact .tail (.single .install) .installed
      · exact .single .install
    · rw [hstage, hr, hs]
      rfl
  · unfold install installUnder
    exact keeps_refused (by simpa using hs) (if_neg hs) h

theorem uninstall_keeps (h : d.Lifecycle) : Step.uninstall.Keeps uninstall d :=
  Step.keeps_of_quiet quiet_uninstall rfl (fun m hm => by
    unfold uninstall at hm ⊢
    rw [refused_unchanged (fun hs => (uninstall_steady hs
      (h.linked (Stage.live_iff_mem.2 (by simp at hs ⊢; tauto)))).2) m hm]) h

theorem kubeconfig_keeps (path : String) (existing : Option LocalFile) (forMachines : Bool)
    (h : d.Lifecycle) :
    (Step.kubeconfig path existing forMachines).Keeps (kubeconfig path forMachines) d :=
  Step.keeps_of_quiet (quiet_kubeconfig path forMachines) rfl (fun m hm => by
    unfold kubeconfig at hm ⊢
    rw [refused_unchanged (fun hs => (kubeconfig_steady path forMachines hs
      (h.linked (Stage.live_iff_mem.2 (by simp at hs ⊢; tauto)))).2) m hm]) h

theorem disconnect_keeps (h : d.Lifecycle) : Step.disconnect.Keeps disconnect d := by
  by_cases hs : d.engine.stage ∈ [.connected, .installing, .installed]
  · obtain ⟨hun, hheld, hk⟩ := disconnect_went hs h.accounted
    have hlive : d.engine.stage.live := Stage.live_iff_mem.2 hs
    have hstage : (outcome disconnect d).2.engine.stage = .disconnected := hk.stage
    -- a disconnect from a live stage ends disconnected, failed or not
    refine ⟨⟨?_, fun _ => ?_, fun hk => (by cases hk), fun m hm => absurd hm (hun m)⟩,
      h.disconnected hk hheld⟩
    · rw [hstage]
      exact .single (.disconnect hlive)
    · rw [hstage]
      exact (if_pos hlive).symm
  · have hdead : d.engine.stage.live = false :=
      Bool.eq_false_iff.2 fun hl => hs (Stage.live_iff_mem.1 hl)
    unfold disconnect
    exact keeps_refused hs (by simp [Step.failedStage, hdead]) h

/-- **Every step from a deployment in the lifecycle is lawful and keeps it.** -/
theorem step_went (st : Step) (h : d.Lifecycle) : st.Keeps st.perform d := by
  cases st with
  | setSpec src => exact (setSpec_keeps src h).map fun _ => Outcome.done
  | connect => exact (connect_keeps h).map fun _ => Outcome.done
  | install => exact (install_keeps h).map fun _ => Outcome.done
  | uninstall => exact (uninstall_keeps h).map fun _ => Outcome.done
  | disconnect => exact (disconnect_keeps h).map fun _ => Outcome.done
  | kubeconfig path existing forMachines =>
    -- a local file handed in is put in place first, which the engine and lab do not see
    cases existing with
    | none => exact (kubeconfig_keeps path none forMachines h).map Outcome.kubeconfig
    | some f =>
      have hput : (d.putLocalFile path f).Lifecycle := h.congr rfl rfl
      exact Step.Keeps.of_bind_ok rfl rfl rfl
        ((kubeconfig_keeps path (some f) forMachines hput).map Outcome.kubeconfig)
  | effectiveConfig position =>
    exact Step.keeps_of_reads (within_bind (reads_effectiveConfig position) fun _ =>
      within_bind (within_orFail _) fun _ => within_pure _) rfl h
  | selectMachines selector =>
    exact Step.keeps_of_reads (within_bind (within_orFail _) fun s =>
      within_bind (within_select s) fun _ => within_pure _) rfl h
  | installerPath => exact Step.keeps_of_reads (within_bind within_engine fun _ => within_pure _) rfl h
  | setFault kind hosts =>
    -- only the lab's faults change
    have hq : Within Deployment.Quiet (Step.setFault kind hosts).perform := by
      rw [Step.perform]
      split
      · exact within_bind (fun _ => ⟨rfl, rfl, fun _ => rfl⟩) fun _ => within_pure _
      · exact within_pure _
    refine Step.keeps_of_quiet hq rfl (fun m hm => ?_) h
    simp only [Step.perform] at hm
    split at hm
    · cases hm
    · cases hm

end Deploy

namespace Deployment

variable {d : Deployment}

theorem Accounted.isOpen (h : d.Accounted) {n : Nat} (hn : n ∈ d.held) : d.lab.IsOpen n := by
  have hlt := h.bounded n hn
  have hcount : 0 < d.held.count n := List.count_pos_iff.2 hn
  have honce := h.once n hlt
  exact ⟨hlt, by omega⟩

theorem Accounted.closed_once (h : d.Accounted) (hheld : d.held = []) :
    ∀ n < d.lab.sessions.length, (d.lab.session n).closes = 1 := by
  intro n hn
  simpa [hheld] using h.once n hn

theorem mem_held_of_link {g : Handle} (hg : g ∈ d.engine.handles) {id : Nat}
    (hid : g.link = some id) : id ∈ d.held := by
  simp only [held, List.mem_append, List.mem_filterMap]
  exact Or.inr ⟨g, hg, hid⟩

theorem Lifecycle.live_open (h : d.Lifecycle) (hlive : d.engine.stage.live) :
    ∃ c, d.engine.spec = some c ∧
      (∀ g ∈ d.engine.handles, ∃ id, g.link = some id ∧ d.lab.IsOpen id) ∧
      ((∃ id, d.engine.proxy = some id ∧ d.lab.IsOpen id) ↔ c.hasProxy) := by
  obtain ⟨c, hc, hlinks, hproxy⟩ := h.live hlive
  refine ⟨c, hc, fun g hg => ?_, ?_⟩
  · obtain ⟨id, hid⟩ := Option.isSome_iff_exists.1 (hlinks g hg)
    exact ⟨id, hid, h.accounted.isOpen (mem_held_of_link hg hid)⟩
  · rw [← hproxy, Option.isSome_iff_exists]
    constructor
    · rintro ⟨id, hid, -⟩
      exact ⟨id, hid⟩
    · rintro ⟨id, hid⟩
      exact ⟨id, hid, h.accounted.isOpen (by simp [held, hid])⟩

theorem Lifecycle.live_of_linked (h : d.Lifecycle) {c : ClusterSpec} (hc : d.engine.spec = some c)
    (hlinks : ∀ g ∈ d.engine.handles, g.link.isSome) : d.engine.stage.live := by
  by_contra hdead
  have hheld := h.idle (Bool.eq_false_iff.2 hdead)
  obtain ⟨hv, hmachines⟩ := h.described c hc
  obtain ⟨g, hg⟩ : ∃ g, g ∈ d.engine.handles := by
    cases hhandles : d.engine.handles with
    | nil => exact absurd (by simpa [hhandles] using hmachines.symm) (ClusterSpec.machines_ne_nil hv)
    | cons g _ => exact ⟨g, by simp⟩
  obtain ⟨id, hid⟩ := Option.isSome_iff_exists.1 (hlinks g hg)
  have hmem := mem_held_of_link hg hid
  simp [hheld] at hmem

/-- The deployments reached from a fresh engine, on a lab that has opened no session yet, by
steps of any kind: the engine's operations and changes to what the machines fail. -/
inductive Reaches : Deployment → Prop
  | fresh (settings : Settings) (lab : Lab) (files : List (String × LocalFile))
      (hlab : lab.sessions = []) : Reaches ⟨{ settings }, lab, files⟩
  | step {d : Deployment} (st : Step) : Reaches d → Reaches (Deploy.outcome st.perform d).2

theorem Lifecycle.fresh (settings : Settings) (lab : Lab) (files : List (String × LocalFile))
    (hlab : lab.sessions = []) : Deployment.Lifecycle ⟨{ settings }, lab, files⟩ := by
  -- nothing is adopted, held or opened yet
  refine ⟨fun _ hc => ?_, fun hlive => ?_, fun _ => rfl, ⟨fun _ hn => ?_, fun _ hn => ?_⟩,
    fun _ => rfl⟩
  · cases hc
  · cases hlive
  · cases hn
  · simp [hlab] at hn

theorem Reaches.lifecycle (h : d.Reaches) : d.Lifecycle := by
  induction h with
  | fresh settings lab files hlab => exact Lifecycle.fresh settings lab files hlab
  | step st _ ih => exact (Deploy.step_went st ih).2

/-- **The lifecycle of the engine.**  In every deployment reached by steps:

* the stage is live exactly when a description is adopted, each of its machines holds an open
  session, and an open session to the jump host is held exactly when the description has one;
* at every other stage each session the lab ever opened was closed exactly once;
* the next step, whatever it is, moves the stage along the lifecycle, leaves the stage its kind
  of step fails at when it fails, leaves the stage when it is one that never moves it, and
  changes neither the engine nor the lab when it is refused at its stage. -/
theorem reaches_lifecycle (h : d.Reaches) :
    (d.engine.stage.live ↔ ∃ c, d.engine.spec = some c ∧
      (∀ g ∈ d.engine.handles, ∃ id, g.link = some id ∧ d.lab.IsOpen id) ∧
      ((∃ id, d.engine.proxy = some id ∧ d.lab.IsOpen id) ↔ c.hasProxy)) ∧
    (d.engine.stage.live = false →
      ∀ id < d.lab.sessions.length, (d.lab.session id).closes = 1) ∧
    ∀ st : Step, st.Lawful d (Deploy.outcome st.perform d).1 (Deploy.outcome st.perform d).2 := by
  have hl := h.lifecycle
  refine ⟨⟨hl.live_open, ?_⟩, fun hdead => hl.accounted.closed_once (hl.idle hdead),
    fun st => (Deploy.step_went st hl).1⟩
  rintro ⟨c, hc, hlinks, -⟩
  refine hl.live_of_linked hc fun g hg => ?_
  obtain ⟨id, hid, -⟩ := hlinks g hg
  simp [hid]

/-- A fresh engine that adopts a one-server description, connects and installs is reached. -/
theorem fresh_lifecycle :
    let d₀ : Deployment := ⟨{ settings := .default }, {}, []⟩
    let desc := "version: stable\nnodes:\n- role: server\n  ssh: \x7bhost: 10.0.0.1, password: pw\x7d\n"
    let d : Deployment := (Deploy.outcome Step.install.perform (Deploy.outcome Step.connect.perform
      (Deploy.outcome (Step.setSpec (.text desc)).perform d₀).2).2).2
    d.Reaches ∧
    ((d.engine.stage.live ↔ ∃ c, d.engine.spec = some c ∧
      (∀ g ∈ d.engine.handles, ∃ id, g.link = some id ∧ d.lab.IsOpen id) ∧
      ((∃ id, d.engine.proxy = some id ∧ d.lab.IsOpen id) ↔ c.hasProxy)) ∧
    (d.engine.stage.live = false →
      ∀ id < d.lab.sessions.length, (d.lab.session id).closes = 1) ∧
    ∀ st : Step, st.Lawful d (Deploy.outcome st.perform d).1 (Deploy.outcome st.perform d).2) := by
  intro d₀ desc d
  have hr : d.Reaches := .step .install (.step .connect (.step (.setSpec (.text desc)) (.fresh _ _ _ rfl)))
  exact ⟨hr, reaches_lifecycle hr⟩

end Deployment

end ClusterDeploy
