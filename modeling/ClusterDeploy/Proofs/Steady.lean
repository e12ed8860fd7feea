import ClusterDeploy.Proofs.Installation

/-!
# Steady operations

Once the machines hold their sessions, installing, uninstalling and fetching the kubeconfig
only make calls on those sessions: they open and close none, leave the handles, the jump host,
the description and the stage as they were, and never find a machine without a session.

`Deploy.Steady act` says this of an action run on an engine whose machines all hold a session
(`Deployment.Linked`).  It holds of every call the engine makes on a session, and it is closed
under `>>=`, `attempt` and the engine's loops (`chain`, `gather`, `forM`), so it is proved of the
operations by composition.  `Unrefused r` says that `r` is no refusal for the engine's stage.
-/

namespace ClusterDeploy

def LabSession.closes (s : LabSession) : Nat := s.events.count .close

def Unrefused {α : Type} (r : Except Failure α) : Prop := ∀ m, r ≠ .error (.state m)

@[simp] theorem unrefused_ok {α : Type} (a : α) : Unrefused (.ok a : Except Failure α) :=
  fun _ h => nomatch h

@[simp] theorem unrefused_error {α : Type} {e : Failure} :
    Unrefused (.error e : Except Failure α) ↔ ∀ m, e ≠ .state m :=
  ⟨fun h m he => h m (he ▸ rfl), fun h m he => h m (Except.error.inj he)⟩

theorem Unrefused.bind {α β : Type} {x : Except Failure α} {f : α → Except Failure β}
    (hx : Unrefused x) (hf : ∀ a, Unrefused (f a)) : Unrefused (x >>= f) := by
  cases x with
  | error e => exact unrefused_error.mpr (unrefused_error.mp hx)
  | ok a => exact hf a

namespace Kubeconfig

/-! A kubeconfig fails as one that cannot be read, merged or written, never as a refusal. -/

theorem unrefused_ofYaml (text : String) : Unrefused (ofYaml text) := by
  unfold ofYaml
  split
  · simp
  · simp
  · split <;> simp

theorem unrefused_pointToServer (k : Kubeconfig) (url : String) :
    Unrefused (k.pointToServer url) := by
  unfold pointToServer
  split <;> simp

theorem unrefused_renameForHumans (k : Kubeconfig) (url : String) (port : Int) :
    Unrefused (k.renameForHumans url port) := by
  unfold renameForHumans
  split
  · split <;> simp
  · simp

theorem unrefused_readLocal (path : String) (f : LocalFile) : Unrefused (readLocal path f) := by
  cases f with
  | absent =>
    simp only [readLocal]
    split <;> simp
  | directory => simp [readLocal]
  | text t =>
    have h := unrefused_ofYaml t
    simp only [readLocal]
    cases hy : ofYaml t with
    | ok k => simp [Except.map]
    | error e =>
      rw [hy] at h
      simpa [Except.map] using h

theorem unrefused_reconcile (remote url path : String) (existing : LocalFile) (forMachines : Bool)
    (port : Int) : Unrefused (reconcile remote url path existing forMachines port).1 := by
  -- whatever is done with the local file's kubeconfig, if it gives no refusal
  have hlocal (k : Option Kubeconfig → Except Failure Kubeconfig) (hk : ∀ o, Unrefused (k o)) :
      Unrefused (readLocal path existing >>= k) :=
    Unrefused.bind (unrefused_readLocal path existing) hk
  unfold reconcile
  -- the names chosen, the outer match is on the merged kubeconfig: it fails as its parts do,
  -- and once merged only as one that cannot be written
  cases forMachines <;> simp only [Bool.false_eq_true, ↓reduceIte] <;> split
  · split <;> simp
  · rename_i e heq
    show Unrefused (.error e : Except Failure Kubeconfig)
    rw [← heq]
    exact Unrefused.bind (unrefused_ofYaml remote) fun k =>
      Unrefused.bind (unrefused_pointToServer k url) fun k1 =>
        Unrefused.bind (unrefused_renameForHumans k1 url port) fun _ =>
          hlocal _ fun o => by cases o <;> exact unrefused_ok _
  · split <;> simp
  · rename_i e heq
    show Unrefused (.error e : Except Failure Kubeconfig)
    rw [← heq]
    exact Unrefused.bind (unrefused_ofYaml remote) fun k =>
      Unrefused.bind (unrefused_pointToServer k url) fun k1 =>
        Unrefused.bind (unrefused_ok k1) fun _ => hlocal _ fun o => by cases o <;> exact unrefused_ok _

end Kubeconfig

namespace Call

@[simp] theorem closes_after (l : Lab) (c : Call) (s : LabSession) :
    (c.after l s).closes = s.closes := by
  cases c <;> simp [LabSession.closes, event]

theorem fault_ne_state (l : Lab) (t : SshTarget) (c : Call) (m : String) :
    c.fault l t ≠ some (.state m) := by
  cases c with
  | upload p text =>
    simp only [fault, Lab.uploadFault]
    split <;> simp
  | run cmd =>
    simp only [fault, Lab.commandFault, Lab.commandFailure]
    split_ifs <;> simp
  | read p =>
    simp only [fault, Lab.readFault]
    split_ifs <;> simp

end Call

namespace Deployment

def Linked (d : Deployment) : Prop := ∀ h ∈ d.engine.handles, h.link.isSome

/-- `d'` is `d` after calls on its sessions only: the same handles, jump host, description and
stage, as many sessions, none closed once more, and the cleanup still armed if it was. -/
structure Steady (d d' : Deployment) : Prop where
  handles : d'.engine.handles = d.engine.handles
  proxy : d'.engine.proxy = d.engine.proxy
  spec : d'.engine.spec = d.engine.spec
  stage : d'.engine.stage = d.engine.stage
  length : d'.lab.sessions.length = d.lab.sessions.length
  closes : ∀ id, (d'.lab.session id).closes = (d.lab.session id).closes
  armed : d.engine.cleanupPending = true → d'.engine.cleanupPending = true

theorem Steady.refl (d : Deployment) : d.Steady d :=
  ⟨rfl, rfl, rfl, rfl, rfl, fun _ => rfl, id⟩

theorem Steady.trans {d d' d'' : Deployment} (h : d.Steady d') (h' : d'.Steady d'') :
    d.Steady d'' :=
  ⟨h'.handles.trans h.handles, h'.proxy.trans h.proxy, h'.spec.trans h.spec,
    h'.stage.trans h.stage, h'.length.trans h.length, fun id => (h'.closes id).trans (h.closes id),
    h'.armed ∘ h.armed⟩

theorem Steady.linked {d d' : Deployment} (h : d.Steady d') (hl : d.Linked) : d'.Linked := by
  intro g hg
  rw [h.handles] at hg
  exact hl g hg

theorem steady_withSession (d : Deployment) (id : Nat) (s : LabSession)
    (hs : s.closes = (d.lab.session id).closes) : d.Steady (d.withSession id s) := by
  refine ⟨rfl, rfl, rfl, rfl, by simp, fun j => ?_, fun h => h⟩
  simp only [lab_withSession]
  by_cases hj : id = j
  · subst hj
    by_cases hlt : id < d.lab.sessions.length
    · rw [Lab.session_setSession_self _ _ hlt, hs]
    · simp [Lab.setSession, Lab.session, List.set_eq_of_length_le (Nat.le_of_not_lt hlt)]
  · rw [Lab.session_setSession_ne _ _ hj]

end Deployment

namespace Deploy

/-- Run on an engine whose machines all hold a session, `act` only makes calls on sessions and
is no refusal. -/
def Steady {α : Type} (act : Deploy α) : Prop :=
  ∀ d : Deployment, d.Linked → d.Steady (outcome act d).2 ∧ Unrefused (outcome act d).1

section Closure

variable {α β : Type}

theorem steady_pure (a : α) : Steady (pure a : Deploy α) :=
  fun d _ => ⟨Deployment.Steady.refl d, unrefused_ok a⟩

theorem steady_throw {f : Failure} (hf : ∀ m, f ≠ .state m) : Steady (throw f : Deploy α) :=
  fun d _ => ⟨Deployment.Steady.refl d, unrefused_error.mpr hf⟩

theorem steady_bind_of {a : Deploy α} {k : α → Deploy β} (P : α → Prop) (ha : Steady a)
    (hP : ∀ d x d', d.Linked → outcome a d = (.ok x, d') → P x)
    (hk : ∀ x, P x → Steady (k x)) : Steady (a >>= k) := by
  intro d hd
  obtain ⟨hsa, hra⟩ := ha d hd
  rcases hp : outcome a d with ⟨r, d1⟩
  rw [hp] at hsa hra
  cases r with
  | error e =>
    rw [outcome_bind_error hp]
    exact ⟨hsa, unrefused_error.mpr (unrefused_error.mp hra)⟩
  | ok x =>
    rw [outcome_bind_ok hp]
    obtain ⟨hsk, hrk⟩ := hk x (hP d x d1 hd hp) d1 (hsa.linked hd)
    exact ⟨hsa.trans hsk, hrk⟩

theorem steady_throw_bind {f : Failure} {k : α → Deploy β} (hf : ∀ m, f ≠ .state m) :
    Steady (throw f >>= k) :=
  steady_bind_of (fun _ => False) (steady_throw hf) (fun _ _ _ _ h => by cases h) fun _ h => h.elim

theorem steady_bind {a : Deploy α} {k : α → Deploy β} (ha : Steady a)
    (hk : ∀ x, Steady (k x)) : Steady (a >>= k) :=
  steady_bind_of (fun _ => True) ha (fun _ _ _ _ _ => trivial) fun x _ => hk x

theorem outcome_attempt (a : Deploy α) (d : Deployment) :
    outcome (attempt a) d = (.ok (outcome a d).1, (outcome a d).2) := by
  simp only [outcome, attempt, EStateM.run]
  cases a d <;> rfl

theorem steady_attempt {a : Deploy α} (ha : Steady a) : Steady (attempt a) := fun d hd => by
  rw [outcome_attempt]
  exact ⟨(ha d hd).1, unrefused_ok _⟩

theorem steady_orFail {r : Except Failure α} (hr : Unrefused r) : Steady (orFail r) := by
  cases r with
  | ok a => exact steady_pure a
  | error e => exact steady_throw (unrefused_error.mp hr)

theorem steady_update {f : Engine → Engine}
    (hf : ∀ e, (f e).handles = e.handles ∧ (f e).proxy = e.proxy ∧ (f e).spec = e.spec ∧
      (f e).stage = e.stage ∧ (e.cleanupPending = true → (f e).cleanupPending = true)) :
    Steady (update f) := fun d _ =>
  ⟨⟨(hf d.engine).1, (hf d.engine).2.1, (hf d.engine).2.2.1, (hf d.engine).2.2.2.1, rfl,
    fun _ => rfl, (hf d.engine).2.2.2.2⟩, unrefused_ok ()⟩

theorem steady_engine_bind {k : Engine → Deploy β}
    (hk : ∀ e, (∀ h ∈ e.handles, h.link.isSome) → Steady (k e)) : Steady (engine >>= k) :=
  steady_bind_of (fun e => ∀ h ∈ e.handles, h.link.isSome) (fun d _ => ⟨.refl d, unrefused_ok _⟩)
    (fun d e d' hd he => by cases he; exact hd) hk

theorem steady_get_bind {k : Deployment → Deploy β} (hk : ∀ d, Steady (k d)) :
    Steady (get >>= k) :=
  steady_bind (fun d _ => ⟨.refl d, unrefused_ok _⟩) hk

theorem steady_select_bind (s : Selector) {k : List Handle → Deploy β}
    (hk : ∀ hs, (∀ h ∈ hs, h.link.isSome) → Steady (k hs)) : Steady (select s >>= k) :=
  steady_bind_of (fun hs => ∀ h ∈ hs, h.link.isSome) (fun d _ => ⟨.refl d, unrefused_ok _⟩)
    (fun d hs d' hd he => by
      cases he
      exact fun h hh => hd h (List.mem_of_mem_filter hh)) hk

theorem steady_linkOf_bind {h : Handle} {k : Nat → Deploy β} (hl : h.link.isSome)
    (hk : ∀ id, Steady (k id)) : Steady (linkOf h >>= k) := by
  obtain ⟨id, hid⟩ := Option.isSome_iff_exists.mp hl
  have hlink : linkOf h = pure id := by simp [linkOf, hid]
  rw [hlink, pure_bind]
  exact hk id

theorem steady_spec : Steady spec := by
  unfold spec
  refine steady_engine_bind fun e _ => ?_
  split
  · exact steady_pure _
  · exact steady_throw (by simp)

end Closure

section Calls

variable {α β : Type}

/-- **A call on a session** only records itself there, and fails, if at all, with an error of
the call. -/
theorem steady_call (id : Nat) (c : Call) :
    Steady (onLab (Lab.onSession id fun l => c.make l)) := by
  intro d _
  have hs := Deployment.steady_withSession d id (c.after d.lab (d.lab.session id))
    (Call.closes_after _ _ _)
  simp only [outcome, run_onSession_make]
  cases hf : c.fault d.lab (d.lab.session id).target with
  | some f =>
    refine ⟨hs, unrefused_error.mpr fun m he => ?_⟩
    exact Call.fault_ne_state _ _ c m (he ▸ hf)
  | none => exact ⟨hs, unrefused_ok _⟩

theorem steady_read (id : Nat) (p : String) : Steady (onLab (Lab.read id p)) := by
  intro d _
  have hs := Deployment.steady_withSession d id ((Call.read p).after d.lab (d.lab.session id))
    (Call.closes_after _ _ _)
  simp only [outcome, run_onLab, Lab.read, Lab.run_onSession, Call.read_run]
  cases hf : d.lab.readFault (d.lab.session id).target p with
  | some f =>
    refine ⟨hs, unrefused_error.mpr fun m he => ?_⟩
    exact Call.fault_ne_state _ _ (.read p) m (he ▸ hf)
  | none => exact ⟨hs, unrefused_ok _⟩

theorem steady_download : Steady (onLab Lab.download) := by
  intro d _
  have hs : d.Steady { d with lab := { d.lab with downloads := d.lab.downloads + 1 } } :=
    ⟨rfl, rfl, rfl, rfl, rfl, fun _ => rfl, id⟩
  simp only [outcome, run_onLab, run_download]
  by_cases hrefused : d.lab.downloads + 1 ≤ d.lab.refusedDownloads
  · rw [if_pos hrefused]
    exact ⟨hs, by simp⟩
  · rw [if_neg hrefused]
    exact ⟨hs, unrefused_ok _⟩

theorem steady_fetchInstaller : Steady fetchInstaller := by
  unfold fetchInstaller
  refine steady_engine_bind fun e _ => ?_
  split
  · exact steady_pure _
  · exact steady_bind steady_download fun s =>
      steady_bind (steady_update fun _ => ⟨rfl, rfl, rfl, rfl, id⟩) fun _ => steady_pure s

theorem steady_callStep {h : Handle} (hl : h.link.isSome)
    {call : String → Engine → Nat → LabM Unit}
    (hcall : ∀ s e id, ∃ c : Call, call s e id = Lab.onSession id fun l => c.make l)
    (s : String) : Steady (callStep h call s) := by
  unfold callStep
  refine steady_linkOf_bind hl fun id => steady_engine_bind fun e _ => ?_
  obtain ⟨c, hc⟩ := hcall s e id
  rw [hc]
  exact steady_bind (steady_call id c) fun _ => steady_pure s

theorem steady_chain {σ : Type} {fs : List (σ → Deploy σ)}
    (hfs : ∀ f ∈ fs, ∀ s, Steady (f s)) (s : σ) : Steady (chain fs s) := by
  -- by induction on the steps, each handing the next what it gives
  induction fs generalizing s with
  | nil => exact steady_pure s
  | cons f fs ih =>
    exact steady_bind (hfs f List.mem_cons_self s) fun s' =>
      ih (fun g hg => hfs g (List.mem_cons_of_mem f hg)) s'

theorem steady_mapM {xs : List α} {f : α → Deploy β} (hf : ∀ x ∈ xs, Steady (f x)) :
    Steady (xs.mapM f) := by
  induction xs with
  | nil => exact steady_pure []
  | cons x xs ih =>
    rw [List.mapM_cons]
    exact steady_bind (hf x List.mem_cons_self) fun y =>
      steady_bind (ih fun x' hx' => hf x' (List.mem_cons_of_mem x hx')) fun ys => steady_pure _

theorem steady_forM {xs : List α} {f : α → Deploy PUnit} (hf : ∀ x ∈ xs, Steady (f x)) :
    Steady (xs.forM f) := by
  induction xs with
  | nil => exact steady_pure _
  | cons x xs ih =>
    show Steady (f x >>= fun _ => xs.forM f)
    exact steady_bind (hf x List.mem_cons_self) fun _ =>
      ih fun x' hx' => hf x' (List.mem_cons_of_mem x hx')

end Calls

def TaskSteady {σ : Type} (t : Task σ) : Prop := ∀ f ∈ t.rest, ∀ s, Steady (f s)

section Tasks

variable {σ : Type}

theorem steady_finish {t : Task σ} (ht : TaskSteady t) : Steady t.finish := by
  unfold Task.finish
  split
  · exact steady_attempt (steady_chain ht _)
  · exact steady_pure _

theorem steady_advance {t : Task σ} (ht : TaskSteady t) : Steady t.advance := by
  match t, ht with
  | ⟨f :: fs, .ok s⟩, ht =>
    exact steady_bind (steady_attempt (ht f List.mem_cons_self s)) fun r => steady_pure _
  | ⟨[], _⟩, _ => exact steady_pure _
  | ⟨_ :: _, .error _⟩, _ => exact steady_pure _

theorem advance_taskSteady {t : Task σ} (ht : TaskSteady t) {d : Deployment} {t' : Task σ}
    {d' : Deployment} (h : outcome t.advance d = (.ok t', d')) : TaskSteady t' := by
  obtain ⟨rest, held⟩ := t
  cases rest with
  | nil =>
    cases h
    exact ht
  | cons f fs =>
    cases held with
    | error e =>
      cases h
      exact ht
    | ok s =>
      -- the step taken drops out of the steps left
      have hstep : outcome (Task.advance ⟨f :: fs, .ok s⟩) d =
          (.ok ⟨fs, (outcome (f s) d).1⟩, (outcome (f s) d).2) :=
        outcome_bind_ok (outcome_attempt (f s) d)
      rw [hstep] at h
      cases h
      exact fun g hg => ht g (List.mem_cons_of_mem _ hg)

/-- **Steady tasks run together steadily**, under any schedule. -/
theorem steady_gather (picks : List Nat) {ts : List (Task σ)} (hts : ∀ t ∈ ts, TaskSteady t) :
    Steady (gather picks ts) := by
  -- by induction on the schedule, the tasks steady after each step taken
  induction picks generalizing ts with
  | nil => exact steady_mapM fun t ht => steady_finish (hts t ht)
  | cons i picks ih =>
    unfold gather
    split
    · rename_i t hti
      refine steady_bind_of TaskSteady (steady_advance (hts t (List.mem_of_getElem? hti)))
        (fun d t' d' _ h => advance_taskSteady (hts t (List.mem_of_getElem? hti)) h)
        fun t' ht' => ih fun u hu => ?_
      rcases List.mem_or_eq_of_mem_set hu with hu | rfl
      · exact hts u hu
      · exact ht'
    · exact ih hts

end Tasks

section Operations

variable {h : Handle}

theorem steady_prepare (hl : h.link.isSome) (s : String) : Steady (prepare h s) :=
  steady_linkOf_bind hl fun _ =>
    steady_bind (steady_update fun _ => ⟨rfl, rfl, rfl, rfl, fun _ => rfl⟩) fun _ =>
      steady_fetchInstaller

theorem steady_configureSteps (hl : h.link.isSome) :
    ∀ f ∈ configureSteps h, ∀ s, Steady (f s) := by
  intro f hf s
  simp only [configureSteps, List.mem_cons, List.not_mem_nil, or_false] at hf
  rcases hf with rfl | rfl | rfl | rfl | rfl | rfl
  · exact steady_prepare hl s
  · exact steady_callStep hl (fun s e _ => ⟨.upload e.settings.installerPath s, rfl⟩) s
  · exact steady_callStep hl (fun _ e _ => ⟨.run e.settings.chmodCommand, rfl⟩) s
  · -- the machine's configuration fails, if at all, as one that cannot be written
    refine steady_bind steady_spec fun c => steady_bind (steady_orFail ?_) fun text =>
      steady_callStep hl (fun _ e _ => ⟨.upload e.settings.stagedConfig text, rfl⟩) s
    cases (c.settingsFor h.machine).toYaml <;> simp [Except.mapError]
  · exact steady_callStep hl (fun _ e _ => ⟨.run e.settings.mkdirCommand, rfl⟩) s
  · exact steady_callStep hl (fun _ e _ => ⟨.run e.settings.moveCommand, rfl⟩) s

theorem steady_installStep (hl : h.link.isSome) (exec : String) (joins : Bool) (s : String) :
    Steady (installStep h exec joins s) :=
  steady_linkOf_bind hl fun id => steady_engine_bind fun _ _ =>
    steady_bind (steady_engine_bind fun _ _ => steady_bind steady_spec fun _ =>
      steady_call id (.run _)) fun _ => steady_pure s

theorem steady_serverSteps (count : Nat) (first : Bool) (hl : h.link.isSome) :
    ∀ f ∈ serverSteps count first h, ∀ s, Steady (f s) := by
  intro f hf s
  rcases List.mem_append.mp hf with hf | hf
  · exact steady_configureSteps hl f hf s
  · rw [List.mem_singleton] at hf
    subst hf
    split <;> exact steady_installStep hl _ _ s

theorem steady_agentSteps (hl : h.link.isSome) : ∀ f ∈ agentSteps h, ∀ s, Steady (f s) := by
  intro f hf s
  rcases List.mem_append.mp hf with hf | hf
  · exact steady_configureSteps hl f hf s
  · rw [List.mem_singleton] at hf
    subst hf
    exact steady_installStep hl _ _ s

theorem steady_fetchToken (hl : h.link.isSome) : Steady (fetchToken h) := by
  unfold fetchToken
  refine steady_linkOf_bind hl fun id => steady_bind (steady_read id tokenPath) fun raw => ?_
  dsimp only
  split
  · exact steady_bind (steady_throw (by simp)) fun _ => steady_pure _
  · exact steady_pure _

theorem steady_installServer (count : Nat) (first : Bool) (hl : h.link.isSome) :
    Steady (installServer count first h) :=
  steady_bind (steady_chain (steady_serverSteps count first hl) "") fun _ =>
    steady_bind (steady_fetchToken hl) fun _ => steady_update fun _ => ⟨rfl, rfl, rfl, rfl, id⟩

theorem steady_installServers (count : Nat) (first : Bool) {hs : List Handle}
    (hl : ∀ h ∈ hs, h.link.isSome) : Steady (installServers count first hs) := by
  induction hs generalizing first with
  | nil => exact steady_pure _
  | cons h hs ih =>
    exact steady_bind (steady_installServer count first (hl h List.mem_cons_self)) fun _ =>
      ih false fun g hg => hl g (List.mem_cons_of_mem h hg)

theorem steady_installAgents (picks : List Nat) : Steady (installAgents picks) := by
  unfold installAgents
  refine steady_select_bind _ fun agents hl => ?_
  split
  · refine steady_bind (steady_gather picks fun t ht => ?_) fun results => ?_
    · obtain ⟨h, hh, rfl⟩ := List.mem_map.mp ht
      exact steady_agentSteps (hl h hh)
    · refine steady_bind (steady_update fun _ => ⟨rfl, rfl, rfl, rfl, id⟩) fun _ => ?_
      split
      · exact steady_throw (by simp)
      · exact steady_pure _
  · exact steady_pure _

end Operations

section Guarded

variable {β : Type} {allowed : List Stage} {d : Deployment}

theorem outcome_require_bind {k : Unit → Deploy β} (h : d.engine.stage ∈ allowed) :
    outcome (require allowed >>= k) d = outcome (k ()) d :=
  outcome_bind_ok (by simp [outcome, require, engine, h])

theorem outcome_require_bind_refused {k : Unit → Deploy β} (h : d.engine.stage ∉ allowed) :
    ∃ m, outcome (require allowed >>= k) d = (.error (.state m), d) :=
  ⟨_, outcome_bind_error (by simp [outcome, require, engine, h]; rfl)⟩

theorem uninstall_steady (h : d.engine.stage ∈ [.connected, .installed]) (hl : d.Linked) :
    d.Steady (outcome uninstall d).2 ∧ Unrefused (outcome uninstall d).1 := by
  unfold uninstall
  rw [outcome_require_bind h]
  exact (steady_engine_bind fun e he => steady_forM fun g hg =>
    steady_linkOf_bind (he g hg) fun id => steady_call id (.run _)) d hl

theorem kubeconfig_steady (path : String) (forMachines : Bool)
    (h : d.engine.stage ∈ [.connected, .installed]) (hl : d.Linked) :
    d.Steady (outcome (kubeconfig path forMachines) d).2 ∧
      Unrefused (outcome (kubeconfig path forMachines) d).1 := by
  unfold kubeconfig
  rw [outcome_require_bind h]
  refine (steady_engine_bind fun e _ => steady_select_bind _ fun hs hl => ?_) d hl
  -- the first server, which holds a session, is asked for the admin kubeconfig
  cases hs with
  | nil => exact steady_throw_bind (by simp)
  | cons g _ =>
    dsimp only
    rw [pure_bind]
    refine steady_linkOf_bind (hl g List.mem_cons_self) fun id =>
      steady_bind (steady_attempt (steady_read id _)) fun r => ?_
    cases r with
    | error f => exact steady_throw_bind (by simp)
    | ok text =>
      dsimp only
      rw [pure_bind]
      exact steady_get_bind fun d =>
        steady_bind (fun d _ => ⟨⟨rfl, rfl, rfl, rfl, rfl, fun _ => rfl, fun h => h⟩, unrefused_ok _⟩)
          fun _ => steady_orFail (Kubeconfig.unrefused_reconcile _ _ _ _ _ _)

theorem install_steady (h : d.engine.stage = .connected) (hl : d.Linked) :
    (outcome install d).2.engine.stage =
        (if (outcome install d).1.isOk then .installed else .installing) ∧
      (d.withStage (outcome install d).2.engine.stage).Steady (outcome install d).2 ∧
      Unrefused (outcome install d).1 := by
  have hservers : ∀ g ∈ d.servers, g.link.isSome := fun g hg => hl g (List.mem_of_mem_filter hg)
  -- the phases run at the installing stage, on the sessions only
  have hphases := (steady_bind (steady_installServers d.servers.length true hservers) fun _ =>
    steady_installAgents []) (d.withStage .installing) hl
  rw [install, outcome_installUnder [] h, ← bind_assoc]
  rcases hp : outcome (installServers d.servers.length true d.servers >>= fun _ =>
    installAgents []) (d.withStage .installing) with ⟨r, d1⟩
  rw [hp] at hphases
  obtain ⟨hs, hr⟩ := hphases
  cases r with
  | error f =>
    rw [outcome_bind_error hp]
    exact ⟨hs.stage, hs.stage ▸ hs, hr⟩
  | ok u =>
    rw [outcome_bind_ok hp]
    refine ⟨rfl, ⟨hs.handles, hs.proxy, hs.spec, rfl, hs.length, hs.closes, hs.armed⟩, unrefused_ok _⟩

end Guarded

end Deploy

end ClusterDeploy
