import ClusterDeploy.Proofs.Reachable
import ClusterDeploy.Proofs.ConcurrentFetch

/-!
# The installer is downloaded once

An engine downloads the installer at most once, whatever steps it is asked to take and whatever
its machines fail, and exactly once for an install that passes its check of the stage.  The
first server's preparation fetches the installer before any agent's task starts, so no agent
ever downloads it; and once the install has begun, the stage never returns to where an install
passes its check.

* `Deployment.Unfetched`     no download, and the installer held stays; every step but an
                             install keeps it (`perform_unfetched`);
* `Deployment.Cached`        once the installer is held, `Unfetched`; every part of an install,
                             the agents together under any schedule, keeps it;
* `installUnder_downloads`   from the connected stage with no installer, an install makes
                             exactly one download, whatever becomes of it;
* `afterSteps_downloads`     along any run of steps, one download for each install that passed
                             its check, and at most one such install;
* `installer_downloaded_once`  the whole statement, with the installer cache of
                             `Proofs/ConcurrentFetch` under its concurrent callers.
-/

namespace ClusterDeploy

namespace Deployment

/-- `d'` holds the installer `d` held, and no download was made in between. -/
structure Unfetched (d d' : Deployment) : Prop where
  downloads : d'.lab.downloads = d.lab.downloads
  installer : d'.engine.installer = d.engine.installer

theorem Unfetched.refl (d : Deployment) : d.Unfetched d := ⟨rfl, rfl⟩

theorem Unfetched.trans {d d' d'' : Deployment} (h : d.Unfetched d') (h' : d'.Unfetched d'') :
    d.Unfetched d'' :=
  ⟨h'.downloads.trans h.downloads, h'.installer.trans h.installer⟩

instance : Std.Refl Deployment.Unfetched := ⟨Unfetched.refl⟩

instance : IsTrans Deployment Deployment.Unfetched := ⟨fun _ _ _ => Unfetched.trans⟩

/-- Once `d` holds the installer, `d'` holds it too and no download was made in between. -/
def Cached (d d' : Deployment) : Prop := d.engine.installer.isSome → d.Unfetched d'

theorem Unfetched.cached {d d' : Deployment} (h : d.Unfetched d') : d.Cached d' := fun _ => h

instance : Std.Refl Deployment.Cached := ⟨fun d => (Unfetched.refl d).cached⟩

instance : IsTrans Deployment Deployment.Cached :=
  ⟨fun _ _ _ h h' hs => (h hs).trans (h' ((h hs).installer ▸ hs))⟩

end Deployment

namespace Deploy

section Closure

variable {α β σ : Type} {R : Deployment → Deployment → Prop}

theorem Within.mono {S : Deployment → Deployment → Prop} {act : Deploy α}
    (hRS : ∀ d d', R d d' → S d d') (h : Within R act) : Within S act :=
  fun d => hRS _ _ (h d)

def TaskWithin (R : Deployment → Deployment → Prop) (t : Task σ) : Prop :=
  ∀ f ∈ t.rest, ∀ s, Within R (f s)

theorem advance_taskWithin {t : Task σ} (ht : TaskWithin R t) {d d' : Deployment} {t' : Task σ}
    (h : outcome t.advance d = (.ok t', d')) : TaskWithin R t' := by
  obtain ⟨rest, held⟩ := t
  cases rest with
  | nil =>
    cases h
    exact ht
  | cons f fs =>
    cases held with
    | error e =>
      cases h
      exact ht
    | ok s =>
      have hstep : outcome (Task.advance ⟨f :: fs, .ok s⟩) d =
          (.ok ⟨fs, (outcome (f s) d).1⟩, (outcome (f s) d).2) :=
        outcome_bind_ok (outcome_attempt (f s) d)
      rw [hstep] at h
      cases h
      exact fun g hg => ht g (List.mem_cons_of_mem _ hg)

variable [Std.Refl R] [IsTrans Deployment R]

theorem within_chain {fs : List (σ → Deploy σ)} (hfs : ∀ f ∈ fs, ∀ s, Within R (f s)) (s : σ) :
    Within R (chain fs s) := by
  induction fs generalizing s with
  | nil => exact within_pure s
  | cons f fs ih =>
    exact within_bind (hfs f List.mem_cons_self s) fun s' =>
      ih (fun g hg => hfs g (List.mem_cons_of_mem f hg)) s'

theorem within_mapM {xs : List α} {f : α → Deploy β} (hf : ∀ x ∈ xs, Within R (f x)) :
    Within R (xs.mapM f) := by
  induction xs with
  | nil => exact within_pure []
  | cons x xs ih =>
    rw [List.mapM_cons]
    exact within_bind (hf x List.mem_cons_self) fun y =>
      within_bind (ih fun x' hx' => hf x' (List.mem_cons_of_mem x hx')) fun ys => within_pure _

theorem within_foldlM {xs : List α} {f : β → α → Deploy β}
    (hf : ∀ b, ∀ x ∈ xs, Within R (f b x)) (init : β) : Within R (xs.foldlM f init) := by
  induction xs generalizing init with
  | nil => exact within_pure init
  | cons x xs ih =>
    rw [List.foldlM_cons]
    exact within_bind (hf init x List.mem_cons_self) fun b =>
      ih (fun b' x' hx' => hf b' x' (List.mem_cons_of_mem x hx')) b

theorem within_finish {t : Task σ} (ht : TaskWithin R t) : Within R t.finish := by
  unfold Task.finish
  split
  · exact within_attempt (within_chain ht _)
  · exact within_pure _

theorem within_advance {t : Task σ} (ht : TaskWithin R t) : Within R t.advance := by
  match t, ht with
  | ⟨f :: fs, .ok s⟩, ht =>
    exact within_bind (within_attempt (ht f List.mem_cons_self s)) fun _ => within_pure _
  | ⟨[], _⟩, _ => exact within_pure _
  | ⟨_ :: _, .error _⟩, _ => exact within_pure _

theorem within_gather (picks : List Nat) {ts : List (Task σ)} (hts : ∀ t ∈ ts, TaskWithin R t) :
    Within R (gather picks ts) := by
  -- by induction on the schedule, the tasks within `R` after each step taken
  induction picks generalizing ts with
  | nil => exact within_mapM fun t ht => within_finish (hts t ht)
  | cons i picks ih =>
    unfold gather
    split
    · rename_i t hti
      intro d
      have ht := hts t (List.mem_of_getElem? hti)
      have hadv := within_advance ht d
      rcases hp : outcome t.advance d with ⟨r, d1⟩
      rw [hp] at hadv
      cases r with
      | error e =>
        rw [outcome_bind_error hp]
        exact hadv
      | ok t' =>
        rw [outcome_bind_ok hp]
        refine IsTrans.trans _ _ _ hadv (ih (fun u hu => ?_) d1)
        rcases List.mem_or_eq_of_mem_set hu with hu | rfl
        · exact hts u hu
        · exact advance_taskWithin ht hp
    · exact ih hts

end Closure

section Calls

open Deployment

variable {α : Type}

theorem unfetched_update {f : Engine → Engine} (hf : ∀ e, (f e).installer = e.installer) :
    Within Unfetched (update f) :=
  fun d => ⟨rfl, hf d.engine⟩

theorem unfetched_onSession (id : Nat) (call : Lab → SessionM α) :
    Within Unfetched (onLab (Lab.onSession id call)) := fun d => by
  simp only [outcome, run_onLab, Lab.run_onSession]
  cases (call d.lab).run (d.lab.session id) <;> exact ⟨rfl, rfl⟩

theorem unfetched_connectCall (call : ConnectCall) :
    Within Unfetched (onLab (Lab.connect call)) :=
  fun d => by
    rw [outcome, run_onLab, Lab.run_connect]
    by_cases hf : d.lab.fails .connect call.target
    · rw [if_pos hf]
      exact ⟨rfl, rfl⟩
    · rw [if_neg hf]
      exact ⟨rfl, rfl⟩

theorem cached_fetchInstaller : Within Cached fetchInstaller := fun d hs => by
  obtain ⟨s, hs⟩ := Option.isSome_iff_exists.1 hs
  simp only [outcome, run_fetchInstaller, hs]
  exact ⟨rfl, rfl⟩

end Calls

section Operations

open Deployment

/-! ### Every operation but the install leaves the installer alone -/

theorem unfetched_adopt (given : Option ClusterSpec) : Within Unfetched (adopt given) := by
  unfold adopt
  exact within_bind (within_require _) fun _ => within_bind (within_orFail _) fun _ =>
    within_bind (unfetched_update fun _ => rfl) fun _ =>
      within_bind within_engine fun _ => within_bind (within_orFail _) fun _ =>
        unfetched_update fun _ => rfl

theorem unfetched_setSpec (src : ClusterSpec.Source) : Within Unfetched (setSpec src) :=
  within_bind (within_orFail _) unfetched_adopt

theorem unfetched_linkFrom (via : Option SshTarget) :
    ∀ (i : Nat) (hs : List Handle), Within Unfetched (linkFrom via i hs)
  | _, [] => within_pure ()
  | i, _ :: rest =>
    within_bind within_engine fun _ => within_bind (unfetched_connectCall _) fun _ =>
      within_bind (unfetched_update fun _ => rfl) fun _ => unfetched_linkFrom via (i + 1) rest

theorem unfetched_closeQuietly (link : Option Nat) : Within Unfetched (closeQuietly link) := by
  unfold closeQuietly
  split
  · exact within_bind (within_attempt (unfetched_onSession _ _)) fun _ => within_pure ()
  · exact within_pure ()

theorem unfetched_abandon : Within Unfetched abandon :=
  within_bind within_engine fun _ =>
    within_bind (within_forM fun o _ => unfetched_closeQuietly o) fun _ =>
      within_bind (unfetched_update fun _ => rfl) fun _ =>
        within_bind (unfetched_closeQuietly _) fun _ => unfetched_update fun _ => rfl

theorem unfetched_connect : Within Unfetched connect := by
  unfold connect
  refine within_bind (within_require _) fun _ => within_bind within_spec fun c =>
    within_bind (within_attempt ?_) fun opened => ?_
  · have hlink : ∀ via, Within Unfetched (engine >>= fun e => linkFrom via 0 e.handles) :=
      fun via => within_bind within_engine fun e => unfetched_linkFrom via 0 e.handles
    dsimp only
    -- the jump host, if the description has one, is connected to first
    split
    · split
      · exact within_bind within_engine fun _ => within_bind (unfetched_connectCall _) fun _ =>
          within_bind (unfetched_update fun _ => rfl) fun _ => within_bind (within_pure _) hlink
      · exact within_bind (within_pure _) hlink
    · exact within_bind (within_pure _) hlink
  · split
    · exact unfetched_update fun _ => rfl
    · exact within_bind unfetched_abandon fun _ => within_throw _

theorem unfetched_uninstall : Within Unfetched uninstall :=
  within_bind (within_require _) fun _ => within_bind within_engine fun _ =>
    within_forM fun g _ => within_bind (within_linkOf g) fun _ => unfetched_onSession _ _

theorem unfetched_kubeconfig (path : String) (forMachines : Bool) :
    Within Unfetched (kubeconfig path forMachines) := by
  unfold kubeconfig
  refine within_bind (within_require _) fun _ => within_bind within_engine fun e =>
    within_bind (within_select _) fun hs => ?_
  cases hs with
  | nil => exact within_throw_bind _ _
  | cons g _ =>
    dsimp only
    rw [pure_bind]
    refine within_bind (within_linkOf g) fun id =>
      within_bind (within_attempt (unfetched_onSession _ _)) fun r => ?_
    cases r with
    | error f => exact within_throw_bind _ _
    | ok text =>
      dsimp only
      rw [pure_bind]
      exact within_bind within_get fun d =>
        within_bind (fun d => ⟨rfl, rfl⟩) fun _ => within_orFail _

theorem unfetched_release (cleanup : Bool) (s : Settings) (fs : List (String × Failure))
    (h : Handle) : Within Unfetched (release cleanup s fs h) := by
  unfold release
  cases h.link with
  | none => exact within_pure fs
  | some id =>
    dsimp only
    -- the cleanup, if asked, runs a command, and the close closes the session
    split
    · refine within_bind (within_attempt (unfetched_onSession _ _)) fun r => ?_
      split <;>
        refine within_bind (within_pure _) fun _ =>
          within_bind (within_attempt (unfetched_onSession _ _)) fun r' => ?_ <;>
        split <;> exact within_pure _
    · refine within_bind (within_pure _) fun _ =>
        within_bind (within_attempt (unfetched_onSession _ _)) fun r' => ?_
      split <;> exact within_pure _

theorem unfetched_disconnect : Within Unfetched disconnect := by
  unfold disconnect
  refine within_bind (within_require _) fun _ => within_bind within_engine fun e =>
    within_bind (within_foldlM (fun fs g _ => unfetched_release _ _ fs g) _) fun fs =>
      within_bind (unfetched_update fun _ => rfl) fun _ => ?_
  have hend : ∀ fs' : List (String × Failure),
      Within Unfetched (update (fun e => { e with stage := .disconnected }) >>= fun _ =>
        if !fs'.isEmpty then throw (.disconnect fs') else pure ()) := fun fs' =>
    within_bind (unfetched_update fun _ => rfl) fun _ => by
      split
      · exact within_throw _
      · exact within_pure ()
  -- the jump host's session is closed last, then the failures are reported
  dsimp only
  split
  · refine within_bind (within_attempt (unfetched_onSession _ _)) fun r =>
      within_bind (unfetched_update fun _ => rfl) fun _ => ?_
    split <;> exact within_bind (within_pure _) hend
  · exact within_bind (within_pure _) hend

end Operations

section Installing

open Deployment

variable {α : Type} {h : Handle}

theorem Within.cached {act : Deploy α} (hu : Within Unfetched act) : Within Cached act :=
  hu.mono fun _ _ h => h.cached

/-! ### Once the installer is held, installing downloads nothing -/

theorem cached_update {f : Engine → Engine} (hf : ∀ e, (f e).installer = e.installer) :
    Within Cached (update f) :=
  (unfetched_update hf).cached

theorem cached_prepare (h : Handle) (s : String) : Within Cached (prepare h s) :=
  within_bind (within_linkOf h) fun _ =>
    within_bind (cached_update fun _ => rfl) fun _ => cached_fetchInstaller

theorem cached_callStep (h : Handle) {call : String → Engine → Nat → LabM Unit}
    (hcall : ∀ s e id, Within Unfetched (onLab (call s e id))) (s : String) :
    Within Cached (callStep h call s) :=
  within_bind (within_linkOf h) fun id => within_bind within_engine fun e =>
    within_bind (hcall s e id).cached fun _ => within_pure s

theorem cached_configureSteps (h : Handle) : ∀ f ∈ configureSteps h, ∀ s, Within Cached (f s) := by
  intro f hf s
  have hcall : ∀ {call : String → Engine → Nat → LabM Unit},
      (∀ s e id, ∃ c : Lab → SessionM Unit, call s e id = Lab.onSession id c) →
      Within Cached (callStep h call s) := fun hc =>
    cached_callStep h (fun s e id => by
      obtain ⟨c, hc⟩ := hc s e id
      rw [hc]
      exact unfetched_onSession id c) s
  simp only [configureSteps, List.mem_cons, List.not_mem_nil, or_false] at hf
  rcases hf with rfl | rfl | rfl | rfl | rfl | rfl
  · exact cached_prepare h s
  · exact hcall fun _ _ _ => ⟨_, rfl⟩
  · exact hcall fun _ _ _ => ⟨_, rfl⟩
  · exact within_bind within_spec fun _ => within_bind (within_orFail _) fun _ =>
      hcall fun _ _ _ => ⟨_, rfl⟩
  · exact hcall fun _ _ _ => ⟨_, rfl⟩
  · exact hcall fun _ _ _ => ⟨_, rfl⟩

theorem cached_installStep (h : Handle) (exec : String) (joins : Bool) (s : String) :
    Within Cached (installStep h exec joins s) :=
  within_bind (within_linkOf h) fun _ => within_bind within_engine fun _ =>
    within_bind (within_bind within_engine fun _ => within_bind within_spec fun _ =>
      (unfetched_onSession _ _).cached) fun _ => within_pure s

theorem cached_serverSteps (count : Nat) (first : Bool) (h : Handle) :
    ∀ f ∈ serverSteps count first h, ∀ s, Within Cached (f s) := by
  intro f hf s
  rcases List.mem_append.mp hf with hf | hf
  · exact cached_configureSteps h f hf s
  · rw [List.mem_singleton] at hf
    subst hf
    split <;> exact cached_installStep h _ _ s

theorem cached_agentSteps (h : Handle) : ∀ f ∈ agentSteps h, ∀ s, Within Cached (f s) := by
  intro f hf s
  rcases List.mem_append.mp hf with hf | hf
  · exact cached_configureSteps h f hf s
  · rw [List.mem_singleton] at hf
    subst hf
    exact cached_installStep h _ _ s

theorem cached_fetchToken (h : Handle) : Within Cached (fetchToken h) := by
  unfold fetchToken
  refine within_bind (within_linkOf h) fun id =>
    within_bind (unfetched_onSession _ _).cached fun raw => ?_
  dsimp only
  split
  · exact within_throw_bind _ _
  · exact within_pure _

theorem cached_installServer (count : Nat) (first : Bool) (h : Handle) :
    Within Cached (installServer count first h) :=
  within_bind (within_chain (cached_serverSteps count first h) "") fun _ =>
    within_bind (cached_fetchToken h) fun _ => cached_update fun _ => rfl

theorem cached_installServers (count : Nat) (first : Bool) (hs : List Handle) :
    Within Cached (installServers count first hs) := by
  induction hs generalizing first with
  | nil => exact within_pure _
  | cons h hs ih =>
    exact within_bind (cached_installServer count first h) fun _ => ih false

/-- **The agents download nothing** once the installer is held, under any schedule. -/
theorem cached_installAgents (picks : List Nat) : Within Cached (installAgents picks) := by
  unfold installAgents
  refine within_bind (within_select _) fun agents => ?_
  split
  · refine within_bind (within_gather picks fun t ht => ?_) fun results => ?_
    · obtain ⟨h, -, rfl⟩ := List.mem_map.mp ht
      exact cached_agentSteps h
    · refine within_bind (cached_update fun _ => rfl) fun _ => ?_
      split
      · exact within_throw _
      · exact within_pure _
  · exact within_pure _

/-! ### The first server downloads the installer -/

/-- Run where no installer is held, `act` downloads it exactly once, and holds it if it
succeeds. -/
def FetchesOnce (act : Deploy α) : Prop :=
  ∀ d : Deployment, d.engine.installer = none →
    (outcome act d).2.lab.downloads = d.lab.downloads + 1 ∧
      ((outcome act d).1.isOk = true → (outcome act d).2.engine.installer.isSome)

theorem fetchesOnce_fetchInstaller : FetchesOnce fetchInstaller := by
  intro d hnone
  simp only [outcome, run_fetchInstaller, hnone, run_download]
  by_cases hrefused : d.lab.downloads + 1 ≤ d.lab.refusedDownloads
  · rw [if_pos hrefused]
    exact ⟨rfl, fun hok => by cases hok⟩
  · rw [if_neg hrefused]
    exact ⟨rfl, fun _ => rfl⟩

theorem fetchesOnce_bind {β : Type} {a : Deploy α} {k : α → Deploy β} (ha : FetchesOnce a)
    (hk : ∀ x, Within Cached (k x)) : FetchesOnce (a >>= k) := by
  intro d hnone
  obtain ⟨hdl, hheld⟩ := ha d hnone
  rcases hp : outcome a d with ⟨r, d1⟩
  rw [hp] at hdl hheld
  cases r with
  | error e =>
    rw [outcome_bind_error hp]
    exact ⟨hdl, fun hok => by cases hok⟩
  | ok x =>
    -- the download gave the installer, which the rest keeps
    rw [outcome_bind_ok hp]
    have hu := hk x d1 (hheld rfl)
    exact ⟨hu.downloads.trans hdl, fun _ => hu.installer ▸ hheld rfl⟩

theorem fetchesOnce_prepare (hl : h.link.isSome) (s : String) : FetchesOnce (prepare h s) := by
  obtain ⟨id, hid⟩ := Option.isSome_iff_exists.1 hl
  intro d hnone
  have hrun : outcome (prepare h s) d =
      outcome fetchInstaller { d with engine := { d.engine with cleanupPending := true } } := by
    simp only [outcome, run_prepare hid]
  rw [hrun]
  exact fetchesOnce_fetchInstaller _ hnone

theorem fetchesOnce_installServer (count : Nat) (first : Bool) (hl : h.link.isSome) :
    FetchesOnce (installServer count first h) := by
  -- the server's first step is its preparation, which fetches the installer
  obtain ⟨rest, hrest⟩ : ∃ rest, serverSteps count first h = prepare h :: rest := ⟨_, rfl⟩
  have hsteps := cached_serverSteps count first h
  unfold installServer
  rw [hrest, chain]
  exact fetchesOnce_bind (fetchesOnce_bind (fetchesOnce_prepare hl "") fun s =>
      within_chain (fun f hf => hsteps f (hrest ▸ List.mem_cons_of_mem _ hf)) s) fun _ =>
    within_bind (cached_fetchToken h) fun _ => cached_update fun _ => rfl

theorem fetchesOnce_installServers (count : Nat) (first : Bool) {g : Handle} {rest : List Handle}
    (hl : g.link.isSome) : FetchesOnce (installServers count first (g :: rest)) :=
  fetchesOnce_bind (fetchesOnce_installServer count first hl) fun _ =>
    cached_installServers count false rest

/-- **An install downloads the installer once.**  From the connected stage with no installer
held, whatever becomes of the install and under any schedule of the agents, exactly one download
is made: the first server's preparation fetches the installer before any agent starts, and once
it is held nothing fetches it again. -/
theorem installUnder_downloads (picks : List Nat) {d : Deployment} (h : d.Lifecycle)
    (hs : d.engine.stage = .connected) (hnone : d.engine.installer = none) :
    (outcome (installUnder picks) d).2.lab.downloads = d.lab.downloads + 1 := by
  have hlive : d.engine.stage.live := by simp [hs, Stage.live]
  obtain ⟨g, rest, hgr⟩ := List.exists_cons_of_ne_nil (h.servers_ne_nil hlive)
  have hg : g.link.isSome := h.linked hlive g (List.mem_of_mem_filter (hgr ▸ List.mem_cons_self))
  have hphases : FetchesOnce (installServers d.servers.length true d.servers >>= fun _ =>
      installAgents picks >>= fun _ => update fun e => { e with stage := .installed }) := by
    refine fetchesOnce_bind ?_ fun _ =>
      within_bind (cached_installAgents picks) fun _ => cached_update fun _ => rfl
    rw [hgr]
    exact fetchesOnce_installServers _ true hg
  rw [outcome_installUnder picks hs]
  exact (hphases (d.withStage .installing) hnone).1

end Installing

end Deploy

/-! ### Along a run of steps -/

def Step.isInstall : Step → Bool
  | .install => true
  | _ => false

def Stage.preInstall : Stage → Bool
  | .uninitialized | .specSet | .connected => true
  | _ => false

theorem Stage.preInstall_of_move {s s' : Stage} (h : Moves s s') (hs' : s'.preInstall) :
    s.preInstall := by
  cases h with
  | adopt => rfl
  | connect => rfl
  | install => cases hs'
  | installed => cases hs'
  | disconnect _ => cases hs'

theorem Stage.preInstall_of_moves {s s' : Stage} (h : Relation.ReflTransGen Moves s s')
    (hs' : s'.preInstall) : s.preInstall := by
  induction h with
  | refl => exact hs'
  | tail _ hmove ih => exact ih (preInstall_of_move hmove hs')

namespace Deployment

/-- The deployment after steps, each run on what the one before left. -/
def afterSteps (d : Deployment) : List Step → Deployment
  | [] => d
  | st :: sts => (Deploy.outcome st.perform d).2.afterSteps sts

/-- How many of the steps were installs that passed the install's check of the stage. -/
def installsPassed (d : Deployment) : List Step → Nat
  | [] => 0
  | st :: sts => (if st.isInstall ∧ d.engine.stage = .connected then 1 else 0) +
      (Deploy.outcome st.perform d).2.installsPassed sts

end Deployment

namespace Deploy

open Deployment

variable {d : Deployment}

/-- **Every step but an install leaves the installer alone**: it downloads nothing, and the
installer held stays held. -/
theorem perform_unfetched (st : Step) (hst : st.isInstall = false) :
    Within Unfetched st.perform := by
  cases st with
  | setSpec src => exact within_bind (unfetched_setSpec src) fun _ => within_pure _
  | connect => exact within_bind unfetched_connect fun _ => within_pure _
  | install => cases hst
  | uninstall => exact within_bind unfetched_uninstall fun _ => within_pure _
  | disconnect => exact within_bind unfetched_disconnect fun _ => within_pure _
  | kubeconfig path existing forMachines =>
    -- a local file handed in is put in place first, which the installer does not see
    have hk := within_bind (unfetched_kubeconfig path forMachines) fun k =>
      within_pure (R := Unfetched) (Outcome.kubeconfig k)
    cases existing with
    | none => exact hk
    | some f => exact within_bind (fun _ => ⟨rfl, rfl⟩) fun _ => hk
  | effectiveConfig position =>
    exact within_bind ((reads_effectiveConfig position).mono fun d d' (hd : d = d') =>
        hd ▸ Unfetched.refl d)
      fun _ => within_bind (within_orFail _) fun _ => within_pure _
  | selectMachines selector =>
    exact within_bind (within_orFail _) fun s => within_bind (within_select s) fun _ =>
      within_pure _
  | installerPath => exact within_bind within_engine fun _ => within_pure _
  | setFault kind hosts =>
    rw [Step.perform]
    split
    · exact within_bind (fun _ => ⟨rfl, rfl⟩) fun _ => within_pure _
    · exact within_pure _

theorem install_refused (hs : d.engine.stage ≠ .connected) :
    (outcome Step.install.perform d).2 = d := by
  have hs' : d.engine.stage ∉ [Stage.connected] := by simpa using hs
  obtain ⟨_, hout⟩ := outcome_require_bind_refused (k := fun _ => do
      update fun e => { e with stage := .installing }
      let servers ← select (.role .server)
      installServers servers.length true servers
      installAgents []
      update fun e => { e with stage := .installed }) hs'
  rw [Step.perform, outcome_bind_pure]
  exact congrArg Prod.snd hout

/-- **One step's downloads**: an install that passes its check of the stage, with no installer
held, downloads it once; every other step downloads nothing and keeps the installer held. -/
theorem step_downloads (st : Step) (h : d.Lifecycle) :
    (st.isInstall ∧ d.engine.stage = .connected → d.engine.installer = none →
      (outcome st.perform d).2.lab.downloads = d.lab.downloads + 1) ∧
    (¬ (st.isInstall ∧ d.engine.stage = .connected) → d.Unfetched (outcome st.perform d).2) := by
  refine ⟨fun ⟨hst, hs⟩ hnone => ?_, fun hpass => ?_⟩
  · cases st <;> simp only [Step.isInstall, Bool.false_eq_true] at hst
    rw [Step.perform, outcome_bind_pure]
    exact installUnder_downloads [] h hs hnone
  · cases hst : st.isInstall with
    | false => exact perform_unfetched st hst d
    | true =>
      cases st <;> simp only [Step.isInstall, Bool.false_eq_true] at hst
      rw [install_refused fun hs => hpass ⟨rfl, hs⟩]
      exact Unfetched.refl d

end Deploy

namespace Deployment

variable {d : Deployment}

/-- **Downloads along a run**: from a deployment in the lifecycle that holds no installer before
an install begins, the steps download the installer once for each install that passes its check
of the stage, and at most one does, none once an install has begun. -/
theorem afterSteps_downloads (sts : List Step) (h : d.Lifecycle)
    (hpre : d.engine.stage.preInstall → d.engine.installer = none) :
    (d.afterSteps sts).lab.downloads = d.lab.downloads + d.installsPassed sts ∧
      d.installsPassed sts ≤ if d.engine.stage.preInstall then 1 else 0 := by
  -- by induction on the steps: the invariant is the lifecycle, and no installer before an install
  induction sts generalizing d with
  | nil => simp [afterSteps, installsPassed]
  | cons st sts ih =>
    have hkeeps := Deploy.step_went st h
    have hdl := Deploy.step_downloads st h
    by_cases hpass : st.isInstall ∧ d.engine.stage = .connected
    · -- an install that passes its check leaves a stage past the install's beginning
      obtain ⟨hst, hs⟩ := hpass
      cases st <;> simp only [Step.isInstall, Bool.false_eq_true] at hst
      have hone := hdl.1 ⟨rfl, hs⟩ (hpre (by simp [hs, Stage.preInstall]))
      have hlate : (Deploy.outcome Step.install.perform d).2.engine.stage.preInstall = false := by
        rw [Step.perform, Deploy.outcome_bind_pure, (Deploy.install_lifecycle h hs).1]
        split <;> rfl
      obtain ⟨ih1, ih2⟩ := ih hkeeps.2 (fun hp => by simp [hlate] at hp)
      have hzero : (Deploy.outcome Step.install.perform d).2.installsPassed sts = 0 := by
        simpa [hlate] using ih2
      simp only [afterSteps, installsPassed, Step.isInstall, hs, and_self, if_true,
        Stage.preInstall]
      omega
    · -- any other step downloads nothing, keeps the installer, and only moves the stage on
      have hu := hdl.2 hpass
      have hback := Stage.preInstall_of_moves hkeeps.1.moves
      obtain ⟨ih1, ih2⟩ := ih hkeeps.2 fun hp => hu.installer.trans (hpre (hback hp))
      refine ⟨?_, ?_⟩
      · simp only [afterSteps, installsPassed, if_neg hpass, Nat.zero_add]
        rw [ih1, hu.downloads]
      · simp only [installsPassed, if_neg hpass, Nat.zero_add]
        refine Nat.le_trans ih2 ?_
        split
        · simp [hback ‹_›]
        · exact Nat.zero_le _

end Deployment

/-! ### The installer, fetched once -/

namespace Deploy

/-- **The installer is downloaded once.**

A round of `n ≥ 1` callers of the installer cache, under every schedule, where the `k`-th
download fails exactly when `k ≤ refused`: two downloads never run at once; the round can always
end; once a download gave the installer no caller downloads again; and once every caller
returned or failed there were `min n (refused + 1)` downloads and `min n refused` callers
failed, each with the answer of its own download, while every other returned the installer of
download `refused + 1`.

An engine started fresh, under any steps and any faults of its machines, downloads the installer
once for each install that passed its check of the stage, and at most one does. -/
theorem installer_downloaded_once {answer : Nat → Except Failure String} {refused n : Nat}
    (hn : 0 < n) (hr : ∀ k, 0 < k → ((∃ e, answer k = .error e) ↔ k ≤ refused))
    (picks : List Nat) {lab : Lab} (hlab : lab.sessions = []) (settings : Settings)
    (files : List (String × LocalFile)) (sts : List Step) :
    let c := (InstallerCache.start n).run answer picks
    let d : Deployment := ⟨{ settings }, lab, files⟩
    ((∀ i j k m : Nat, c.callers[i]? = some (.downloading k) →
        c.callers[j]? = some (.downloading m) → i = j) ∧
      (∃ more, ((InstallerCache.start n).run answer (picks ++ more)).finished = true) ∧
      (c.script.isSome → ∀ more,
        ((InstallerCache.start n).run answer (picks ++ more)).downloads = c.downloads) ∧
      (c.finished = true →
        c.downloads.length = min n (refused + 1) ∧ c.failures.length = min n refused ∧
        (∀ (i : Nat) (e : Failure), c.callers[i]? = some (.done (.error e)) →
          ∃ k, c.downloads[k]? = some i ∧ answer (k + 1) = .error e) ∧
        ∀ (i : Nat) (s : String), c.callers[i]? = some (.done (.ok s)) →
          answer (refused + 1) = .ok s)) ∧
    (d.afterSteps sts).lab.downloads = lab.downloads + d.installsPassed sts ∧
      d.installsPassed sts ≤ 1 := by
  intro c d
  have hc : InstallerCache.Sound answer c := InstallerCache.sound_run n picks
  have hlen : c.callers.length = n := by
    simp [c, InstallerCache.length_run, InstallerCache.start]
  have hrun := Deployment.afterSteps_downloads sts (Deployment.Lifecycle.fresh settings lab files hlab)
    (d := d) fun _ => rfl
  refine ⟨⟨fun i j k m hi hj => hc.downloading_unique hi hj, ?_, fun hs more => ?_,
    fun hfin => ?_⟩, hrun.1, hrun.2⟩
  · obtain ⟨more, hmore⟩ := hc.exists_finished
    exact ⟨more, by rw [InstallerCache.run_append]; exact hmore⟩
  · rw [InstallerCache.run_append]
    exact (InstallerCache.run_settled more hs).2
  · have hpos : 0 < c.callers.length := hlen ▸ hn
    rw [← hlen]
    exact ⟨hc.length_downloads hr hfin hpos, hc.length_failures hr hfin hpos,
      fun i e hi => hc.failed_own hi, fun i s hi => hc.returned hr hi⟩

/-- Three callers, the first download refused, scheduled one after another; and a fresh engine
asked to connect and install twice. -/
theorem lab_installer_downloaded_once :
    let answer : Nat → Except Failure String := fun k =>
      if k ≤ 1 then .error (.fetch "download refused") else .ok labInstaller
    let c := (InstallerCache.start 3).run answer [0, 0, 1, 1, 2, 1]
    let d : Deployment := ⟨{ settings := Settings.default }, {}, []⟩
    let sts := [Step.connect, Step.install, Step.install]
    0 < 3 ∧ (∀ k, 0 < k → ((∃ e, answer k = .error e) ↔ k ≤ 1)) ∧
    ((∀ i j k m : Nat, c.callers[i]? = some (.downloading k) →
        c.callers[j]? = some (.downloading m) → i = j) ∧
      (∃ more, ((InstallerCache.start 3).run answer ([0, 0, 1, 1, 2, 1] ++ more)).finished = true) ∧
      (c.script.isSome → ∀ more,
        ((InstallerCache.start 3).run answer ([0, 0, 1, 1, 2, 1] ++ more)).downloads =
          c.downloads) ∧
      (c.finished = true →
        c.downloads.length = min 3 (1 + 1) ∧ c.failures.length = min 3 1 ∧
        (∀ (i : Nat) (e : Failure), c.callers[i]? = some (.done (.error e)) →
          ∃ k, c.downloads[k]? = some i ∧ answer (k + 1) = .error e) ∧
        ∀ (i : Nat) (s : String), c.callers[i]? = some (.done (.ok s)) →
          answer (1 + 1) = .ok s)) ∧
    (d.afterSteps sts).lab.downloads = 0 + d.installsPassed sts ∧ d.installsPassed sts ≤ 1 := by
  intro answer c d sts
  have hr : ∀ k, 0 < k → ((∃ e, answer k = .error e) ↔ k ≤ 1) := by
    intro k _
    by_cases hk : k ≤ 1 <;> simp [answer, hk]
  exact ⟨by decide, hr, installer_downloaded_once (by decide) hr [0, 0, 1, 1, 2, 1] rfl
    Settings.default [] sts⟩

end Deploy

end ClusterDeploy
