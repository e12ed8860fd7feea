import ClusterDeploy.Proofs.Disconnect
import ClusterDeploy.Deploy.Ops

/-!
# Operations

An operation reads the description file, adopts the description, connects to the machines, does
its work (`Operation.body`) and disconnects, also when the work failed.

* `DescriptionFailure`  how reading or adopting a description fails: an unreadable, malformed,
                        ill-shaped or undeployable description, a YAML scalar its tag cannot
                        build, a path that is no path, or a server URL that cannot be written;
* `Operation.Contract`  what an operation guarantees: nothing is called on the machines before a
                        description is adopted, a failed connect, a machine that could not be
                        reached, is the result and nothing follows it, after a connect the work
                        runs and then one disconnect, whose failure gives way to the work's, and
                        no session is open at the end;
* `Operation.perform_contract`  every operation keeps it, from a fresh engine.
-/

namespace ClusterDeploy

def Operation.body (op : Operation) (forMachines : Bool) : Deploy Unit :=
  match op with
  | .up kubeconfigPath => do
    Deploy.install
    if !kubeconfigPath.isEmpty then
      let _ ← Deploy.kubeconfig kubeconfigPath forMachines
  | .down => Deploy.uninstall
  | .kubeconfig kubeconfigPath => do
    let _ ← Deploy.kubeconfig kubeconfigPath forMachines

theorem Operation.perform_eq (op : Operation) (files : Workspace) (path : String)
    (forMachines : Bool) :
    op.perform files path forMachines = Deploy.connected files path (op.body forMachines) := by
  cases op <;> rfl

/-- How reading or adopting a description fails. -/
inductive DescriptionFailure : Failure → Prop
  /-- the file cannot be read, or the description is malformed, ill-shaped, or describes no
  cluster that can be deployed -/
  | invalid (errors : List String) : DescriptionFailure (.configInvalid errors)
  /-- a tagged YAML scalar does not hold a value of its tag -/
  | load (f : Yaml.ScalarFault) : DescriptionFailure (.load f)
  /-- the path is no path -/
  | path (m : String) : DescriptionFailure (.value m)
  /-- the API server URL cannot be written -/
  | serverUrl (u : Data.Unwritable) : DescriptionFailure (.unwritable u)

section Description

variable {e : Failure}

theorem readDescription_failure {files : Workspace} {path : String}
    (h : readDescription files path = .error e) : DescriptionFailure e := by
  unfold readDescription at h
  split at h
  · cases h
  · split at h
    · cases h
      exact .invalid _
    · cases h
      exact .path _

theorem ClusterSpec.ofYaml_failure {text : String} (h : ClusterSpec.ofYaml text = .error e) :
    DescriptionFailure e := by
  unfold ClusterSpec.ofYaml at h
  split at h
  · cases h
    exact .invalid _
  · cases h
    exact .load _
  · cases h
    exact .invalid _
  · unfold ClusterSpec.ofData at h
    split at h
    · cases h
    · cases h
      exact .invalid _

theorem ClusterSpec.verify_failure {given : Option ClusterSpec}
    (h : ClusterSpec.verify given = .error e) : DescriptionFailure e := by
  unfold ClusterSpec.verify at h
  split at h
  · cases h
    exact .invalid _
  · -- every problem found is reported as an invalid description
    dsimp only at h
    generalize (_ ++ _ : List String) = problems at h
    split at h
    · cases h
    · cases h
      exact .invalid _

namespace Deploy

theorem setSpec_failure {d : Deployment} {text : String} (hs : d.engine.stage = .uninitialized)
    (h : (outcome (setSpec (.text text)) d).1 = .error e) : DescriptionFailure e := by
  unfold setSpec adopt at h
  cases hy : ClusterSpec.ofYaml text with
  | error f =>
    have hr : ClusterSpec.read (.text text) = .error f := by
      simp [ClusterSpec.read, hy, Except.map]
    rw [hr, outcome_orFail_error_bind] at h
    cases h
    exact ClusterSpec.ofYaml_failure hy
  | ok c =>
    have hr : ClusterSpec.read (.text text) = .ok (some c) := by
      simp [ClusterSpec.read, hy, Except.map]
    rw [hr, outcome_orFail_ok_bind, outcome_require_bind (by simp [hs])] at h
    cases hv : ClusterSpec.verify (some c) with
    | error f =>
      rw [hv, outcome_orFail_error_bind] at h
      cases h
      exact ClusterSpec.verify_failure hv
    | ok c' =>
      rw [hv, outcome_orFail_ok_bind, outcome_update_bind, outcome_engine_bind] at h
      dsimp only at h
      cases hu : c'.serverUrl d.engine.settings.apiPort with
      | error u =>
        rw [hu] at h
        cases h
        exact .serverUrl u
      | ok url =>
        rw [hu] at h
        cases h

end Deploy

end Description

/-- Nothing is live, and each session the lab opened was closed once. -/
def Deployment.Settled (d : Deployment) : Prop :=
  d.engine.stage.live = false ∧ ∀ id < d.lab.sessions.length, (d.lab.session id).closes = 1

namespace Deploy

variable {d : Deployment}

theorem settled_of_dead (h : d.Lifecycle) (hdead : d.engine.stage.live = false) : d.Settled :=
  ⟨hdead, h.accounted.closed_once (h.idle hdead)⟩

/-- **A disconnect from a live stage settles the deployment**, and fails only as a disconnect,
with the failures of the machines it could not reach. -/
theorem disconnect_settles (h : d.Lifecycle) (hlive : d.engine.stage.live) :
    (outcome disconnect d).2.Settled ∧
      ((outcome disconnect d).1 = .ok () ∨ ∃ fs, (outcome disconnect d).1 = .error (.disconnect fs)) := by
  have hdisc := outcome_disconnect (Stage.live_iff_mem.1 hlive) h.accounted
  have hdead : (outcome disconnect d).2.engine.stage.live = false := by
    rw [hdisc]
    rfl
  refine ⟨settled_of_dead (disconnect_keeps h).2 hdead, ?_⟩
  rw [hdisc]
  dsimp only
  split
  · exact .inl rfl
  · exact .inr ⟨_, rfl⟩

theorem closeQuietly_ok (o : Option Nat) (d : Deployment) :
    (outcome (closeQuietly o) d).1 = .ok () := by
  cases o with
  | none => rfl
  | some id =>
    rw [closeQuietly, outcome_bind_ok (outcome_attempt _ d)]
    rfl

/-- **Abandoning a connect never fails**, whatever the sessions answer. -/
theorem abandon_ok (d : Deployment) : (outcome abandon d).1 = .ok () := by
  -- the machines' sessions are closed one by one, then the jump host's
  have hall : ∀ (os : List (Option Nat)) (d : Deployment),
      (outcome (os.forM closeQuietly) d).1 = .ok () := by
    intro os
    induction os with
    | nil => intro d; rfl
    | cons o os ih =>
      intro d
      show (outcome (closeQuietly o >>= fun _ => os.forM closeQuietly) d).1 = _
      rw [outcome_bind_ok (Prod.ext (closeQuietly_ok o d) rfl)]
      exact ih _
  unfold abandon
  rw [outcome_engine_bind, outcome_bind_ok (Prod.ext (hall _ d) rfl), outcome_update_bind,
    outcome_bind_ok (Prod.ext (closeQuietly_ok _ _) rfl)]
  rfl

theorem linkFrom_failure (via : Option SshTarget) (rest : List Handle) :
    ∀ (i : Nat) (d : Deployment) (e : Failure), (outcome (linkFrom via i rest) d).1 = .error e →
      ∃ m, e = .connect m := by
  -- by induction on the machines left: each connect fails as a connect or moves on
  induction rest with
  | nil =>
    intro i d e h
    cases h
  | cons g rest ih =>
    intro i d e h
    rw [linkFrom, outcome_engine_bind, outcome_connect_bind] at h
    split at h
    · cases h
      exact ⟨_, rfl⟩
    · rw [outcome_update_bind] at h
      exact ih _ _ _ h

/-- **A connect fails only as a connect**, once a description is adopted: the jump host or a
machine could not be reached. -/
theorem connect_failure {c : ClusterSpec} {e : Failure} (hs : d.engine.stage = .specSet)
    (hspec : d.engine.spec = some c) (h : (outcome connect d).1 = .error e) :
    ∃ m, e = .connect m := by
  unfold connect at h
  rw [outcome_require_bind (by simp [hs]), outcome_spec_bind hspec _,
    outcome_bind_ok (outcome_attempt _ d)] at h
  generalize hX : outcome _ d = p at h
  obtain ⟨r, D⟩ := p
  cases r with
  | ok u => cases h
  | error f =>
    -- the failure of the opening is the result, after every session is abandoned
    dsimp only at h
    rw [outcome_bind_ok (Prod.ext (abandon_ok D) rfl)] at h
    cases h
    -- the jump host is connected first, when the description has one
    cases hp : c.proxy with
    | none =>
      rw [hp] at hX
      dsimp only at hX
      rw [pure_bind, outcome_engine_bind] at hX
      exact linkFrom_failure _ _ _ _ _ (by rw [hX])
    | some p =>
      rw [hp] at hX
      dsimp only at hX
      split at hX
      · rw [outcome_engine_bind, outcome_connect_bind] at hX
        split at hX
        · cases hX
          exact ⟨_, rfl⟩
        · rw [outcome_update_bind, pure_bind, outcome_engine_bind] at hX
          exact linkFrom_failure _ _ _ _ _ (by rw [hX])
      · rw [pure_bind, outcome_engine_bind] at hX
        exact linkFrom_failure _ _ _ _ _ (by rw [hX])

theorem keeps_live {α : Type} {st : Step} {act : Deploy α} (hk : st.Keeps act d)
    (hst : st.keepsStage = true) (hlive : d.engine.stage.live) :
    (outcome act d).2.Lifecycle ∧ (outcome act d).2.engine.stage.live :=
  ⟨hk.2, (hk.1.kept hst) ▸ hlive⟩

/-- **The work of an operation keeps the machines connected**: from the connected stage it keeps
the lifecycle and ends at a live stage, installing or installed after an install. -/
theorem body_live (op : Operation) (forMachines : Bool) (h : d.Lifecycle)
    (hs : d.engine.stage = .connected) :
    (outcome (op.body forMachines) d).2.Lifecycle ∧
      (outcome (op.body forMachines) d).2.engine.stage.live := by
  have hlive : d.engine.stage.live := by simp [hs, Stage.live]
  cases op with
  | up p =>
    obtain ⟨hstage, hlife, -⟩ := install_lifecycle h hs
    have hlive₁ : (outcome install d).2.engine.stage.live := by
      rw [hstage]
      split <;> rfl
    rcases hout : outcome install d with ⟨r, d₁⟩
    rw [hout] at hlife hlive₁
    cases r with
    | error e =>
      rw [Operation.body, outcome_bind_error hout]
      exact ⟨hlife, hlive₁⟩
    | ok u =>
      rw [Operation.body, outcome_bind_ok hout]
      -- the kubeconfig is fetched only for a path that is given
      split
      · rw [outcome_bind_pure]
        exact keeps_live (kubeconfig_keeps p none forMachines hlife) rfl hlive₁
      · exact ⟨hlife, hlive₁⟩
  | down => exact keeps_live (uninstall_keeps h) rfl hlive
  | kubeconfig p =>
    rw [Operation.body, outcome_bind_pure]
    exact keeps_live (kubeconfig_keeps p none forMachines h) rfl hlive

end Deploy

open Deploy in
/-- What running `op` from `d` guarantees: no session is open at the end; and either the
description could not be read or adopted and nothing was done on the machines, the engine
holding at most the description taken before its server URL could not be written, or the
connect failed, as a
machine or the jump host that could not be reached, and that is the result with nothing done
after it, or the work ran once connected and then one disconnect, whose failure, always of the
disconnect's kind, is the result only when the work did not fail. -/
def Operation.Contract (op : Operation) (files : Workspace) (path : String) (forMachines : Bool)
    (d : Deployment) : Prop :=
  let r := outcome (op.perform files path forMachines) d
  r.2.Settled ∧
  ((∃ e, r.1 = .error e ∧ DescriptionFailure e ∧ (r.2 = d ∨ ∃ c, r.2 = d.taking c)) ∨
   (∃ text d₁ m, readDescription files path = .ok text ∧
      outcome (setSpec (.text text)) d = (.ok (), d₁) ∧ r = outcome connect d₁ ∧
      r.1 = .error (.connect m)) ∨
   (∃ text d₁ d₂, readDescription files path = .ok text ∧
      outcome (setSpec (.text text)) d = (.ok (), d₁) ∧ outcome connect d₁ = (.ok (), d₂) ∧
      r.2 = (outcome disconnect (outcome (op.body forMachines) d₂).2).2 ∧
      r.1 = (match (outcome (op.body forMachines) d₂).1 with
        | .ok () => (outcome disconnect (outcome (op.body forMachines) d₂).2).1
        | .error f => .error f) ∧
      ((outcome disconnect (outcome (op.body forMachines) d₂).2).1 = .ok () ∨
        ∃ fs, (outcome disconnect (outcome (op.body forMachines) d₂).2).1 = .error (.disconnect fs))))

open Deploy in
/-- **An operation keeps its contract**, from a fresh engine in the lifecycle. -/
theorem Operation.perform_contract (op : Operation) (files : Workspace) (path : String)
    (forMachines : Bool) {d : Deployment} (h : d.Lifecycle)
    (hs : d.engine.stage = .uninitialized) : op.Contract files path forMachines d := by
  have hdead : d.engine.stage.live = false := by simp [hs, Stage.live]
  unfold Operation.Contract
  rw [Operation.perform_eq]
  unfold connected
  cases hread : readDescription files path with
  | error e =>
    -- the description file cannot be read: nothing is done
    rw [outcome_orFail_error_bind]
    exact ⟨settled_of_dead h hdead, .inl ⟨e, rfl, readDescription_failure hread, .inl rfl⟩⟩
  | ok text =>
    rw [outcome_orFail_ok_bind]
    rcases setSpec_went (.text text) d with ⟨f, hout⟩ | ⟨-, c, hv, ⟨u, hout⟩ | ⟨url, hout⟩⟩
    · -- the description cannot be adopted: nothing is done
      rw [outcome_bind_error hout]
      exact ⟨settled_of_dead h hdead,
        .inl ⟨f, rfl, setSpec_failure hs (by rw [hout]), .inl rfl⟩⟩
    · -- the description is taken, but its server URL cannot be written: nothing else is done
      rw [outcome_bind_error hout]
      exact ⟨settled_of_dead (h.taken hs hv) hdead, .inl ⟨_, rfl, .serverUrl u, .inr ⟨c, rfl⟩⟩⟩
    have h₁ := (setSpec_keeps (.text text) h).2
    rw [hout] at h₁
    rw [outcome_bind_ok hout]
    obtain ⟨-, hlife₂, hstage₂⟩ := connect_went h₁ rfl
    rcases hc : outcome connect _ with ⟨rc, d₂⟩
    rw [hc] at hlife₂ hstage₂
    dsimp only at hlife₂ hstage₂
    cases rc with
    | error e =>
      -- the connect failed, closing what it opened, and nothing follows
      have hdead₂ : d₂.engine.stage.live = false := by
        simp [hstage₂, Stage.live, Except.isOk, Except.toBool]
      obtain ⟨m, rfl⟩ := connect_failure rfl rfl (by rw [hc])
      rw [outcome_bind_error hc]
      exact ⟨settled_of_dead hlife₂ hdead₂, .inr (.inl ⟨text, _, m, rfl, hout, hc.symm, rfl⟩)⟩
    | ok u =>
      -- connected: the work runs, then the disconnect from the live stage it leaves
      have hconn : d₂.engine.stage = .connected := by
        simpa [Except.isOk, Except.toBool] using hstage₂
      obtain ⟨hlife₃, hlive₃⟩ := body_live op forMachines hlife₂ hconn
      obtain ⟨hend, hkind⟩ := disconnect_settles hlife₃ hlive₃
      rw [outcome_bind_ok hc, outcome_bind_ok (outcome_attempt _ d₂)]
      cases hb : (outcome (op.body forMachines) d₂).1 with
      | ok u' =>
        -- the work succeeded: the disconnect's result is the result
        exact ⟨hend, .inr (.inr ⟨text, _, d₂, rfl, hout, hc, rfl, by rw [hb], hkind⟩)⟩
      | error f =>
        -- the work failed: the disconnect still runs, and its failure gives way
        rw [outcome_bind_ok (outcome_attempt _ _)]
        have hsettled := hkind
        generalize (outcome disconnect (outcome (op.body forMachines) d₂).2).1 = x at hkind ⊢
        rcases hkind with rfl | ⟨fs, rfl⟩ <;>
          exact ⟨hend, .inr (.inr ⟨text, _, d₂, rfl, hout, hc, rfl, by rw [hb]; rfl, hsettled⟩)⟩

/-- Taking down a cluster from a fresh engine whose description holds an integer that is none. -/
theorem lab_perform_contract :
    Operation.Contract .down { files := [("k3se.yml", "!!int x")] } "k3se.yml" false
      ⟨{ settings := .default }, {}, []⟩ :=
  Operation.perform_contract .down _ _ false (Deployment.Lifecycle.fresh _ _ _ rfl) rfl

/-- A scalar its tag cannot build is refused as that, not as an invalid description. -/
theorem description_int_tag_fault :
    ((Deploy.outcome (Deploy.setSpec (.text "!!int x")) ⟨{ settings := .default }, {}, []⟩).1 matches
      .error (.load _)) = true := by
  decide +kernel

end ClusterDeploy
