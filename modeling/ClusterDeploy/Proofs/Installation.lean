import ClusterDeploy.Proofs.Phases

/-!
# Installing a connected cluster

An install from a connected deployment runs the two phases of `Proofs/Phases`: the servers one
after another, then, if they all succeed, the agents together.  Here the phases are put end to
end and everything is said of the deployment the install starts from and the one it ends in:

* `Deployment.Connected` is what connecting leaves: a verified description, a handle for each
  of its machines holding a session of its own, and no failed agent yet;
* `InstallWent` says how every machine fared: each server makes its moves until the first that
  fails, which ends the install; the agents run only after every server succeeded, each to its
  own first failure, and their failures are recorded in the order of the description;
* `install_went` proves it, for every schedule of the agents.
-/

namespace ClusterDeploy

namespace Deployment

def withStage (d : Deployment) (s : Stage) : Deployment :=
  { d with engine := { d.engine with stage := s } }

@[simp] theorem lab_withStage (d : Deployment) (s : Stage) : (d.withStage s).lab = d.lab := rfl

@[simp] theorem trial_withStage (d : Deployment) (s : Stage) : (d.withStage s).trial = d.trial :=
  rfl

theorem Holds.withStage {d : Deployment} {hs : List Handle} (h : d.Holds hs) (s : Stage) :
    (d.withStage s).Holds hs :=
  ⟨h.linked, h.apart⟩

theorem fetched_withStage (d : Deployment) (s : Stage) : (d.withStage s).fetched = d.fetched := by
  simp only [fetched, Deploy.outcome, Deploy.run_fetchInstaller, withStage]
  -- the download, if any, sees only the lab
  cases d.engine.installer with
  | some i => rfl
  | none =>
    simp only [Deploy.run_download]
    by_cases hrefused : d.lab.downloads + 1 ≤ d.lab.refusedDownloads
    · simp [hrefused]
    · simp [hrefused]

/-- `d` is connected to the machines of the verified description `c`, as connecting leaves it:
each machine has a handle, in the order of the description, holding a session of its own, and
no agent has failed yet. -/
structure Connected (d : Deployment) (c : ClusterSpec) : Prop where
  stage : d.engine.stage = .connected
  spec : d.engine.spec = some c
  verified : ClusterSpec.verify (some c) = .ok c
  machines : d.engine.handles.map Handle.machine = c.machines
  holds : d.Holds d.engine.handles
  failedNodes : d.engine.failedNodes = []

namespace Connected

variable {d : Deployment} {c : ClusterSpec}

theorem servers_machines (hd : d.Connected c) : d.servers.map Handle.machine = c.servers := by
  simp only [servers, ClusterSpec.servers, ClusterSpec.select, ← hd.machines, List.filter_map]
  rfl

theorem servers_ne_nil (hd : d.Connected c) : d.servers ≠ [] := by
  intro hnil
  have hnone : c.servers = [] := by rw [← hd.servers_machines, hnil, List.map_nil]
  have hv := hd.verified
  simp [ClusterSpec.verify, hnone] at hv

theorem holds_servers (hd : d.Connected c) : d.Holds d.servers :=
  hd.holds.sublist List.filter_sublist

theorem holds_agents (hd : d.Connected c) : d.Holds d.agents :=
  hd.holds.sublist List.filter_sublist

theorem agent_not_server (hd : d.Connected c) {a : Handle} (ha : a ∈ d.agents) :
    a.link.getD 0 ∉ linkIds d.servers := by
  intro hmem
  obtain ⟨g, hg, he⟩ := List.mem_map.mp hmem
  have hga : g = a := by
    obtain ⟨id, hid, -⟩ := hd.holds.linked g (List.mem_of_mem_filter hg)
    obtain ⟨id', hid', -⟩ := hd.holds.linked a (List.mem_of_mem_filter ha)
    refine List.inj_on_of_nodup_map hd.holds.apart (List.mem_of_mem_filter hg)
      (List.mem_of_mem_filter ha) ?_
    simp_all
  subst hga
  have hs := (List.mem_filter.mp hg).2
  have ha' := (List.mem_filter.mp ha).2
  cases hrole : g.machine.role <;> simp_all [Selector.admits]

theorem server_not_agent (hd : d.Connected c) {g : Handle} (hg : g ∈ d.servers) :
    g.link.getD 0 ∉ linkIds d.agents := by
  intro hmem
  obtain ⟨a, ha, he⟩ := List.mem_map.mp hmem
  exact hd.agent_not_server ha (he ▸ List.mem_map_of_mem hg)

end Connected

end Deployment

section Plans

variable (c : ClusterSpec)

/-- The moves agent `g` makes in an install from `d` ending in `d'`: the installer fetched, then
its install calls, joining the cluster with the token the last server reports. -/
def agentPhasePlan (d d' : Deployment) (g : Handle) : List (Except Failure Call) :=
  match d.fetched with
  | .error f => [.error f]
  | .ok inst =>
    c.installCalls d.engine.settings g.machine inst (installEnvironment c.version "agent"
      (some (d.engine.serverUrl, joinToken d d' d.servers d.servers.length)))

/-- How agent `g` ends: with the failure its moves end with, if any. -/
def agentPhaseFailure (d d' : Deployment) (g : Handle) : Option Failure :=
  (d.trial (g.link.getD 0) (agentPhasePlan c d d' g)).2

/-- The agents' failures, recorded by address in the order of the description. -/
def agentPhaseFailures (d d' : Deployment) : List (String × Failure) :=
  d.agents.foldl (fun fs g =>
    match agentPhaseFailure c d d' g with
    | some f => Failure.record fs g.address f
    | none => fs) []

end Plans

section Transfer

variable {c : ClusterSpec} {count : Nat} {hs : List Handle} {d d0 d1 d' : Deployment}

theorem joinToken_transfer (h0 : d0.engine.clusterToken = d.engine.clusterToken)
    (hend : ∀ g ∈ hs, d1.reportedToken (g.link.getD 0) = d'.reportedToken (g.link.getD 0))
    {i : Nat} (hi : i ≤ hs.length) : joinToken d0 d1 hs i = joinToken d d' hs i := by
  cases i with
  | zero => exact h0
  | succ i =>
    have hlt : i < hs.length := by omega
    simp only [joinToken, List.getElem?_eq_getElem hlt, Option.bind_some]
    exact hend _ (List.getElem_mem hlt)

variable (s : Stage) (hend : ∀ g ∈ hs, d1.reportedToken (g.link.getD 0) = d'.reportedToken (g.link.getD 0))
include hend

theorem phasePlan_transfer (first : Bool) {i : Nat} {g : Handle} (hi : hs[i]? = some g) :
    phasePlan c count (d.withStage s) d1 first hs i g = phasePlan c count d d' first hs i g := by
  have hle : i ≤ hs.length := Nat.le_of_lt (List.getElem?_eq_some_iff.mp hi).1
  have hjoin : joinToken (d.withStage s) d1 hs i = joinToken d d' hs i :=
    joinToken_transfer rfl hend hle
  simp only [phasePlan, serverPlan, Deployment.fetched_withStage, hjoin]
  rfl

theorem phaseFailure_transfer (first : Bool) {i : Nat} {g : Handle} (hi : hs[i]? = some g) :
    phaseFailure c count (d.withStage s) d1 first hs i g = phaseFailure c count d d' first hs i g := by
  rw [Deploy.phaseFailure_eq, Deploy.phaseFailure_eq, phasePlan_transfer s hend first hi,
    Deployment.trial_withStage, hend g (List.mem_of_getElem? hi)]

end Transfer

/-- How installing the machines of `d`, described by `c`, went, ending in `d'` with `r`. -/
structure InstallWent (c : ClusterSpec) (d : Deployment) (r : Except Failure Unit)
    (d' : Deployment) : Prop where
  /-- a server all of whose predecessors succeeded makes its moves up to the first that fails -/
  serverRan : ∀ i g, d.servers[i]? = some g →
    (∀ k g', k < i → d.servers[k]? = some g' →
      phaseFailure c d.servers.length d d' true d.servers k g' = none) →
    d'.lab.session (g.link.getD 0) = d.lab.afterAll
      (d.trial (g.link.getD 0) (phasePlan c d.servers.length d d' true d.servers i g)).1
      (d.lab.session (g.link.getD 0))
  /-- the first server to fail fails the install at once: no later server and no agent makes
  a move, no agent is recorded as failed, and the install stays at its stage -/
  serverFailed : ∀ i g f, d.servers[i]? = some g →
    (∀ k g', k < i → d.servers[k]? = some g' →
      phaseFailure c d.servers.length d d' true d.servers k g' = none) →
    phaseFailure c d.servers.length d d' true d.servers i g = some f →
    r = .error f ∧ d'.engine.stage = .installing ∧ d'.engine.failedNodes = [] ∧
    (∀ j g', i < j → d.servers[j]? = some g' →
      d'.lab.session (g'.link.getD 0) = d.lab.session (g'.link.getD 0)) ∧
    ∀ a ∈ d.agents, d'.lab.session (a.link.getD 0) = d.lab.session (a.link.getD 0)
  /-- once every server succeeded, each agent makes its moves up to its own first failure -/
  agentRan : (∀ i g, d.servers[i]? = some g →
      phaseFailure c d.servers.length d d' true d.servers i g = none) →
    ∀ a ∈ d.agents, d'.lab.session (a.link.getD 0) = d.lab.afterAll
      (d.trial (a.link.getD 0) (agentPhasePlan c d d' a)).1 (d.lab.session (a.link.getD 0))
  /-- ... and the agents' failures, in the order of the description, are recorded and fail the
  install; without any, the install is done -/
  agentsFailed : (∀ i g, d.servers[i]? = some g →
      phaseFailure c d.servers.length d d' true d.servers i g = none) →
    d'.engine.failedNodes = agentPhaseFailures c d d' ∧
    if (agentPhaseFailures c d d').isEmpty then r = .ok () ∧ d'.engine.stage = .installed
    else r = .error (.install (agentPhaseFailures c d d')) ∧ d'.engine.stage = .installing

namespace Deploy

variable {c : ClusterSpec} {d : Deployment}

theorem outcome_installUnder (picks : List Nat) (hstage : d.engine.stage = .connected) :
    outcome (installUnder picks) d =
      outcome (installServers d.servers.length true d.servers >>= fun _ =>
        installAgents picks >>= fun _ => update fun e => { e with stage := .installed })
        (d.withStage .installing) := by
  have hreq : (require [.connected]).run d = .ok () d := by
    simp [require, engine, hstage]
  simp only [outcome, installUnder, EStateM.run_bind, hreq, update, EStateM.run_modify, run_select]
  rfl

/-- **A server fails the install.**  When the servers' phase fails, the install ends with it. -/
theorem installWent_of_servers (hd : d.Connected c) {f : Failure} {d1 : Deployment}
    (hw : ServersWent c d.servers.length d.servers true (d.withStage .installing) (.error f) d1) :
    InstallWent c d (.error f) d1 := by
  have hend : ∀ g ∈ d.servers, d1.reportedToken (g.link.getD 0) = d1.reportedToken (g.link.getD 0) :=
    fun _ _ => rfl
  -- the phase's plans and failures are the install's, read from the stage before
  have hplan : ∀ {i g}, d.servers[i]? = some g →
      phasePlan c d.servers.length (d.withStage .installing) d1 true d.servers i g =
        phasePlan c d.servers.length d d1 true d.servers i g :=
    fun hi => phasePlan_transfer .installing hend true hi
  have hfail : ∀ {i g}, d.servers[i]? = some g →
      phaseFailure c d.servers.length (d.withStage .installing) d1 true d.servers i g =
        phaseFailure c d.servers.length d d1 true d.servers i g :=
    fun hi => phaseFailure_transfer .installing hend true hi
  have hprev : ∀ i, (∀ k g', k < i → d.servers[k]? = some g' →
      phaseFailure c d.servers.length d d1 true d.servers k g' = none) →
      ∀ k g', k < i → d.servers[k]? = some g' → phaseFailure c d.servers.length
        (d.withStage .installing) d1 true d.servers k g' = none :=
    fun i hp k g' hk hg' => (hfail hg').trans (hp k g' hk hg')
  refine ⟨fun i g hi hp => ?_, fun i g f' hi hp hf => ?_, fun hall => ?_, fun hall => ?_⟩
  · rw [hw.ran i g hi (hprev i hp), hplan hi]
    rfl
  · have hf' := (hfail hi).trans hf
    refine ⟨hw.fails i g f' hi (hprev i hp) hf', hw.keeps.stage, hw.keeps.failedNodes.trans
      hd.failedNodes, fun j g' hij hj => hw.idle j g' i g hj hi hij (by simp [hf']),
      fun a ha => hw.others _ (hd.agent_not_server ha)⟩
  · cases (hw.succeeds fun i g hi => (hfail hi).trans (hall i g hi)).1
  · cases (hw.succeeds fun i g hi => (hfail hi).trans (hall i g hi)).1

theorem agents_transfer {d1 : Deployment} {first : Bool} {r : Except Failure Unit}
    (hw : ServersWent c d.servers.length d.servers first (d.withStage .installing) r d1) :
    d1.agents = d.agents := by
  simp only [Deployment.agents, hw.keeps.handles]
  rfl

section Agents

variable {d1 d' : Deployment} (hd : d.Connected c)
  (hw : ServersWent c d.servers.length d.servers true (d.withStage .installing) (.ok ()) d1)
  (hend : ∀ g ∈ d.servers, d1.reportedToken (g.link.getD 0) = d'.reportedToken (g.link.getD 0))
include hd hw hend

theorem agentPlan_transfer {a : Handle} (ha : a ∈ d.agents) :
    d1.trial (a.link.getD 0) (d1.agentPlan a.machine) =
      d.trial (a.link.getD 0) (agentPhasePlan c d d' a) := by
  obtain ⟨-, htok, harmed⟩ := hw.succeeds hw.all_ok
  obtain ⟨-, inst, hfetched, hinst⟩ := harmed hd.servers_ne_nil
  have hjoin : d1.engine.clusterToken = joinToken d d' d.servers d.servers.length :=
    htok.trans (joinToken_transfer rfl hend (Nat.le_refl _))
  have hplan : d1.agentPlan a.machine = agentPhasePlan c d d' a := by
    rw [Deployment.fetched_withStage] at hfetched
    simp only [Deployment.agentPlan, hinst, Option.getD_some,
      Engine.agentMoves_map (hw.keeps.spec.trans hd.spec), agentPhasePlan, hfetched,
      hw.keeps.settings, hw.keeps.serverUrl, hjoin]
    rfl
  rw [hplan, Deployment.trial_congr hw.keeps (hw.others _ (hd.agent_not_server ha))]
  rfl

theorem agentFailures_transfer : d1.agentFailures d1.agents = agentPhaseFailures c d d' := by
  rw [agents_transfer hw, Deployment.agentFailures, agentPhaseFailures]
  refine List.foldl_ext _ _ _ fun fs a ha => ?_
  simp only [Deployment.agentOutcome, agentPhaseFailure, agentPlan_transfer hd hw hend ha]
  cases (d.trial (a.link.getD 0) (agentPhasePlan c d d' a)).2 <;> rfl

end Agents

/-- **The agents end the install.**  When every server succeeded, the agents' phase decides how
the install ends; if it succeeds, the install is done. -/
theorem installWent_of_agents (hd : d.Connected c) {d1 d2 d' : Deployment}
    {r2 : Except Failure Unit}
    (hfinal : (match r2 with
      | .ok _ => d2.withStage .installed
      | .error _ => d2) = d')
    (hw : ServersWent c d.servers.length d.servers true (d.withStage .installing) (.ok ()) d1)
    (ha : d1.AgentsWent r2 d2) : InstallWent c d r2 d' := by
  have hlab : d'.lab = d2.lab := by
    subst hfinal
    cases r2 <;> rfl
  have hagents := agents_transfer hw
  -- the agents leave the servers' sessions and the lab's tokens as the servers left them
  have hsrv : ∀ g ∈ d.servers, d'.lab.session (g.link.getD 0) = d1.lab.session (g.link.getD 0) :=
    fun g hg => by
      rw [hlab]
      exact ha.others _ (hagents ▸ hd.server_not_agent hg)
  have htokens : d'.lab.tokens = d1.lab.tokens := by
    have hview := congrArg Lab.tokens ha.view
    rw [hlab]
    exact hview
  have hend : ∀ g ∈ d.servers,
      d1.reportedToken (g.link.getD 0) = d'.reportedToken (g.link.getD 0) := fun g hg =>
    (Deployment.reportedToken_eq htokens (hsrv g hg)).symm
  have hall : ∀ i g, d.servers[i]? = some g →
      phaseFailure c d.servers.length d d' true d.servers i g = none := fun i g hi =>
    (phaseFailure_transfer .installing hend true hi).symm.trans (hw.all_ok i g hi)
  have hfailures := agentFailures_transfer hd hw hend
  refine ⟨fun i g hi _ => ?_, fun i g f hi _ hf => ?_, fun _ a ha' => ?_, fun _ => ?_⟩
  · rw [hsrv g (List.mem_of_getElem? hi), hw.ran i g hi (fun k g' _ hk => hw.all_ok k g' hk),
      phasePlan_transfer .installing hend true hi]
    rfl
  · simp [hall i g hi] at hf
  · rw [hlab, ha.ran a (hagents ▸ ha'), Lab.afterAll_congr hw.keeps.faults,
      agentPlan_transfer hd hw hend ha', hw.others _ (hd.agent_not_server ha')]
    rfl
  · have hnodes : d'.engine.failedNodes = d2.engine.failedNodes := by
      subst hfinal
      cases r2 <;> rfl
    have hstage : d2.engine.stage = .installing := by
      rw [ha.engine]
      split <;> exact hw.keeps.stage
    refine ⟨?_, ?_⟩
    · rw [hnodes, ha.engine]
      split
      · rename_i hempty
        rw [hw.keeps.failedNodes]
        show d.engine.failedNodes = _
        rw [hd.failedNodes, ← hfailures, List.isEmpty_iff.mp hempty]
        rfl
      · exact hfailures
    · have hr := ha.result
      rw [hfailures] at hr
      subst hr
      -- the failures recorded decide the result and the stage
      split
      · rename_i hnone
        have hdone : d' = d2.withStage .installed := by
          rw [← hfinal]
          simp [hnone]
        exact ⟨rfl, by rw [hdone]; rfl⟩
      · rename_i hsome
        have hfailed : d' = d2 := by
          rw [← hfinal]
          simp [hsome]
        exact ⟨rfl, by rw [hfailed, hstage]⟩

theorem outcome_installed (d : Deployment) :
    outcome (update fun e => { e with stage := .installed }) d = (.ok (), d.withStage .installed) :=
  rfl

theorem armed_after_servers (hd : d.Connected c) {d1 : Deployment}
    (hw : ServersWent c d.servers.length d.servers true (d.withStage .installing) (.ok ()) d1) :
    d1.Armed ∧ d1.Holds d1.agents := by
  obtain ⟨-, -, harmed⟩ := hw.succeeds hw.all_ok
  refine ⟨(harmed hd.servers_ne_nil).1, ?_⟩
  rw [agents_transfer hw]
  exact (hd.holds_agents.withStage _).keeps hw.keeps

theorem servers_went_installing (hd : d.Connected c) {r1 : Except Failure Unit} {d1 : Deployment}
    (hp : outcome (installServers d.servers.length true d.servers) (d.withStage .installing) =
      (r1, d1)) :
    ServersWent c d.servers.length d.servers true (d.withStage .installing) r1 d1 :=
  servers_went (d := d.withStage .installing) d.servers true hd.spec
    (hd.holds_servers.withStage _) hp

/-- **The schedule does not matter**: an install from a connected deployment ends the same under
every schedule of the agents' steps. -/
theorem installUnder_schedule (picks : List Nat) (hd : d.Connected c) :
    outcome (installUnder picks) d = outcome (installUnder []) d := by
  rw [outcome_installUnder picks hd.stage, outcome_installUnder [] hd.stage]
  rcases hp : outcome (installServers d.servers.length true d.servers) (d.withStage .installing)
    with ⟨r1, d1⟩
  cases r1 with
  | error f => rw [outcome_bind_error hp, outcome_bind_error hp]
  | ok u =>
    obtain ⟨harmed, hagents⟩ := armed_after_servers hd (servers_went_installing hd hp)
    rw [outcome_bind_ok hp, outcome_bind_ok hp]
    simp only [outcome, EStateM.run_bind, installAgents_schedule picks harmed hagents]

/-- **Installing a connected cluster**, under any schedule of the agents' steps, goes as
`InstallWent` says. -/
theorem install_went (picks : List Nat) (hd : d.Connected c) :
    InstallWent c d (outcome (installUnder picks) d).1 (outcome (installUnder picks) d).2 := by
  rw [installUnder_schedule picks hd, outcome_installUnder [] hd.stage]
  rcases hp : outcome (installServers d.servers.length true d.servers) (d.withStage .installing)
    with ⟨r1, d1⟩
  have hw := servers_went_installing hd hp
  cases r1 with
  | error f =>
    rw [outcome_bind_error hp]
    exact installWent_of_servers hd hw
  | ok u =>
    rw [outcome_bind_ok hp]
    obtain ⟨harmed, hagents⟩ := armed_after_servers hd hw
    have ha := agents_went harmed hagents
    rcases hq : outcome (installAgents []) d1 with ⟨r2, d2⟩
    rw [hq] at ha
    -- the agents' phase decides; a successful one moves the install to its last stage
    cases r2 with
    | error f =>
      rw [outcome_bind_error hq]
      exact installWent_of_agents hd rfl hw ha
    | ok v =>
      rw [outcome_bind_ok hq, outcome_installed]
      exact installWent_of_agents hd rfl hw ha

/-- A lab cluster of one server and one agent, on the stable channel. -/
def labCluster : ClusterSpec :=
  { version := "stable"
    machines := [{ role := .server, ssh := { host := "10.0.0.1" } },
      { role := .agent, ssh := { host := "10.0.0.2" } }] }

/-- The lab cluster connected: each machine holds a session of its own. -/
def labConnected : Deployment :=
  { engine := { settings := Settings.default, stage := .connected, spec := some labCluster
                handles := labCluster.machines.zipIdx.map fun (m, i) => { machine := m, link := some i } }
    lab := { sessions := labCluster.machines.map fun m => { target := m.ssh } } }

theorem labConnected_connected : labConnected.Connected labCluster where
  stage := rfl
  spec := rfl
  verified := rfl
  machines := rfl
  holds := ⟨by simp [labConnected, labCluster], by decide⟩
  failedNodes := rfl

end Deploy

end ClusterDeploy
