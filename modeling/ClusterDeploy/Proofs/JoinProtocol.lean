import ClusterDeploy.Proofs.Installation

/-!
# The join protocol

Which installer variables each machine is installed with.  The first server starts the cluster,
with the embedded database when there are more servers to join it; every later server joins
through the server URL with the token the server before it reported; every agent joins with
the token the last server reported.  A token is read back from a server right after its
install, and an empty one fails the install, so no command ever carries an empty token.

`CalledWith` says what a machine's session saw: a prefix of its install calls with the given
variables.  `install_join_protocol` states it for every machine and every schedule.
-/

namespace ClusterDeploy

/-- What the session of machine `g` saw in an install from `d` ending in `d'`: a prefix of its
install calls with the installer's variables `env` (a server's followed by the read of its
token), and none of the commands it ran carried an empty token. -/
def CalledWith (c : ClusterSpec) (d d' : Deployment) (g : Handle) (env : List (String × String))
    (server : Bool) : Prop :=
  ∃ inst calls, List.IsPrefix calls
      ((c.installCalls d.engine.settings g.machine inst env).filterMap Except.toOption ++
        if server then [.read tokenPath] else []) ∧
    d'.lab.session (g.link.getD 0) = d.lab.afterAll calls (d.lab.session (g.link.getD 0)) ∧
    ∀ cmd, Call.run cmd ∈ calls → ("K3S_TOKEN", "") ∉ cmd.env

section Calls

variable {c : ClusterSpec} {d d' : Deployment} {g : Handle} {env : List (String × String)}
  {server : Bool}

theorem calledWith_of_idle
    (h : d'.lab.session (g.link.getD 0) = d.lab.session (g.link.getD 0)) :
    CalledWith c d d' g env server :=
  ⟨"", [], List.nil_prefix, by simp [h], by simp⟩

theorem run_mem_installCalls {s : Settings} {m : Machine} {inst : String} {cmd : Command}
    (h : Call.run cmd ∈ (c.installCalls s m inst env).filterMap Except.toOption ++
      if server then [.read tokenPath] else []) :
    cmd.env = [] ∨ cmd.env = env := by
  have hcases : cmd = s.chmodCommand ∨ cmd = s.mkdirCommand ∨ cmd = s.moveCommand ∨
      cmd = ⟨s.installerPath, env, false⟩ := by
    cases server <;> cases hyaml : (c.settingsFor m).toYaml <;>
      simp_all [ClusterSpec.installCalls, Except.map, Except.mapError, Except.toOption, eq_comm]
  rcases hcases with rfl | rfl | rfl | rfl
  · exact .inl rfl
  · exact .inl rfl
  · exact .inl rfl
  · exact .inr rfl

theorem calledWith_of_trial {plan : List (Except Failure Call)}
    (hplan : plan = match d.fetched with
      | .error f => [.error f]
      | .ok inst => c.installCalls d.engine.settings g.machine inst env ++
        if server then [.ok (.read tokenPath)] else [])
    (htoken : ("K3S_TOKEN", "") ∉ env)
    (hsess : d'.lab.session (g.link.getD 0) =
      d.lab.afterAll (d.trial (g.link.getD 0) plan).1 (d.lab.session (g.link.getD 0))) :
    CalledWith c d d' g env server := by
  cases hf : d.fetched with
  | error f =>
    -- the installer could not be had: the machine made no call
    rw [hf] at hplan
    subst hplan
    exact calledWith_of_idle (by simpa [Deployment.trial, Lab.reach] using hsess)
  | ok inst =>
    rw [hf] at hplan
    have hcalls := Lab.reach_prefix d.lab (d.lab.session (g.link.getD 0)).target plan
    have hmoves : plan.filterMap Except.toOption =
        (c.installCalls d.engine.settings g.machine inst env).filterMap Except.toOption ++
          if server then [.read tokenPath] else [] := by
      subst hplan
      cases server <;> simp [Except.toOption]
    rw [hmoves] at hcalls
    refine ⟨inst, _, hcalls, hsess, fun cmd hcmd hempty => ?_⟩
    rcases run_mem_installCalls (hcalls.subset hcmd) with henv | henv
    · simp [henv] at hempty
    · exact htoken (henv ▸ hempty)

end Calls

theorem reportedToken_ne_empty {c : ClusterSpec} {count : Nat} {d d' : Deployment} {first : Bool}
    {hs : List Handle} {i : Nat} {g : Handle} (h : phaseFailure c count d d' first hs i g = none) :
    d'.reportedToken (g.link.getD 0) ≠ "" := by
  rw [Deploy.phaseFailure_eq] at h
  intro hempty
  split at h
  · cases h
  · simp [hempty] at h

open Deploy in
/-- **The join protocol.**  In an install from a connected deployment, under any schedule of the
agents' steps, the first server starts the cluster, with the embedded database when more servers
are to join it, and with no server URL or token; every later server joins through the server URL
with the token the server before it reported; every agent joins with the token the last server
reported.  No command ever carries an empty token. -/
theorem install_join_protocol (picks : List Nat) {c : ClusterSpec} {d : Deployment}
    (hd : d.Connected c) :
    let d' := (outcome (installUnder picks) d).2
    let token : Nat → String := fun j =>
      d'.reportedToken ((d.servers[j]?.bind Handle.link).getD 0)
    (∀ g, d.servers[0]? = some g → CalledWith c d d' g
      [("INSTALL_K3S_FORCE_RESTART", "true"),
        ("INSTALL_K3S_EXEC", if 1 < d.servers.length then "server --cluster-init" else "server"),
        ("INSTALL_K3S_CHANNEL", c.version)] true) ∧
    (∀ i g, d.servers[i + 1]? = some g → CalledWith c d d' g
      [("INSTALL_K3S_FORCE_RESTART", "true"), ("INSTALL_K3S_EXEC", "server"),
        ("INSTALL_K3S_CHANNEL", c.version), ("K3S_URL", d.engine.serverUrl),
        ("K3S_TOKEN", token i)] true) ∧
    ∀ a ∈ d.agents, CalledWith c d d' a
      [("INSTALL_K3S_FORCE_RESTART", "true"), ("INSTALL_K3S_EXEC", "agent"),
        ("INSTALL_K3S_CHANNEL", c.version), ("K3S_URL", d.engine.serverUrl),
        ("K3S_TOKEN", token (d.servers.length - 1))] false := by
  intro d' token
  have hw := install_went picks hd
  refine ⟨fun g hg => ?_, fun i g hg => ?_, fun a ha => ?_⟩
  · -- the first server runs unless the installer cannot be had
    exact calledWith_of_trial
      (by
        simp only [phasePlan_zero, serverPlan, installEnvironment, bootstrapExec]
        cases d.fetched <;> simp)
      (by simp) (hw.serverRan 0 g hg fun _ _ hk => absurd hk (Nat.not_lt_zero _))
  · -- a later server runs only if every server before it succeeded
    by_cases hprev : ∀ k g', k < i + 1 → d.servers[k]? = some g' →
        phaseFailure c d.servers.length d d' true d.servers k g' = none
    · have hlt : i < d.servers.length := by
        have := (List.getElem?_eq_some_iff.mp hg).1
        omega
      have hg' : d.servers[i]? = some d.servers[i] := List.getElem?_eq_getElem hlt
      have htok : token i ≠ "" := by
        simp only [token, hg', Option.bind_some]
        exact reportedToken_ne_empty (hprev i _ (Nat.lt_succ_self i) hg')
      exact calledWith_of_trial
        (by
          simp only [phasePlan, serverPlan, joinToken, installEnvironment, token, d']
          cases d.fetched <;> simp)
        (by simp [htok]) (hw.serverRan (i + 1) g hg hprev)
    · obtain ⟨j, g', f, hj, hg', hbefore, hf⟩ := exists_first_failure hprev
      exact calledWith_of_idle ((hw.serverFailed j g' f hg' hbefore hf).2.2.2.1 (i + 1) g hj hg)
  · -- an agent runs only if every server succeeded
    by_cases hall : ∀ i g, d.servers[i]? = some g →
        phaseFailure c d.servers.length d d' true d.servers i g = none
    · obtain ⟨n, hn⟩ : ∃ n, d.servers.length = n + 1 :=
        Nat.exists_eq_succ_of_ne_zero (by simpa using hd.servers_ne_nil)
      have hg' : d.servers[n]? = some d.servers[n] := List.getElem?_eq_getElem (by omega)
      have htok : token (d.servers.length - 1) ≠ "" := by
        simp only [token, hn, Nat.add_sub_cancel, hg', Option.bind_some]
        exact reportedToken_ne_empty (hall n _ hg')
      exact calledWith_of_trial
        (by
          simp only [agentPhasePlan, joinToken, hn, Nat.add_sub_cancel, hg', installEnvironment, token,
            d']
          cases d.fetched <;> simp)
        (by simp [htok]) (hw.agentRan hall a ha)
    · obtain ⟨j, g', f, -, hg', hbefore, hf⟩ := exists_first_failure (i := d.servers.length)
        fun h => hall fun i g hi => h i g (List.getElem?_eq_some_iff.mp hi).1 hi
      exact calledWith_of_idle ((hw.serverFailed j g' f hg' hbefore hf).2.2.2.2 a ha)

open Deploy in
theorem lab_join_protocol :
    labConnected.Connected labCluster ∧
    let d' := (outcome (installUnder [1, 0]) labConnected).2
    let token : Nat → String := fun j =>
      d'.reportedToken ((labConnected.servers[j]?.bind Handle.link).getD 0)
    (∀ g, labConnected.servers[0]? = some g → CalledWith labCluster labConnected d' g
      [("INSTALL_K3S_FORCE_RESTART", "true"),
        ("INSTALL_K3S_EXEC",
          if 1 < labConnected.servers.length then "server --cluster-init" else "server"),
        ("INSTALL_K3S_CHANNEL", labCluster.version)] true) ∧
    (∀ i g, labConnected.servers[i + 1]? = some g → CalledWith labCluster labConnected d' g
      [("INSTALL_K3S_FORCE_RESTART", "true"), ("INSTALL_K3S_EXEC", "server"),
        ("INSTALL_K3S_CHANNEL", labCluster.version), ("K3S_URL", labConnected.engine.serverUrl),
        ("K3S_TOKEN", token i)] true) ∧
    ∀ a ∈ labConnected.agents, CalledWith labCluster labConnected d' a
      [("INSTALL_K3S_FORCE_RESTART", "true"), ("INSTALL_K3S_EXEC", "agent"),
        ("INSTALL_K3S_CHANNEL", labCluster.version), ("K3S_URL", labConnected.engine.serverUrl),
        ("K3S_TOKEN", token (labConnected.servers.length - 1))] false :=
  ⟨labConnected_connected, install_join_protocol [1, 0] labConnected_connected⟩

end ClusterDeploy
