import ClusterDeploy.Proofs.Session
import Mathlib.Data.List.Nodup

/-!
# Installing, machine by machine

Each step of configuring or installing a machine, after the installer is fetched, makes one move
on the machine's session, chosen by the engine:

* `Engine.configureMoves`   the moves of configuring a machine: the installer uploaded and made
                            executable, the settings rendered and uploaded, the configuration
                            directory made and the settings moved into place;
* `Engine.installMove`      the installer run with the variables of a role;
* `configure_moveSteps`,
  `agent_moveSteps`         the steps of configuring a machine and of installing an agent are
                            move steps;
* `Deployment.Armed`        the installer is at hand and the cleanup armed, as the servers leave
                            the engine;
* `agent_localTo`           once armed, an agent's task is local to its session;
* `installAgents_schedule`  **the agents' schedule does not matter**: from an armed deployment
                            whose agents hold sessions of their own, every schedule installs them
                            as running each to its end in turn does.
-/

namespace ClusterDeploy

namespace Engine

/-- The machine's settings as the file uploaded to it, or why they cannot be written. -/
def rendered (e : Engine) (m : Machine) : Except Failure String :=
  match e.spec with
  | some c => (c.settingsFor m).toYaml.mapError Failure.unwritable
  | none => .error .noDescription

def installMove (e : Engine) (exec : String) (join : Option (String × String)) :
    Except Failure Call :=
  match e.spec with
  | some c => .ok (.run ⟨e.settings.installerPath, installEnvironment c.version exec join, false⟩)
  | none => .error .noDescription

/-- The moves of configuring machine `m` once the installer is fetched, each chosen for the
engine and the installer. -/
def configureMoves (m : Machine) : List (Engine → String → Except Failure Call) :=
  [fun e a => .ok (.upload e.settings.installerPath a),
    fun e _ => .ok (.run e.settings.chmodCommand),
    fun e _ => (e.rendered m).map (.upload e.settings.stagedConfig),
    fun e _ => .ok (.run e.settings.mkdirCommand),
    fun e _ => .ok (.run e.settings.moveCommand)]

/-- The move of the last step of installing a machine: the installer runs with the variables for
`exec`, and, when `joins`, with the server URL and the cluster token to join with. -/
def installStepMove (exec : String) (joins : Bool) (e : Engine) (_ : String) :
    Except Failure Call :=
  e.installMove exec (if joins then some (e.serverUrl, e.clusterToken) else none)

/-- The moves of installing a server once the installer is fetched: it is configured, then the
installer starts the cluster, if it is the first, or joins it. -/
def serverMoves (count : Nat) (first : Bool) (m : Machine) :
    List (Engine → String → Except Failure Call) :=
  configureMoves m ++
    [if first then installStepMove (bootstrapExec count) false else installStepMove "server" true]

/-- The moves of installing an agent once the installer is fetched: it is configured, then the
installer joins it to the cluster. -/
def agentMoves (m : Machine) : List (Engine → String → Except Failure Call) :=
  configureMoves m ++ [installStepMove "agent" true]

end Engine

namespace Deploy

variable {h : Handle} {id : Nat}

theorem moveStep_callStep (hid : h.link = some id) {call : String → Engine → Nat → LabM Unit}
    (c : Engine → String → Call)
    (hc : ∀ a e, call a e id = Lab.onSession id fun l => (c e a).make l) :
    MoveStep id (callStep h call) (fun e a => .ok (c e a)) := by
  intro a d
  simp [callStep, linkOf, hid, engine, moves, hc]

theorem run_runInstaller (id : Nat) (exec : String) (join : Option (String × String))
    (d : Deployment) :
    (runInstaller id exec join).run d = (moves id [d.engine.installMove exec join]).run d := by
  cases hs : d.engine.spec with
  | none => simp [runInstaller, spec, engine, Engine.installMove, hs, moves]; rfl
  | some c => simp [runInstaller, spec, engine, Engine.installMove, hs, moves]; rfl

theorem configure_moveSteps (hid : h.link = some id) :
    List.Forall₂ (MoveStep id) (configureSteps h).tail (Engine.configureMoves h.machine) := by
  refine .cons (moveStep_callStep hid _ fun _ _ => rfl)
    (.cons (moveStep_callStep hid _ fun _ _ => rfl) (.cons ?render
    (.cons (moveStep_callStep hid _ fun _ _ => rfl)
    (.cons (moveStep_callStep hid _ fun _ _ => rfl) .nil))))
  case render =>
    intro a d
    cases hs : d.engine.spec with
    | none => simp [spec, engine, Engine.rendered, hs, moves, Except.map]; rfl
    | some c =>
      cases hr : (c.settingsFor h.machine).toYaml with
      | error u =>
        simp [spec, engine, Engine.rendered, hs, hr, orFail, moves, Except.mapError, Except.map]
        rfl
      | ok text =>
        simp [spec, engine, Engine.rendered, hs, hr, orFail, moves, Except.mapError, callStep,
          linkOf, hid, Except.map]
        rfl

theorem moveStep_installStep (hid : h.link = some id) (exec : String) (joins : Bool) :
    MoveStep id (installStep h exec joins) (Engine.installStepMove exec joins) := by
  intro a d
  simp only [installStep, linkOf, hid, engine, EStateM.run_bind, EStateM.run_pure,
    EStateM.run_get, pure_bind, bind_assoc]
  rw [run_runInstaller]
  rfl

theorem server_moveSteps (hid : h.link = some id) (count : Nat) (first : Bool) :
    List.Forall₂ (MoveStep id) (serverSteps count first h).tail
      (Engine.serverMoves count first h.machine) := by
  refine List.rel_append (configure_moveSteps hid) (.cons ?_ .nil)
  cases first
  · exact moveStep_installStep hid _ _
  · exact moveStep_installStep hid _ _

theorem agent_moveSteps (hid : h.link = some id) :
    List.Forall₂ (MoveStep id) (agentSteps h).tail (Engine.agentMoves h.machine) :=
  List.rel_append (configure_moveSteps hid) (.cons (moveStep_installStep hid _ _) .nil)

theorem run_prepare (hid : h.link = some id) (a : String) (d : Deployment) :
    (prepare h a).run d =
      fetchInstaller.run { d with engine := { d.engine with cleanupPending := true } } := by
  simp [prepare, linkOf, hid, update]

end Deploy

namespace Deployment

/-- The engine has the installer at hand and the cleanup armed, as installing the servers
leaves it for the agents. -/
def Armed (d : Deployment) : Prop :=
  d.engine.installer.isSome ∧ d.engine.cleanupPending = true

/-- Every handle of `hs` holds an open session of its own. -/
structure Holds (d : Deployment) (hs : List Handle) : Prop where
  linked : ∀ h ∈ hs, ∃ id, h.link = some id ∧ id < d.lab.sessions.length
  apart : (hs.map Handle.link).Nodup

theorem Holds.sublist {d : Deployment} {hs hs' : List Handle} (h : d.Holds hs)
    (hsub : List.Sublist hs' hs) : d.Holds hs' :=
  ⟨fun x hx => h.linked x (hsub.subset hx), h.apart.sublist (hsub.map _)⟩

def linkIds (hs : List Handle) : List Nat := hs.map fun h => h.link.getD 0

theorem Holds.nodup_linkIds {d : Deployment} {hs : List Handle} (h : d.Holds hs) :
    (linkIds hs).Nodup := by
  have hmap : linkIds hs = (hs.map Handle.link).map (·.getD 0) := by simp [linkIds]
  rw [hmap]
  refine List.Nodup.map_on (fun x hx y hy hxy => ?_) h.apart
  obtain ⟨a, ha, rfl⟩ := List.mem_map.mp hx
  obtain ⟨b, hb, rfl⟩ := List.mem_map.mp hy
  obtain ⟨i, hi, -⟩ := h.linked a ha
  obtain ⟨j, hj, -⟩ := h.linked b hb
  simp_all

end Deployment

namespace Deploy

variable {h : Handle} {id : Nat}

theorem run_prepare_armed (hid : h.link = some id) (a : String) {d : Deployment}
    (hd : d.Armed) : (prepare h a).run d = .ok (d.engine.installer.getD "") d := by
  obtain ⟨hinst, hclean⟩ := hd
  obtain ⟨s, hs⟩ := Option.isSome_iff_exists.mp hinst
  have hkeep : { d with engine := { d.engine with cleanupPending := true } } = d := by
    rw [← hclean]
  rw [run_prepare hid, hkeep]
  simp [fetchInstaller, engine, hs]

theorem local_prepare (hid : h.link = some id) (a : String) :
    Local Deployment.Armed id (attempt (prepare h a)) := by
  refine ⟨fun v s => (.ok (v.engine.installer.getD ""), s), fun d hd hlen => ?_⟩
  have hrun := run_prepare_armed hid a (d := d) hd
  simp only [attempt, EStateM.run] at hrun ⊢
  rw [hrun, Deployment.withSession_session d hlen]
  rfl

/-- **Once armed, an agent's task is local to its session.** -/
theorem agent_localTo (hid : h.link = some id) :
    Task.LocalTo Deployment.Armed id ⟨agentSteps h, .ok ""⟩ := by
  intro f hf a
  rcases List.mem_cons.mp hf with rfl | hrest
  · exact local_prepare hid a
  · obtain ⟨i, hi⟩ := List.mem_iff_getElem?.mp hrest
    obtain ⟨m, -, hm⟩ := Task.forall₂_getElem? (agent_moveSteps hid) hi
    exact hm.local_attempt _ a

theorem agents_apart {d : Deployment} {hs : List Handle} (h : d.Holds hs) :
    Task.Apart Deployment.Armed (hs.map fun h => ⟨agentSteps h, .ok ""⟩) (Deployment.linkIds hs) where
  each := by
    simp only [Deployment.linkIds, List.forall₂_map_left_iff, List.forall₂_map_right_iff,
      List.forall₂_same]
    intro x hx
    obtain ⟨id, hid, -⟩ := h.linked x hx
    simpa [hid] using agent_localTo hid
  nodup := h.nodup_linkIds

theorem run_select (s : Selector) (d : Deployment) :
    (select s).run d = .ok (d.engine.handles.filter fun h => s.admits h.machine.role) d := rfl

/-- **The agents' schedule does not matter**: once the engine is armed and the agents hold
sessions of their own, every schedule of their steps installs them as running each to its end
in turn does. -/
theorem installAgents_schedule (picks : List Nat) {d : Deployment} (hd : d.Armed)
    (hagents : d.Holds (d.engine.handles.filter fun h => (Selector.role .agent).admits h.machine.role)) :
    (installAgents picks).run d = (installAgents []).run d := by
  simp only [installAgents, EStateM.run_bind, run_select]
  split
  · rw [EStateM.run_bind, EStateM.run_bind, Task.gather_eq_inOrder picks (agents_apart hagents) d hd
      (fun id hid => ?_)]
    · rfl
    obtain ⟨x, hx, rfl⟩ := List.mem_map.mp hid
    obtain ⟨i, hi, hlt⟩ := hagents.linked x hx
    simpa [hi] using hlt
  · rfl

end Deploy

namespace Deploy

variable {h : Handle} {id : Nat}

theorem run_download (l : Lab) : Lab.download.run l =
    if l.downloads + 1 ≤ l.refusedDownloads then
      .error (.fetch ("download " ++ toString (l.downloads + 1) ++ " failed"))
        { l with downloads := l.downloads + 1 }
    else .ok l.installer { l with downloads := l.downloads + 1 } := by
  simp only [Lab.download, EStateM.run_bind, EStateM.run_modify, EStateM.run_get]
  split <;> rfl

theorem run_fetchInstaller (d : Deployment) : fetchInstaller.run d =
    match d.engine.installer with
    | some s => .ok s d
    | none =>
      match Lab.download.run d.lab with
      | .ok s l => .ok s { d with lab := l, engine := { d.engine with installer := some s } }
      | .error e l => .error e { d with lab := l } := by
  simp only [fetchInstaller, engine, EStateM.run_bind, EStateM.run_get, EStateM.run_pure]
  cases d.engine.installer with
  | some s => rfl
  | none =>
    simp only [EStateM.run_bind, run_onLab]
    cases Lab.download.run d.lab <;> rfl

theorem prepare_sessions (hid : h.link = some id) (a : String) (d : Deployment) :
    (outcome (prepare h a) d).2.lab.sessions = d.lab.sessions := by
  rw [outcome, run_prepare hid, run_fetchInstaller]
  cases d.engine.installer with
  | some s => rfl
  | none =>
    simp only
    rw [run_download]
    by_cases hrefused : d.lab.downloads + 1 ≤ d.lab.refusedDownloads <;> simp [hrefused]

end Deploy

/-- The failure that reading an empty token back from server `h` is. -/
def Handle.emptyToken (h : Handle) : Failure :=
  .command ("Empty cluster token on " ++ h.address) none ""

namespace Deployment

/-- The token the machine on session `id` reports: what a read of its token file answers,
whitespace stripped. -/
def reportedToken (d : Deployment) (id : Nat) : String :=
  Text.strip (d.lab.tokenOf (d.lab.session id) ++ "\n")

/-- The token read back from server `h` on session `id` and kept: the read is recorded, and an
empty token fails; any other becomes the cluster's token. -/
def keepToken (d : Deployment) (h : Handle) (id : Nat) : EStateM.Result Failure Deployment Unit :=
  if (d.reportedToken id).isEmpty then .error h.emptyToken (d.afterMoves id [.ok (.read tokenPath)])
  else .ok () { d.afterMoves id [.ok (.read tokenPath)] with
    engine := { d.engine with clusterToken := d.reportedToken id } }

end Deployment

namespace Deploy

variable {h : Handle} {id : Nat}

theorem run_read_token (id : Nat) (d : Deployment) :
    (onLab (Lab.read id tokenPath)).run d =
      .ok (d.lab.tokenOf (d.lab.session id) ++ "\n") (d.afterMoves id [.ok (.read tokenPath)]) := by
  have hfault : d.lab.readFault (d.lab.session id).target tokenPath = none := by
    simp [Lab.readFault]
  rw [run_onLab, Lab.read, Lab.run_onSession, Call.read_run, hfault]
  simp [Deployment.afterMoves, Deployment.trial, Lab.reach, Call.fault, hfault,
    Deployment.withSession]

theorem run_fetchToken (hid : h.link = some id) (d : Deployment) :
    (fetchToken h).run d =
      if (d.reportedToken id).isEmpty then
        .error h.emptyToken (d.afterMoves id [.ok (.read tokenPath)])
      else .ok (d.reportedToken id) (d.afterMoves id [.ok (.read tokenPath)]) := by
  simp only [fetchToken, linkOf, hid, EStateM.run_bind, pure_bind, run_read_token]
  unfold Deployment.reportedToken
  split <;> rfl

/-- **Installing a server**: it prepares; once the installer is at hand it makes its moves, and
if none fails, its token is read back and kept. -/
theorem run_installServer (hid : h.link = some id) (count : Nat) (first : Bool) {d : Deployment}
    (hlen : id < d.lab.sessions.length) :
    (installServer count first h).run d =
      match (prepare h "").run d with
      | .error f d1 => .error f d1
      | .ok inst d1 =>
        match (d1.trial id ((Engine.serverMoves count first h.machine).map fun m => m d1.engine inst)).2 with
        | some f =>
          .error f (d1.afterMoves id ((Engine.serverMoves count first h.machine).map fun m => m d1.engine inst))
        | none =>
          (d1.afterMoves id ((Engine.serverMoves count first h.machine).map fun m => m d1.engine inst)).keepToken h id := by
  have hsteps : serverSteps count first h = prepare h :: (serverSteps count first h).tail := rfl
  simp only [installServer, EStateM.run_bind]
  rw [hsteps, chain, EStateM.run_bind]
  cases hp : (prepare h "").run d with
  | error f d1 => rfl
  | ok inst d1 =>
    have hlen1 : id < d1.lab.sessions.length := by
      have hkeep := prepare_sessions hid "" d
      simp only [outcome, hp] at hkeep
      rw [hkeep]
      exact hlen
    simp only
    rw [run_chain (server_moveSteps hid count first) inst d1 hlen1, EStateM.run_bind,
      run_moves _ _ _ hlen1]
    cases (d1.trial id ((Engine.serverMoves count first h.machine).map fun m => m d1.engine inst)).2 with
    | some f => rfl
    | none =>
      simp only [EStateM.run_pure]
      rw [run_fetchToken hid]
      unfold Deployment.keepToken
      split_ifs
      · rfl
      · simp [update]

end Deploy

namespace Deployment

/-- The moves an agent makes on its session once the engine is armed, with the installer the
engine holds. -/
def agentPlan (d : Deployment) (m : Machine) : List (Except Failure Call) :=
  (Engine.agentMoves m).map fun f => f d.engine (d.engine.installer.getD "")

/-- What an agent's task gives: the installer, or the failure that ended its moves. -/
def agentOutcome (d : Deployment) (h : Handle) : Except Failure String :=
  match (d.trial (h.link.getD 0) (d.agentPlan h.machine)).2 with
  | some f => .error f
  | none => .ok (d.engine.installer.getD "")

/-- The failures of agents `hs`, recorded by address in the order of the description: a later
failure at an address already recorded takes the earlier one's place. -/
def agentFailures (d : Deployment) (hs : List Handle) : List (String × Failure) :=
  hs.foldl (fun fs h => match d.agentOutcome h with
    | .error f => Failure.record fs h.address f
    | .ok _ => fs) []

theorem agentOutcome_afterMoves_ne (d : Deployment) {id : Nat} (ms : List (Except Failure Call))
    {h : Handle} (hne : id ≠ h.link.getD 0) :
    (d.afterMoves id ms).agentOutcome h = d.agentOutcome h := by
  simp [agentOutcome, agentPlan, trial_afterMoves_ne _ _ _ hne]

end Deployment

namespace Deploy

variable {h : Handle} {id : Nat}

/-- **An armed agent's task**: it makes its moves on its session and gives the installer, or
the failure that ended them. -/
theorem run_finish_agent (hid : h.link = some id) {d : Deployment} (hd : d.Armed)
    (hlen : id < d.lab.sessions.length) :
    (Task.finish ⟨agentSteps h, .ok ""⟩).run d =
      .ok (d.agentOutcome h) (d.afterMoves id (d.agentPlan h.machine)) := by
  have hsteps : agentSteps h = prepare h :: (agentSteps h).tail := rfl
  simp only [Task.finish]
  rw [run_attempt, hsteps, chain, EStateM.run_bind, run_prepare_armed hid "" hd]
  simp only
  rw [run_chain (agent_moveSteps hid) _ d hlen, EStateM.run_bind, run_moves _ _ _ hlen]
  simp only [Deployment.agentOutcome, Deployment.agentPlan, hid, Option.getD_some]
  cases (d.trial id ((Engine.agentMoves h.machine).map fun f => f d.engine (d.engine.installer.getD ""))).2 <;> rfl

/-- **Armed agents run in turn as each would alone**: each makes its moves on its own session
and gives what its moves give; every other session is left as it was. -/
theorem run_agents_inOrder (hs : List Handle) {d : Deployment} (hd : d.Armed) (hh : d.Holds hs) :
    ∃ d', ((hs.map fun h => (⟨agentSteps h, .ok ""⟩ : Task String)).mapM Task.finish).run d =
        .ok (hs.map d.agentOutcome) d' ∧ d'.view = d.view ∧
      d'.lab.sessions.length = d.lab.sessions.length ∧
      (∀ h ∈ hs, d'.lab.session (h.link.getD 0) = d.lab.afterAll
        (d.trial (h.link.getD 0) (d.agentPlan h.machine)).1 (d.lab.session (h.link.getD 0))) ∧
      (∀ id, id ∉ Deployment.linkIds hs → d'.lab.session id = d.lab.session id) := by
  induction hs generalizing d with
  | nil => exact ⟨d, rfl, rfl, rfl, by simp, fun _ _ => rfl⟩
  | cons h hs ih =>
    obtain ⟨id, hid, hlen⟩ := hh.linked h List.mem_cons_self
    have hfresh : id ∉ Deployment.linkIds hs := by
      have hnd := hh.nodup_linkIds
      simp only [Deployment.linkIds, List.map_cons, hid, Option.getD_some] at hnd
      exact (List.nodup_cons.mp hnd).1
    -- the first agent's moves leave the engine armed and the others' sessions in place
    have hh1 : (d.afterMoves id (d.agentPlan h.machine)).Holds hs :=
      ⟨fun x hx => by simpa using hh.linked x (List.mem_cons_of_mem _ hx),
        (List.nodup_cons.mp hh.apart).2⟩
    obtain ⟨d', hrun, hview, hlen', hmine, hother⟩ :=
      ih (d := d.afterMoves id (d.agentPlan h.machine)) hd hh1
    have hne : ∀ x ∈ hs, id ≠ x.link.getD 0 := fun x hx he =>
      hfresh (he ▸ List.mem_map.mpr ⟨x, hx, rfl⟩)
    refine ⟨d', ?_, by simpa using hview, by simpa using hlen', fun x hx => ?_, fun j hj => ?_⟩
    · simp only [List.map_cons, List.mapM_cons, EStateM.run_bind]
      rw [run_finish_agent hid hd hlen]
      simp only
      rw [hrun]
      simp only [EStateM.run_pure]
      congr 2
      exact List.map_congr_left fun x hx => Deployment.agentOutcome_afterMoves_ne _ _ (hne x hx)
    · rcases List.mem_cons.mp hx with rfl | hx
      · rw [hother _ (by simpa [hid] using hfresh)]
        simp only [hid, Option.getD_some]
        exact Deployment.session_afterMoves_self _ _ hlen
      · rw [hmine x hx, Deployment.trial_afterMoves_ne _ _ _ (hne x hx),
          Deployment.session_afterMoves_ne _ _ (hne x hx)]
        simp [Deployment.agentPlan, Deployment.afterMoves]
    · have hj' : j ∉ Deployment.linkIds hs ∧ j ≠ id := by
        simpa [Deployment.linkIds, hid, and_comm, eq_comm] using hj
      rw [hother j hj'.1, Deployment.session_afterMoves_ne _ _ (Ne.symm hj'.2)]

end Deploy

end ClusterDeploy
