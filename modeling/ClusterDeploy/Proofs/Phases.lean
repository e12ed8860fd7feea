import ClusterDeploy.Proofs.Install

/-!
# Installing in phases

`Deploy.install` installs the servers one after another, each joining the cluster with the token
the one before it reported, then the agents.  What each machine's session sees is a list of
moves, cut at the first that fails:

* `ClusterSpec.installCalls`  the moves of installing a machine: the installer uploaded and made
                              executable, the settings rendered and uploaded, the configuration
                              directory made, the settings moved into place, the installer run;
* `Deployment.fetched`        what fetching the installer gives: the installer at hand, else a
                              download that the lab may refuse;
* `Deployment.Keeps`          what installing leaves as it was;
* `serverPlan`, `serverFailure`  the moves of the `i`th server and how it ends;
* `servers_run`               **the servers in turn**: each makes its moves up to its first
                              failure, the first failure ends the phase, and later servers make
                              none;
* `agents_run`                **the agents**: each makes its moves up to its own first failure,
                              and their failures are reported together.
-/

namespace ClusterDeploy

namespace ClusterSpec

/-- The moves of installing machine `m` of the description with the installer `inst` and the
installer's variables `env`: the installer uploaded and made executable, the machine's settings
rendered and uploaded (a check that fails where they cannot be written), the configuration
directory made, the settings moved into place, and the installer run. -/
def installCalls (c : ClusterSpec) (s : Settings) (m : Machine) (inst : String)
    (env : List (String × String)) : List (Except Failure Call) :=
  [.ok (.upload s.installerPath inst), .ok (.run s.chmodCommand),
    ((c.settingsFor m).toYaml.mapError Failure.unwritable).map (.upload s.stagedConfig),
    .ok (.run s.mkdirCommand), .ok (.run s.moveCommand),
    .ok (.run ⟨s.installerPath, env, false⟩)]

end ClusterSpec

namespace Engine

variable {e : Engine} {c : ClusterSpec}

theorem serverMoves_map (he : e.spec = some c) (count : Nat) (first : Bool) (m : Machine)
    (inst : String) : (serverMoves count first m).map (· e inst) =
      c.installCalls e.settings m inst (installEnvironment c.version
        (if first then bootstrapExec count else "server")
        (if first then none else some (e.serverUrl, e.clusterToken))) := by
  cases first <;>
    simp [serverMoves, configureMoves, installStepMove, installMove, rendered, he,
      ClusterSpec.installCalls]

theorem agentMoves_map (he : e.spec = some c) (m : Machine) (inst : String) :
    (agentMoves m).map (· e inst) = c.installCalls e.settings m inst
      (installEnvironment c.version "agent" (some (e.serverUrl, e.clusterToken))) := by
  simp [agentMoves, configureMoves, installStepMove, installMove, rendered, he,
    ClusterSpec.installCalls]

end Engine

theorem Lab.fails_congr {l l' : Lab} (h : l'.faults = l.faults) : l'.fails = l.fails := by
  funext f t
  simp [Lab.fails, Lab.faultSet, h]

namespace Call

theorem fault_congr {l l' : Lab} (h : l'.faults = l.faults) (t : SshTarget) (c : Call) :
    c.fault l' t = c.fault l t := by
  cases c <;> simp only [fault, Lab.uploadFault, Lab.commandFault, Lab.readFault,
    Lab.fails_congr h]

theorem after_congr {l l' : Lab} (h : l'.faults = l.faults) (c : Call) :
    c.after l' = c.after l := by
  funext s
  cases c <;> simp only [after, Lab.fails_congr h]

end Call

namespace Lab

theorem reach_congr {l l' : Lab} (h : l'.faults = l.faults) (t : SshTarget)
    (ms : List (Except Failure Call)) : l'.reach t ms = l.reach t ms := by
  induction ms with
  | nil => rfl
  | cons m ms ih => cases m <;> simp [reach, ih, Call.fault_congr h]

theorem afterAll_congr {l l' : Lab} (h : l'.faults = l.faults) : l'.afterAll = l.afterAll := by
  funext cs s
  simp [afterAll, Call.after_congr h]

end Lab

namespace Deployment

/-- What fetching the installer gives from `d`: the installer at hand, else the lab's, unless
the lab refuses the download. -/
def fetched (d : Deployment) : Except Failure String := (Deploy.outcome Deploy.fetchInstaller d).1

/-- `d'` keeps what installing leaves as it was in `d`: the engine's description, settings,
machines, server URL, stage and failed agents, and the lab's faults, tokens and number of
sessions. -/
structure Keeps (d d' : Deployment) : Prop where
  spec : d'.engine.spec = d.engine.spec
  settings : d'.engine.settings = d.engine.settings
  handles : d'.engine.handles = d.engine.handles
  serverUrl : d'.engine.serverUrl = d.engine.serverUrl
  stage : d'.engine.stage = d.engine.stage
  failedNodes : d'.engine.failedNodes = d.engine.failedNodes
  faults : d'.lab.faults = d.lab.faults
  tokens : d'.lab.tokens = d.lab.tokens
  length : d'.lab.sessions.length = d.lab.sessions.length

theorem Keeps.refl (d : Deployment) : d.Keeps d :=
  ⟨rfl, rfl, rfl, rfl, rfl, rfl, rfl, rfl, rfl⟩

theorem Keeps.trans {d d' d'' : Deployment} (h : d.Keeps d') (h' : d'.Keeps d'') : d.Keeps d'' :=
  ⟨h'.spec.trans h.spec, h'.settings.trans h.settings, h'.handles.trans h.handles,
    h'.serverUrl.trans h.serverUrl, h'.stage.trans h.stage, h'.failedNodes.trans h.failedNodes,
    h'.faults.trans h.faults, h'.tokens.trans h.tokens, h'.length.trans h.length⟩

theorem keeps_afterMoves (d : Deployment) (id : Nat) (ms : List (Except Failure Call)) :
    d.Keeps (d.afterMoves id ms) :=
  ⟨rfl, rfl, rfl, rfl, rfl, rfl, rfl, rfl, by simp⟩

theorem Holds.keeps {d d' : Deployment} {hs : List Handle} (hk : d.Keeps d') (h : d.Holds hs) :
    d'.Holds hs :=
  ⟨fun g hg => by simpa [hk.length] using h.linked g hg, h.apart⟩

theorem linkId_ne {hs : List Handle} {g : Handle} {id : Nat} (hfresh : id ∉ linkIds hs)
    (hg : g ∈ hs) : g.link.getD 0 ≠ id :=
  fun he => hfresh (he ▸ List.mem_map_of_mem hg)

theorem trial_congr {d d' : Deployment} (hk : d.Keeps d') {id : Nat}
    (hs : d'.lab.session id = d.lab.session id) (ms : List (Except Failure Call)) :
    d'.trial id ms = d.trial id ms := by
  simp [trial, hs, Lab.reach_congr hk.faults]

theorem reportedToken_eq {d d' : Deployment} {id : Nat} (ht : d'.lab.tokens = d.lab.tokens)
    (hs : d'.lab.session id = d.lab.session id) : d'.reportedToken id = d.reportedToken id := by
  simp [reportedToken, hs, Lab.tokenOf, ht]

theorem reportedToken_congr {d d' : Deployment} (hk : d.Keeps d') {id : Nat}
    (hs : d'.lab.session id = d.lab.session id) : d'.reportedToken id = d.reportedToken id :=
  reportedToken_eq hk.tokens hs

theorem reportedToken_afterRead (d : Deployment) {id : Nat} (hlen : id < d.lab.sessions.length) :
    (d.afterMoves id [.ok (.read tokenPath)]).reportedToken id = d.reportedToken id := by
  have hs : (d.afterMoves id [.ok (.read tokenPath)]).lab.session id =
      { d.lab.session id with events := (d.lab.session id).events ++ [.read tokenPath] } := by
    simp [session_afterMoves_self _ _ hlen, trial, Lab.reach, Call.fault, Lab.readFault,
      Call.after, Call.event]
  simp only [reportedToken, hs]
  rfl

end Deployment

namespace Deploy

variable {h : Handle} {id : Nat}

/-- **Preparing a machine** gives what fetching gives, arms the cleanup and, once the installer
is had, holds it; it touches no session and keeps the rest. -/
theorem prepare_outcome (hid : h.link = some id) (d : Deployment) :
    (outcome (prepare h "") d).1 = d.fetched ∧ d.Keeps (outcome (prepare h "") d).2 ∧
      (outcome (prepare h "") d).2.lab.sessions = d.lab.sessions ∧
      (outcome (prepare h "") d).2.engine.clusterToken = d.engine.clusterToken ∧
      ∀ inst, (outcome (prepare h "") d).1 = .ok inst →
        (outcome (prepare h "") d).2.engine.installer = some inst ∧
        (outcome (prepare h "") d).2.engine.cleanupPending = true := by
  simp only [outcome, Deployment.fetched, run_prepare hid, run_fetchInstaller]
  cases hi : d.engine.installer with
  | some s =>
    exact ⟨rfl, ⟨rfl, rfl, rfl, rfl, rfl, rfl, rfl, rfl, rfl⟩, rfl, rfl,
      fun inst hs => by cases hs; exact ⟨rfl, rfl⟩⟩
  | none =>
    simp only [run_download]
    -- the download counts itself whether or not it is refused
    by_cases hrefused : d.lab.downloads + 1 ≤ d.lab.refusedDownloads
    · rw [if_pos hrefused]
      exact ⟨rfl, ⟨rfl, rfl, rfl, rfl, rfl, rfl, rfl, rfl, rfl⟩, rfl, rfl,
        fun inst hs => by cases hs⟩
    · rw [if_neg hrefused]
      exact ⟨rfl, ⟨rfl, rfl, rfl, rfl, rfl, rfl, rfl, rfl, rfl⟩, rfl, rfl,
        fun inst hs => by cases hs; exact ⟨rfl, rfl⟩⟩

end Deploy

section Servers

variable (c : ClusterSpec) (count : Nat)

/-- The moves of installing server `h` from `d`: the installer fetched, the calls installing the
server — starting the cluster if it is the first, else joining it with `tok` — and the read of
its token. -/
def serverPlan (d : Deployment) (first : Bool) (tok : String) (h : Handle) :
    List (Except Failure Call) :=
  match d.fetched with
  | .error f => [.error f]
  | .ok inst =>
    c.installCalls d.engine.settings h.machine inst
      (if first then installEnvironment c.version (bootstrapExec count) none
        else installEnvironment c.version "server" (some (d.engine.serverUrl, tok))) ++
      [.ok (.read tokenPath)]

/-- How installing server `h` ends, making its moves from `d` and reporting its token in `d'`:
with the failure its moves end with, else with an empty token, else well. -/
def serverFailure (d d' : Deployment) (first : Bool) (tok : String) (h : Handle) :
    Option Failure :=
  match (d.trial (h.link.getD 0) (serverPlan c count d first tok h)).2 with
  | some f => some f
  | none => if (d'.reportedToken (h.link.getD 0)).isEmpty then some h.emptyToken else none

/-- The token the `i`th of servers `hs` joins with, the phase going from `d` to `d'`: the
engine's token for the first, and for any other the token the one before it reports. -/
def joinToken (d d' : Deployment) (hs : List Handle) : Nat → String
  | 0 => d.engine.clusterToken
  | i + 1 => d'.reportedToken ((hs[i]?.bind Handle.link).getD 0)

/-- The moves of server `h`, the `i`th of `hs`: the first server of all starts the cluster. -/
def phasePlan (d d' : Deployment) (first : Bool) (hs : List Handle) (i : Nat) (h : Handle) :
    List (Except Failure Call) :=
  serverPlan c count d (first && i == 0) (joinToken d d' hs i) h

def phaseFailure (d d' : Deployment) (first : Bool) (hs : List Handle) (i : Nat) (h : Handle) :
    Option Failure :=
  serverFailure c count d d' (first && i == 0) (joinToken d d' hs i) h

/-- How installing servers `hs` from `d` went, ending in `d'` with `r`, the first server of all
starting the cluster if `first`. -/
structure ServersWent (hs : List Handle) (first : Bool) (d : Deployment) (r : Except Failure Unit)
    (d' : Deployment) : Prop where
  keeps : d.Keeps d'
  /-- the sessions of other machines are left as they were -/
  others : ∀ j, j ∉ Deployment.linkIds hs → d'.lab.session j = d.lab.session j
  /-- a server all of whose predecessors succeeded makes its moves up to the first that fails -/
  ran : ∀ i g, hs[i]? = some g →
    (∀ k g', k < i → hs[k]? = some g' → phaseFailure c count d d' first hs k g' = none) →
    d'.lab.session (g.link.getD 0) = d.lab.afterAll
      (d.trial (g.link.getD 0) (phasePlan c count d d' first hs i g)).1
      (d.lab.session (g.link.getD 0))
  /-- a server after one that failed makes no move -/
  idle : ∀ i g k g', hs[i]? = some g → hs[k]? = some g' → k < i →
    phaseFailure c count d d' first hs k g' ≠ none →
    d'.lab.session (g.link.getD 0) = d.lab.session (g.link.getD 0)
  /-- the first failure is the phase's -/
  fails : ∀ i g f, hs[i]? = some g →
    (∀ k g', k < i → hs[k]? = some g' → phaseFailure c count d d' first hs k g' = none) →
    phaseFailure c count d d' first hs i g = some f → r = .error f
  /-- if no server fails, the engine holds the last token reported and is armed -/
  succeeds : (∀ i g, hs[i]? = some g → phaseFailure c count d d' first hs i g = none) →
    r = .ok () ∧ d'.engine.clusterToken = joinToken d d' hs hs.length ∧
    (hs ≠ [] → d'.Armed ∧ ∃ inst, d.fetched = .ok inst ∧ d'.engine.installer = some inst)
  /-- an armed engine stays armed with the same installer -/
  armed : d.Armed → d'.Armed ∧ d'.engine.installer = d.engine.installer

end Servers

namespace Deploy

variable {c : ClusterSpec} {count : Nat} {h : Handle} {id : Nat}

/-- **Installing one server**: its session sees the moves of its plan up to the first that
fails, no other session changes, and it ends as `serverFailure` says; once it succeeds, the
engine is armed and holds the token the server reports. -/
theorem installServer_outcome (count : Nat) (hid : h.link = some id) {d : Deployment}
    (hlen : id < d.lab.sessions.length) (hc : d.engine.spec = some c) (first : Bool) :
    d.Keeps (outcome (installServer count first h) d).2 ∧
      (∀ j, j ≠ id → (outcome (installServer count first h) d).2.lab.session j = d.lab.session j) ∧
      (outcome (installServer count first h) d).2.lab.session id = d.lab.afterAll
        (d.trial id (serverPlan c count d first d.engine.clusterToken h)).1 (d.lab.session id) ∧
      match serverFailure c count d (outcome (installServer count first h) d).2 first
        d.engine.clusterToken h with
      | some f => (outcome (installServer count first h) d).1 = .error f
      | none => (outcome (installServer count first h) d).1 = .ok () ∧
        (outcome (installServer count first h) d).2.engine.clusterToken =
          (outcome (installServer count first h) d).2.reportedToken id ∧
        (outcome (installServer count first h) d).2.Armed ∧
        ∃ inst, d.fetched = .ok inst ∧
          (outcome (installServer count first h) d).2.engine.installer = some inst := by
  obtain ⟨hfetch, hkeep, hsess, htok, hinst⟩ := prepare_outcome (h := h) hid d
  simp only [outcome] at hfetch hkeep hsess htok hinst
  simp only [outcome, run_installServer hid count first hlen, serverPlan, serverFailure, hid,
    Option.getD_some]
  cases hp : (prepare h "").run d with
  | error f d1 =>
    simp only [hp] at hfetch hkeep hsess
    simp only [← hfetch]
    have hs : ∀ j, d1.lab.session j = d.lab.session j := fun j => by simp [Lab.session, hsess]
    refine ⟨hkeep, fun j _ => hs j, ?_, ?_⟩
    · simp [hs, Deployment.trial, Lab.reach]
    · simp [Deployment.trial, Lab.reach]
  | ok inst d1 =>
    simp only [hp] at hfetch hkeep hsess htok hinst
    simp only [← hfetch]
    obtain ⟨hinst1, hclean1⟩ := hinst inst rfl
    have hs : ∀ j, d1.lab.session j = d.lab.session j := fun j => by simp [Lab.session, hsess]
    have hlen1 : id < d1.lab.sessions.length := by rw [hsess]; exact hlen
    -- the moves the engine chooses are the server's install calls
    have hms : (Engine.serverMoves count first h.machine).map (fun m => m d1.engine inst) =
        c.installCalls d.engine.settings h.machine inst
          (if first then installEnvironment c.version (bootstrapExec count) none
            else installEnvironment c.version "server" (some (d.engine.serverUrl, d.engine.clusterToken))) := by
      rw [Engine.serverMoves_map (hkeep.spec.trans hc), hkeep.settings, hkeep.serverUrl, htok]
      cases first <;> rfl
    simp only [hms]
    generalize c.installCalls d.engine.settings h.machine inst _ = ms
    have htrial : d1.trial id ms = d.trial id ms := Deployment.trial_congr hkeep (hs id) ms
    have hread : d.trial id [.ok (.read tokenPath)] = ([.read tokenPath], none) := by
      simp [Deployment.trial, Lab.reach, Call.fault, Lab.readFault]
    have hafter : d1.lab.afterAll = d.lab.afterAll := Lab.afterAll_congr hkeep.faults
    rw [htrial, Deployment.trial_append]
    cases hm : (d.trial id ms).2 with
    | some f =>
      refine ⟨hkeep.trans (Deployment.keeps_afterMoves _ _ _), fun j hj => ?_, ?_, rfl⟩
      · rw [Deployment.session_afterMoves_ne _ _ (Ne.symm hj), hs]
      · rw [Deployment.session_afterMoves_self _ _ hlen1, htrial, hafter, hs]
    | none =>
      have hsplit : (d1.afterMoves id ms).afterMoves id [.ok (.read tokenPath)] =
          d1.afterMoves id (ms ++ [.ok (.read tokenPath)]) :=
        (Deployment.afterMoves_append _ _ _ hlen1 (htrial ▸ hm)).symm
      have hsess3 : ((d1.afterMoves id ms).afterMoves id [.ok (.read tokenPath)]).lab.session id =
          d.lab.afterAll ((d.trial id ms).1 ++ [.read tokenPath]) (d.lab.session id) := by
        rw [hsplit, Deployment.session_afterMoves_self _ _ hlen1, Deployment.trial_append, htrial,
          hm, Deployment.trial_congr hkeep (hs id), hread, hafter, hs]
      have htok3 : ((d1.afterMoves id ms).afterMoves id [.ok (.read tokenPath)]).reportedToken id =
          (d1.afterMoves id ms).reportedToken id :=
        Deployment.reportedToken_afterRead _ (by simpa using hlen1)
      simp only [hread]
      unfold Deployment.keepToken
      -- the token read back decides: an empty one fails the server
      by_cases hempty : ((d1.afterMoves id ms).reportedToken id).isEmpty = true
      · rw [if_pos hempty]
        refine ⟨hkeep.trans ((Deployment.keeps_afterMoves _ _ _).trans
          (Deployment.keeps_afterMoves _ _ _)), fun j hj => ?_, hsess3, ?_⟩
        · rw [Deployment.session_afterMoves_ne _ _ (Ne.symm hj),
            Deployment.session_afterMoves_ne _ _ (Ne.symm hj), hs]
        · simp only [htok3, hempty, if_true]
      · rw [if_neg hempty]
        refine ⟨⟨hkeep.spec, hkeep.settings, hkeep.handles, hkeep.serverUrl, hkeep.stage,
          hkeep.failedNodes, hkeep.faults, hkeep.tokens, by simpa using hkeep.length⟩,
          fun j hj => ?_, hsess3, ?_⟩
        · show ((d1.afterMoves id ms).afterMoves id [.ok (.read tokenPath)]).lab.session j = _
          rw [Deployment.session_afterMoves_ne _ _ (Ne.symm hj),
            Deployment.session_afterMoves_ne _ _ (Ne.symm hj), hs]
        · have htok4 : ({ (d1.afterMoves id ms).afterMoves id [.ok (.read tokenPath)] with
              engine := { (d1.afterMoves id ms).engine with
                clusterToken := (d1.afterMoves id ms).reportedToken id } } : Deployment).reportedToken id =
              (d1.afterMoves id ms).reportedToken id := htok3
          rw [htok4, if_neg hempty]
          exact ⟨rfl, rfl, ⟨by simp [hinst1], hclean1⟩, inst, rfl, hinst1⟩

theorem fetched_of_installer {d : Deployment} {s : String} (hs : d.engine.installer = some s) :
    d.fetched = .ok s := by
  simp [Deployment.fetched, outcome, run_fetchInstaller, hs]

theorem phaseFailure_eq (d d' : Deployment) (first : Bool) (hs : List Handle) (i : Nat)
    (h : Handle) : phaseFailure c count d d' first hs i h =
      match (d.trial (h.link.getD 0) (phasePlan c count d d' first hs i h)).2 with
      | some f => some f
      | none => if (d'.reportedToken (h.link.getD 0)).isEmpty then some h.emptyToken else none :=
  rfl

theorem joinToken_cons {d d4 d' : Deployment}
    (htok : d4.engine.clusterToken = d'.reportedToken (h.link.getD 0)) (rest : List Handle)
    (i : Nat) : joinToken d d' (h :: rest) (i + 1) = joinToken d4 d' rest i := by
  cases i with
  | zero => simp [joinToken, htok]
  | succ i => simp [joinToken]

theorem phasePlan_succ {d d4 d' : Deployment} (hk : d.Keeps d4) (hfetch : d4.fetched = d.fetched)
    (htok : d4.engine.clusterToken = d'.reportedToken (h.link.getD 0)) (first : Bool)
    (rest : List Handle) (i : Nat) (g : Handle) :
    phasePlan c count d d' first (h :: rest) (i + 1) g = phasePlan c count d4 d' false rest i g := by
  simp [phasePlan, serverPlan, joinToken_cons htok, hfetch, hk.settings, hk.serverUrl]

theorem phaseFailure_succ {d d4 d' : Deployment} (hk : d.Keeps d4)
    (hfetch : d4.fetched = d.fetched)
    (htok : d4.engine.clusterToken = d'.reportedToken (h.link.getD 0)) (first : Bool)
    (rest : List Handle) (i : Nat) {g : Handle}
    (hg : d4.lab.session (g.link.getD 0) = d.lab.session (g.link.getD 0)) :
    phaseFailure c count d d' first (h :: rest) (i + 1) g = phaseFailure c count d4 d' false rest i g := by
  rw [phaseFailure_eq, phaseFailure_eq, phasePlan_succ hk hfetch htok,
    Deployment.trial_congr hk hg]

theorem serverFailure_congr {d d' d'' : Deployment} (first : Bool) (tok : String) (h : Handle)
    (ht : d''.reportedToken (h.link.getD 0) = d'.reportedToken (h.link.getD 0)) :
    serverFailure c count d d'' first tok h = serverFailure c count d d' first tok h := by
  simp only [serverFailure, ht]

theorem outcome_bind_error {α β : Type} {a : Deploy α} {k : α → Deploy β} {d d1 : Deployment}
    {f : Failure} (h : outcome a d = (.error f, d1)) : outcome (a >>= k) d = (.error f, d1) := by
  unfold outcome at h ⊢
  rw [EStateM.run_bind]
  split at h <;> simp_all

theorem outcome_bind_ok {α β : Type} {a : Deploy α} {k : α → Deploy β} {d d1 : Deployment} {x : α}
    (h : outcome a d = (.ok x, d1)) : outcome (a >>= k) d = outcome (k x) d1 := by
  unfold outcome at h ⊢
  rw [EStateM.run_bind]
  split at h <;> simp_all

theorem installServer_armed (count : Nat) (hid : h.link = some id) {d : Deployment}
    (hlen : id < d.lab.sessions.length) (first : Bool) (hd : d.Armed) :
    (outcome (installServer count first h) d).2.Armed ∧
      (outcome (installServer count first h) d).2.engine.installer = d.engine.installer := by
  simp only [outcome, run_installServer hid count first hlen, run_prepare_armed hid _ hd]
  -- the moves touch no engine field, and the token kept touches only the token
  cases (d.trial id ((Engine.serverMoves count first h.machine).map
      fun m => m d.engine (d.engine.installer.getD ""))).2 with
  | some f => exact ⟨hd, rfl⟩
  | none =>
    dsimp only
    unfold Deployment.keepToken
    split_ifs
    · exact ⟨hd, rfl⟩
    · exact ⟨hd, rfl⟩

theorem phasePlan_zero (d d' : Deployment) (first : Bool) (hs : List Handle) (g : Handle) :
    phasePlan c count d d' first hs 0 g = serverPlan c count d first d.engine.clusterToken g := by
  simp [phasePlan, joinToken]

theorem phaseFailure_zero (d d' : Deployment) (first : Bool) (hs : List Handle) (g : Handle) :
    phaseFailure c count d d' first hs 0 g =
      serverFailure c count d d' first d.engine.clusterToken g := by
  simp [phaseFailure, joinToken]

theorem serversWent_nil (first : Bool) (d : Deployment) : ServersWent c count [] first d (.ok ()) d where
  keeps := Deployment.Keeps.refl d
  others _ _ := rfl
  ran _ _ hi := by simp at hi
  idle _ _ _ _ hi := by simp at hi
  fails _ _ _ hi := by simp at hi
  succeeds _ := ⟨rfl, rfl, fun hne => absurd rfl hne⟩
  armed hd := ⟨hd, rfl⟩

theorem linkIds_cons {rest : List Handle} (hid : h.link = some id) :
    Deployment.linkIds (h :: rest) = id :: Deployment.linkIds rest := by
  simp [Deployment.linkIds, hid]

section Head

variable {rest : List Handle} {first : Bool} {d d1 : Deployment}
  (hid : h.link = some id) (hfresh : id ∉ Deployment.linkIds rest) (hk : d.Keeps d1)
  (hothers : ∀ j, j ≠ id → d1.lab.session j = d.lab.session j)
  (hsess : d1.lab.session id = d.lab.afterAll
    (d.trial id (serverPlan c count d first d.engine.clusterToken h)).1 (d.lab.session id))
include hid hfresh hk hothers hsess

theorem serversWent_head_fails {f : Failure}
    (hfail : serverFailure c count d d1 first d.engine.clusterToken h = some f)
    (harmed : d.Armed → d1.Armed ∧ d1.engine.installer = d.engine.installer) :
    ServersWent c count (h :: rest) first d (.error f) d1 := by
  have h0 : phaseFailure c count d d1 first (h :: rest) 0 h = some f := by
    rw [phaseFailure_zero, hfail]
  have hlater : ∀ i (g : Handle), (h :: rest)[i + 1]? = some g →
      d1.lab.session (g.link.getD 0) = d.lab.session (g.link.getD 0) := fun i g hg => by
    have hg' : rest[i]? = some g := by simpa using hg
    exact hothers _ (Deployment.linkId_ne hfresh (List.mem_of_getElem? hg'))
  refine ⟨hk, fun j hj => hothers j ?_, fun i g hi hprev => ?_, fun i g k g' hi _ hki _ => ?_,
    fun i g f' hi hprev hf' => ?_, fun hall => absurd (hall 0 h rfl) (by simp [h0]), harmed⟩
  · rintro rfl
    exact hj (by simp [linkIds_cons hid])
  · cases i with
    | zero =>
      obtain rfl : h = g := by simpa using hi
      simpa [phasePlan_zero, hid] using hsess
    | succ i => simp [hprev 0 h (Nat.succ_pos i) rfl] at h0
  · cases i with
    | zero => omega
    | succ i => exact hlater i g hi
  · cases i with
    | zero =>
      obtain rfl : h = g := by simpa using hi
      rw [h0] at hf'
      cases hf'
      rfl
    | succ i => simp [hprev 0 h (Nat.succ_pos i) rfl] at h0

theorem serversWent_head_succeeds {r : Except Failure Unit} {d' : Deployment}
    (hok : serverFailure c count d d1 first d.engine.clusterToken h = none)
    (htok : d1.engine.clusterToken = d1.reportedToken id) (harmed : d1.Armed)
    (hinst : ∃ inst, d.fetched = .ok inst ∧ d1.engine.installer = some inst)
    (hw : ServersWent c count rest false d1 r d') :
    ServersWent c count (h :: rest) first d r d' := by
  obtain ⟨inst, hfetched, hinst1⟩ := hinst
  have hsid : d'.lab.session id = d1.lab.session id := hw.others id hfresh
  have hrep : d'.reportedToken id = d1.reportedToken id :=
    Deployment.reportedToken_congr hw.keeps hsid
  have hrep' : d'.reportedToken (h.link.getD 0) = d1.reportedToken (h.link.getD 0) := by
    simp only [hid, Option.getD_some, hrep]
  have htok' : d1.engine.clusterToken = d'.reportedToken (h.link.getD 0) := by
    rw [hrep', hid, Option.getD_some, htok]
  have hfetch : d1.fetched = d.fetched := by rw [fetched_of_installer hinst1, hfetched]
  -- the servers after the first see their sessions as the first found them
  have hsame : ∀ i (g : Handle), rest[i]? = some g →
      d1.lab.session (g.link.getD 0) = d.lab.session (g.link.getD 0) := fun _ g hg =>
    hothers _ (Deployment.linkId_ne hfresh (List.mem_of_getElem? hg))
  have hF : ∀ i (g : Handle), rest[i]? = some g → phaseFailure c count d d' first (h :: rest) (i + 1) g =
      phaseFailure c count d1 d' false rest i g := fun i g hg =>
    phaseFailure_succ hk hfetch htok' first rest i (hsame i g hg)
  have h0 : phaseFailure c count d d' first (h :: rest) 0 h = none := by
    rw [phaseFailure_zero, serverFailure_congr first _ h hrep']
    exact hok
  have hprevs : ∀ i, (∀ k (g' : Handle), k < i + 1 → (h :: rest)[k]? = some g' →
        phaseFailure c count d d' first (h :: rest) k g' = none) →
      ∀ k g', k < i → rest[k]? = some g' → phaseFailure c count d1 d' false rest k g' = none :=
    fun i hprev k g' hki hg' => hF k g' hg' ▸ hprev (k + 1) g' (by omega) (by simpa using hg')
  refine ⟨hk.trans hw.keeps, fun j hj => ?_, fun i g hi hprev => ?_,
    fun i g k g' hi hk' hki hkf => ?_, fun i g f hi hprev hf => ?_, fun hall => ?_,
    fun hd => ?_⟩
  · rw [linkIds_cons hid, List.mem_cons, not_or] at hj
    rw [hw.others j hj.2, hothers j hj.1]
  · cases i with
    | zero =>
      obtain rfl : h = g := by simpa using hi
      simpa [phasePlan_zero, hid, hsid] using hsess
    | succ i =>
      have hi' : rest[i]? = some g := by simpa using hi
      rw [phasePlan_succ hk hfetch htok', hw.ran i g hi' (hprevs i hprev),
        Lab.afterAll_congr hk.faults, Deployment.trial_congr hk (hsame i g hi'), hsame i g hi']
  · cases k with
    | zero =>
      obtain rfl : h = g' := by simpa using hk'
      exact absurd h0 hkf
    | succ k =>
      obtain ⟨i, rfl⟩ : ∃ i', i = i' + 1 := ⟨i - 1, by omega⟩
      have hi' : rest[i]? = some g := by simpa using hi
      have hk'' : rest[k]? = some g' := by simpa using hk'
      rw [hF k g' hk''] at hkf
      rw [hw.idle i g k g' hi' hk'' (by omega) hkf, hsame i g hi']
  · cases i with
    | zero =>
      obtain rfl : h = g := by simpa using hi
      simp [h0] at hf
    | succ i =>
      have hi' : rest[i]? = some g := by simpa using hi
      exact hw.fails i g f hi' (hprevs i hprev) (hF i g hi' ▸ hf)
  · obtain ⟨hr, htk, -⟩ := hw.succeeds fun i g hg => hF i g hg ▸ hall (i + 1) g (by simpa using hg)
    obtain ⟨harmed', hinst'⟩ := hw.armed harmed
    refine ⟨hr, ?_, fun _ => ⟨harmed', inst, hfetched, hinst'.trans hinst1⟩⟩
    rw [List.length_cons, joinToken_cons htok']
    exact htk
  · obtain ⟨harmed', hinst'⟩ := hw.armed harmed
    obtain ⟨s, hs⟩ := Option.isSome_iff_exists.mp hd.1
    have hsi : inst = s := by
      rw [fetched_of_installer hs] at hfetched
      cases hfetched
      rfl
    exact ⟨harmed', by rw [hinst', hinst1, hs, hsi]⟩

end Head

/-- **The servers in turn.**  Installing servers `hs`, each holding a session of its own, goes
as `ServersWent` says: each server makes the moves of its plan, joining with the token the one
before it reported, until the first failure, which ends the phase. -/
theorem servers_went (hs : List Handle) (first : Bool) {d : Deployment}
    (hc : d.engine.spec = some c) (hh : d.Holds hs) {r : Except Failure Unit} {d' : Deployment}
    (hrun : outcome (installServers count first hs) d = (r, d')) :
    ServersWent c count hs first d r d' := by
  -- the induction carries the deployment and the first flag along the servers
  induction hs generalizing first d r d' with
  | nil =>
    cases hrun
    exact serversWent_nil first d
  | cons h rest ih =>
    obtain ⟨id, hid, hlen⟩ := hh.linked h List.mem_cons_self
    have hfresh : id ∉ Deployment.linkIds rest := by
      have hnd := hh.nodup_linkIds
      rw [linkIds_cons hid, List.nodup_cons] at hnd
      exact hnd.1
    obtain ⟨hk, hothers, hsess, hend⟩ := installServer_outcome count hid hlen hc first
    have harmed := installServer_armed count hid hlen first
    rcases hp : outcome (installServer count first h) d with ⟨r1, d1⟩
    rw [hp] at hk hothers hsess hend harmed
    cases hf : serverFailure c count d d1 first d.engine.clusterToken h with
    | some f =>
      simp only [hf] at hend
      subst hend
      have hrun' := hrun ▸ (outcome_bind_error (k := fun _ => installServers count false rest) hp).symm
      cases hrun'
      exact serversWent_head_fails hid hfresh hk hothers hsess hf harmed
    | none =>
      simp only [hf] at hend
      obtain ⟨rfl, htok, harmed1, hinst⟩ := hend
      have hrun' : outcome (installServers count false rest) d1 = (r, d') :=
        (outcome_bind_ok (k := fun _ => installServers count false rest) hp).symm.trans hrun
      exact serversWent_head_succeeds hid hfresh hk hothers hsess hf htok harmed1 hinst
        (ih false (hk.spec.trans hc) ((hh.sublist (List.sublist_cons_self h rest)).keeps hk) hrun')

end Deploy

theorem exists_first_failure {hs : List Handle} {fate : Nat → Handle → Option Failure} {i : Nat}
    (h : ¬∀ k g, k < i → hs[k]? = some g → fate k g = none) :
    ∃ j g f, j < i ∧ hs[j]? = some g ∧ (∀ k g', k < j → hs[k]? = some g' → fate k g' = none) ∧
      fate j g = some f := by
  by_contra hnone
  apply h
  -- by strong induction on the index: a failure with none before it would be the first
  intro k
  induction k using Nat.strongRecOn with
  | _ k ih =>
    intro g hk hg
    cases hf : fate k g with
    | none => rfl
    | some f =>
      exact absurd ⟨k, g, f, hk, hg, fun k' g' hk' hg' => ih k' hk' g' (by omega) hg', hf⟩ hnone

theorem ServersWent.all_ok {c : ClusterSpec} {count : Nat} {hs : List Handle} {first : Bool}
    {d d' : Deployment} (hw : ServersWent c count hs first d (.ok ()) d') :
    ∀ i g, hs[i]? = some g → phaseFailure c count d d' first hs i g = none := by
  intro i g hg
  by_contra hfail
  obtain ⟨j, g', f, -, hj, hprev, hf⟩ :=
    exists_first_failure (i := i + 1) fun hall => hfail (hall i g (by omega) hg)
  cases hw.fails j g' f hj hprev hf

namespace Deployment

/-- the machines installed as servers, in the order of the description -/
def servers (d : Deployment) : List Handle :=
  d.engine.handles.filter fun h => (Selector.role .server).admits h.machine.role

/-- the machines installed as agents, in the order of the description -/
def agents (d : Deployment) : List Handle :=
  d.engine.handles.filter fun h => (Selector.role .agent).admits h.machine.role

/-- How installing the agents of `d` went, ending in `d'` with `r`: each agent made its moves
up to its own first failure, and the failures, recorded in the order of the description, are
the engine's failed agents and the phase's failure. -/
structure AgentsWent (d : Deployment) (r : Except Failure Unit) (d' : Deployment) : Prop where
  result : r = if (d.agentFailures d.agents).isEmpty then .ok ()
    else .error (.install (d.agentFailures d.agents))
  engine : d'.engine = if d.agents.isEmpty then d.engine
    else { d.engine with failedNodes := d.agentFailures d.agents }
  view : d'.view.lab = d.view.lab
  length : d'.lab.sessions.length = d.lab.sessions.length
  ran : ∀ g ∈ d.agents, d'.lab.session (g.link.getD 0) = d.lab.afterAll
    (d.trial (g.link.getD 0) (d.agentPlan g.machine)).1 (d.lab.session (g.link.getD 0))
  others : ∀ j, j ∉ linkIds d.agents → d'.lab.session j = d.lab.session j

end Deployment

namespace Deploy

theorem zip_map_self {α β : Type} (hs : List α) (f : α → β) :
    hs.zip (hs.map f) = hs.map fun a => (a, f a) := by
  simpa using List.zip_map' (f := id) (g := f) (l := hs)

theorem foldl_agentOutcomes (d : Deployment) (hs : List Handle)
    {g : List (String × Failure) → Handle × Except Failure String → List (String × Failure)}
    (hg : ∀ fs h, g fs (h, d.agentOutcome h) = match d.agentOutcome h with
      | .error f => Failure.record fs h.address f
      | .ok _ => fs) :
    (hs.zip (hs.map d.agentOutcome)).foldl g [] = d.agentFailures hs := by
  rw [zip_map_self, List.foldl_map, Deployment.agentFailures]
  exact congrArg (fun k => List.foldl k [] hs) (funext fun fs => funext fun h => hg fs h)

/-- **The agents together.**  Once the engine is armed and the agents hold sessions of their own,
installing them goes as `AgentsWent` says. -/
theorem agents_went {d : Deployment} (hd : d.Armed) (hh : d.Holds d.agents) :
    d.AgentsWent (outcome (installAgents []) d).1 (outcome (installAgents []) d).2 := by
  obtain ⟨d', hrun, hview, hlen, hmine, hother⟩ := run_agents_inOrder d.agents hd hh
  have hsel : d.engine.handles.filter (fun h => (Selector.role .agent).admits h.machine.role) =
      d.agents := rfl
  simp only [outcome, installAgents, EStateM.run_bind, run_select, hsel]
  by_cases hempty : d.agents.isEmpty = true
  · have hnil : d.agents = [] := List.isEmpty_iff.mp hempty
    rw [if_neg (by simp [hempty])]
    refine ⟨by simp [hnil, Deployment.agentFailures], by simp [hempty], rfl, rfl,
      fun g hg => by simp [hnil] at hg, fun _ _ => rfl⟩
  · rw [if_pos (by simp [hempty])]
    simp only [gather, EStateM.run_bind, hrun]
    rw [foldl_agentOutcomes d d.agents]
    · have hengine : d'.engine = d.engine :=
        (congrArg Deployment.engine hview : d'.view.engine = d.view.engine)
      have hlab : d'.view.lab = d.view.lab := congrArg Deployment.lab hview
      simp only [update, EStateM.run_modify]
      -- the failures recorded decide the phase's result
      by_cases hnone : (d.agentFailures d.agents).isEmpty = true
      · rw [if_neg (by simp [hnone])]
        exact ⟨by simp [hnone], by simp [hempty, hengine], hlab, hlen, hmine, hother⟩
      · rw [if_pos (by simp [hnone])]
        exact ⟨by simp [hnone], by simp [hempty, hengine], hlab, hlen, hmine, hother⟩
    · intro fs h
      cases d.agentOutcome h <;> rfl

end Deploy

end ClusterDeploy
