import ClusterDeploy.Proofs.Downloads
import ClusterDeploy.Proofs.Rereading

/-!
# What adopting a description fixes

A description is adopted once, from the uninitialized stage, and only after it passes its
checks.  From then on no step changes it, nor the engine's settings, the machines it holds
(their sessions come and go) or the server URL derived when it was adopted, and the engine never
stands uninitialized again, so nothing is adopted a second time.

* `ClusterSpec.failedChecks`  the checks a description fails, each by its message, in the
                      order they are made;
* `Engine.Fixed`      what a later engine keeps of an earlier one;
* `perform_fixed`     every step from an engine past the uninitialized stage keeps it, and
                      `afterSteps_fixed` every run of steps;
* `adopt_gate`        from the uninitialized stage, adopting succeeds exactly when the
                      description is given, of a supported version, with an odd number of servers
                      and a port its URL can hold; a description that fails a check is refused with
                      every check it fails and changes nothing; after a success, whatever steps
                      follow, the engine holds the description's machines in order, an odd number
                      of them servers, so there is always a first server to ask.
-/

namespace ClusterDeploy

namespace ClusterSpec

/-- The messages of the checks a description fails, in the order they are made: its version
must be a release channel, it must name machines, and an odd number of them must be servers. -/
def failedChecks (c : ClusterSpec) : List String :=
  ([(!channels.contains c.version, "unsupported version must be one of: stable, latest, testing"),
      (c.machines.isEmpty, "no nodes specified"),
      (c.servers.isEmpty, "no control-plane nodes specified"),
      (!c.servers.isEmpty && c.servers.length % 2 == 0,
        "number of control-plane nodes must be odd to maintain quorum, got " ++
          toString c.servers.length)] : List (Bool × String)).filterMap
    fun check => if check.1 then some check.2 else none

/-- The port the server URL advertises: the description's advertised port, else the port its
servers listen on, else the engine's API port; the first of them that is set. -/
def advertisedPort (c : ClusterSpec) (apiPort : Int) : Int :=
  firstSet [c.defaults.server.countOf "advertise-port", c.defaults.server.countOf "https-listen-port"]
    apiPort

/-- The host the server URL names: the first name the servers' certificate is issued for, else
the address of the first server. -/
def advertisedHost (c : ClusterSpec) : String :=
  match c.defaults.server.wordsOf "tls-san", c.servers with
  | name :: _, _ => name
  | [], m :: _ => m.ssh.host
  | [], [] => ""

theorem serverUrl_eq (c : ClusterSpec) (apiPort : Int) :
    c.serverUrl apiPort =
      if Data.isLongInteger (c.advertisedPort apiPort) then .error .longInteger
      else .ok ("https://" ++ urlHost c.advertisedHost ++ ":" ++ toString (c.advertisedPort apiPort)) :=
  rfl

theorem machines_ne_nil_of_servers {c : ClusterSpec} (h : c.servers ≠ []) : c.machines ≠ [] := by
  intro hnil
  simp [servers, select, hnil] at h

theorem version_message :
    "unsupported version must be one of: " ++ String.intercalate ", " channels =
      "unsupported version must be one of: stable, latest, testing" := by
  decide

theorem verify_some (c : ClusterSpec) :
    verify (some c) =
      if c.failedChecks = [] then .ok c else .error (.configInvalid c.failedChecks) := by
  have hproblems : ((if channels.contains c.version then []
        else ["unsupported version must be one of: " ++ String.intercalate ", " channels]) ++
      (if c.machines.isEmpty then ["no nodes specified"] else []) ++
      (if c.servers.length == 0 then ["no control-plane nodes specified"]
        else if c.servers.length % 2 == 0 then
          ["number of control-plane nodes must be odd to maintain quorum, got " ++
            toString c.servers.length]
        else [])) = c.failedChecks := by
    simp only [failedChecks, version_message]
    -- the version and the machines are checked on their own; the servers, for none or an even
    -- number
    by_cases hs : c.servers = []
    · cases channels.contains c.version <;> cases c.machines.isEmpty <;> simp [hs]
    · by_cases ho : c.servers.length % 2 = 0 <;>
        cases channels.contains c.version <;> cases c.machines.isEmpty <;> simp [hs, ho]
  unfold verify
  dsimp only
  rw [hproblems]
  by_cases h : c.failedChecks = [] <;> simp [h]

theorem failedChecks_eq_nil_iff {c : ClusterSpec} :
    c.failedChecks = [] ↔ c.version ∈ channels ∧ c.servers.length % 2 = 1 := by
  by_cases hs : c.servers = []
  · simp [failedChecks, hs]
  · have hm := machines_ne_nil_of_servers hs
    rcases Nat.mod_two_eq_zero_or_one c.servers.length with ho | ho <;>
      simp [failedChecks, hs, hm, ho]

end ClusterSpec

namespace Engine

/-- `e'` keeps what adopting a description fixed in `e`: the settings, the description, the
machines in order and the server URL; and once `e` is past the uninitialized stage, so is
`e'`. -/
structure Fixed (e e' : Engine) : Prop where
  settings : e'.settings = e.settings
  spec : e'.spec = e.spec
  machines : e'.handles.map Handle.machine = e.handles.map Handle.machine
  serverUrl : e'.serverUrl = e.serverUrl
  adopted : e.stage ≠ .uninitialized → e'.stage ≠ .uninitialized

theorem Fixed.refl (e : Engine) : e.Fixed e := ⟨rfl, rfl, rfl, rfl, id⟩

theorem Fixed.trans {e e' e'' : Engine} (h : e.Fixed e') (h' : e'.Fixed e'') : e.Fixed e'' :=
  ⟨h'.settings.trans h.settings, h'.spec.trans h.spec, h'.machines.trans h.machines,
    h'.serverUrl.trans h.serverUrl, h'.adopted ∘ h.adopted⟩

theorem fixed_withStage (e : Engine) {s : Stage} (hs : s ≠ .uninitialized) :
    e.Fixed { e with stage := s } :=
  ⟨rfl, rfl, rfl, rfl, fun _ => hs⟩

theorem fixed_mapHandles (e : Engine) {f : Handle → Handle} (hf : ∀ h, (f h).machine = h.machine) :
    e.Fixed { e with handles := e.handles.map f } :=
  ⟨rfl, rfl, by simp [Function.comp_def, hf], rfl, id⟩

end Engine

namespace Deployment

/-- `d'` keeps what adopting a description fixed in `d`'s engine. -/
def Fixed (d d' : Deployment) : Prop := d.engine.Fixed d'.engine

instance : Std.Refl Deployment.Fixed := ⟨fun d => Engine.Fixed.refl d.engine⟩

instance : IsTrans Deployment Deployment.Fixed := ⟨fun _ _ _ => Engine.Fixed.trans⟩

end Deployment

namespace Deploy

open Deployment

section Calls

variable {α : Type}

theorem fixed_update {f : Engine → Engine} (hf : ∀ e : Engine, e.Fixed (f e)) :
    Within Fixed (update f) :=
  fun d => hf d.engine

theorem fixed_onLab (act : LabM α) : Within Fixed (onLab act) := fun d => by
  simp only [outcome, run_onLab]
  cases act.run d.lab <;> exact Engine.Fixed.refl d.engine

theorem fixed_linkFrom (via : Option SshTarget) :
    ∀ (i : Nat) (hs : List Handle), Within Fixed (linkFrom via i hs)
  | _, [] => within_pure ()
  | i, _ :: rest =>
    within_bind within_engine fun _ => within_bind (fixed_onLab _) fun _ =>
      within_bind (fixed_update fun _ => ⟨rfl, rfl, machines_link_modify _ _ _, rfl, id⟩) fun _ =>
        fixed_linkFrom via (i + 1) rest

theorem fixed_closeQuietly (link : Option Nat) : Within Fixed (closeQuietly link) := by
  unfold closeQuietly
  split
  · exact within_bind (within_attempt (fixed_onLab _)) fun _ => within_pure ()
  · exact within_pure ()

theorem fixed_abandon : Within Fixed abandon :=
  within_bind within_engine fun _ =>
    within_bind (within_forM fun o _ => fixed_closeQuietly o) fun _ =>
      within_bind (fixed_update fun e => Engine.fixed_mapHandles e fun _ => rfl) fun _ =>
        within_bind (fixed_closeQuietly _) fun _ => fixed_update fun _ => ⟨rfl, rfl, rfl, rfl, id⟩

end Calls

section Operations

/-! ### Every operation past the adoption keeps what it fixed -/

theorem fixed_connect : Within Fixed connect := by
  unfold connect
  refine within_bind (within_require _) fun _ => within_bind within_spec fun c =>
    within_bind (within_attempt ?_) fun opened => ?_
  · have hlink : ∀ via, Within Fixed (engine >>= fun e => linkFrom via 0 e.handles) :=
      fun via => within_bind within_engine fun e => fixed_linkFrom via 0 e.handles
    dsimp only
    -- the jump host, if the description has one, is connected to first
    split
    · split
      · exact within_bind within_engine fun _ => within_bind (fixed_onLab _) fun _ =>
          within_bind (fixed_update fun _ => ⟨rfl, rfl, rfl, rfl, id⟩) fun _ =>
            within_bind (within_pure _) hlink
      · exact within_bind (within_pure _) hlink
    · exact within_bind (within_pure _) hlink
  · split
    · exact fixed_update fun e => e.fixed_withStage (by decide)
    · exact within_bind fixed_abandon fun _ => within_throw _

theorem fixed_fetchInstaller : Within Fixed fetchInstaller := by
  unfold fetchInstaller
  refine within_bind within_engine fun e => ?_
  split
  · exact within_pure _
  · exact within_bind (fixed_onLab _) fun _ =>
      within_bind (fixed_update fun _ => ⟨rfl, rfl, rfl, rfl, id⟩) fun _ => within_pure _

theorem fixed_callStep (h : Handle) (call : String → Engine → Nat → LabM Unit) (s : String) :
    Within Fixed (callStep h call s) :=
  within_bind (within_linkOf h) fun _ => within_bind within_engine fun _ =>
    within_bind (fixed_onLab _) fun _ => within_pure s

theorem fixed_configureSteps (h : Handle) : ∀ f ∈ configureSteps h, ∀ s, Within Fixed (f s) := by
  intro f hf s
  simp only [configureSteps, List.mem_cons, List.not_mem_nil, or_false] at hf
  rcases hf with rfl | rfl | rfl | rfl | rfl | rfl
  · exact within_bind (within_linkOf h) fun _ =>
      within_bind (fixed_update fun _ => ⟨rfl, rfl, rfl, rfl, id⟩) fun _ => fixed_fetchInstaller
  · exact fixed_callStep h _ s
  · exact fixed_callStep h _ s
  · exact within_bind within_spec fun _ => within_bind (within_orFail _) fun _ =>
      fixed_callStep h _ s
  · exact fixed_callStep h _ s
  · exact fixed_callStep h _ s

theorem fixed_installStep (h : Handle) (exec : String) (joins : Bool) (s : String) :
    Within Fixed (installStep h exec joins s) :=
  within_bind (within_linkOf h) fun _ => within_bind within_engine fun _ =>
    within_bind (within_bind within_engine fun _ => within_bind within_spec fun _ =>
      fixed_onLab _) fun _ => within_pure s

theorem fixed_fetchToken (h : Handle) : Within Fixed (fetchToken h) := by
  unfold fetchToken
  refine within_bind (within_linkOf h) fun id => within_bind (fixed_onLab _) fun raw => ?_
  dsimp only
  split
  · exact within_throw_bind _ _
  · exact within_pure _

theorem fixed_installServers (count : Nat) (first : Bool) (hs : List Handle) :
    Within Fixed (installServers count first hs) := by
  induction hs generalizing first with
  | nil => exact within_pure _
  | cons h hs ih =>
    refine within_bind ?_ fun _ => ih false
    refine within_bind (within_chain (fun f hf s => ?_) "") fun _ =>
      within_bind (fixed_fetchToken h) fun _ => fixed_update fun _ => ⟨rfl, rfl, rfl, rfl, id⟩
    rcases List.mem_append.mp hf with hf | hf
    · exact fixed_configureSteps h f hf s
    · rw [List.mem_singleton] at hf
      subst hf
      split <;> exact fixed_installStep h _ _ s

theorem fixed_installAgents (picks : List Nat) : Within Fixed (installAgents picks) := by
  unfold installAgents
  refine within_bind (within_select _) fun agents => ?_
  split
  · refine within_bind (within_gather picks fun t ht f hf s => ?_) fun results => ?_
    · obtain ⟨h, -, rfl⟩ := List.mem_map.mp ht
      rcases List.mem_append.mp hf with hf | hf
      · exact fixed_configureSteps h f hf s
      · rw [List.mem_singleton] at hf
        subst hf
        exact fixed_installStep h _ _ s
    · refine within_bind (fixed_update fun _ => ⟨rfl, rfl, rfl, rfl, id⟩) fun _ => ?_
      split
      · exact within_throw _
      · exact within_pure _
  · exact within_pure _

theorem fixed_installUnder (picks : List Nat) : Within Fixed (installUnder picks) :=
  within_bind (within_require _) fun _ =>
    within_bind (fixed_update fun e => e.fixed_withStage (by decide)) fun _ =>
      within_bind (within_select _) fun servers =>
        within_bind (fixed_installServers _ _ servers) fun _ =>
          within_bind (fixed_installAgents picks) fun _ =>
            fixed_update fun e => e.fixed_withStage (by decide)

theorem fixed_uninstall : Within Fixed uninstall :=
  within_bind (within_require _) fun _ => within_bind within_engine fun _ =>
    within_forM fun g _ => within_bind (within_linkOf g) fun _ => fixed_onLab _

theorem fixed_kubeconfig (path : String) (forMachines : Bool) :
    Within Fixed (kubeconfig path forMachines) := by
  unfold kubeconfig
  refine within_bind (within_require _) fun _ => within_bind within_engine fun e =>
    within_bind (within_select _) fun hs => ?_
  cases hs with
  | nil => exact within_throw_bind _ _
  | cons g _ =>
    dsimp only
    rw [pure_bind]
    refine within_bind (within_linkOf g) fun id =>
      within_bind (within_attempt (fixed_onLab _)) fun r => ?_
    cases r with
    | error f => exact within_throw_bind _ _
    | ok text =>
      dsimp only
      rw [pure_bind]
      -- the merged file is written locally, which the engine does not see
      exact within_bind within_get fun d =>
        within_bind (fun d => Engine.Fixed.refl d.engine) fun _ => within_orFail _

theorem fixed_release (cleanup : Bool) (s : Settings) (fs : List (String × Failure)) (h : Handle) :
    Within Fixed (release cleanup s fs h) := by
  unfold release
  cases h.link with
  | none => exact within_pure fs
  | some id =>
    dsimp only
    split
    · refine within_bind (within_attempt (fixed_onLab _)) fun r => ?_
      split <;>
        refine within_bind (within_pure _) fun _ =>
          within_bind (within_attempt (fixed_onLab _)) fun r' => ?_ <;>
        split <;> exact within_pure _
    · refine within_bind (within_pure _) fun _ =>
        within_bind (within_attempt (fixed_onLab _)) fun r' => ?_
      split <;> exact within_pure _

theorem fixed_disconnect : Within Fixed disconnect := by
  unfold disconnect
  refine within_bind (within_require _) fun _ => within_bind within_engine fun e =>
    within_bind (within_foldlM (fun fs g _ => fixed_release _ _ fs g) _) fun fs =>
      within_bind (fixed_update fun e => Engine.fixed_mapHandles e fun _ => rfl) fun _ => ?_
  have hend : ∀ fs' : List (String × Failure),
      Within Fixed (update (fun e => { e with stage := .disconnected }) >>= fun _ =>
        if !fs'.isEmpty then throw (.disconnect fs') else pure ()) := fun fs' =>
    within_bind (fixed_update fun e => e.fixed_withStage (by decide)) fun _ => by
      split
      · exact within_throw _
      · exact within_pure ()
  dsimp only
  split
  · refine within_bind (within_attempt (fixed_onLab _)) fun r =>
      within_bind (fixed_update fun _ => ⟨rfl, rfl, rfl, rfl, id⟩) fun _ => ?_
    split <;> exact within_bind (within_pure _) hend
  · exact within_bind (within_pure _) hend

end Operations

section Steps

variable {d : Deployment}

/-- **A step keeps what the adoption fixed**: once the engine is past the uninitialized stage,
a second description is refused, and every other step leaves the settings, the description, the
machines and the server URL alone. -/
theorem perform_fixed (st : Step) (hs : d.engine.stage ≠ .uninitialized) :
    d.Fixed (outcome st.perform d).2 := by
  cases st with
  | setSpec src =>
    -- only an uninitialized engine adopts a description; elsewhere nothing changes
    have hout := outcome_bind_pure (setSpec src) (fun _ => Outcome.done) d
    rcases setSpec_went src d with ⟨f, hf⟩ | ⟨hu, -⟩
    · show d.Fixed (outcome (setSpec src >>= fun _ => pure Outcome.done) d).2
      rw [hout, hf]
      exact Engine.Fixed.refl d.engine
    · exact absurd hu hs
  | connect => exact within_bind fixed_connect (fun _ => within_pure _) d
  | install => exact within_bind (fixed_installUnder []) (fun _ => within_pure _) d
  | uninstall => exact within_bind fixed_uninstall (fun _ => within_pure _) d
  | disconnect => exact within_bind fixed_disconnect (fun _ => within_pure _) d
  | kubeconfig path existing forMachines =>
    have hk := within_bind (fixed_kubeconfig path forMachines) fun k =>
      within_pure (R := Fixed) (Outcome.kubeconfig k)
    cases existing with
    | none => exact hk d
    | some f => exact within_bind (fun d => Engine.Fixed.refl d.engine) (fun _ => hk) d
  | effectiveConfig position =>
    exact within_bind ((reads_effectiveConfig position).mono fun d d' (hd : d = d') =>
        hd ▸ Engine.Fixed.refl d.engine)
      (fun _ => within_bind (within_orFail _) fun _ => within_pure _) d
  | selectMachines selector =>
    exact within_bind (within_orFail _) (fun s => within_bind (within_select s) fun _ =>
      within_pure _) d
  | installerPath => exact within_bind within_engine (fun _ => within_pure _) d
  | setFault kind hosts =>
    rw [Step.perform]
    split
    · exact within_bind (fun d => Engine.Fixed.refl d.engine) (fun _ => within_pure _) d
    · exact within_pure _ d

/-- **A run of steps keeps what the adoption fixed.** -/
theorem afterSteps_fixed (sts : List Step) (hs : d.engine.stage ≠ .uninitialized) :
    d.Fixed (d.afterSteps sts) := by
  -- by induction on the steps, each starting past the uninitialized stage
  induction sts generalizing d with
  | nil => exact Engine.Fixed.refl d.engine
  | cons st sts ih =>
    have hstep := perform_fixed st hs
    exact Engine.Fixed.trans hstep (ih (hstep.adopted hs))

end Steps

section Adopting

open ClusterSpec

variable {d : Deployment} {given : Option ClusterSpec}

theorem outcome_adopt_refused (hs : d.engine.stage = .uninitialized) {f : Failure}
    (hv : verify given = .error f) : outcome (adopt given) d = (.error f, d) := by
  unfold adopt
  rw [outcome_require_bind (by simp [hs]), hv, outcome_orFail_error_bind]

theorem outcome_adopt_unwritable (hs : d.engine.stage = .uninitialized) {c : ClusterSpec}
    (hv : verify given = .ok c) {u : Data.Unwritable}
    (hu : c.serverUrl d.engine.settings.apiPort = .error u) :
    outcome (adopt given) d = (.error (.unwritable u), d.taking c) := by
  unfold adopt
  rw [outcome_require_bind (by simp [hs]), hv, outcome_orFail_ok_bind, outcome_update_bind,
    outcome_engine_bind]
  dsimp only
  rw [hu]
  rfl

theorem outcome_adopt_ok (hs : d.engine.stage = .uninitialized) {c : ClusterSpec}
    (hv : verify given = .ok c) {url : String}
    (hu : c.serverUrl d.engine.settings.apiPort = .ok url) :
    outcome (adopt given) d = (.ok (), { d with engine := { d.engine with
      spec := some c, handles := c.machines.map fun m => { machine := m }, serverUrl := url,
      stage := .specSet } }) := by
  unfold adopt
  rw [outcome_require_bind (by simp [hs]), hv, outcome_orFail_ok_bind, outcome_update_bind,
    outcome_engine_bind]
  dsimp only
  rw [hu]
  rfl

theorem servers_map_machine {c : ClusterSpec}
    (h : d.engine.handles.map Handle.machine = c.machines) :
    d.servers.map Handle.machine = c.servers := by
  simp only [Deployment.servers, ClusterSpec.servers, ClusterSpec.select, ← h, List.filter_map]
  rfl

theorem afterSteps_described {c : ClusterSpec} (hs : d.engine.stage ≠ .uninitialized)
    (hspec : d.engine.spec = some c) (hm : d.engine.handles.map Handle.machine = c.machines)
    (sts : List Step) :
    (d.afterSteps sts).engine.spec = some c ∧
      (d.afterSteps sts).engine.handles.map Handle.machine = c.machines ∧
      (d.afterSteps sts).servers.map Handle.machine = c.servers := by
  have hfix := afterSteps_fixed sts hs
  have hm' := hfix.machines.trans hm
  exact ⟨hfix.spec.trans hspec, hm', servers_map_machine hm'⟩

/-- **Verification gates the adoption.**  From the uninitialized stage, adopting `given`
succeeds exactly when a description is given, its version is a release channel, an odd number
of its machines are servers and its advertised port can be written into the server URL.
Without a description, or with one that fails a check, it is refused with the message of every
check failed, in order, and nothing changes.  A port too long to write fails it too, once the
description and its machines are taken: the engine stays uninitialized, holding them.  After a
success, whatever steps follow, the
engine keeps the description and its machines in order, an odd number of them servers. -/
theorem adopt_gate (hs : d.engine.stage = .uninitialized) (given : Option ClusterSpec) :
    ((outcome (adopt given) d).1 = .ok () ↔ ∃ c, given = some c ∧ c.version ∈ channels ∧
        c.servers.length % 2 = 1 ∧
        Data.isLongInteger (c.advertisedPort d.engine.settings.apiPort) = false) ∧
    (given = none →
      outcome (adopt given) d = (.error (.configInvalid ["configuration empty"]), d)) ∧
    (∀ c, given = some c → c.failedChecks ≠ [] →
      outcome (adopt given) d = (.error (.configInvalid c.failedChecks), d)) ∧
    (∀ c, given = some c → c.failedChecks = [] →
      Data.isLongInteger (c.advertisedPort d.engine.settings.apiPort) = true →
        outcome (adopt given) d = (.error (.unwritable .longInteger), d.taking c)) ∧
    (∀ c, given = some c → (outcome (adopt given) d).1 = .ok () → ∀ sts,
      ((outcome (adopt given) d).2.afterSteps sts).engine.spec = some c ∧
      ((outcome (adopt given) d).2.afterSteps sts).engine.handles.map Handle.machine =
        c.machines ∧
      ((outcome (adopt given) d).2.afterSteps sts).servers.length % 2 = 1) := by
  cases given with
  | none =>
    have hout : outcome (adopt none) d = (.error (.configInvalid ["configuration empty"]), d) :=
      outcome_adopt_refused hs rfl
    refine ⟨?_, fun _ => hout, fun _ hc => (nomatch hc), fun _ hc => (nomatch hc),
      fun _ hc => (nomatch hc)⟩
    simp [hout]
  | some c =>
    by_cases hf : c.failedChecks = []
    · have hv : verify (some c) = .ok c := by rw [verify_some, if_pos hf]
      obtain ⟨hver, hodd⟩ := failedChecks_eq_nil_iff.1 hf
      -- the checks passed, the port decides
      cases hl : Data.isLongInteger (c.advertisedPort d.engine.settings.apiPort)
      · have hout := outcome_adopt_ok hs hv (by rw [serverUrl_eq, if_neg (by simp [hl])])
        refine ⟨by simp [hout, hver, hodd, hl], nofun, fun _ hc hf' => ?_,
          fun _ hc _ hl' => ?_, fun _ hc _ sts => ?_⟩
        · cases hc
          exact absurd hf hf'
        · cases hc
          simp [hl] at hl'
        · cases hc
          -- the adopted engine holds the description's machines, past the uninitialized stage
          obtain ⟨hspec, hm, hservers⟩ := afterSteps_described (d := (outcome (adopt (some c)) d).2)
            (by simp [hout]) (by rw [hout]) (by rw [hout]; simp [Function.comp_def]) sts
          exact ⟨hspec, hm, by rw [← List.length_map, hservers, hodd]⟩
      · have hout := outcome_adopt_unwritable hs hv (by rw [serverUrl_eq, if_pos hl])
        refine ⟨by simp [hout, hl], nofun, fun _ hc hf' => ?_, fun _ hc _ _ => ?_,
          fun _ _ hok => ?_⟩
        · cases hc
          exact absurd hf hf'
        · cases hc
          exact hout
        · simp [hout] at hok
    · have hout : outcome (adopt (some c)) d = (.error (.configInvalid c.failedChecks), d) :=
        outcome_adopt_refused hs (by rw [verify_some, if_neg hf])
      refine ⟨?_, nofun, fun _ hc _ => ?_, fun _ hc hf' => ?_, fun _ _ hok => ?_⟩
      · simp only [hout, reduceCtorEq, false_iff]
        rintro ⟨_, hc, hver, hodd, -⟩
        cases hc
        exact hf (failedChecks_eq_nil_iff.2 ⟨hver, hodd⟩)
      · cases hc
        exact hout
      · cases hc
        exact absurd hf' hf
      · simp [hout] at hok

/-- A fresh engine offered one server on the stable channel. -/
theorem fresh_adopt_gate :
    let d : Deployment := ⟨{ settings := Settings.default }, {}, []⟩
    let given : Option ClusterSpec :=
      some { version := "stable", machines := [{ role := .server, ssh := { host := "10.0.0.1" } }] }
    d.engine.stage = .uninitialized ∧
    ((outcome (adopt given) d).1 = .ok () ↔ ∃ c, given = some c ∧ c.version ∈ channels ∧
        c.servers.length % 2 = 1 ∧
        Data.isLongInteger (c.advertisedPort d.engine.settings.apiPort) = false) ∧
    (given = none →
      outcome (adopt given) d = (.error (.configInvalid ["configuration empty"]), d)) ∧
    (∀ c, given = some c → c.failedChecks ≠ [] →
      outcome (adopt given) d = (.error (.configInvalid c.failedChecks), d)) ∧
    (∀ c, given = some c → c.failedChecks = [] →
      Data.isLongInteger (c.advertisedPort d.engine.settings.apiPort) = true →
        outcome (adopt given) d = (.error (.unwritable .longInteger), d.taking c)) ∧
    (∀ c, given = some c → (outcome (adopt given) d).1 = .ok () → ∀ sts,
      ((outcome (adopt given) d).2.afterSteps sts).engine.spec = some c ∧
      ((outcome (adopt given) d).2.afterSteps sts).engine.handles.map Handle.machine =
        c.machines ∧
      ((outcome (adopt given) d).2.afterSteps sts).servers.length % 2 = 1) := by
  intro d given
  exact ⟨rfl, adopt_gate rfl given⟩

/-- A description that passes every check is still refused when its advertised port is too
long to write into the server URL: the checks alone do not make an adoption succeed. -/
theorem adopt_refuses_long_port :
    let d : Deployment := ⟨{ settings := Settings.default }, {}, []⟩
    let server := (Fragment.empty .server).set "advertise-port" (.count ((16 ^ 3575 : Nat) : Int))
    let c : ClusterSpec :=
      { version := "stable", defaults := { server := server },
        machines := [{ role := .server, ssh := { host := "10.0.0.1" } }] }
    c.version ∈ channels ∧ c.servers.length % 2 = 1 ∧
      outcome (adopt (some c)) d = (.error (.unwritable .longInteger), d.taking c) := by
  intro d server c
  have hport : c.advertisedPort d.engine.settings.apiPort = ((16 ^ 3575 : Nat) : Int) := by
    decide +kernel
  have hlong : Data.isLongInteger (c.advertisedPort d.engine.settings.apiPort) = true := by
    rw [hport]
    exact (Data.isLongInteger_iff _).2 (by decide +kernel)
  have hv : verify (some c) = .ok c := by
    rw [verify_some, if_pos (by decide +kernel)]
  refine ⟨by decide +kernel, by decide +kernel, outcome_adopt_unwritable rfl hv ?_⟩
  rw [serverUrl_eq, if_pos hlong]

end Adopting

end Deploy

end ClusterDeploy
