import ClusterDeploy.Proofs.Schedule

/-!
# Calls on a session

A call on a lab session records itself and then fails with the fault its machine is told to
meet, if any.  What a call does depends on the lab's tables, the machine and the call, never on
the other sessions, so a machine's part of an operation is read off a list of *moves*: calls on
its session, and checks made between them that fail without calling (`.error`).

* `Call`                  an upload, a command or a read on a session;
* `Call.fault`            the fault a call meets on a machine, if any;
* `Call.make_run`         a call records its event, and fails with its fault;
* `Lab.reach`             the calls of a list of moves a machine answers, up to and including the
                          first that fails, and that failure;
* `Deploy.moves`          the moves made in turn on one session;
* `Deploy.run_moves`      **the moves change only their session**: it records the calls
                          `Lab.reach` gives, and the moves end with its failure;
* `Deploy.MoveStep`       a step of a task that makes one move, chosen by the engine;
* `Deploy.run_chain`      a chain of such steps makes their moves in turn;
* `MoveStep.local_attempt`  such a step is local to its session (`Deploy.Local`).
-/

namespace ClusterDeploy

/-- A call on a lab session. -/
inductive Call where
  | upload (path text : String)
  | run (c : Command)
  | read (path : String)
deriving DecidableEq, Repr

namespace Call

def event : Call → LabEvent
  | .upload p t => .upload p t
  | .run c => .run (c.line false)
  | .read p => .read p

/-- Makes the call on a session of `l`, dropping what a read answers. -/
def make (l : Lab) : Call → SessionM Unit
  | .upload p t => LabSession.upload l p t
  | .run c => LabSession.run l c
  | .read p => do let _ ← LabSession.read l p

def fault (l : Lab) (t : SshTarget) : Call → Option Failure
  | .upload p _ => l.uploadFault t p
  | .run c => l.commandFault t c
  | .read p => l.readFault t p

/-- The session after the call, whether it failed or not: the call is recorded, and an install
the machine is not told to fail remembers the token it joined with. -/
def after (l : Lab) (c : Call) (s : LabSession) : LabSession :=
  let s' := { s with events := s.events ++ [c.event] }
  match c with
  | .run cmd =>
    if (cmd.env.lookup "INSTALL_K3S_EXEC").isSome && !l.fails .install s.target then
      { s' with joinedWith := (cmd.env.lookup "K3S_TOKEN").getD "" }
    else s'
  | _ => s'

@[simp] theorem events_after (l : Lab) (c : Call) (s : LabSession) :
    (c.after l s).events = s.events ++ [c.event] := by
  cases c with
  | run cmd => simp only [after]; split <;> rfl
  | _ => rfl

@[simp] theorem target_after (l : Lab) (c : Call) (s : LabSession) :
    (c.after l s).target = s.target := by
  cases c with
  | run cmd => simp only [after]; split <;> rfl
  | _ => rfl

/-- A call sees the lab's tables only, not its sessions. -/
@[simp] theorem fault_sessions (l : Lab) (ss : List LabSession) (t : SshTarget) (c : Call) :
    c.fault { l with sessions := ss } t = c.fault l t := by
  cases c <;> rfl

@[simp] theorem after_sessions (l : Lab) (ss : List LabSession) (c : Call) :
    c.after { l with sessions := ss } = c.after l := by
  cases c <;> rfl

@[simp] theorem fault_setSession (l : Lab) (id : Nat) (s : LabSession) (t : SshTarget) (c : Call) :
    c.fault (l.setSession id s) t = c.fault l t :=
  fault_sessions l _ t c

@[simp] theorem after_setSession (l : Lab) (id : Nat) (s : LabSession) (c : Call) :
    c.after (l.setSession id s) = c.after l :=
  after_sessions l _ c

/-- **What a call does**: it records its event, and fails with the fault its machine meets. -/
theorem make_run (l : Lab) (c : Call) (s : LabSession) :
    (c.make l).run s = match c.fault l s.target with
      | some f => .error f (c.after l s)
      | none => .ok () (c.after l s) := by
  cases c with
  | upload p t =>
    simp only [make, LabSession.upload, LabSession.note, LabSession.failWith, fault, after, event,
      EStateM.run_bind, EStateM.run_modify, EStateM.run_get]
    cases l.uploadFault s.target p <;> rfl
  | run cmd =>
    simp only [make, LabSession.run, LabSession.note, LabSession.failWith, fault, after, event,
      EStateM.run_bind, EStateM.run_modify, EStateM.run_get]
    -- the install's token is remembered before the fault is looked up
    split <;> (cases l.commandFault s.target cmd <;> rfl)
  | read p =>
    simp only [make, LabSession.read, LabSession.note, LabSession.failWith, fault, after, event,
      EStateM.run_bind, EStateM.run_modify, EStateM.run_get]
    cases l.readFault s.target p <;> rfl

theorem read_run (l : Lab) (p : String) (s : LabSession) :
    (LabSession.read l p).run s = match l.readFault s.target p with
      | some f => .error f ((Call.read p).after l s)
      | none => .ok (if p == tokenPath then l.tokenOf s ++ "\n" else l.kubeconfig)
          ((Call.read p).after l s) := by
  simp only [LabSession.read, LabSession.note, LabSession.failWith, after, event,
    EStateM.run_bind, EStateM.run_modify, EStateM.run_get]
  cases l.readFault s.target p <;> rfl

end Call

theorem Lab.run_onSession {α : Type} (id : Nat) (call : Lab → SessionM α) (l : Lab) :
    (Lab.onSession id call).run l = match (call l).run (l.session id) with
      | .ok a s => .ok a (l.setSession id s)
      | .error e s => .error e (l.setSession id s) := rfl

namespace Lab

/-- The calls of `moves` that machine `t` answers in turn, up to and including the first it
fails, and how the moves end: with that call's fault, with the first failing check before it,
or with none. -/
def reach (l : Lab) (t : SshTarget) : List (Except Failure Call) → List Call × Option Failure
  | [] => ([], none)
  | .error f :: _ => ([], some f)
  | .ok c :: moves =>
    match c.fault l t with
    | some f => ([c], some f)
    | none => (c :: (l.reach t moves).1, (l.reach t moves).2)

def afterAll (l : Lab) (cs : List Call) (s : LabSession) : LabSession :=
  cs.foldl (fun s c => c.after l s) s

@[simp] theorem afterAll_nil (l : Lab) (s : LabSession) : l.afterAll [] s = s := rfl

@[simp] theorem afterAll_cons (l : Lab) (c : Call) (cs : List Call) (s : LabSession) :
    l.afterAll (c :: cs) s = l.afterAll cs (c.after l s) := rfl

@[simp] theorem afterAll_append (l : Lab) (cs cs' : List Call) (s : LabSession) :
    l.afterAll (cs ++ cs') s = l.afterAll cs' (l.afterAll cs s) := by
  simp [afterAll, List.foldl_append]

@[simp] theorem events_afterAll (l : Lab) (cs : List Call) (s : LabSession) :
    (l.afterAll cs s).events = s.events ++ cs.map Call.event := by
  induction cs generalizing s with
  | nil => simp
  | cons c cs ih => simp [ih]

@[simp] theorem target_afterAll (l : Lab) (cs : List Call) (s : LabSession) :
    (l.afterAll cs s).target = s.target := by
  induction cs generalizing s with
  | nil => rfl
  | cons c cs ih => simp [ih]

@[simp] theorem reach_sessions (l : Lab) (ss : List LabSession) (t : SshTarget)
    (moves : List (Except Failure Call)) :
    reach { l with sessions := ss } t moves = l.reach t moves := by
  induction moves with
  | nil => rfl
  | cons m moves ih => cases m <;> simp [reach, ih]

@[simp] theorem afterAll_sessions (l : Lab) (ss : List LabSession) :
    afterAll { l with sessions := ss } = l.afterAll := by
  funext cs s
  simp [afterAll]

@[simp] theorem reach_setSession (l : Lab) (id : Nat) (s : LabSession) (t : SshTarget)
    (moves : List (Except Failure Call)) : (l.setSession id s).reach t moves = l.reach t moves :=
  reach_sessions l _ t moves

@[simp] theorem afterAll_setSession (l : Lab) (id : Nat) (s : LabSession) :
    (l.setSession id s).afterAll = l.afterAll :=
  afterAll_sessions l _

theorem reach_append (l : Lab) (t : SshTarget) (ms ms' : List (Except Failure Call)) :
    l.reach t (ms ++ ms') = match (l.reach t ms).2 with
      | some f => ((l.reach t ms).1, some f)
      | none => ((l.reach t ms).1 ++ (l.reach t ms').1, (l.reach t ms').2) := by
  induction ms with
  | nil => simp [reach]
  | cons m ms ih =>
    cases m with
    | error f => rfl
    | ok c =>
      simp only [List.cons_append, reach]
      cases c.fault l t with
      | some f => rfl
      | none => cases h : (l.reach t ms).2 <;> simp [ih, h]

theorem reach_prefix (l : Lab) (t : SshTarget) (moves : List (Except Failure Call)) :
    (l.reach t moves).1 <+: moves.filterMap Except.toOption := by
  induction moves with
  | nil => exact List.prefix_refl _
  | cons m moves ih =>
    cases m with
    | error f => exact List.nil_prefix
    | ok c =>
      simp only [reach, List.filterMap_cons, Except.toOption]
      split
      · exact List.cons_prefix_cons.mpr ⟨rfl, List.nil_prefix⟩
      · exact List.cons_prefix_cons.mpr ⟨rfl, ih⟩

end Lab

namespace Deployment

/-- How moves go on session `id`: the calls its machine answers and the failure that ends
them. -/
def trial (d : Deployment) (id : Nat) (ms : List (Except Failure Call)) :
    List Call × Option Failure :=
  d.lab.reach (d.lab.session id).target ms

def afterMoves (d : Deployment) (id : Nat) (ms : List (Except Failure Call)) : Deployment :=
  d.withSession id (d.lab.afterAll (d.trial id ms).1 (d.lab.session id))

@[simp] theorem engine_afterMoves (d : Deployment) (id : Nat) (ms : List (Except Failure Call)) :
    (d.afterMoves id ms).engine = d.engine := rfl

@[simp] theorem view_afterMoves (d : Deployment) (id : Nat) (ms : List (Except Failure Call)) :
    (d.afterMoves id ms).view = d.view := rfl

@[simp] theorem length_afterMoves (d : Deployment) (id : Nat) (ms : List (Except Failure Call)) :
    (d.afterMoves id ms).lab.sessions.length = d.lab.sessions.length := by
  simp [afterMoves]

theorem session_afterMoves_self (d : Deployment) {id : Nat} (ms : List (Except Failure Call))
    (h : id < d.lab.sessions.length) :
    (d.afterMoves id ms).lab.session id = d.lab.afterAll (d.trial id ms).1 (d.lab.session id) := by
  simp [afterMoves, Lab.session_setSession_self _ _ h]

theorem session_afterMoves_ne (d : Deployment) {id id' : Nat} (ms : List (Except Failure Call))
    (h : id ≠ id') : (d.afterMoves id ms).lab.session id' = d.lab.session id' := by
  simp [afterMoves, Lab.session_setSession_ne _ _ h]

theorem trial_afterMoves_ne (d : Deployment) {id id' : Nat} (ms ms' : List (Except Failure Call))
    (h : id ≠ id') : (d.afterMoves id ms).trial id' ms' = d.trial id' ms' := by
  simp [trial, afterMoves, Lab.session_setSession_ne _ _ h]

theorem trial_append (d : Deployment) (id : Nat) (ms ms' : List (Except Failure Call)) :
    d.trial id (ms ++ ms') = match (d.trial id ms).2 with
      | some f => ((d.trial id ms).1, some f)
      | none => ((d.trial id ms).1 ++ (d.trial id ms').1, (d.trial id ms').2) :=
  Lab.reach_append _ _ ms ms'

theorem afterMoves_append (d : Deployment) {id : Nat} (ms ms' : List (Except Failure Call))
    (h : id < d.lab.sessions.length) (hok : (d.trial id ms).2 = none) :
    d.afterMoves id (ms ++ ms') = (d.afterMoves id ms).afterMoves id ms' := by
  simp only [trial] at hok
  simp [afterMoves, trial, Lab.reach_append, hok, Lab.session_setSession_self _ _ h]

end Deployment

namespace Deploy

/-- Makes the moves in turn on session `id`, stopping at the first that fails. -/
def moves (id : Nat) : List (Except Failure Call) → Deploy Unit
  | [] => pure ()
  | .error f :: _ => throw f
  | .ok c :: ms => do
    onLab (Lab.onSession id fun l => c.make l)
    moves id ms

theorem moves_append (id : Nat) (ms ms' : List (Except Failure Call)) :
    moves id (ms ++ ms') = (moves id ms >>= fun _ => moves id ms') := by
  induction ms with
  | nil => simp [moves]
  | cons m ms ih =>
    cases m with
    | error f => rfl
    | ok c => simp [moves, ih]

theorem run_attempt {α : Type} (act : Deploy α) (d : Deployment) : (attempt act).run d =
    match act.run d with
    | .ok a d' => .ok (.ok a) d'
    | .error e d' => .ok (.error e) d' := rfl

theorem run_onLab {α : Type} (act : LabM α) (d : Deployment) : (onLab act).run d =
    match act.run d.lab with
    | .ok a l => .ok a { d with lab := l }
    | .error e l => .error e { d with lab := l } := rfl

theorem run_onSession_make (id : Nat) (c : Call) (d : Deployment) :
    (onLab (Lab.onSession id fun l => c.make l)).run d =
      match c.fault d.lab (d.lab.session id).target with
      | some f => .error f (d.withSession id (c.after d.lab (d.lab.session id)))
      | none => .ok () (d.withSession id (c.after d.lab (d.lab.session id))) := by
  have h := c.make_run d.lab (d.lab.session id)
  simp only [EStateM.run] at h
  simp only [onLab, Lab.onSession, EStateM.run, h]
  cases c.fault d.lab (d.lab.session id).target <;> rfl

/-- **The moves change only their session**: it records the calls the machine answers, up to
and including the first it fails, and the moves end as `Lab.reach` says. -/
theorem run_moves (id : Nat) (ms : List (Except Failure Call)) (d : Deployment)
    (hid : id < d.lab.sessions.length) :
    (moves id ms).run d = match (d.trial id ms).2 with
      | some f => .error f (d.afterMoves id ms)
      | none => .ok () (d.afterMoves id ms) := by
  induction ms generalizing d with
  | nil => simp [moves, Deployment.trial, Deployment.afterMoves, Lab.reach,
      Deployment.withSession_session _ hid]
  | cons m ms ih =>
    cases m with
    | error f => simp [moves, Deployment.trial, Deployment.afterMoves, Lab.reach,
        Deployment.withSession_session _ hid]
    | ok c =>
      simp only [moves, EStateM.run_bind, run_onSession_make, Deployment.trial,
        Deployment.afterMoves, Lab.reach]
      cases c.fault d.lab (d.lab.session id).target with
      | some f => simp
      | none =>
        simp only
        rw [ih _ (by simpa using hid)]
        simp [Deployment.trial, Deployment.afterMoves, Lab.session_setSession_self _ _ hid]

/-- Step `f` of a task makes on session `id` the one move that `move` chooses for the engine
and what the step is given, and passes that on. -/
def MoveStep {α : Type} (id : Nat) (f : α → Deploy α) (move : Engine → α → Except Failure Call) :
    Prop :=
  ∀ a d, (f a).run d = (moves id [move d.engine a] >>= fun _ => pure a).run d

/-- **A chain of move steps makes their moves in turn**, each chosen for the engine at the
start, which the moves keep. -/
theorem run_chain {α : Type} {id : Nat} {fs : List (α → Deploy α)}
    {ms : List (Engine → α → Except Failure Call)} (h : List.Forall₂ (MoveStep id) fs ms)
    (a : α) (d : Deployment) (hid : id < d.lab.sessions.length) :
    (chain fs a).run d = (moves id (ms.map fun m => m d.engine a) >>= fun _ => pure a).run d := by
  induction h generalizing d with
  | nil => simp [chain, moves]
  | @cons f m fs ms hf _ ih =>
    have hsplit : moves id ((m :: ms).map fun m => m d.engine a) =
        (moves id [m d.engine a] >>= fun _ => moves id (ms.map fun m => m d.engine a)) := by
      rw [← moves_append]; rfl
    rw [chain, EStateM.run_bind, hf, hsplit, bind_assoc, EStateM.run_bind, EStateM.run_bind,
      run_moves _ _ _ hid]
    -- the first move either fails, failing both sides, or leaves a deployment with the engine
    -- the later moves were chosen for
    cases (d.trial id [m d.engine a]).2 with
    | some e => rfl
    | none =>
      simp only [EStateM.run_pure]
      rw [ih _ (by simpa using hid)]
      rfl

theorem MoveStep.local_attempt {α : Type} {id : Nat} {f : α → Deploy α}
    {move : Engine → α → Except Failure Call} (h : MoveStep id f move) (P : Deployment → Prop)
    (a : α) : Local P id (attempt (f a)) := by
  refine ⟨fun v s =>
    let r := v.lab.reach s.target [move v.engine a]
    ((match r.2 with
      | some e => .error e
      | none => .ok a), v.lab.afterAll r.1 s), fun d _ hid => ?_⟩
  have hrun := h a d
  simp only [attempt, EStateM.run] at hrun ⊢
  rw [hrun]
  have hm := run_moves id [move d.engine a] d hid
  simp only [EStateM.run] at hm
  simp only [bind, EStateM.bind, hm, Deployment.view, Lab.reach_sessions, Lab.afterAll_sessions,
    Deployment.afterMoves, Deployment.trial]
  cases (d.lab.reach (d.lab.session id).target [move d.engine a]).2 <;> rfl

end Deploy

end ClusterDeploy
