import ClusterDeploy.Deploy.Engine
import Mathlib.Tactic.Choose
import Mathlib.Data.List.Forall2

/-!
# Schedules of gathered tasks

Tasks gathered on one event loop run their steps in whatever order the loop picks them.  When
every step of a task makes its calls on one session of the lab, reads nothing that another
task's step changes, and the tasks have sessions of their own, the order does not matter:

* `Deployment.view`         the deployment without the lab's sessions, all that a step may read
                            besides its own session;
* `Deployment.withSession`  the deployment with one session replaced;
* `Deploy.Local P id a`     `a` never fails, and from a deployment whose view satisfies `P`
                            it changes only session `id`, as a function of the view and of that
                            session;
* `Local.swap`              two local actions on different sessions commute;
* `Task.LocalTo P id t`     every step of `t` is local to session `id`;
* `gather_eq_inOrder`       **the picks do not matter**: tasks local to distinct sessions give,
                            under any picks, the run in which each task goes to its end in
                            turn.
-/

namespace ClusterDeploy

namespace Lab

@[simp] theorem length_setSession (l : Lab) (id : Nat) (s : LabSession) :
    (l.setSession id s).sessions.length = l.sessions.length := by
  simp [setSession]

theorem session_setSession_self (l : Lab) {id : Nat} (s : LabSession)
    (h : id < l.sessions.length) : (l.setSession id s).session id = s := by
  simp [setSession, session, List.getD_eq_getElem?_getD, h]

theorem session_setSession_ne (l : Lab) {id id' : Nat} (s : LabSession) (h : id ≠ id') :
    (l.setSession id s).session id' = l.session id' := by
  simp [setSession, session, List.getD_eq_getElem?_getD, List.getElem?_set_ne h]

theorem setSession_session (l : Lab) {id : Nat} (h : id < l.sessions.length) :
    l.setSession id (l.session id) = l := by
  simp [setSession, session, List.getD_eq_getElem?_getD, h]

@[simp] theorem setSession_setSession (l : Lab) (id : Nat) (s t : LabSession) :
    (l.setSession id s).setSession id t = l.setSession id t := by
  simp [setSession]

end Lab

namespace Deployment

def view (d : Deployment) : Deployment := { d with lab := { d.lab with sessions := [] } }

def withSession (d : Deployment) (id : Nat) (s : LabSession) : Deployment :=
  { d with lab := d.lab.setSession id s }

@[simp] theorem view_withSession (d : Deployment) (id : Nat) (s : LabSession) :
    (d.withSession id s).view = d.view := rfl

@[simp] theorem lab_withSession (d : Deployment) (id : Nat) (s : LabSession) :
    (d.withSession id s).lab = d.lab.setSession id s := rfl

@[simp] theorem engine_withSession (d : Deployment) (id : Nat) (s : LabSession) :
    (d.withSession id s).engine = d.engine := rfl

theorem withSession_session (d : Deployment) {id : Nat} (h : id < d.lab.sessions.length) :
    d.withSession id (d.lab.session id) = d := by
  simp [withSession, Lab.setSession_session _ h]

theorem withSession_comm (d : Deployment) {i j : Nat} (s t : LabSession) (h : i ≠ j) :
    (d.withSession i s).withSession j t = (d.withSession j t).withSession i s := by
  simp [withSession, Lab.setSession, List.set_comm s t h]

@[simp] theorem withSession_withSession (d : Deployment) (i : Nat) (s t : LabSession) :
    (d.withSession i s).withSession i t = d.withSession i t := by
  simp [withSession]

end Deployment

namespace Deploy

/-- An action that never fails and, from a deployment whose view satisfies `P`, changes only
session `id`: what it gives and the session it leaves are a function of the view and of that
session. -/
def Local {α : Type} (P : Deployment → Prop) (id : Nat) (a : Deploy α) : Prop :=
  ∃ F : Deployment → LabSession → α × LabSession, ∀ d : Deployment, P d.view →
    id < d.lab.sessions.length →
    a.run d = .ok (F d.view (d.lab.session id)).1 (d.withSession id (F d.view (d.lab.session id)).2)

section Local

variable {P : Deployment → Prop} {id : Nat}

theorem Local.pure {α : Type} (a : α) : Local P id (Pure.pure a : Deploy α) :=
  ⟨fun _ s => (a, s), fun d _ h => by simp [Deployment.withSession_session d h]⟩

theorem Local.bind {α β : Type} {a : Deploy α} {k : α → Deploy β} (ha : Local P id a)
    (hk : ∀ x, Local P id (k x)) : Local P id (a >>= k) := by
  choose G hG using hk
  obtain ⟨F, hF⟩ := ha
  refine ⟨fun v s => G (F v s).1 v (F v s).2, fun d hP hid => ?_⟩
  have hP' : P (d.withSession id (F d.view (d.lab.session id)).2).view := by simpa using hP
  have hid' : id < (d.withSession id (F d.view (d.lab.session id)).2).lab.sessions.length := by
    simpa using hid
  rw [EStateM.run_bind, hF d hP hid]
  simp only
  rw [hG _ _ hP' hid', Deployment.lab_withSession, Lab.session_setSession_self _ _ hid]
  simp

/-- **Local actions on different sessions commute.** -/
theorem Local.swap {α β γ : Type} {i j : Nat} {a : Deploy α} {b : Deploy β}
    (ha : Local P i a) (hb : Local P j b) (hij : i ≠ j) (k : α → β → Deploy γ) (d : Deployment)
    (hP : P d.view) (hi : i < d.lab.sessions.length) (hj : j < d.lab.sessions.length) :
    (a >>= fun x => b >>= fun y => k x y).run d = (b >>= fun y => a >>= fun x => k x y).run d := by
  obtain ⟨F, hF⟩ := ha
  obtain ⟨G, hG⟩ := hb
  have hPi : P (d.withSession i (F d.view (d.lab.session i)).2).view := by simpa using hP
  have hPj : P (d.withSession j (G d.view (d.lab.session j)).2).view := by simpa using hP
  rw [EStateM.run_bind, hF d hP hi, EStateM.run_bind, hG d hP hj]
  simp only [EStateM.run_bind]
  rw [hG _ hPi (by simpa using hj), hF _ hPj (by simpa using hi), Deployment.lab_withSession,
    Deployment.lab_withSession, Lab.session_setSession_ne _ _ hij,
    Lab.session_setSession_ne _ _ hij.symm]
  simp only [Deployment.view_withSession]
  rw [Deployment.withSession_comm _ _ _ hij]

end Local

theorem attempt_bind {α β : Type} (a : Deploy α) (k : α → Deploy β) :
    attempt (a >>= k) = attempt a >>= fun r => match r with
      | .ok x => attempt (k x)
      | .error e => Pure.pure (.error e) := by
  funext d
  simp only [attempt, bind, EStateM.bind, EStateM.run]
  cases a d <;> rfl

end Deploy

namespace Task

open Deploy

variable {σ : Type} {P : Deployment → Prop} {id : Nat}

/-- Every step the task has still to take runs locally to session `id`. -/
def LocalTo (P : Deployment → Prop) (id : Nat) (t : Task σ) : Prop :=
  ∀ f ∈ t.rest, ∀ s, Local P id (attempt (f s))

theorem local_chain {fs : List (σ → Deploy σ)} (h : ∀ f ∈ fs, ∀ s, Local P id (attempt (f s)))
    (s : σ) : Local P id (attempt (chain fs s)) := by
  induction fs generalizing s with
  | nil => exact Local.pure (Except.ok s)
  | cons f fs ih =>
    rw [chain, attempt_bind]
    refine Local.bind (h f List.mem_cons_self s) fun r => ?_
    cases r with
    | ok x => exact ih (fun g hg => h g (List.mem_cons_of_mem _ hg)) x
    | error e => exact Local.pure _

theorem local_finish {t : Task σ} (h : t.LocalTo P id) : Local P id t.finish := by
  unfold finish
  cases t.held with
  | ok s => exact local_chain h s
  | error e => exact Local.pure _

theorem local_advance {t : Task σ} (h : t.LocalTo P id) : Local P id t.advance := by
  match t, h with
  | ⟨f :: fs, .ok s⟩, h =>
    exact Local.bind (h f List.mem_cons_self s) fun r => Local.pure _
  | ⟨[], _⟩, _ => exact Local.pure _
  | ⟨_ :: _, .error _⟩, _ => exact Local.pure _

theorem advance_localTo {t : Task σ} (h : t.LocalTo P id) (d : Deployment) :
    ∀ t' d', t.advance.run d = .ok t' d' → t'.LocalTo P id := by
  match t, h with
  | ⟨f :: fs, .ok s⟩, h =>
    intro t' d' ht
    simp only [advance, EStateM.run_bind] at ht
    split at ht
    · cases ht
      exact fun g hg => h g (List.mem_cons_of_mem _ hg)
    · cases ht
  | ⟨[], _⟩, h => intro t' d' ht; cases ht; exact h
  | ⟨_ :: _, .error _⟩, h => intro t' d' ht; cases ht; exact h

theorem finish_cons (f : σ → Deploy σ) (fs : List (σ → Deploy σ)) (s : σ) :
    (⟨f :: fs, .ok s⟩ : Task σ).finish =
      attempt (f s) >>= fun r => (⟨fs, r⟩ : Task σ).finish := by
  show attempt (chain (f :: fs) s) = _
  rw [chain, attempt_bind]
  -- the continuation after the step is running the rest
  congr 1

theorem advance_finish (t : Task σ) {β : Type} (k : Except Failure σ → Deploy β) :
    (t.advance >>= fun t' => t'.finish >>= k) = t.finish >>= k := by
  match t with
  | ⟨f :: fs, .ok s⟩ =>
    rw [finish_cons]
    simp only [advance, bind_assoc, pure_bind]
  | ⟨[], _⟩ => simp [advance]
  | ⟨_ :: _, .error _⟩ => simp [advance]

/-- Tasks each local to a session of its own: the `i`th task to the `i`th session. -/
structure Apart (P : Deployment → Prop) (ts : List (Task σ)) (ids : List Nat) : Prop where
  each : List.Forall₂ (fun t id => t.LocalTo P id) ts ids
  nodup : ids.Nodup

theorem forall₂_getElem? {α β : Type} {R : α → β → Prop} {l : List α} {l' : List β}
    (h : List.Forall₂ R l l') {i : Nat} {a : α} (hi : l[i]? = some a) :
    ∃ b, l'[i]? = some b ∧ R a b := by
  induction h generalizing i with
  | nil => simp at hi
  | cons hab _ ih =>
    cases i with
    | zero => simp only [List.getElem?_cons_zero, Option.some.injEq] at hi; subst hi; exact ⟨_, rfl, hab⟩
    | succ i => exact ih hi

theorem forall₂_set {α β : Type} {R : α → β → Prop} {l : List α} {l' : List β}
    (h : List.Forall₂ R l l') {i : Nat} {a : α} (ha : ∀ b, l'[i]? = some b → R a b) :
    List.Forall₂ R (l.set i a) l' := by
  induction h generalizing i with
  | nil => exact List.Forall₂.nil
  | cons hab hrest ih =>
    cases i with
    | zero => exact List.Forall₂.cons (ha _ rfl) hrest
    | succ i => exact List.Forall₂.cons hab (ih ha)

theorem advance_mapM_finish {ts : List (Task σ)} {ids : List Nat} (h : Apart P ts ids) {i : Nat}
    {t : Task σ} (hi : ts[i]? = some t) {β : Type} (k : List (Except Failure σ) → Deploy β)
    (d : Deployment) (hP : P d.view) (hin : ∀ id ∈ ids, id < d.lab.sessions.length) :
    (t.advance >>= fun t' => (ts.set i t').mapM finish >>= k).run d =
      (ts.mapM finish >>= k).run d := by
  obtain ⟨hl, hnd⟩ := h
  induction hl generalizing i k d with
  | nil => simp at hi
  | @cons t0 id0 rest ids' h0 hrest ih =>
    cases i with
    | zero =>
      simp only [List.getElem?_cons_zero, Option.some.injEq] at hi
      subst hi
      simp only [List.set_cons_zero, List.mapM_cons, bind_assoc, pure_bind]
      rw [advance_finish]
    | succ j =>
      simp only [List.getElem?_cons_succ] at hi
      obtain ⟨idj, hidj, ht⟩ := forall₂_getElem? hrest hi
      have hne : idj ≠ id0 := fun he => (List.nodup_cons.mp hnd).1 (he ▸ List.mem_of_getElem? hidj)
      have hj : idj < d.lab.sessions.length := hin idj (List.mem_cons_of_mem _ (List.mem_of_getElem? hidj))
      have h0in : id0 < d.lab.sessions.length := hin id0 List.mem_cons_self
      simp only [List.set_cons_succ, List.mapM_cons, bind_assoc, pure_bind]
      rw [Local.swap (local_advance ht) (local_finish h0) hne _ d hP hj h0in]
      obtain ⟨F, hF⟩ := local_finish h0
      rw [EStateM.run_bind, EStateM.run_bind, hF d hP h0in]
      exact ih hi _ _ (by simpa using hP)
        (fun id hid => by simpa using hin id (List.mem_cons_of_mem _ hid))
        (List.nodup_cons.mp hnd).2

/-- **The picks do not matter.**  Tasks each local to a session of its own, run together
under any picks, give what running each in turn to its end gives. -/
theorem gather_eq_inOrder (picks : List Nat) {ts : List (Task σ)} {ids : List Nat}
    (h : Apart P ts ids) (d : Deployment) (hP : P d.view)
    (hin : ∀ id ∈ ids, id < d.lab.sessions.length) :
    (gather picks ts).run d = (ts.mapM finish).run d := by
  induction picks generalizing ts d with
  | nil => rfl
  | cons i picks ih =>
    rw [gather]
    cases hi : ts[i]? with
    | none => exact ih h d hP hin
    | some t =>
      obtain ⟨id, hid, ht⟩ := forall₂_getElem? h.each hi
      obtain ⟨F, hF⟩ := local_advance ht
      have hadv := hF d hP (hin id (List.mem_of_getElem? hid))
      have hkeep : (F d.view (d.lab.session id)).1.LocalTo P id :=
        advance_localTo ht d _ _ hadv
      have hset : Apart P (ts.set i (F d.view (d.lab.session id)).1) ids :=
        ⟨forall₂_set h.each fun b hb => by rw [hid] at hb; cases hb; exact hkeep, h.nodup⟩
      simp only
      rw [EStateM.run_bind, hadv]
      simp only
      rw [ih hset _ (by simpa using hP) (fun id hid => by simpa using hin id hid)]
      have hA := advance_mapM_finish h hi Pure.pure d hP hin
      simp only [bind_pure] at hA
      rw [← hA, EStateM.run_bind, hadv]

end Task

end ClusterDeploy
