/-
  DeviceMail — the moments of a run.

  What a step adds to the log, to the notices heard or to the identifiers handed
  out depends on the session in which it is taken.

  * `Moment` is a step together with that session, and `Session.moments` lists
    the moments of a run;
  * `run_append` and `moments_append`: a run may be cut in two anywhere;
  * `answers_run`: the answers of a run are those of its moments;
  * `step_eq_touched`: the parts of a session that a step cannot touch are left
    as they were;
  * `appended_of_run`: a list to which each step appends has grown, after a run,
    by what all its moments append.
-/
import DeviceMail.Proofs.Erasure

namespace DeviceMail

/-- A step and the session in which it is taken. -/
structure Moment where
  session : Session
  step : Step

namespace Moment

/-- The session that the step leads to. -/
def after (t : Moment) : Session := (t.session.step t.step).1

/-- What is answered to the step. -/
def answer (t : Moment) : Except Refusal Answer := (t.session.step t.step).2

end Moment

namespace Session

/-- The moments of a run, in order. -/
def moments (s : Session) : List Step → List Moment
  | [] => []
  | a :: rest => ⟨s, a⟩ :: moments (s.step a).1 rest

theorem moments_cons (s : Session) (a : Step) (rest : List Step) :
    s.moments (a :: rest) = ⟨s, a⟩ :: (s.step a).1.moments rest := rfl

theorem run_append (s : Session) (before after : List Step) :
    s.run (before ++ after) =
      (((s.run before).1.run after).1, (s.run before).2 ++ ((s.run before).1.run after).2) := by
  induction before generalizing s with
  | nil => rfl
  | cons a rest ih => rw [List.cons_append, run_cons, ih, run_cons, List.cons_append]

theorem run_snoc (s : Session) (before : List Step) (a : Step) :
    (s.run (before ++ [a])).1 = ((s.run before).1.step a).1 := by
  rw [run_append]
  rfl

theorem moments_append (s : Session) (before after : List Step) :
    s.moments (before ++ after) = s.moments before ++ (s.run before).1.moments after := by
  induction before generalizing s with
  | nil => rfl
  | cons a rest ih =>
    rw [List.cons_append, moments_cons, ih, moments_cons, List.cons_append]
    rfl

/-- **The answers of a run are those of its moments.** -/
theorem answers_run (s : Session) (steps : List Step) :
    (s.run steps).2 = (s.moments steps).map Moment.answer := by
  induction steps generalizing s with
  | nil => rfl
  | cons a rest ih =>
    rw [run_cons, moments_cons, List.map_cons, ih]
    rfl

/-! ## What steps leave behind -/

/-- The session `s` with those parts that a step may touch as they are in
    `after`. -/
def touched (s after : Session) : Step → Session
  | .addSource .. | .drawId .. => { s with sources := after.sources }
  | .make _ _ none _ | .make? .. | .copy .. | .move .. => { s with messages := after.messages }
  | .make _ _ (some _) _ => { s with messages := after.messages, sources := after.sources }
  | .edit .. => { s with messages := after.messages, journal := after.journal }
  | .ask .. => { s with journal := after.journal }
  | .look .. => s
  | .notify .. => { s with deliveries := after.deliveries }

theorem touched_self (s : Session) (a : Step) : s.touched s a = s := by
  cases a with
  | make slot content source fresh => cases source <;> rfl
  | _ => rfl

/-- **A step leaves everything else alone.** -/
theorem step_eq_touched (s : Session) (a : Step) : (s.step a).1 = s.touched (s.step a).1 a := by
  have hmessage {a : Step} {slot : String} {go : Message → Session × Except Refusal Answer}
      (h : ∀ m, (go m).1 = s.touched (go m).1 a) :
      (s.withMessage slot go).1 = s.touched (s.withMessage slot go).1 a :=
    withMessage_ind (P := fun outcome => outcome.1 = s.touched outcome.1 a)
      (fun _ => (s.touched_self a).symm) h
  have hsource {a : Step} {name : String} {go : IdSource → Session × Except Refusal Answer}
      (h : ∀ source, (go source).1 = s.touched (go source).1 a) :
      (s.withSource name go).1 = s.touched (s.withSource name go).1 a :=
    withSource_ind (P := fun outcome => outcome.1 = s.touched outcome.1 a)
      (fun _ => (s.touched_self a).symm) h
  cases a with
  | addSource name source => rfl
  | drawId name fresh => exact hsource fun _ => rfl
  | make slot content source fresh =>
    cases source with
    | none => rfl
    | some name => exact hsource fun _ => rfl
  | make? slot content fresh => cases content <;> rfl
  | copy slot target => exact hmessage fun _ => rfl
  | move slot target => exact hmessage fun _ => rfl
  | edit slot e =>
    refine hmessage fun m => ?_
    simp only [Message.value_edit]
    cases e.fault? <;> rfl
  | ask slot query => exact hmessage fun _ => rfl
  | look slot => exact hmessage fun _ => rfl
  | notify slot about hook error =>
    refine hmessage fun m => hmessage fun other => ?_
    cases m.receiver <;> rfl

/-- **A list to which each step appends** has grown after a run by what all its
    moments append. -/
theorem appended_of_run {α : Type} (written : Session → List α) {added : Moment → List α}
    (hstep : ∀ t : Moment, written t.after = written t.session ++ added t) (s : Session)
    (steps : List Step) :
    written (s.run steps).1 = written s ++ (s.moments steps).flatMap added := by
  induction steps generalizing s with
  | nil => exact (List.append_nil _).symm
  | cons a rest ih =>
    have hfirst : written (s.step a).1 = written s ++ added ⟨s, a⟩ := hstep ⟨s, a⟩
    rw [run_cons, ih, hfirst, moments_cons, List.flatMap_cons, List.append_assoc]

end Session

end DeviceMail
