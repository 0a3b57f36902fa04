/-
  DeviceMail — steps that were refused leave no trace.

  * `withMessage_ind` and `withSource_ind`: a step with a message or a source is
    refused, or goes on with it;
  * `Session.Atomic` says of the outcome of a step that it is the session as it
    was if the step was refused; `atomic_step`: this holds of every step;
  * `run_kept`: so a run without the steps that were refused comes to the same
    session, and answers the other steps in the same way;
  * `Step.Faulty` lists the steps that ask for what cannot be;
    `refused_iff_faulty`: where the messages and sources that a step names
    exist, no other step is refused;
  * `refused_steps_erasable` puts all of this together.
-/
import DeviceMail.Proofs.Lives

namespace DeviceMail

/-- The steps with an argument that is missing, or with an expiry below zero. -/
inductive Step.Faulty : Step → Prop where
  | bodyAbsent (slot : String) (fresh : IdPair) : Faulty (.make? slot none fresh)
  | nameAbsent (slot : String) (value : Option String) :
      Faulty (.edit slot (.property? none value))
  | valueAbsent (slot : String) (name : Option String) :
      Faulty (.edit slot (.property? name none))
  | negativeExpiry (slot : String) {time : Int64} (h : time < 0) :
      Faulty (.edit slot (.expireAt time))

theorem Step.faulty_edit_iff {slot : String} {e : Edit} :
    (Step.edit slot e).Faulty ↔ e.fault?.isSome := by
  constructor
  · intro h
    cases h with
    | nameAbsent => rfl
    | valueAbsent _ name => cases name <;> rfl
    | negativeExpiry _ h => simp [Edit.fault?, h]
  · intro h
    cases e with
    | property? name value =>
      cases name with
      | none => exact .nameAbsent slot value
      | some name =>
        cases value with
        | none => exact .valueAbsent slot name
        | some value => simp [Edit.fault?] at h
    | expireAt time =>
      by_cases ht : time < 0
      · exact .negativeExpiry slot ht
      · simp [Edit.fault?, ht] at h
    | _ => simp [Edit.fault?] at h

theorem Step.faulty_make?_iff {slot : String} {content : Option Content} {fresh : IdPair} :
    (Step.make? slot content fresh).Faulty ↔ content = none := by
  constructor
  · rintro ⟨⟩
    rfl
  · rintro rfl
    exact .bodyAbsent slot fresh

/-- A change that is refused logs nothing. -/
theorem Message.records_edit_of_error {m : Message} {e : Edit} {fault : MessageFault}
    (h : (m.edit e).value = .error fault) : (m.edit e).records = [] := by
  rw [value_edit] at h
  rw [records_edit]
  cases e with
  | expireAfter now timeout => cases h
  | _ => rfl

namespace Session

/-- What a step with the source under a name comes to. -/
theorem withSource_of_get? {s : Session} {name : String} {source : IdSource}
    (h : s.sources.get? name = some source) (go : IdSource → Session × Except Refusal Answer) :
    s.withSource name go = go source := by
  simp [withSource, h]

theorem withSource_of_none {s : Session} {name : String} (h : s.sources.get? name = none)
    (go : IdSource → Session × Except Refusal Answer) :
    s.withSource name go = s.refuse (.noSuchSource name) := by
  simp [withSource, h]

theorem withMessage_ind {P : Session × Except Refusal Answer → Prop} {s : Session} {slot : String}
    {go : Message → Session × Except Refusal Answer} (hrefuse : ∀ refusal, P (s.refuse refusal))
    (hgo : ∀ m, P (go m)) : P (s.withMessage slot go) := by
  rcases hm : s.messages.get? slot with _ | m
  · rw [withMessage_of_none hm]
    exact hrefuse _
  · rw [withMessage_of_get? hm]
    exact hgo m

theorem withSource_ind {P : Session × Except Refusal Answer → Prop} {s : Session} {name : String}
    {go : IdSource → Session × Except Refusal Answer} (hrefuse : ∀ refusal, P (s.refuse refusal))
    (hgo : ∀ source, P (go source)) : P (s.withSource name go) := by
  rcases hs : s.sources.get? name with _ | source
  · rw [withSource_of_none hs]
    exact hrefuse _
  · rw [withSource_of_get? hs]
    exact hgo source

/-! ## Refused steps change nothing -/

/-- An outcome of a step in the session `s`: if the step was refused, the session
    is as it was. -/
def Atomic (s : Session) (outcome : Session × Except Refusal Answer) : Prop :=
  ∀ refusal, outcome.2 = .error refusal → outcome.1 = s

section
variable (s : Session)

theorem atomic_refuse (refusal : Refusal) : s.Atomic (s.refuse refusal) := fun _ _ => rfl

theorem atomic_ok (after : Session) (answer : Answer) : s.Atomic (after, .ok answer) := by
  rintro refusal ⟨⟩

theorem atomic_withMessage (slot : String) {go : Message → Session × Except Refusal Answer}
    (h : ∀ m, s.Atomic (go m)) : s.Atomic (s.withMessage slot go) :=
  withMessage_ind s.atomic_refuse h

theorem atomic_withSource (name : String) {go : IdSource → Session × Except Refusal Answer}
    (h : ∀ source, s.Atomic (go source)) : s.Atomic (s.withSource name go) :=
  withSource_ind s.atomic_refuse h

/-- **A step that is refused changes nothing**: no message, no source, no record
    and no notice. -/
theorem atomic_step (a : Step) : s.Atomic (s.step a) := by
  cases a with
  | addSource name source => exact s.atomic_ok _ _
  | drawId name fresh => exact s.atomic_withSource name fun _ => s.atomic_ok _ _
  | make slot content source fresh =>
    cases source with
    | none => exact s.atomic_ok _ _
    | some name => exact s.atomic_withSource name fun _ => s.atomic_ok _ _
  | make? slot content fresh =>
    cases content with
    | none => exact s.atomic_refuse _
    | some content => exact s.atomic_ok _ _
  | copy slot target => exact s.atomic_withMessage slot fun _ => s.atomic_ok _ _
  | move slot target => exact s.atomic_withMessage slot fun _ => s.atomic_ok _ _
  | edit slot e =>
    refine s.atomic_withMessage slot fun m => ?_
    simp only [Message.value_edit]
    cases e.fault? with
    | none => exact s.atomic_ok _ _
    | some fault => exact s.atomic_refuse _
  | ask slot query => exact s.atomic_withMessage slot fun _ => s.atomic_ok _ _
  | look slot => exact s.atomic_withMessage slot fun _ => s.atomic_ok _ _
  | notify slot about hook error =>
    refine s.atomic_withMessage slot fun m => s.atomic_withMessage about fun other => ?_
    cases m.receiver with
    | none => exact s.atomic_ok _ _
    | some receiver => exact s.atomic_ok _ _

end

/-! ## Runs without the refused steps -/

@[simp] theorem run_nil (s : Session) : s.run [] = (s, []) := rfl

theorem run_cons (s : Session) (a : Step) (rest : List Step) :
    s.run (a :: rest) =
      (((s.step a).1.run rest).1, (s.step a).2 :: ((s.step a).1.run rest).2) := rfl

/-- Every step is answered. -/
theorem length_answers (s : Session) (steps : List Step) :
    (s.run steps).2.length = steps.length := by
  induction steps generalizing s with
  | nil => rfl
  | cons a rest ih => rw [run_cons, List.length_cons, List.length_cons, ih]

/-- The steps of a run that were not refused, with the answers to them. -/
def kept (s : Session) (steps : List Step) : List (Step × Except Refusal Answer) :=
  (steps.zip (s.run steps).2).filter (·.2.isOk)

/-- **A run without the refused steps comes to the same**, and answers the steps
    that are left as they were answered before. -/
theorem run_kept (s : Session) (steps : List Step) :
    s.run ((s.kept steps).map (·.1)) = ((s.run steps).1, (s.kept steps).map (·.2)) := by
  induction steps generalizing s with
  | nil => rfl
  | cons a rest ih =>
    have ih := ih (s.step a).1
    simp only [kept] at ih ⊢
    rw [run_cons, List.zip_cons_cons, List.filter_cons]
    rcases h : (s.step a).2 with refusal | answer
    · -- without the step, the rest starts from the same session
      have hs : (s.step a).1 = s := s.atomic_step a refusal h
      rw [hs] at ih ⊢
      exact ih
    · have hok : (Except.ok answer : Except Refusal Answer).isOk = true := rfl
      rw [if_pos hok, List.map_cons, run_cons, ih, h, List.map_cons]

/-! ## Which steps are refused -/

/-- The messages and sources that a step names exist. -/
def Finds (s : Session) : Step → Prop
  | .drawId name _ | .make _ _ (some name) _ => (s.sources.get? name).isSome
  | .copy slot _ | .move slot _ | .edit slot _ | .ask slot _ | .look slot =>
    (s.messages.get? slot).isSome
  | .notify slot about _ _ => (s.messages.get? slot).isSome ∧ (s.messages.get? about).isSome
  | .addSource .. | .make _ _ none _ | .make? .. => True

/-- An outcome of a step that was refused. -/
def Refused (outcome : Session × Except Refusal Answer) : Prop :=
  ∃ refusal, outcome.2 = .error refusal

theorem not_refused_ok (after : Session) (answer : Answer) : ¬ Refused (after, .ok answer) := by
  rintro ⟨_, ⟨⟩⟩

theorem not_refused_withMessage {s : Session} {slot : String}
    {go : Message → Session × Except Refusal Answer} (hslot : (s.messages.get? slot).isSome)
    (hgo : ∀ m, ¬ Refused (go m)) : ¬ Refused (s.withMessage slot go) := by
  obtain ⟨m, hm⟩ := Option.isSome_iff_exists.1 hslot
  rw [withMessage_of_get? hm]
  exact hgo m

theorem not_refused_withSource {s : Session} {name : String}
    {go : IdSource → Session × Except Refusal Answer} (hname : (s.sources.get? name).isSome)
    (hgo : ∀ source, ¬ Refused (go source)) : ¬ Refused (s.withSource name go) := by
  obtain ⟨source, hs⟩ := Option.isSome_iff_exists.1 hname
  rw [withSource_of_get? hs]
  exact hgo source

/-- **Where its messages and sources exist, a step is refused if it is faulty,
    and only then.** -/
theorem refused_iff_faulty {s : Session} {a : Step} (h : s.Finds a) :
    Refused (s.step a) ↔ a.Faulty := by
  cases a with
  | addSource name source => exact iff_of_false (not_refused_ok _ _) (by rintro ⟨⟩)
  | drawId name fresh =>
    refine iff_of_false ?_ (by rintro ⟨⟩)
    exact not_refused_withSource h fun _ => not_refused_ok _ _
  | make slot content source fresh =>
    cases source with
    | none => exact iff_of_false (not_refused_ok _ _) (by rintro ⟨⟩)
    | some name =>
      refine iff_of_false ?_ (by rintro ⟨⟩)
      exact not_refused_withSource h fun _ => not_refused_ok _ _
  | make? slot content fresh =>
    rw [Step.faulty_make?_iff]
    cases content with
    | none => exact iff_of_true ⟨_, rfl⟩ rfl
    | some content => exact iff_of_false (not_refused_ok _ _) (Option.some_ne_none content)
  | edit slot e =>
    obtain ⟨m, hm⟩ := Option.isSome_iff_exists.1 h
    rw [step, withMessage_of_get? hm, Step.faulty_edit_iff]
    simp only [Message.value_edit]
    cases e.fault? with
    | none => exact iff_of_false (not_refused_ok _ _) (by rintro ⟨⟩)
    | some fault => exact iff_of_true ⟨_, rfl⟩ rfl
  | copy slot target | move slot target | ask slot query | look slot =>
    refine iff_of_false ?_ (by rintro ⟨⟩)
    exact not_refused_withMessage h fun _ => not_refused_ok _ _
  | notify slot about hook error =>
    refine iff_of_false ?_ (by rintro ⟨⟩)
    refine not_refused_withMessage h.1 fun m => not_refused_withMessage h.2 fun _ => ?_
    cases m.receiver with
    | none => exact not_refused_ok _ _
    | some receiver => exact not_refused_ok _ _

/-- **Refused steps can be erased from a run.**  What is left of the run comes to
    the same session, with the same messages, sources, records and notices, and
    each step in it is answered as before.  Of the steps whose messages and
    sources exist, those are refused that are faulty.  A property whose name and
    value are there is set like any other, and a content that is there makes a
    message like any other. -/
theorem refused_steps_erasable (s : Session) (steps : List Step) :
    (s.run steps).2.length = steps.length ∧
    s.run ((s.kept steps).map (·.1)) = ((s.run steps).1, (s.kept steps).map (·.2)) ∧
    (∀ (m : Message) e fault, (m.edit e).value = .error fault → (m.edit e).records = []) ∧
    (∀ a, s.Finds a → ((∃ refusal, (s.step a).2 = .error refusal) ↔ a.Faulty)) ∧
    (∀ slot name value, s.step (.edit slot (.property? (some name) (some value))) =
      s.step (.edit slot (.property name value))) ∧
    ∀ slot content fresh, s.step (.make? slot (some content) fresh) =
      s.step (.make slot content none fresh) := by
  refine ⟨length_answers s steps, run_kept s steps, fun m e fault h => ?_,
    fun a => refused_iff_faulty, fun slot name value => rfl, fun slot content fresh => rfl⟩
  exact Message.records_edit_of_error h

end Session

end DeviceMail
