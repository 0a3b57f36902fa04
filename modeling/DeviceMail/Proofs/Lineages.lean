/-
  DeviceMail — copies go their own ways.

  A copy starts as the message that it was copied from, and so does a message
  that was moved; from then on each has only what is done to it.

  * `Moment.made?` is the message that a step makes anew, and the slot for it;
    `Moment.Resets` says that a step ends what was in a slot;
  * `get?_run_of_kept`: until then a message is changed by the changes addressed
    to it and by nothing else; `made_of_get?_run`: it was made at some step and
    then kept;
  * `Session.routedOfRun` are the notices of a run, each with the receiver that
    was last set in the life of the message through which it was given;
    `deliveries_run`: those are heard that the receiver listens to;
  * `lineages_independent` puts both together.
-/
import DeviceMail.Proofs.Moments

namespace DeviceMail

/-! ## Where messages come from -/

/-- The message that a step makes anew, with the slot into which it comes.  A
    copy, and a message that is moved, is as its source is at that moment. -/
def Moment.made? (t : Moment) : Option (String × Message) :=
  match t.step with
  | .make slot content none fresh => some (slot, .make content fresh)
  | .make slot content (some name) fresh =>
    (t.session.sources.get? name).map fun source => (slot, .make content (source.drawPair fresh).1)
  | .make? slot content fresh => content.map fun content => (slot, .make content fresh)
  | .copy slot target | .move slot target => (t.session.messages.get? slot).map (target, ·)
  | _ => none

/-- Whether a step puts another message into a slot or gives the slot up. -/
def Moment.Resets (t : Moment) (slot : String) : Prop :=
  (∃ m, t.made? = some (slot, m)) ∨ ∃ target, t.step = .move slot target

/-- The change that a step tries on the message in a slot. -/
def Step.editOf? (slot : String) : Step → Option Edit
  | .edit target e => if target = slot then some e else none
  | _ => none

/-- The changes that steps try on the message in a slot, in order. -/
def editsOf (slot : String) (steps : List Step) : List Edit := steps.filterMap (·.editOf? slot)

theorem editsOf_cons (slot : String) (a : Step) (rest : List Step) :
    editsOf slot (a :: rest) = (a.editOf? slot).toList ++ editsOf slot rest := by
  rw [editsOf, List.filterMap_cons]
  cases a.editOf? slot <;> rfl

theorem editsOf_append (slot : String) (before after : List Step) :
    editsOf slot (before ++ after) = editsOf slot before ++ editsOf slot after :=
  List.filterMap_append

/-! ## What a step does to a slot -/

namespace Moment

theorem get?_after_of_made {t : Moment} {slot : String} {m : Message}
    (h : t.made? = some (slot, m)) : t.after.messages.get? slot = some m := by
  obtain ⟨s, a⟩ := t
  cases a with
  | make target content source fresh =>
    cases source with
    | none =>
      obtain ⟨rfl, rfl⟩ := Prod.mk.inj (Option.some.inj h)
      exact Slots.get?_put_self _ _ _
    | some name =>
      obtain ⟨source, hsource, hmade⟩ := Option.map_eq_some_iff.1 h
      obtain ⟨rfl, rfl⟩ := Prod.mk.inj hmade
      rw [after, Session.step, Session.withSource_of_get? hsource]
      exact Slots.get?_put_self _ _ _
  | make? target content fresh =>
    obtain ⟨content, rfl, hmade⟩ := Option.map_eq_some_iff.1 h
    obtain ⟨rfl, rfl⟩ := Prod.mk.inj hmade
    exact Slots.get?_put_self _ _ _
  | copy source target | move source target =>
    obtain ⟨m, hm, hmade⟩ := Option.map_eq_some_iff.1 h
    obtain ⟨rfl, rfl⟩ := Prod.mk.inj hmade
    rw [after, Session.step, Session.withMessage_of_get? hm]
    exact Slots.get?_put_self _ _ _
  | _ => cases h

/-- A message that was moved is no longer where it was, unless it was moved
    there. -/
theorem get?_after_of_move {s : Session} {slot target : String}
    (h : ∀ m, made? ⟨s, .move slot target⟩ ≠ some (slot, m)) :
    (after ⟨s, .move slot target⟩).messages.get? slot = none := by
  rcases hm : s.messages.get? slot with _ | m
  · rw [after, Session.step, Session.withMessage_of_none hm]
    exact hm
  · have hne : slot ≠ target := by
      rintro rfl
      exact h m (by simp only [made?, hm, Option.map_some])
    rw [after, Session.step, Session.withMessage_of_get? hm]
    simp only [Session.store, Slots.get?_put, if_neg hne, Slots.get?_remove, if_pos]

/-- A step that neither makes a message for a slot, nor gives it up, nor tries a
    change on it, leaves it alone. -/
theorem get?_after_of_unaddressed {t : Moment} {slot : String} (h : ¬ t.Resets slot)
    (hedit : ∀ e, t.step ≠ .edit slot e) :
    t.after.messages.get? slot = t.session.messages.get? slot := by
  have hput {target : String} {m : Message} (hmade : t.made? = some (target, m))
      (messages : Slots Message) : (messages.put target m).get? slot = messages.get? slot := by
    refine Slots.get?_put_of_ne _ ?_ _
    rintro rfl
    exact h (.inl ⟨m, hmade⟩)
  obtain ⟨s, a⟩ := t
  cases a with
  | addSource name source => rfl
  | drawId name fresh =>
    exact congrArg (·.messages.get? slot) (s.step_eq_touched _)
  | make target content source fresh =>
    cases source with
    | none => exact hput rfl _
    | some name =>
      rw [after, Session.step]
      rcases hsource : s.sources.get? name with _ | source
      · rw [Session.withSource_of_none hsource]
        rfl
      · have hmade : made? ⟨s, .make target content (some name) fresh⟩ =
            some (target, .make content (source.drawPair fresh).1) := by
          simp only [made?, hsource, Option.map_some]
        rw [Session.withSource_of_get? hsource]
        exact hput hmade _
  | make? target content fresh =>
    cases content with
    | none => rfl
    | some content => exact hput rfl _
  | copy source target =>
    rw [after, Session.step]
    rcases hm : s.messages.get? source with _ | m
    · rw [Session.withMessage_of_none hm]
      rfl
    · rw [Session.withMessage_of_get? hm]
      exact hput (by simp only [made?, hm, Option.map_some]) _
  | move source target =>
    have hne : slot ≠ source := by
      rintro rfl
      exact h (.inr ⟨target, rfl⟩)
    rw [after, Session.step]
    rcases hm : s.messages.get? source with _ | m
    · rw [Session.withMessage_of_none hm]
      rfl
    · rw [Session.withMessage_of_get? hm]
      have hremoved := Slots.get?_remove s.messages source slot
      rw [if_neg hne] at hremoved
      exact (hput (by simp only [made?, hm, Option.map_some]) _).trans hremoved
  | edit target e =>
    have hne : slot ≠ target := by
      rintro rfl
      exact hedit e rfl
    rw [after, Session.step]
    rcases hm : s.messages.get? target with _ | m
    · rw [Session.withMessage_of_none hm]
      rfl
    · rw [Session.withMessage_of_get? hm]
      simp only [Message.value_edit]
      cases e.fault? with
      | none => exact Slots.get?_put_of_ne _ hne _
      | some fault => rfl
  | ask target query => exact congrArg (·.messages.get? slot) (s.step_eq_touched _)
  | look target => exact congrArg (·.messages.get? slot) (s.step_eq_touched _)
  | notify source about hook error => exact congrArg (·.messages.get? slot) (s.step_eq_touched _)

theorem get?_after_of_edit (s : Session) (slot : String) (e : Edit) :
    (after ⟨s, .edit slot e⟩).messages.get? slot = (s.messages.get? slot).map (·.tryEdit e) := by
  rw [after, Session.step]
  rcases hm : s.messages.get? slot with _ | m
  · rw [Session.withMessage_of_none hm]
    exact hm
  · rw [Session.withMessage_of_get? hm, Option.map_some]
    simp only [Message.value_edit]
    rcases hfault : e.fault? with _ | fault
    · exact Slots.get?_put_self _ _ _
    · rw [Message.tryEdit_of_fault hfault]
      exact hm

/-- **What is kept in a slot has the change tried on it that is addressed to it**,
    and nothing else happens to it. -/
theorem get?_after_of_kept {t : Moment} {slot : String} (h : ¬ t.Resets slot) :
    t.after.messages.get? slot =
      (t.session.messages.get? slot).map (·.tryAll (t.step.editOf? slot).toList) := by
  obtain ⟨s, a⟩ := t
  by_cases hedit : ∃ e, a = .edit slot e
  · obtain ⟨e, rfl⟩ := hedit
    rw [get?_after_of_edit, Step.editOf?, if_pos rfl]
    rfl
  · have hnone : a.editOf? slot = none := by
      cases a with
      | edit target e =>
        refine if_neg ?_
        rintro rfl
        exact hedit ⟨e, rfl⟩
      | _ => rfl
    rw [get?_after_of_unaddressed h fun e ha => hedit ⟨e, ha⟩, hnone]
    exact Option.map_id'.symm

end Moment

/-! ## What a run does to a slot -/

namespace Session

/-- **A message that is kept in its slot is changed by what is addressed to it**
    and by nothing else. -/
theorem get?_run_of_kept {s : Session} {slot : String} {steps : List Step}
    (h : ∀ t ∈ s.moments steps, ¬ t.Resets slot) :
    (s.run steps).1.messages.get? slot =
      (s.messages.get? slot).map (·.tryAll (editsOf slot steps)) := by
  induction steps generalizing s with
  | nil => exact Option.map_id'.symm
  | cons a rest ih =>
    obtain ⟨hfirst, hrest⟩ := List.forall_mem_cons.1 h
    have hone : (s.step a).1.messages.get? slot =
        (s.messages.get? slot).map (·.tryAll (a.editOf? slot).toList) :=
      Moment.get?_after_of_kept hfirst
    rw [run_cons, ih hrest, hone, Option.map_map, editsOf_cons]
    congr 1
    funext m
    exact (m.tryAll_append _ _).symm

/-- A message in a slot was made at some step, and kept from then on. -/
theorem made_of_get?_run {slot : String} {m : Message} {steps : List Step}
    (h : (run {} steps).1.messages.get? slot = some m) :
    ∃ before a after made, steps = before ++ a :: after ∧
      (Moment.mk (run {} before).1 a).made? = some (slot, made) ∧
      (∀ t ∈ (run {} (before ++ [a])).1.moments after, ¬ t.Resets slot) ∧
      m = made.tryAll (editsOf slot after) := by
  induction steps using List.reverseRecOn generalizing m with
  | nil => cases h
  | append_singleton init a ih =>
    rw [run_snoc] at h
    -- the last step made the message, or gave the slot up, or kept what was there
    by_cases hmade : ∃ made, (Moment.mk (run {} init).1 a).made? = some (slot, made)
    · obtain ⟨made, hmade⟩ := hmade
      obtain rfl : made = m := Option.some.inj ((Moment.get?_after_of_made hmade).symm.trans h)
      exact ⟨init, a, [], made, rfl, hmade, by rintro t ⟨⟩, rfl⟩
    · by_cases hmove : ∃ target, a = .move slot target
      · obtain ⟨target, rfl⟩ := hmove
        have hnone := Moment.get?_after_of_move fun made hm => hmade ⟨made, hm⟩
        cases hnone.symm.trans h
      · have hkept : ¬ (Moment.mk (run {} init).1 a).Resets slot := not_or.2 ⟨hmade, hmove⟩
        obtain ⟨held, hheld, rfl⟩ :=
          Option.map_eq_some_iff.1 ((Moment.get?_after_of_kept hkept).symm.trans h)
        obtain ⟨before, first, after, made, rfl, hmade, hrest, rfl⟩ := ih hheld
        refine ⟨before, first, after ++ [a], made, by simp, hmade, fun t ht => ?_, ?_⟩
        · rw [moments_append, List.mem_append] at ht
          rcases ht with ht | ht
          · exact hrest t ht
          · obtain rfl := List.mem_singleton.1 ht
            have hsession : ((run {} (before ++ [first])).1.run after).1 =
                (run {} (before ++ first :: after)).1 := by
              rw [List.append_cons before first after, run_append {} (before ++ [first])]
            rw [hsession]
            exact hkept
        · have hlast : editsOf slot [a] = (a.editOf? slot).toList := by
            rw [editsOf_cons]
            exact List.append_nil _
          rw [editsOf_append, Message.tryAll_append, hlast]

theorem get?_run_of_copied {s : Session} {slot target : String} {m : Message}
    (hm : s.messages.get? slot = some m) (hne : slot ≠ target) {steps : List Step}
    (h : ∀ t ∈ (s.step (.copy slot target)).1.moments steps, ¬ t.Resets slot ∧ ¬ t.Resets target) :
    (s.run (.copy slot target :: steps)).1.messages.get? slot =
        some (m.tryAll (editsOf slot steps)) ∧
      (s.run (.copy slot target :: steps)).1.messages.get? target =
        some (m.tryAll (editsOf target steps)) := by
  have hstep : s.step (.copy slot target) = s.store target m := by
    rw [step, withMessage_of_get? hm]
  have hslot : (s.step (.copy slot target)).1.messages.get? slot = some m := by
    rw [hstep]
    exact (Slots.get?_put_of_ne _ hne _).trans hm
  have htarget : (s.step (.copy slot target)).1.messages.get? target = some m := by
    rw [hstep]
    exact Slots.get?_put_self _ _ _
  rw [run_cons]
  constructor
  · rw [get?_run_of_kept fun t ht => (h t ht).1, hslot, Option.map_some]
  · rw [get?_run_of_kept fun t ht => (h t ht).2, htarget, Option.map_some]

end Session

/-! ## Where notices go -/

/-- A notice on its way to a receiver. -/
structure Routed where
  receiver : Receiver
  notice : Notice

namespace Session

/-- The notice that a step gives.  It goes to the receiver that was last set in
    the life of the message, with the context that was last set there, and tells
    the identifiers of the message that it is about. -/
def routed? (s : Session) (lives : Slots Life) : Step → Option Routed
  | .notify slot about hook error => do
    let life ← lives.get? slot
    let other ← s.messages.get? about
    let receiver ← life.last (·.receiver)
    return ⟨receiver, ⟨hook, other.messageId, other.correlationId, life.last (·.context),
      if hook.reportsError then error else none⟩⟩
  | _ => none

/-- The notices that steps give, in order. -/
def routedOfRun (s : Session) (lives : Slots Life) : List Step → List Routed
  | [] => []
  | a :: rest =>
    (s.routed? lives a).toList ++ routedOfRun (s.step a).1 (s.livesAfter lives a) rest

/-- What receivers hear of notices: those on the hooks that they listen to. -/
def heardOf (routed : List Routed) : List Delivery :=
  (routed.filter fun r => r.notice.hook ∈ r.receiver.hooks).map fun r =>
    ⟨r.receiver.id, r.notice⟩

theorem heardOf_append (a b : List Routed) : heardOf (a ++ b) = heardOf a ++ heardOf b := by
  rw [heardOf, List.filter_append, List.map_append]
  rfl

theorem hear_eq_heardOf (receiver : Receiver) (notice : Notice) :
    receiver.hear notice = heardOf [⟨receiver, notice⟩] := by
  rw [Receiver.hear, heardOf, List.filter_singleton]
  split_ifs with hmem
  · rw [decide_eq_true hmem]
    rfl
  · rw [decide_eq_false hmem]
    rfl

/-- **A step delivers its notice**, if the receiver listens to it. -/
theorem deliveries_step {s : Session} {lives : Slots Life} (h : Accounts lives s.messages)
    (a : Step) : (s.step a).1.deliveries = s.deliveries ++ heardOf (s.routed? lives a).toList := by
  cases a with
  | notify slot about hook error =>
    rw [step]
    rcases hlife : lives.get? slot with _ | life
    · rw [withMessage_of_none (by rw [h slot, hlife]; rfl)]
      simp [routed?, hlife, refuse, heardOf]
    · rw [withMessage_of_get? (by rw [h slot, hlife]; rfl)]
      rcases hother : s.messages.get? about with _ | other
      · rw [withMessage_of_none hother]
        simp [routed?, hlife, hother, refuse, heardOf]
      · rw [withMessage_of_get? hother]
        have hreceiver : life.message.receiver = life.last (·.receiver) :=
          congrArg (·.receiver) life.message_eq_lastWritten
        have hcontext : life.message.context = life.last (·.context) :=
          congrArg (·.context) life.message_eq_lastWritten
        rcases hlast : life.last (·.receiver) with _ | receiver
        · simp [routed?, hlife, hother, hlast, hreceiver, heardOf]
        · simp [routed?, hlife, hother, hlast, hreceiver, hear_eq_heardOf, Message.notice, hcontext]
  | make slot content source fresh =>
    rw [step_eq_touched]
    cases source <;> exact (List.append_nil _).symm
  | _ =>
    rw [step_eq_touched]
    exact (List.append_nil _).symm

/-- **A run delivers its notices in order**, each to the receiver that was last
    set, if that listens to it. -/
theorem deliveries_run {s : Session} {lives : Slots Life} (h : Accounts lives s.messages)
    (steps : List Step) :
    (s.run steps).1.deliveries = s.deliveries ++ heardOf (s.routedOfRun lives steps) := by
  induction steps generalizing s lives with
  | nil => exact (List.append_nil _).symm
  | cons a rest ih =>
    rw [run_cons, ih (accounts_step h a), deliveries_step h, routedOfRun, heardOf_append,
      List.append_assoc]

/-- A copy keeps the receiver, but a context that it is given later is its own. -/
example :
    let steps : List Step :=
      [.make "a" .absent none ⟨"m", "c"⟩, .edit "a" (.receiver ⟨1, [.requestSent]⟩),
        .edit "a" (.context (.text "x")), .copy "a" "b", .edit "b" (.context (.text "y")),
        .notify "a" "b" .requestSent none, .notify "b" "a" .requestQueued none,
        .notify "b" "a" .requestSent none]
    (run {} steps).1.deliveries =
      [⟨1, ⟨.requestSent, "m", "c", some (.text "x"), none⟩⟩,
        ⟨1, ⟨.requestSent, "m", "c", some (.text "y"), none⟩⟩] := rfl

/-- What a receiver hears, if no other that is notified bears its id. -/
theorem filter_heardOf {receiver : Receiver} {routed : List Routed}
    (h : ∀ r ∈ routed, r.receiver.id = receiver.id → r.receiver = receiver) :
    ((heardOf routed).filter (·.receiver = receiver.id)).map (·.notice) =
      (routed.filter fun r => r.receiver = receiver ∧ r.notice.hook ∈ receiver.hooks).map
        (·.notice) := by
  rw [heardOf, List.filter_map, List.filter_filter, List.map_map]
  congr 1
  refine List.filter_congr fun r hr => ?_
  by_cases hid : r.receiver.id = receiver.id
  · obtain rfl := h r hr hid
    simp
  · have hne : r.receiver ≠ receiver := fun he => hid (congrArg Receiver.id he)
    simp [hid, hne]

/-- **Copies go their own ways, and only their receivers are shared.**  A message
    in a slot was made at some step, or copied or moved there as it was at that
    moment, and has since then had all changes tried on it that were addressed to
    it, in order, and nothing else.  So neither a message nor its copy shows what
    is done to the other.  Notices change no message.  Each goes to the receiver
    that was last set in the life of the message through which it is given, with
    the context that was last set there and the identifiers that the message
    which it is about has at that moment; and a receiver hears, in order, all
    notices that go to it on the hooks that it listens to, and no others. -/
theorem lineages_independent (steps : List Step) :
    (∀ slot m, (run {} steps).1.messages.get? slot = some m ↔
      ∃ before a after made, steps = before ++ a :: after ∧
        (Moment.mk (run {} before).1 a).made? = some (slot, made) ∧
        (∀ t ∈ (run {} (before ++ [a])).1.moments after, ¬ t.Resets slot) ∧
        m = made.tryAll (editsOf slot after)) ∧
    (∀ (s : Session) slot target m rest, s.messages.get? slot = some m → slot ≠ target →
      (∀ t ∈ (s.step (.copy slot target)).1.moments rest,
        ¬ t.Resets slot ∧ ¬ t.Resets target) →
      (s.run (.copy slot target :: rest)).1.messages.get? slot =
          some (m.tryAll (editsOf slot rest)) ∧
        (s.run (.copy slot target :: rest)).1.messages.get? target =
          some (m.tryAll (editsOf target rest))) ∧
    (∀ (s : Session) slot about hook error,
      (s.step (.notify slot about hook error)).1.messages = s.messages) ∧
    (run {} steps).1.deliveries = heardOf (routedOfRun {} .empty steps) ∧
    ∀ receiver : Receiver,
      (∀ r ∈ routedOfRun {} .empty steps, r.receiver.id = receiver.id → r.receiver = receiver) →
      ((run {} steps).1.deliveries.filter (·.receiver = receiver.id)).map (·.notice) =
        ((routedOfRun {} .empty steps).filter fun r =>
          r.receiver = receiver ∧ r.notice.hook ∈ receiver.hooks).map (·.notice) := by
  have hnone : Accounts .empty ({} : Session).messages := fun _ => rfl
  have hdeliveries : (run {} steps).1.deliveries = heardOf (routedOfRun {} .empty steps) :=
    deliveries_run hnone steps
  refine ⟨fun slot m => ⟨made_of_get?_run, ?_⟩,
    fun s slot target m rest hm hne hkept => get?_run_of_copied hm hne hkept,
    fun s slot about hook error => congrArg (·.messages) (s.step_eq_touched _), hdeliveries,
    fun receiver h => ?_⟩
  · rintro ⟨before, a, after, made, rfl, hmade, hkept, rfl⟩
    rw [List.append_cons, run_append, get?_run_of_kept hkept, run_snoc]
    exact congrArg (Option.map _) (Moment.get?_after_of_made hmade)
  · rw [hdeliveries, filter_heardOf h]

end Session

end DeviceMail
