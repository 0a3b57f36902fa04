/-
  DeviceMail — which changes are refused, and what changes log.

  Neither depends on the message that is changed.

  * `Edit.fault?` is why a change is refused, `Edit.timeout?` the timeout that it
    logs; `value_edit` and `records_edit` say that there is nothing else;
  * `value_editAll`: changes made in order end at the first that is refused, and
    else do what trying them does;
  * `records_editAll_append` and `records_editAll_of_silent`: what they log.
-/
import DeviceMail.Proofs.Writes

namespace DeviceMail

/-! ## One change -/

/-- Why a change is refused, if it is. -/
def Edit.fault? : Edit → Option MessageFault
  | .property? none _ => some .nameAbsent
  | .property? (some _) none => some .valueAbsent
  | .expireAt time => if time < 0 then some .negativeExpiry else none
  | _ => none

/-- The timeout that a change gives the message, if it does. -/
def Edit.timeout? : Edit → Option Int64
  | .expireAfter _ timeout => some timeout
  | _ => none

namespace Message

/-- **A change is refused for its fault, or else made.** -/
theorem value_edit (m : Message) (e : Edit) :
    (m.edit e).value =
      match e.fault? with
      | some fault => .error fault
      | none => .ok (m.tryEdit e) := by
  cases e with
  | property? name value => cases name <;> cases value <;> rfl
  | expireAt time =>
    by_cases h : time < 0 <;> simp [edit, tryEdit, Logged.silent, expireAt, Edit.fault?, h]
  | _ => rfl

/-- **A change that gives the message a timeout logs it, and no other logs.** -/
theorem records_edit (m : Message) (e : Edit) :
    (m.edit e).records = (e.timeout?.map (m.tryEdit e).timeoutRecord).toList := by
  cases e <;> rfl

theorem tryEdit_of_fault {m : Message} {e : Edit} {fault : MessageFault}
    (h : e.fault? = some fault) : m.tryEdit e = m := by
  rw [tryEdit, value_edit, h]

/-! ## Several changes -/

@[simp] theorem tryAll_cons (m : Message) (e : Edit) (rest : List Edit) :
    m.tryAll (e :: rest) = (m.tryEdit e).tryAll rest := rfl

theorem editAll_cons_of_fault {m : Message} {e : Edit} {rest : List Edit} {fault : MessageFault}
    (h : e.fault? = some fault) :
    m.editAll (e :: rest) = ⟨.error fault, (m.edit e).records⟩ := by
  rw [editAll]
  simp only [value_edit, h]

theorem editAll_cons_of_none {m : Message} {e : Edit} {rest : List Edit} (h : e.fault? = none) :
    m.editAll (e :: rest) = ⟨((m.tryEdit e).editAll rest).value,
      (m.edit e).records ++ ((m.tryEdit e).editAll rest).records⟩ := by
  rw [editAll]
  simp only [value_edit, h]

/-- **Changes end at the first that is refused, or else all are made.** -/
theorem value_editAll (m : Message) (edits : List Edit) :
    (m.editAll edits).value =
      match edits.findSome? Edit.fault? with
      | some fault => .error fault
      | none => .ok (m.tryAll edits) := by
  induction edits generalizing m with
  | nil => rfl
  | cons e rest ih =>
    rcases h : e.fault? with _ | fault
    · rw [editAll_cons_of_none h, List.findSome?_cons, h]
      exact ih (m.tryEdit e)
    · rw [editAll_cons_of_fault h, List.findSome?_cons, h]

/-- While no change is refused, those after it log what they would log alone. -/
theorem records_editAll_append {m : Message} {a : List Edit} (h : a.findSome? Edit.fault? = none)
    (b : List Edit) :
    (m.editAll (a ++ b)).records = (m.editAll a).records ++ ((m.tryAll a).editAll b).records := by
  induction a generalizing m with
  | nil => rfl
  | cons e rest ih =>
    rw [List.findSome?_cons] at h
    rcases he : e.fault? with _ | fault
    · rw [he] at h
      rw [List.cons_append, editAll_cons_of_none he, editAll_cons_of_none he, ih h, tryAll_cons,
        List.append_assoc]
    · simp [he] at h

/-- Changes without a timeout log nothing, refused or not. -/
theorem records_editAll_of_silent {m : Message} {edits : List Edit}
    (h : ∀ e ∈ edits, e.timeout? = none) : (m.editAll edits).records = [] := by
  induction edits generalizing m with
  | nil => rfl
  | cons e rest ih =>
    obtain ⟨he, hrest⟩ := List.forall_mem_cons.1 h
    have hlog : (m.edit e).records = [] := by
      rw [records_edit, he]
      rfl
    rcases hf : e.fault? with _ | fault
    · rw [editAll_cons_of_none hf, hlog, ih hrest, List.append_nil]
    · rw [editAll_cons_of_fault hf, hlog]

end Message

end DeviceMail
