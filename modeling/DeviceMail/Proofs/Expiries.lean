/-
  DeviceMail — expiry over the life of a message.

  An expiry is set as a time or as a timeout, in any order and any number of
  times, and zero stands for none.

  * `Edit.expiryMillis?` is the expiry that a change sets, as a whole number, and
    `Life.expiryMillis` the one in force after all changes of a life;
  * `toInt_expiry_message`: that is the expiry that the message holds;
  * `expired?_of_run`: after any run, a message has expired once the clock shows
    more than the expiry in force, unless that is zero;
  * `expired_of_negative_timeout`: a negative timeout lets a message expire at
    once, but for the one timeout that leads to zero.
-/
import DeviceMail.Proofs.Lives

namespace DeviceMail

/-! ## The expiry in force -/

/-- The expiry that a change sets, in milliseconds since 1970.  A timeout sets
    the exact sum of the clock and the timeout, or the nearest 64-bit number.  A
    time below zero is refused and sets none. -/
def Edit.expiryMillis? : Edit → Option Int
  | .expireAfter now timeout =>
    some (max Int64.minValue.toInt (min Int64.maxValue.toInt (now.toInt + timeout.toInt)))
  | .expireAt time => if 0 ≤ time.toInt then some time.toInt else none
  | _ => none

/-- The expiry set by the last change that set one, or else zero. -/
def Life.expiryMillis (life : Life) : Int :=
  (life.edits.findSomeRev? Edit.expiryMillis?).getD 0

theorem findSomeRev?_map {α β γ : Type} (l : List α) (f : α → Option β) (g : β → γ) :
    (l.findSomeRev? f).map g = l.findSomeRev? fun a => (f a).map g := by
  induction l with
  | nil => rfl
  | cons a rest ih =>
    rw [List.findSomeRev?, List.findSomeRev?, ← ih]
    cases rest.findSomeRev? f <;> rfl

theorem toInt_neg_iff {time : Int64} : time < 0 ↔ ¬ 0 ≤ time.toInt := by
  rw [Int64.lt_iff_toInt_lt, Int64.toInt_zero, not_le]

theorem Edit.toInt_expiry_writes (e : Edit) :
    e.writes.expiry.map Int64.toInt = e.expiryMillis? := by
  cases e with
  | expireAfter now timeout =>
    rw [Edit.writes, Option.map_some, toInt_expiryAfter]
    rfl
  | expireAt time =>
    by_cases h : 0 ≤ time.toInt <;> simp [Edit.writes, expiryMillis?, toInt_neg_iff, h]
  | connection client => cases client <;> rfl
  | property? name value => cases name <;> cases value <;> rfl
  | _ => rfl

/-- **The message holds the expiry in force**, with nothing lost to 64 bits. -/
theorem Life.toInt_expiry_message (life : Life) :
    life.message.expiry.toInt = life.expiryMillis := by
  have hlast : (life.last (·.expiry)).map Int64.toInt =
      life.edits.findSomeRev? Edit.expiryMillis? := by
    rw [Life.last, findSomeRev?_map]
    exact congrArg (life.edits.findSomeRev? ·) (funext Edit.toInt_expiry_writes)
  rw [message_eq_lastWritten, lastWritten, expiryMillis, ← hlast]
  cases life.last (·.expiry) <;> rfl

/-! ## Asking a message -/

theorem Message.hasExpired_iff (m : Message) (now : Int64) :
    m.hasExpired now ↔ m.expiry.toInt ≠ 0 ∧ m.expiry.toInt < now.toInt := by
  have hzero : m.expiry = 0 ↔ m.expiry.toInt = 0 := by
    rw [← Int64.toInt_inj, Int64.toInt_zero]
  simp [hasExpired, hzero, Int64.lt_iff_toInt_lt]

/-- What has expired stays expired. -/
theorem Message.hasExpired_mono {m : Message} {now later : Int64} (hle : now ≤ later)
    (h : m.hasExpired now) : m.hasExpired later := by
  rw [hasExpired_iff] at h ⊢
  rw [Int64.le_iff_toInt_le] at hle
  exact ⟨h.1, by omega⟩

theorem Message.checkExpiry_value (m : Message) (now : Int64) :
    (m.checkExpiry now).value = m.hasExpired now := by
  cases h : m.hasExpired now <;> simp [checkExpiry, h, Logged.silent]

/-! ## Negative timeouts -/

/-- The sum of a time after 1970 and a negative timeout always fits into 64 bits. -/
theorem toInt_expiryAfter_of_neg {now timeout : Int64} (hnow : 0 < now) (htimeout : timeout < 0) :
    (expiryAfter now timeout).toInt = now.toInt + timeout.toInt := by
  rw [Int64.lt_iff_toInt_lt, Int64.toInt_zero] at hnow htimeout
  have hmin := timeout.minValue_le_toInt
  have hmax := now.toInt_le
  rw [toInt_expiryAfter]
  omega

namespace Message

/-- **A negative timeout lets a message expire at once, unless it leads to zero.**
    From the time at which it is set the message has expired, and stays so.  A
    timeout that goes back to 1970 to the millisecond leaves the expiry at zero,
    which stands for none: such a message never expires. -/
theorem expired_of_negative_timeout (m : Message) {now timeout : Int64} (hnow : 0 < now)
    (htimeout : timeout < 0) :
    let sent := (m.expireAfter now timeout).value
    (now.toInt + timeout.toInt ≠ 0 → ∀ later, now ≤ later → (sent.checkExpiry later).value = true) ∧
      (now.toInt + timeout.toInt = 0 → ∀ later, (sent.checkExpiry later).value = false) := by
  intro sent
  have hexpiry : sent.expiry.toInt = now.toInt + timeout.toInt :=
    toInt_expiryAfter_of_neg hnow htimeout
  rw [Int64.lt_iff_toInt_lt, Int64.toInt_zero] at htimeout
  refine ⟨fun hsum later hlater => ?_, fun hsum later => ?_⟩
  · rw [Int64.le_iff_toInt_le] at hlater
    rw [checkExpiry_value, hasExpired_iff, hexpiry]
    exact ⟨hsum, by omega⟩
  · rw [checkExpiry_value, ← Bool.not_eq_true, hasExpired_iff, hexpiry]
    exact fun h => h.1 hsum

/-- Two timeouts of which one leads to the last millisecond before zero, and one
    leads to zero itself. -/
theorem expired_of_negative_timeout_around_zero :
    let m : Message := { messageId := "m", correlationId := "c" }
    (0 : Int64) < 5 ∧ (-6 : Int64) < 0 ∧ (-5 : Int64) < 0 ∧
      (∀ later : Int64, 5 ≤ later → ((m.expireAfter 5 (-6)).value.checkExpiry later).value = true) ∧
      ∀ later, ((m.expireAfter 5 (-5)).value.checkExpiry later).value = false := by
  intro m
  have hnow : (0 : Int64) < 5 := by decide
  have hbefore : (-6 : Int64) < 0 := by decide
  have hzero : (-5 : Int64) < 0 := by decide
  exact ⟨hnow, hbefore, hzero, (m.expired_of_negative_timeout hnow hbefore).1 (by decide),
    (m.expired_of_negative_timeout hnow hzero).2 (by decide)⟩

/-- Not every negative timeout lets a message expire: one that is as long as the
    clock is late does not. -/
theorem not_expired_of_timeout_to_zero :
    ¬ ∀ (m : Message) (now timeout : Int64), 0 < now → timeout < 0 → ∀ later, now ≤ later →
      ((m.expireAfter now timeout).value.checkExpiry later).value = true := by
  intro h
  have hexpired := h { messageId := "id-1", correlationId := "id-2" } 1790000000123
    (-1790000000123) (by decide) (by decide) Int64.maxValue (by decide)
  exact absurd hexpired (by decide)

end Message

/-! ## Asking a session -/

namespace Session

/-- What a session answers when it is asked whether the message in a slot has
    expired, if there is a message. -/
def expired? (s : Session) (slot : String) (now : Int64) : Option Bool :=
  match (s.step (.ask slot (.expired now))).2 with
  | .ok (.reply (.expired answer)) => some answer
  | _ => none

theorem expired?_eq (s : Session) (slot : String) (now : Int64) :
    s.expired? slot now = (s.messages.get? slot).map (·.hasExpired now) := by
  rcases hm : s.messages.get? slot with _ | m
  · rw [expired?, step, withMessage_of_none hm]
    rfl
  · rw [expired?, step, withMessage_of_get? hm]
    cases h : m.hasExpired now <;>
      simp [Message.ask, Message.checkExpiry, Logged.map, Logged.silent, h]

theorem expired?_mono {s : Session} {slot : String} {now later : Int64} (hle : now ≤ later)
    (h : s.expired? slot now = some true) : s.expired? slot later = some true := by
  rw [expired?_eq, Option.map_eq_some_iff] at h
  obtain ⟨m, hm, hnow⟩ := h
  rw [expired?_eq, hm, Option.map_some, Message.hasExpired_mono hle hnow]

/-! ## Setting a time -/

/-- A time of expiry is refused if it is negative, and else replaces the expiry
    of the message. -/
theorem step_expireAt {s : Session} {slot : String} {m : Message}
    (hm : s.messages.get? slot = some m) (time : Int64) :
    s.step (.edit slot (.expireAt time)) =
      if time < 0 then s.refuse (.message .negativeExpiry)
      else s.store slot { m with expiry := time } := by
  rw [step, withMessage_of_get? hm]
  simp only [Message.edit, Message.expireAt, Logged.silent]
  split_ifs with h
  · rfl
  · simp [log, Journal.writeAll]

theorem isOk_step_expireAt (s : Session) (slot : String) (time : Int64) :
    (s.step (.edit slot (.expireAt time))).2.isOk ↔
      (s.messages.get? slot).isSome ∧ 0 ≤ time.toInt := by
  rcases hm : s.messages.get? slot with _ | m
  · rw [step, withMessage_of_none hm]
    simp [refuse, Except.isOk, Except.toBool]
  · rw [step_expireAt hm]
    split_ifs with h
    · simpa [refuse, Except.isOk, Except.toBool] using toInt_neg_iff.1 h
    · simpa [store, Except.isOk, Except.toBool, toInt_neg_iff] using h

theorem expired?_step_expireAt_zero (s : Session) (slot : String) (now : Int64) :
    (s.step (.edit slot (.expireAt 0))).1.expired? slot now =
      (s.messages.get? slot).map fun _ => false := by
  rcases hm : s.messages.get? slot with _ | m
  · rw [step, withMessage_of_none hm, refuse, expired?_eq, hm]
    rfl
  · rw [step_expireAt hm, if_neg (by decide), expired?_eq, store, Slots.get?_put, if_pos rfl]
    rfl

theorem step_expireAt_of_neg {time : Int64} (h : time < 0) (s : Session) (slot : String) :
    (s.step (.edit slot (.expireAt time))).1 = s := by
  rcases hm : s.messages.get? slot with _ | m
  · rw [step, withMessage_of_none hm]
    rfl
  · rw [step_expireAt hm, if_pos h]
    rfl

/-! ## Whole runs -/

/-- **Expiry over whole runs.**  Whatever steps a session takes, each message
    holds the expiry in force after its life, and it has expired at a time if
    that expiry is not zero and lies before the time.  So it stays expired.  A
    time of expiry is accepted if it is not negative: zero turns the expiry off,
    whatever it was, and a time that is refused leaves the expiry in force. -/
theorem expired?_of_run (steps : List Step) (slot : String) :
    let s := (run {} steps).1
    let life? := (livesOfRun {} .empty steps).get? slot
    (s.messages.get? slot).map (·.expiry.toInt) = life?.map Life.expiryMillis ∧
    (∀ now, s.expired? slot now =
      life?.map fun life => decide (life.expiryMillis ≠ 0 ∧ life.expiryMillis < now.toInt)) ∧
    (∀ now later, now ≤ later → s.expired? slot now = some true →
      s.expired? slot later = some true) ∧
    (∀ time, (s.step (.edit slot (.expireAt time))).2.isOk ↔ life?.isSome ∧ 0 ≤ time.toInt) ∧
    (∀ now, (s.step (.edit slot (.expireAt 0))).1.expired? slot now = life?.map fun _ => false) ∧
    ∀ time now, time < 0 →
      (s.step (.edit slot (.expireAt time))).1.expired? slot now = s.expired? slot now := by
  intro s life?
  have hnone : Accounts .empty (Slots.empty : Slots Message) := fun _ => rfl
  have hmessage : s.messages.get? slot = life?.map Life.message := accounts_run hnone steps slot
  have hexpired (life : Life) (now : Int64) : life.message.hasExpired now =
      decide (life.expiryMillis ≠ 0 ∧ life.expiryMillis < now.toInt) := by
    rw [Bool.eq_iff_iff, Message.hasExpired_iff, life.toInt_expiry_message, decide_eq_true_iff]
  refine ⟨?_, fun now => ?_, fun now later => expired?_mono, fun time => ?_, fun now => ?_,
    fun time now h => ?_⟩
  · rw [hmessage, Option.map_map]
    exact congrArg (life?.map ·) (funext Life.toInt_expiry_message)
  · rw [expired?_eq, hmessage, Option.map_map]
    exact congrArg (life?.map ·) (funext fun life => hexpired life now)
  · rw [isOk_step_expireAt, hmessage, Option.isSome_map]
  · rw [expired?_step_expireAt_zero, hmessage, Option.map_map]
    rfl
  · rw [step_expireAt_of_neg h]

end Session

end DeviceMail
