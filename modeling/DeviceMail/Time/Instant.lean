/-
  DeviceMail — points in time.

  An instant is a second since 1970 and the nanoseconds after it.  There may be
  up to two thousand million of these: the ones beyond the first thousand million
  belong to a leap second.  Leap seconds follow the last second of a minute, but
  an instant can hold one after any other second as well.

  * `Instant.ofSeconds?` and `Instant.ofMillis?` make an instant, if it lies in
    the years -262143 to 262142; of leap seconds they know those at the end of a
    minute only;
  * `Instant.hubText` writes it for the hub, in ticks of 100 nanoseconds;
  * `Instant.dumpText` writes it for a developer, with as many digits as it
    needs.
-/
import DeviceMail.Time.Date

namespace DeviceMail

/-- The nanoseconds in a second. -/
def nanosPerSecond : Nat := 1000000000

/-- A point in time. -/
structure Instant where
  /-- Seconds since the beginning of 1970. -/
  seconds : Int
  /-- Nanoseconds after that second. -/
  nanos : Nat
  /-- The first second is that of the year -262143, the last that of 262142. -/
  inRange : -8334601228800 ≤ seconds ∧ seconds ≤ 8210266876799 := by decide
  /-- The second thousand million of them make up a leap second. -/
  fits : nanos < 2 * nanosPerSecond := by decide
  deriving DecidableEq, Repr

namespace Instant

/-- The instant that a second and the nanoseconds after it represent, if there is
    one.  Only the last second of a minute is followed by a leap second. -/
def ofSeconds? (seconds : Int) (nanos : Nat) : Option Instant :=
  if inRange : -8334601228800 ≤ seconds ∧ seconds ≤ 8210266876799 then
    if regular : nanos < nanosPerSecond ∨ (nanos < 2 * nanosPerSecond ∧ seconds % 60 = 59) then
      some ⟨seconds, nanos, inRange, by omega⟩
    else none
  else none

/-- The instant so many milliseconds after the beginning of 1970. -/
def ofMillis? (millis : Int) : Option Instant :=
  ofSeconds? (millis / 1000) ((millis % 1000).toNat * 1000000)

/-- Whether the instant lies in a leap second. -/
def isLeapSecond (t : Instant) : Bool := nanosPerSecond ≤ t.nanos

/-! ## Date and time of day -/

/-- The date on which the instant lies. -/
def date (t : Instant) : Date := .ofDayNumber (t.seconds / 86400)

/-- The second of the day. -/
def secondOfDay (t : Instant) : Nat := (t.seconds % 86400).toNat

/-- The hour, from 0 to 23. -/
def hour (t : Instant) : Nat := t.secondOfDay / 3600

/-- The minute, from 0 to 59. -/
def minute (t : Instant) : Nat := t.secondOfDay / 60 % 60

/-- The second, from 0 to 59.  A leap second counts as the second after the one
    that it follows, which at the end of a minute is second 60. -/
def second (t : Instant) : Nat := t.secondOfDay % 60 + if t.isLeapSecond then 1 else 0

/-- The whole ticks of 100 nanoseconds in the second; in a leap second they
    stay at the last tick. -/
def ticks (t : Instant) : Nat := min (t.nanos / 100) 9999999

/-! ## Text -/

/-- Date and time of day, to the second. -/
def clockText (t : Instant) : List Char :=
  t.date.text ++ 'T' :: Decimal.padded 2 t.hour ++ ':' :: Decimal.padded 2 t.minute ++
    ':' :: Decimal.padded 2 t.second

/-- The form in which the hub accepts times: seven digits for the ticks. -/
def hubText (t : Instant) : String :=
  .ofList (t.clockText ++ '.' :: Decimal.padded 7 t.ticks ++ ['Z'])

/-- The fraction of a second in the fewest of none, three, six or nine digits
    that show it exactly. -/
def fractionText (nanos : Nat) : List Char :=
  if nanos = 0 then []
  else if nanos % 1000000 = 0 then '.' :: Decimal.padded 3 (nanos / 1000000)
  else if nanos % 1000 = 0 then '.' :: Decimal.padded 6 (nanos / 1000)
  else '.' :: Decimal.padded 9 nanos

/-- The form for a developer. -/
def dumpText (t : Instant) : List Char :=
  t.clockText ++ fractionText (t.nanos % nanosPerSecond) ++ ['Z']

example : (ofMillis? 1538413472123).map hubText = some "2018-10-01T17:04:32.1230000Z" := by cbv
example : (ofSeconds? 1483228799 1500000000).map hubText =
    some "2016-12-31T23:59:60.9999999Z" := by cbv
example : hubText { seconds := 0, nanos := 1500000000 } = "1970-01-01T00:00:01.9999999Z" := by
  cbv
example : (ofSeconds? (-62167219201) 5000).map (fun t => String.ofList t.dumpText) =
    some "-0001-12-31T23:59:59.000005Z" := by cbv

end Instant

end DeviceMail
