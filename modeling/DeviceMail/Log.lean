/-
  DeviceMail — what is written to the log.

  * `Record` is one line of it, `Journal` a log that keeps every record;
  * `Logged α` is a result with the records written on the way to it.
-/

namespace DeviceMail

/-! ## Records -/

/-- How much a record matters. -/
inductive Level where
  | error
  | warn
  | info
  | debug
  | trace
  deriving DecidableEq, Repr

/-- The name of a level. -/
def Level.name : Level → String
  | .error => "ERROR"
  | .warn => "WARN"
  | .info => "INFO"
  | .debug => "DEBUG"
  | .trace => "TRACE"

/-- All levels, the most severe first. -/
def Level.all : List Level := [.error, .warn, .info, .debug, .trace]

/-- A record: its level, the part of the program that wrote it, and what it
    says. -/
structure Record where
  level : Level
  target : String
  message : String
  deriving DecidableEq, Repr

/-- A record as it is printed, after the time at which it was written. -/
def Record.text (record : Record) : String :=
  record.level.name ++ " " ++ record.target ++ "] " ++ record.message

/-! ## Journals -/

/-- Whether `needle` stands somewhere in a text. -/
def occursIn (needle : List Char) : List Char → Bool
  | [] => needle.isEmpty
  | c :: rest => needle.isPrefixOf (c :: rest) || occursIn needle rest

/-- A log in memory, with the oldest record first. -/
structure Journal where
  records : List Record := []
  deriving DecidableEq, Repr

namespace Journal

/-- The journal with one more record. -/
def write (journal : Journal) (record : Record) : Journal := ⟨journal.records ++ [record]⟩

/-- The journal with more records, in order. -/
def writeAll (journal : Journal) (records : List Record) : Journal :=
  ⟨journal.records ++ records⟩

/-- The records of a level that mention `needle`, in order. -/
def mentioning (journal : Journal) (level : Level) (needle : String) : List Record :=
  journal.records.filter fun record =>
    record.level == level && occursIn needle.toList record.message.toList

end Journal

/-! ## Results with records -/

/-- A result, and what was logged on the way to it. -/
structure Logged (α : Type) where
  value : α
  records : List Record := []

namespace Logged

/-- A result without records. -/
def silent {α : Type} (value : α) : Logged α := ⟨value, []⟩

/-- The same records, the result transformed. -/
def map {α β : Type} (f : α → β) (a : Logged α) : Logged β := ⟨f a.value, a.records⟩

end Logged

end DeviceMail
