import Taskboard.Calendar.Civil
import Taskboard.Fault
import Taskboard.Number.Numeral

/-! The text of a start time: date and time of day in UTC, the hour on a dial of twelve without a mark
    for morning or afternoon. The year has at least four characters, its sign among them.

    `startTime` is the text of any start time; the program has it where the year is not too long to be
    printed (`startTime?`). -/

namespace Taskboard

/-- A moment, to the second. -/
structure Moment where
  date : Date
  hour : Nat
  minute : Nat
  second : Nat
deriving DecidableEq

namespace Moment

/-- The moment of a count of milliseconds since the beginning of 1970. -/
def ofMillis (ms : Int) : Moment :=
  let seconds := ms / 1000
  let ofDay := (seconds % 86400).toNat
  ⟨Date.ofDays (seconds / 86400), ofDay / 3600, ofDay % 3600 / 60, ofDay % 60⟩

/-- The hour as a dial of twelve hours shows it. -/
def dialHour (m : Moment) : Nat := if m.hour % 12 = 0 then 12 else m.hour % 12

def chars (m : Moment) : List Char :=
  Numeral.padded 4 m.date.year ++ '-' :: two m.date.month ++ '-' :: two m.date.day ++
    '_' :: two m.dialHour ++ ':' :: two m.minute ++ ':' :: two m.second ++ " UTC".toList
where
  two (n : Nat) : List Char := Numeral.padded 2 n

def text (m : Moment) : String := String.ofList m.chars

/-- Whether the year is printed. The other numbers are short. -/
def printsYear (m : Moment) : Bool := Numeral.prints m.date.year

end Moment

/-- The text of a start time given in milliseconds since the beginning of 1970. -/
def startTime (ms : Int) : String := (Moment.ofMillis ms).text

/-- The same text, where the program prints it. -/
def startTime? (ms : Int) : Except Fault String :=
  Fault.printing (Moment.ofMillis ms).printsYear (startTime ms)

end Taskboard
