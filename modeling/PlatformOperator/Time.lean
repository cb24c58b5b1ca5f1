/-! Points in time, their texts in UTC, and a clock whose readings ascend. -/

namespace PlatformOperator

/-- Seconds since 1970-01-01T00:00:00Z and the part of a second beyond them. -/
structure Timestamp where
  seconds : Int
  nanos : Nat
  deriving DecidableEq, Repr, Inhabited

/-- Earlier, or at the same time. -/
def Timestamp.le (a b : Timestamp) : Bool :=
  a.seconds < b.seconds || (a.seconds == b.seconds && a.nanos ≤ b.nanos)

namespace Calendar

/-- The days from 1970-01-01 to a date. Years begin in March, so that a leap day ends its year. -/
def daysOf (year month day : Int) : Int :=
  let y := if month ≤ 2 then year - 1 else year
  let era := Int.fdiv y 400
  let ofEra := y - era * 400
  let ofYear := Int.fdiv (153 * (if month > 2 then month - 3 else month + 9) + 2) 5 + day - 1
  era * 146097 + (ofEra * 365 + Int.fdiv ofEra 4 - Int.fdiv ofEra 100 + ofYear) - 719468

/-- Year, month and day of the date `days` after 1970-01-01. -/
def dateOf (days : Int) : Int × Int × Int :=
  let z := days + 719468
  let era := Int.fdiv z 146097
  let ofEra := z - era * 146097
  let years := Int.fdiv (ofEra - Int.fdiv ofEra 1460 + Int.fdiv ofEra 36524 - Int.fdiv ofEra 146096) 365
  let ofYear := ofEra - (365 * years + Int.fdiv years 4 - Int.fdiv years 100)
  let m := Int.fdiv (5 * ofYear + 2) 153
  let month := if m < 10 then m + 3 else m - 9
  (years + era * 400 + (if month ≤ 2 then 1 else 0), month, ofYear - Int.fdiv (153 * m + 2) 5 + 1)

def isLeap (year : Nat) : Bool := year % 4 == 0 && (year % 100 != 0 || year % 400 == 0)

def daysInMonth (year month : Nat) : Nat :=
  if month = 2 then (if isLeap year then 29 else 28) else if month ∈ [4, 6, 9, 11] then 30 else 31

end Calendar

namespace Timestamp

/-- At least `width` digits, filled with zeros. -/
def padded (width : Nat) (n : Int) : String :=
  let s := toString n.natAbs
  (if n < 0 then "-" else "") ++ String.ofList (List.replicate (width - s.length) '0') ++ s

/-- `YYYY-MM-DDTHH:MM:SSZ`; parts of a second are cut. -/
def text (t : Timestamp) : String :=
  let (year, month, day) := Calendar.dateOf (Int.fdiv t.seconds 86400)
  let s := Int.fmod t.seconds 86400
  padded 4 year ++ "-" ++ padded 2 month ++ "-" ++ padded 2 day ++ "T" ++ padded 2 (Int.fdiv s 3600) ++ ":" ++
    padded 2 (Int.fmod (Int.fdiv s 60) 60) ++ ":" ++ padded 2 (Int.fmod s 60) ++ "Z"

/-- A number of exactly `n` digits and what follows it. -/
def digits? (n : Nat) (cs : List Char) : Option (Nat × List Char) :=
  let ds := cs.take n
  if ds.length = n ∧ ds.all Char.isDigit then
    some (ds.foldl (fun acc c => acc * 10 + (c.toNat - '0'.toNat)) 0, cs.drop n)
  else none

/-- Skips `c`, which has to come next. -/
def skip? (c : Char) : List Char → Option (List Char)
  | d :: cs => if d = c then some cs else none
  | [] => none

/-- A date: the parts separated by dashes, or none of them. -/
def date? (cs : List Char) : Option ((Nat × Nat × Nat) × List Char) := do
  let (year, cs) ← digits? 4 cs
  let dashed := cs.head? = some '-'
  let cs ← if dashed then skip? '-' cs else some cs
  let (month, cs) ← digits? 2 cs
  let cs ← if dashed then skip? '-' cs else some cs
  let (day, cs) ← digits? 2 cs
  if 1 ≤ month ∧ month ≤ 12 ∧ 1 ≤ day ∧ day ≤ Calendar.daysInMonth year month then
    return ((year, month, day), cs)
  else none

/-- The nanoseconds of up to nine digits after a point or comma. -/
def fraction? : List Char → Option (Nat × List Char)
  | '.' :: cs | ',' :: cs =>
    let ds := cs.takeWhile Char.isDigit
    if 1 ≤ ds.length ∧ ds.length ≤ 9 then
      (digits? ds.length cs).map fun p => (p.1 * Nat.pow 10 (9 - ds.length), p.2)
    else none
  | cs => some (0, cs)

/-- A time of day in seconds and nanoseconds; a leap second counts as the second before it. -/
def timeOfDay? (cs : List Char) : Option ((Nat × Nat) × List Char) := do
  let (hour, cs) ← digits? 2 cs
  let colons := cs.head? = some ':'
  let cs ← if colons then skip? ':' cs else some cs
  let (minute, cs) ← digits? 2 cs
  let more := if colons then cs.head? = some ':' else cs.head?.any Char.isDigit
  let cs ← if more && colons then skip? ':' cs else some cs
  let (second, cs) ← if more then digits? 2 cs else some (0, cs)
  let (nanos, cs) ← if more then fraction? cs else some (0, cs)
  if hour ≤ 23 ∧ minute ≤ 59 ∧ second ≤ 60 then
    return ((hour * 3600 + minute * 60 + min second 59, nanos), cs)
  else none

/-- The seconds by which a local time is ahead of UTC. -/
def offset? : List Char → Option (Int × List Char)
  | 'Z' :: cs | 'z' :: cs => some (0, cs)
  | sign :: cs => do
    let factor : Int ← if sign = '+' then some 1 else if sign = '-' then some (-1) else none
    let (hours, cs) ← digits? 2 cs
    let colons := cs.head? = some ':'
    let more := if colons then true else cs.head?.any Char.isDigit
    let cs ← if colons then skip? ':' cs else some cs
    let (minutes, cs) ← if more then digits? 2 cs else some (0, cs)
    if hours ≤ 25 ∧ minutes ≤ 59 then return (factor * (hours * 3600 + minutes * 60), cs) else none
  | [] => none

/-- Reads a date, a time of day and an offset from UTC. -/
def instant? (s : String) : Option Timestamp := do
  let ((year, month, day), cs) ← date? s.toList
  let mark :: cs := cs | none
  if mark ∉ ['T', 't', ' '] then none
  let ((seconds, nanos), cs) ← timeOfDay? cs
  let (ahead, cs) ← offset? cs
  if cs ≠ [] then none
  return ⟨Calendar.daysOf year month day * 86400 + seconds - ahead, nanos⟩

/-- The time is in the years 0 to 9999, of which the last ends early enough for any offset from UTC. -/
def Dated (t : Timestamp) : Prop := -62167219200 ≤ t.seconds ∧ t.seconds ≤ 253402207200

instance (t : Timestamp) : Decidable t.Dated := inferInstanceAs (Decidable (_ ∧ _))

def ofText? (s : String) : Option Timestamp := (instant? s).filter fun t => t.Dated

end Timestamp

/-- A clock by the number of its readings: each is a second later than the one before. -/
structure Clock where
  readings : Nat
  deriving DecidableEq, Repr, Inhabited

namespace Clock

/-- The first reading of any clock. -/
def origin : Timestamp := ⟨7258118400, 0⟩

/-- What the next reading will show. -/
def next (c : Clock) : Timestamp := ⟨origin.seconds + c.readings, 0⟩

def tick (c : Clock) : Clock := ⟨c.readings + 1⟩

/-- Reads the clock. -/
def read : StateM Clock Timestamp := fun c => (c.next, c.tick)

/-- The number of readings before `t`, if `t` is a reading. -/
def reading? (t : Timestamp) : Option Nat :=
  if origin.seconds ≤ t.seconds ∧ t.nanos = 0 then some (t.seconds - origin.seconds).toNat else none

end Clock
end PlatformOperator
