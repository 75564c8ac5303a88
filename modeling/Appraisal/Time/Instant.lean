import Appraisal.Text.Blank

set_option autoImplicit false

/-!
# Points in time

An instant is a day, a second of that day and a part of that second, all in universal time. A part
of a second or more lies in a leap second. Days are counted from the first of January 1970 in the
Gregorian calendar, which is extended to all years.
-/
namespace Appraisal

structure Instant where
  day : Int
  second : Nat
  nano : Nat
  deriving DecidableEq, Repr, Inhabited

namespace Instant

def epoch : Instant := ⟨0, 0, 0⟩

def secondsPerDay : Nat := 86400

def nanosPerSecond : Nat := 1000000000

structure Date where
  year : Int
  month : Nat
  day : Nat
  deriving DecidableEq, Repr

def isLeapYear (year : Int) : Bool :=
  year % 4 == 0 && (year % 100 != 0 || year % 400 == 0)

def daysInMonth (year : Int) (month : Nat) : Nat :=
  if month = 2 then (if isLeapYear year then 29 else 28)
  else if month ∈ [4, 6, 9, 11] then 30
  else 31

def yearHasDates (year : Int) : Bool := -262143 ≤ year && year ≤ 262142

def Date.isValid (d : Date) : Bool :=
  yearHasDates d.year && 1 ≤ d.month && d.month ≤ 12 && 1 ≤ d.day &&
    d.day ≤ daysInMonth d.year d.month

/-- The number of a day. Years start in March here, so that the leap day is the last one. -/
def Date.dayNumber (d : Date) : Int :=
  let year := if d.month ≤ 2 then d.year - 1 else d.year
  let era := year.fdiv 400
  let yearOfEra := year - era * 400
  let month := if 2 < d.month then d.month - 3 else d.month + 9
  let dayOfYear : Int := ((153 * month + 2) / 5 + d.day - 1 : Nat)
  let dayOfEra := yearOfEra * 365 + yearOfEra / 4 - yearOfEra / 100 + dayOfYear
  era * 146097 + dayOfEra - 719468

def Date.ofDayNumber (number : Int) : Date :=
  let shifted := number + 719468
  let era := shifted.fdiv 146097
  let dayOfEra := (shifted - era * 146097).toNat
  let yearOfEra := (dayOfEra - dayOfEra / 1460 + dayOfEra / 36524 - dayOfEra / 146096) / 365
  let dayOfYear := dayOfEra - (365 * yearOfEra + yearOfEra / 4 - yearOfEra / 100)
  let month := (5 * dayOfYear + 2) / 153
  let day := dayOfYear - (153 * month + 2) / 5 + 1
  let civilMonth := if month < 10 then month + 3 else month - 9
  let year : Int := (yearOfEra : Int) + era * 400
  ⟨if civilMonth ≤ 2 then year + 1 else year, civilMonth, day⟩

def date (t : Instant) : Date := Date.ofDayNumber t.day

/-- The nanoseconds from one instant to another. A leap second counts when the two times of day
lie on different sides of it. -/
def nanosUntil (earlier later : Instant) : Int :=
  let leap : Int :=
    if earlier.second < later.second ∧ nanosPerSecond ≤ earlier.nano then 1
    else if later.second < earlier.second ∧ nanosPerSecond ≤ later.nano then -1
    else 0
  let seconds : Int :=
    (later.day - earlier.day) * secondsPerDay + ((later.second : Int) - earlier.second) + leap
  seconds * nanosPerSecond + ((later.nano : Int) - earlier.nano)

def daysUntil (earlier later : Instant) : Nat :=
  (nanosUntil earlier later).toNat / (secondsPerDay * nanosPerSecond)

def padded (width n : Nat) : String :=
  let digits := toString n
  String.ofList (List.replicate (width - digits.length) '0') ++ digits

def yearText (year : Int) : String :=
  if 0 ≤ year ∧ year ≤ 9999 then padded 4 year.toNat
  else (if year < 0 then "-" else "+") ++ padded 4 year.natAbs

def dateText (t : Instant) : String :=
  let d := t.date
  yearText d.year ++ "-" ++ padded 2 d.month ++ "-" ++ padded 2 d.day

def clockText (t : Instant) : String :=
  padded 2 (t.second / 3600) ++ ":" ++ padded 2 (t.second / 60 % 60) ++ ":" ++
    padded 2 (t.second % 60 + t.nano / nanosPerSecond)

def fractionText (t : Instant) : String :=
  let nano := t.nano % nanosPerSecond
  if nano = 0 then ""
  else if nano % 1000000 = 0 then "." ++ padded 3 (nano / 1000000)
  else if nano % 1000 = 0 then "." ++ padded 6 (nano / 1000)
  else "." ++ padded 9 nano

def text (t : Instant) : String :=
  t.dateText ++ "T" ++ t.clockText ++ t.fractionText ++ "Z"

def plainText (t : Instant) : String :=
  t.dateText ++ " " ++ t.clockText ++ t.fractionText ++ " UTC"

abbrev Reading := StateT (List Char) Option

def skipBlanks : Reading Unit := modify Text.trimStart

def oneOf (cs : List Char) : Reading Unit := do
  match ← get with
  | [] => failure
  | c :: r => if c ∈ cs then set r else failure

def digitsValue (digits : List Char) : Nat :=
  digits.foldl (fun n c => n * 10 + (c.toNat - 48)) 0

def number (limit? : Option Nat) : Reading Nat := do
  let s ← get
  let all := s.takeWhile Char.isDigit
  let digits := match limit? with
    | some limit => all.take limit
    | none => all
  if digits.isEmpty then failure
  set (s.drop digits.length)
  return digitsValue digits

def field (least most : Nat) : Reading Nat := do
  skipBlanks
  let n ← number (some 2)
  if least ≤ n ∧ n ≤ most then return n else failure

def separator (c : Char) : Reading Unit := do
  skipBlanks
  oneOf [c]

def year : Reading Int := do
  skipBlanks
  match ← get with
  | '-' :: r =>
    set r
    return -((← number none) : Int)
  | '+' :: r =>
    set r
    return ((← number none) : Int)
  | _ => return ((← number (some 4)) : Int)

/-- A fraction of a second in nanoseconds; digits behind the ninth do not count. -/
def fraction : Reading Nat := do
  match ← get with
  | '.' :: r =>
    let digits := r.takeWhile Char.isDigit
    if digits.isEmpty then failure
    set (r.drop digits.length)
    return digitsValue ((digits ++ List.replicate 9 '0').take 9)
  | _ => return 0

def twoDigits : Reading Nat := do
  match ← get with
  | a :: b :: r =>
    if a.isDigit ∧ b.isDigit then
      set r
      return digitsValue [a, b]
    else failure
  | _ => failure

def zone : Reading Int := do
  match ← get with
  | [] => failure
  | c :: r =>
    if c ∈ ['Z', 'z'] then
      set r
      return 0
    else if c ∈ ['+', '-', '\u2212'] then
      set r
      let hours ← twoDigits
      modify (List.dropWhile (fun c => c == ':' || Text.isBlank c))
      let minutes ← twoDigits
      if 60 ≤ minutes ∨ 24 ≤ hours then failure
      let seconds : Int := (hours * 3600 + minutes * 60 : Nat)
      return if c == '+' then seconds else -seconds
    else failure

def zoneOrName : Reading Int := do
  let s ← get
  if (s.take 3).map Char.toUpper = ['U', 'T', 'C'] then
    set (s.drop 3)
    return 0
  else zone

/-- The instant at a local date and time. A sixtieth second is a leap second. -/
def ofLocal? (d : Date) (hour minute second nano : Nat) (zone : Int) : Option Instant :=
  if !d.isValid then none
  else
    let leap := second = 60
    let clock : Int := (hour * 3600 + minute * 60 + (if leap then 59 else second) : Nat)
    let seconds := d.dayNumber * secondsPerDay + clock - zone
    let day := seconds.fdiv secondsPerDay
    let t : Instant := ⟨day, (seconds - day * secondsPerDay).toNat,
      nano + (if leap then nanosPerSecond else 0)⟩
    if yearHasDates t.date.year then some t else none

def reading : Reading Instant := do
  let year ← year
  separator '-'
  let month ← field 1 12
  separator '-'
  let day ← field 1 31
  oneOf ['t', 'T', ' ']
  let hour ← field 0 23
  separator ':'
  let minute ← field 0 59
  separator ':'
  let second ← field 0 60
  let nano ← fraction
  skipBlanks
  let zone ← zoneOrName
  skipBlanks
  if (← get).isEmpty then
    match ofLocal? ⟨year, month, day⟩ hour minute second nano zone with
    | some t => return t
    | none => failure
  else failure

/-- Reads a date, a time and a zone; blanks may stand before each part. -/
def read? (s : String) : Option Instant := (reading.run s.toList).map (·.1)

end Instant

end Appraisal
