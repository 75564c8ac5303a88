import Appraisal.Data.Datum

set_option autoImplicit false

/-!
# Reading JSON

`read?` accepts exactly one value between blanks. A whole number that fits 64 bits stays a whole
number; any other number is a double, computed from its leading digits and a power of ten.
Values nest less than 128 deep.
-/
namespace Appraisal.Json

def isSpace (c : Char) : Bool := c == ' ' || c == '\n' || c == '\t' || c == '\r'

def skipSpace (cs : List Char) : List Char := cs.dropWhile isSpace

def digitValue (c : Char) : Nat := c.toNat - 48

def hexValue? (c : Char) : Option Nat :=
  if '0' ≤ c ∧ c ≤ '9' then some (c.toNat - 48)
  else if 'a' ≤ c ∧ c ≤ 'f' then some (c.toNat - 87)
  else if 'A' ≤ c ∧ c ≤ 'F' then some (c.toNat - 55)
  else none

def hexCode? (a b c d : Char) : Option Nat := do
  let a ← hexValue? a
  let b ← hexValue? b
  let c ← hexValue? c
  let d ← hexValue? d
  return ((a * 16 + b) * 16 + c) * 16 + d

/-- The character of a code that is no half of a surrogate pair. -/
def scalarOfCode? (n : Nat) : Option Char :=
  if n < 0xD800 ∨ (0xE000 ≤ n ∧ n < 0x110000) then some (Char.ofNat n) else none

def simpleEscape? (c : Char) : Option Char :=
  match c with
  | '"' => some '"'
  | '\\' => some '\\'
  | '/' => some '/'
  | 'b' => some (Char.ofNat 8)
  | 'f' => some (Char.ofNat 12)
  | 'n' => some '\n'
  | 'r' => some '\r'
  | 't' => some '\t'
  | _ => none

/-- The rest of a string after its opening quote; `done` holds what was read, last first. -/
def stringRest? (done : List Char) : List Char → Option (String × List Char)
  | [] => none
  | '"' :: r => some (String.ofList done.reverse, r)
  | '\\' :: 'u' :: a :: b :: c :: d :: r =>
    match hexCode? a b c d with
    | none => none
    | some n =>
      if 0xD800 ≤ n ∧ n < 0xDC00 then
        match r with
        | '\\' :: 'u' :: e :: f :: g :: h :: r' =>
          match hexCode? e f g h with
          | none => none
          | some m =>
            if 0xDC00 ≤ m ∧ m < 0xE000 then
              stringRest? (Char.ofNat (0x10000 + (n - 0xD800) * 0x400 + (m - 0xDC00)) :: done) r'
            else none
        | _ => none
      else match scalarOfCode? n with
        | some ch => stringRest? (ch :: done) r
        | none => none
  | '\\' :: e :: r => match simpleEscape? e with
    | some ch => stringRest? (ch :: done) r
    | none => none
  | c :: r => if c.toNat < 32 || c == '\\' then none else stringRest? (c :: done) r

/-- Takes digits while the number they spell fits 64 bits; answers it and how many were taken. -/
def leadingDigits : Nat → Nat → List Char → Nat × Nat
  | n, taken, [] => (n, taken)
  | n, taken, d :: r =>
    if n * 10 + digitValue d < UInt64.size then leadingDigits (n * 10 + digitValue d) (taken + 1) r
    else (n, taken)

def powerOfTen (n : Nat) : Float := Float.ofScientific 1 false n

def scaleByTen? : Nat → Float → Int → Option Float
  | 0, _, _ => none
  | steps + 1, x, e =>
    if e.natAbs ≤ 308 then
      if 0 ≤ e then
        let y := x * powerOfTen e.toNat
        if y.isInf then none else some y
      else some (x / powerOfTen e.natAbs)
    else if x == 0.0 then some x
    else if 0 ≤ e then none
    else scaleByTen? steps (x / powerOfTen 308) (e + 308)

def double? (negative : Bool) (whole fraction : List Char) (power : Int) : Option Float :=
  let (n, taken) := leadingDigits 0 0 whole
  let (m, places) := leadingDigits n 0 fraction
  let scale := ((whole.length - taken : Nat) : Int) - (places : Int)
  let magnitude? :=
    if UInt32.size / 2 ≤ power.natAbs then
      if m ≠ 0 ∧ 0 ≤ power then none else some 0.0
    else scaleByTen? 6 m.toUInt64.toFloat (scale + power)
  magnitude?.map (fun x => if negative then -x else x)

def natOfDigits (ds : List Char) : Nat := ds.foldl (fun n d => n * 10 + digitValue d) 0

def isDigit (c : Char) : Bool := c.isDigit

def takeDigits (cs : List Char) : List Char × List Char := (cs.takeWhile isDigit, cs.dropWhile isDigit)

def fraction? (cs : List Char) : Option (Option (List Char) × List Char) :=
  match cs with
  | '.' :: r =>
    let (ds, r) := takeDigits r
    if ds.isEmpty then none else some (some ds, r)
  | _ => some (none, cs)

def powerSign (cs : List Char) : Bool × List Char :=
  match cs with
  | '-' :: r => (true, r)
  | '+' :: r => (false, r)
  | _ => (false, cs)

def power? (cs : List Char) : Option (Option Int × List Char) :=
  match cs with
  | c :: r =>
    if c = 'e' ∨ c = 'E' then
      let (negative, r) := powerSign r
      let (ds, r) := takeDigits r
      if ds.isEmpty then none
      else
        let n : Int := natOfDigits ds
        some (some (if negative then -n else n), r)
    else some (none, cs)
  | [] => some (none, cs)

def wholeNumber (negative : Bool) (digits : List Char) : Option Datum :=
  let n := natOfDigits digits
  if negative then
    if n ≠ 0 ∧ n ≤ UInt64.size / 2 then some (.int (-n))
    else (double? true digits [] 0).map .float
  else if n < UInt64.size then some (.int n)
  else (double? false digits [] 0).map .float

def magnitude? (negative : Bool) (cs : List Char) : Option (Datum × List Char) := do
  let (whole, r) := takeDigits cs
  if whole.isEmpty || (whole.length ≠ 1 && whole.head? == some '0') then none
  else
    let (fraction, r) ← fraction? r
    let (power, r) ← power? r
    match fraction, power with
    | none, none => return (← wholeNumber negative whole, r)
    | _, _ =>
      return (.float (← double? negative whole (fraction.getD []) (power.getD 0)), r)

def number? (cs : List Char) : Option (Datum × List Char) :=
  match cs with
  | '-' :: r => magnitude? true r
  | _ => magnitude? false cs

def keyword? (cs : List Char) : Option (Datum × List Char) :=
  match cs with
  | 'n' :: 'u' :: 'l' :: 'l' :: r => some (.null, r)
  | 't' :: 'r' :: 'u' :: 'e' :: r => some (.bool true, r)
  | 'f' :: 'a' :: 'l' :: 's' :: 'e' :: r => some (.bool false, r)
  | _ => none

mutual

def value? : Nat → Nat → List Char → Option (Datum × List Char)
  | 0, _, _ => none
  | fuel + 1, depth, cs =>
    match skipSpace cs with
    | '"' :: r => (stringRest? [] r).map (fun (s, r) => (.text s, r))
    | '[' :: r =>
      if depth ≤ 1 then none
      else match skipSpace r with
        | ']' :: r => some (.list [], r)
        | r => items? fuel (depth - 1) [] r
    | '\x7b' :: r =>
      if depth ≤ 1 then none
      else match skipSpace r with
        | '\x7d' :: r => some (.map [], r)
        | r => entries? fuel (depth - 1) [] r
    | c :: r =>
      if c == '-' || isDigit c then number? (c :: r) else keyword? (c :: r)
    | [] => none

def items? : Nat → Nat → List Datum → List Char → Option (Datum × List Char)
  | 0, _, _, _ => none
  | fuel + 1, depth, done, cs =>
    match value? fuel depth cs with
    | none => none
    | some (item, r) =>
      match skipSpace r with
      | ',' :: r => items? fuel depth (item :: done) r
      | ']' :: r => some (.list (item :: done).reverse, r)
      | _ => none

def entries? : Nat → Nat → List (String × Datum) → List Char → Option (Datum × List Char)
  | 0, _, _, _ => none
  | fuel + 1, depth, done, cs =>
    match skipSpace cs with
    | '"' :: r =>
      match stringRest? [] r with
      | none => none
      | some (key, r) =>
        match skipSpace r with
        | ':' :: r =>
          match value? fuel depth r with
          | none => none
          | some (value, r) =>
            match skipSpace r with
            | ',' :: r => entries? fuel depth ((key, value) :: done) r
            | '\x7d' :: r => some (.map ((key, value) :: done).reverse, r)
            | _ => none
        | _ => none
    | _ => none

end

def nestingLimit : Nat := 128

def read? (s : String) : Option Datum :=
  let cs := s.toList
  match value? (cs.length + 1) nestingLimit cs with
  | some (d, r) => if (skipSpace r).isEmpty then some d else none
  | none => none

end Appraisal.Json
