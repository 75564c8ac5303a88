import Appraisal.Data.Datum

set_option autoImplicit false

namespace Appraisal.Scalar

def nulls : List String := ["null", "Null", "NULL", "~"]

def trues : List String := ["true", "True", "TRUE"]

def falses : List String := ["false", "False", "FALSE"]

def isNull (s : String) : Bool := s.isEmpty || s ∈ nulls

def bool? (s : String) : Option Bool :=
  if s ∈ trues then some true else if s ∈ falses then some false else none

def digit? (radix : Nat) (c : Char) : Option Nat :=
  let v? :=
    if '0' ≤ c ∧ c ≤ '9' then some (c.toNat - 48)
    else if 'a' ≤ c ∧ c ≤ 'z' then some (c.toNat - 87)
    else if 'A' ≤ c ∧ c ≤ 'Z' then some (c.toNat - 55)
    else none
  v?.filter (· < radix)

def natFrom? (radix n : Nat) : List Char → Option Nat
  | [] => some n
  | c :: r => (digit? radix c).bind (fun v => natFrom? radix (n * radix + v) r)

def nat? (radix : Nat) (cs : List Char) : Option Nat :=
  if cs.isEmpty then none else natFrom? radix 0 cs

/-- A zero followed by digits only, behind at most one sign. -/
def isZeroPadded (cs : List Char) : Bool :=
  let cs := match cs with
    | '-' :: r => r
    | '+' :: r => r
    | _ => cs
  match cs with
  | '0' :: d :: r => (d :: r).all Char.isDigit
  | _ => false

def magnitude? (cs : List Char) : Option Nat :=
  match cs with
  | '0' :: 'x' :: r => nat? 16 r
  | '0' :: 'o' :: r => nat? 8 r
  | '0' :: 'b' :: r => nat? 2 r
  | _ => if isZeroPadded cs then none else nat? 10 cs

def unsigned? (s : String) : Option Nat :=
  match s.toList with
  | '+' :: r => magnitude? r
  | cs => magnitude? cs

def int? (s : String) : Option Int :=
  match s.toList with
  | '-' :: r => (magnitude? r).map (fun n => -(n : Int))
  | _ => (unsigned? s).map Int.ofNat

def infinity : Float := 1.0 / 0.0

def notANumber : Float := 0.0 / 0.0

def decimal? (cs : List Char) : Option Float :=
  let whole := cs.takeWhile Char.isDigit
  let r := cs.dropWhile Char.isDigit
  let (fraction, r) := match r with
    | '.' :: r => (r.takeWhile Char.isDigit, r.dropWhile Char.isDigit)
    | _ => ([], r)
  let digits := whole ++ fraction
  if digits.isEmpty then none
  else
    let power? : Option Int := match r with
      | [] => some 0
      | c :: r =>
        if c = 'e' ∨ c = 'E' then
          match r with
          | '-' :: r => (nat? 10 r).map (fun n => -(n : Int))
          | '+' :: r => (nat? 10 r).map Int.ofNat
          | _ => (nat? 10 r).map Int.ofNat
        else none
    power?.bind (fun power =>
      let mantissa := (natFrom? 10 0 digits).getD 0
      let exponent := power - (fraction.length : Int)
      if mantissa = 0 then some 0.0
      else if 400 < exponent + (digits.length : Int) then some infinity
      else if exponent + (digits.length : Int) < -400 then some 0.0
      else some (Float.ofScientific mantissa (decide (exponent < 0)) exponent.natAbs))

def signedDecimal? (cs : List Char) : Option Float :=
  match cs with
  | '-' :: r => (decimal? r).map (fun x => -x)
  | '+' :: r => decimal? r
  | _ => decimal? cs

def float? (s : String) : Option Float :=
  let unsigned := match s.toList with
    | '+' :: r => if r.head? == some '+' || r.head? == some '-' then [] else r
    | cs => cs
  let u := String.ofList unsigned
  if u ∈ [".inf", ".Inf", ".INF"] then some infinity
  else if s ∈ ["-.inf", "-.Inf", "-.INF"] then some (-infinity)
  else if s ∈ [".nan", ".NaN", ".NAN"] then some notANumber
  else (signedDecimal? unsigned).filter (fun x => x.isFinite)

def settle (s : String) : Datum :=
  if isNull s then .null
  else match bool? s with
    | some b => .bool b
    | none => match int? s with
      | some n => .int n
      | none =>
        if isZeroPadded s.toList then .text s
        else match float? s with
          | some x => .float x
          | none => .text s

end Appraisal.Scalar
