import Appraisal.Decimal.Shortest

set_option autoImplicit false

namespace Appraisal.Decimal

def digitsOf (n : Nat) : List Char := (Nat.toDigits 10 n)

def zeros (n : Nat) : List Char := List.replicate n '0'

/-- The digits with a point so that `exponent` is the power of ten of the last digit. -/
def positional (digits : List Char) (exponent : Int) : List Char :=
  if 0 ≤ exponent then digits ++ zeros exponent.toNat
  else
    let places := (-exponent).toNat
    if places < digits.length then
      digits.take (digits.length - places) ++ '.' :: digits.drop (digits.length - places)
    else '0' :: '.' :: (zeros (places - digits.length) ++ digits)

def isNegative (x : Float) : Bool := x.toBits >>> 63 == 1

def signed (x : Float) (magnitude : List Char) : String :=
  String.ofList (if isNegative x then '-' :: magnitude else magnitude)

def nonFinite? (x : Float) : Option String :=
  if x.isNaN then some "NaN"
  else if x.isInf then some (if isNegative x then "-inf" else "inf")
  else none

def plain (x : Float) : String :=
  match nonFinite? x with
  | some text => text
  | none =>
    let d := (Binary.ofBits x.toBits).shortest
    signed x (positional (digitsOf d.digits) d.exponent)

def fixed (places : Nat) (x : Float) : String :=
  match nonFinite? x with
  | some text => text
  | none =>
    let digits := digitsOf ((Binary.ofBits x.toBits).scaled places)
    let padded := zeros (places + 1 - digits.length) ++ digits
    signed x (if places = 0 then digits else positional padded (-(places : Int)))

def withExponent (digits : List Char) (scale : Int) : List Char :=
  let mantissa := match digits with
    | [] => []
    | [d] => [d]
    | d :: rest => d :: '.' :: rest
  let power := scale - 1
  mantissa ++ 'e' :: ((if power < 0 then ['-'] else []) ++ digitsOf power.natAbs)

/-- The digits of the document notation; the point is `scale` digits after their start. -/
def interchangeDigits (digits : List Char) (exponent : Int) : List Char :=
  let scale := (digits.length : Int) + exponent
  if 0 ≤ exponent ∧ scale ≤ 16 then digits ++ zeros exponent.toNat ++ ['.', '0']
  else if 0 < scale ∧ scale ≤ 16 then positional digits exponent
  else if -5 < scale ∧ scale ≤ 0 then positional digits exponent
  else withExponent digits scale

def interchange (x : Float) : Option String :=
  match nonFinite? x with
  | some _ => none
  | none =>
    let d := (Binary.ofBits x.toBits).shortest
    some (signed x (interchangeDigits (digitsOf d.digits) d.exponent))

end Appraisal.Decimal
