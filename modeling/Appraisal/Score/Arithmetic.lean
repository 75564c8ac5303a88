set_option autoImplicit false

/-!
# Values between zero and one

Counts and spans of time are brought into the range from zero to one, each against a cap. The
arithmetic is a parameter: programs compute with doubles, and laws may speak of the reals.
-/
namespace Appraisal.Score

class Arithmetic (R : Type) where
  ofNat : Nat → R
  add : R → R → R
  sub : R → R → R
  mul : R → R → R
  div : R → R → R
  /-- The logarithm of one more than the value. -/
  logOnePlus : R → R
  lt : R → R → Bool
  le : R → R → Bool
  isFinite : R → Bool

/-- The sum with one is not exact; its error is made up for where it would show. -/
def logOnePlusFloat (x : Float) : Float :=
  let sum := 1 + x
  if sum == 1 then x
  else if sum.isFinite then sum.log * (x / (sum - 1))
  else sum.log

instance : Arithmetic Float where
  ofNat n := n.toUInt64.toFloat
  add x y := x + y
  sub x y := x - y
  mul x y := x * y
  div x y := x / y
  logOnePlus := logOnePlusFloat
  lt x y := x < y
  le x y := x ≤ y
  isFinite := Float.isFinite

section
variable {R : Type} [Arithmetic R]
open Arithmetic

def zero : R := ofNat 0

def one : R := ofNat 1

def atMostOne (x : R) : R := if lt x one then x else one

def clampUnit (x : R) : R :=
  if lt x zero then zero else if lt one x then one else x

def sumOf : List R → R
  | [] => zero
  | x :: rest => rest.foldl add x

def logSaturating (value cap : R) : R :=
  if le value zero || le cap zero then zero
  else atMostOne (div (logOnePlus value) (logOnePlus cap))

def linearRamp (value cap : R) : R :=
  if le cap zero then zero else clampUnit (div value cap)

def linearDecay (elapsed window : R) : R :=
  if le window zero then zero else clampUnit (sub one (div elapsed window))

end

end Appraisal.Score
