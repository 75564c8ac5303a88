set_option autoImplicit false

/-!
# The decimal numbers that stand for a double

A finite double stands for every real that rounds to it. `shortest` selects, among the decimals in
that interval, one with the fewest digits, and the nearest of those. `scaled` rounds the
exact value to a number of places, a half to the even neighbour.
-/
namespace Appraisal.Decimal

structure Binary where
  significand : Nat
  exponent : Int
  /-- The neighbour below is half as far away as the neighbour above. -/
  narrowBelow : Bool

def Binary.ofBits (bits : UInt64) : Binary :=
  let exponent := ((bits >>> 52) &&& 0x7FF).toNat
  let fraction := (bits &&& 0xFFFFFFFFFFFFF).toNat
  if exponent = 0 then ⟨fraction, -1074, false⟩
  else ⟨0x10000000000000 + fraction, (exponent : Int) - 1075, fraction == 0 && 1 < exponent⟩

structure Scientific where
  digits : Nat
  exponent : Int
  deriving Repr, DecidableEq

def compareScaled (a : Nat) (i : Int) (n : Nat) (j : Int) : Ordering :=
  compare (a * Nat.pow 10 i.toNat * Nat.pow 2 (-j).toNat)
    (n * Nat.pow 2 j.toNat * Nat.pow 10 (-i).toNat)

/-- The decimal lies among the reals that round to `x`; the ends belong to an even significand. -/
def Binary.readsBack (x : Binary) (d : Scientific) : Bool :=
  let low := 4 * x.significand - (if x.narrowBelow then 1 else 2)
  let high := 4 * x.significand + 2
  let closed := x.significand % 2 == 0
  let below := compareScaled d.digits d.exponent low (x.exponent - 2)
  let above := compareScaled d.digits d.exponent high (x.exponent - 2)
  (below == .gt || (closed && below == .eq)) && (above == .lt || (closed && above == .eq))

def Binary.floorOnGrid (x : Binary) (k : Int) : Nat :=
  (x.significand * Nat.pow 2 x.exponent.toNat * Nat.pow 10 (-k).toNat) /
    (Nat.pow 2 (-x.exponent).toNat * Nat.pow 10 k.toNat)

/-- Of the two neighbours of `x` on the grid of `10 ^ k`, the nearest that reads back. -/
def Binary.onGrid? (x : Binary) (k : Int) : Option Scientific :=
  let d := x.floorOnGrid k
  let lower : Scientific := ⟨d, k⟩
  let upper : Scientific := ⟨d + 1, k⟩
  match x.readsBack lower, x.readsBack upper with
  | true, false => some lower
  | false, true => some upper
  | false, false => none
  | true, true =>
    match compareScaled (2 * d + 1) k (2 * x.significand) x.exponent with
    | .lt => some upper
    | .gt => some lower
    | .eq => if d % 2 = 0 then some lower else some upper

def Binary.exact (x : Binary) : Scientific :=
  if 0 ≤ x.exponent then ⟨x.significand * Nat.pow 2 x.exponent.toNat, 0⟩
  else ⟨x.significand * Nat.pow 5 (-x.exponent).toNat, x.exponent⟩

def Binary.decimalScale (x : Binary) : Int :=
  ((x.significand.log2 : Int) + x.exponent + 1) * 30103 / 100000 + 2

def Binary.search (x : Binary) : Nat → Int → Scientific
  | 0, _ => x.exact
  | steps + 1, k => match x.onGrid? k with
    | some d => d
    | none => x.search steps (k - 1)

/-- The fewest digits that read back; of those, the nearest. -/
def Binary.shortest (x : Binary) : Scientific :=
  if x.significand = 0 then ⟨0, 0⟩ else x.search 24 x.decimalScale

def roundDiv (num den : Nat) : Nat :=
  let q := num / den
  let r := num % den
  if 2 * r < den then q else if den < 2 * r then q + 1 else q + q % 2

def Binary.scaled (x : Binary) (places : Nat) : Nat :=
  roundDiv (x.significand * Nat.pow 2 x.exponent.toNat * Nat.pow 10 places)
    (Nat.pow 2 (-x.exponent).toNat)

end Appraisal.Decimal
