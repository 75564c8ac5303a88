set_option autoImplicit false

/-!
# Ranges of characters

Sets of characters are lists of closed ranges of codes. Large sets are written down as numbers
separated by blanks: the gap before a range and the number of characters after its first,
by turns.
-/
namespace Appraisal.Unicode

structure Range where
  first : Nat
  last : Nat
  deriving Repr, DecidableEq, Inhabited

namespace Range

def covers (r : Range) (n : Nat) : Bool := r.first ≤ n && n ≤ r.last

def anyContains (rs : List Range) (c : Char) : Bool := rs.any (covers · c.toNat)

def single (c : Char) : Range := ⟨c.toNat, c.toNat⟩

def numbers (n : Nat) : List Char → List Nat
  | [] => [n]
  | ' ' :: r => n :: numbers 0 r
  | d :: r => numbers (n * 10 + (d.toNat - 48)) r

/-- The ranges given by gaps and lengths; `next` is the first code not yet passed. -/
def fromGaps (next : Nat) : List Nat → List Range
  | gap :: more :: r => ⟨next + gap, next + gap + more⟩ :: fromGaps (next + gap + more + 1) r
  | _ => []

def ofGaps (written : List String) : List Range :=
  fromGaps 0 (written.flatMap (fun line => numbers 0 line.toList))

end Range

def blankRanges : List Range := [
  ⟨9, 13⟩, ⟨32, 32⟩, ⟨0x85, 0x85⟩, ⟨0xA0, 0xA0⟩, ⟨0x1680, 0x1680⟩, ⟨0x2000, 0x200A⟩,
  ⟨0x2028, 0x2029⟩, ⟨0x202F, 0x202F⟩, ⟨0x205F, 0x205F⟩, ⟨0x3000, 0x3000⟩]

/-- Every `stride`-th code from `first` to `last`, each related to the code `shift` away. -/
structure CaseRun where
  first : Nat
  last : Nat
  stride : Nat
  shift : Int

namespace CaseRun

def covers (run : CaseRun) (n : Nat) : Bool :=
  run.first ≤ n && n ≤ run.last && (n - run.first) % run.stride == 0

def image (run : CaseRun) (n : Nat) : Nat := ((n : Int) + run.shift).toNat

def images (run : CaseRun) (r : Range) : List Range :=
  let low := max run.first r.first
  let high := min run.last r.last
  if high < low then []
  else if run.stride = 1 then [⟨run.image low, run.image high⟩]
  else
    ((List.range (high + 1 - low)).filter (fun i => run.covers (low + i))).map
      (fun i => ⟨run.image (low + i), run.image (low + i)⟩)

end CaseRun

end Appraisal.Unicode
