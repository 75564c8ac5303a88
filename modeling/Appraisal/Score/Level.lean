import Appraisal.Score.Arithmetic

set_option autoImplicit false

namespace Appraisal.Score

inductive Level where
  | low
  | medium
  | high
  | veryHigh
  deriving DecidableEq, Repr

def Level.all : List Level := [.low, .medium, .high, .veryHigh]

def Level.name : Level → String
  | .low => "low"
  | .medium => "medium"
  | .high => "high"
  | .veryHigh => "very_high"

structure Threshold (R : Type) where
  below : R
  level : Level

def defaultThresholds : List (Threshold Float) :=
  [⟨0.3, .low⟩, ⟨0.6, .medium⟩, ⟨0.8, .high⟩, ⟨1.0, .veryHigh⟩]

inductive ThresholdFlaw (R : Type) where
  | none
  | notFinite (level : Level)
  | notAscending (first second : Threshold R)

section
variable {R : Type} [Arithmetic R]
open Arithmetic

/-- The first two neighbours of which the second is not above the first. -/
def descent? : List (Threshold R) → Option (Threshold R × Threshold R)
  | a :: b :: rest => if le b.below a.below then some (a, b) else descent? (b :: rest)
  | _ => .none

def thresholdFlaw? (ts : List (Threshold R)) : Option (ThresholdFlaw R) :=
  if ts.isEmpty then some .none
  else match ts.find? (fun t => !isFinite t.below) with
    | some t => some (.notFinite t.level)
    | .none => (descent? ts).map (fun p => .notAscending p.1 p.2)

def levelFor (ts : List (Threshold R)) (score : R) : Level :=
  match (ts.find? (fun t => lt score t.below)).or ts.getLast? with
  | some t => t.level
  | .none => .low

end

end Appraisal.Score
