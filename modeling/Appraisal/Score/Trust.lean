import Appraisal.Score.Level
import Appraisal.Score.Metadata
import Appraisal.Score.Params
import Appraisal.Score.Weights

set_option autoImplicit false

namespace Appraisal.Score

inductive RawValue where
  | missing
  | count (n : Nat)
  | text (s : String)
  deriving DecidableEq, Repr

structure ScoredComponent (R : Type) where
  component : Component
  raw : RawValue
  normalized : R
  weight : R

structure TrustScore (R : Type) where
  overall : R
  level : Level
  components : List (ScoredComponent R)

section
variable {R : Type} [Arithmetic R]
open Arithmetic

/-- A component that is a number, measured by `measure` if it is known. -/
def counted (n? : Option Nat) (measure : R → R) : RawValue × R :=
  match n? with
  | some n => (.count n, measure (ofNat n))
  | none => (.missing, zero)

def normalize (m : Metadata) (p : Params R) : Component → RawValue × R
  | .stars => counted m.stars? (logSaturating · (ofNat p.starCap))
  | .age => counted m.ageDays? (linearRamp · (ofNat p.ageCapDays))
  | .commits => counted m.sizeKb? (logSaturating · (ofNat p.sizeCapKb))
  | .license =>
    match licenseName? m.license? with
    | some name =>
      (.text (String.ofList name),
        licenseScore m.license? p.recognizedLicenses p.unrecognizedLicenseScore)
    | none => (.missing, zero)
  | .activity => counted m.daysSincePush? (linearDecay · (ofNat p.activityWindowDays))

def scoredComponent (m : Metadata) (w : Weights R) (p : Params R) (c : Component) :
    ScoredComponent R :=
  let (raw, normalized) := normalize m p c
  ⟨c, raw, normalized, w.get c⟩

def overallOf (components : List (ScoredComponent R)) : R :=
  clampUnit (sumOf (components.map (fun c => mul c.normalized c.weight)))

def score (m : Metadata) (w : Weights R) (ts : List (Threshold R)) (p : Params R) :
    TrustScore R :=
  let components := Component.all.map (scoredComponent m w p)
  let overall := overallOf components
  ⟨overall, levelFor ts overall, components⟩

end

end Appraisal.Score
