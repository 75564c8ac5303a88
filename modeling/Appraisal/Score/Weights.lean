import Appraisal.Score.Arithmetic

set_option autoImplicit false

namespace Appraisal.Score

inductive Component where
  | stars
  | age
  | commits
  | license
  | activity
  deriving DecidableEq, Repr

def Component.all : List Component := [.stars, .age, .commits, .license, .activity]

def Component.name : Component → String
  | .stars => "stars"
  | .age => "age"
  | .commits => "commits"
  | .license => "license"
  | .activity => "activity"

structure Weights (R : Type) where
  stars : R
  age : R
  commits : R
  license : R
  activity : R

inductive WeightFlaw (R : Type) where
  | improper (component : Component) (value : R)
  | sum (sum : R)

namespace Weights

def default : Weights Float := ⟨0.3, 0.2, 0.2, 0.15, 0.15⟩

section
variable {R : Type}

def get (w : Weights R) : Component → R
  | .stars => w.stars
  | .age => w.age
  | .commits => w.commits
  | .license => w.license
  | .activity => w.activity

variable [Arithmetic R]
open Arithmetic

def sum (w : Weights R) : R := sumOf (Component.all.map w.get)

def tolerance : R := div one (ofNat 1000000)

def distance (x y : R) : R := if lt x y then sub y x else sub x y

def isImproper (x : R) : Bool := !isFinite x || lt x zero

/-- The first improper weight counts before the sum. -/
def flaw? (w : Weights R) : Option (WeightFlaw R) :=
  match Component.all.find? (fun c => isImproper (w.get c)) with
  | some c => some (.improper c (w.get c))
  | none => if lt tolerance (distance w.sum one) then some (.sum w.sum) else none

end

end Weights

end Appraisal.Score
