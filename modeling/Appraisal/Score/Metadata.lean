import Appraisal.Time.Instant

set_option autoImplicit false

namespace Appraisal.Score

structure Metadata where
  fullName? : Option String
  url? : Option String
  description? : Option String
  language? : Option String
  license? : Option String
  stars? : Option Nat
  forks? : Option Nat
  openIssues? : Option Nat
  sizeKb? : Option Nat
  createdAt? : Option Instant
  updatedAt? : Option Instant
  pushedAt? : Option Instant
  retrievedAt? : Option Instant
  deriving DecidableEq, Repr, Inhabited

namespace Metadata

def empty : Metadata :=
  ⟨none, none, none, none, none, none, none, none, none, none, none, none, none⟩

def daysBetween? (earlier? later? : Option Instant) : Option Nat := do
  return (← earlier?).daysUntil (← later?)

/-- Whole days from creation to retrieval. -/
def ageDays? (m : Metadata) : Option Nat := daysBetween? m.createdAt? m.retrievedAt?

def daysSincePush? (m : Metadata) : Option Nat := daysBetween? m.pushedAt? m.retrievedAt?

end Metadata

end Appraisal.Score
