import Appraisal.Report.Basic

set_option autoImplicit false

/-!
# The index of reports

An index has one entry per repository, in the order in which repositories were first entered, and
totals over its entries. Entering a repository again replaces its entry in place.
-/
namespace Appraisal

structure IndexEntry where
  name : String
  url? : Option String
  score : Float
  level : Score.Level
  issueCount : Nat
  strategyCount : Nat
  indicatorCount : Nat
  riskCount : Nat
  reportPath : String
  addedAt : Instant
  deriving DecidableEq

def IndexEntry.ofReport (name : String) (r : Report) (reportPath : String) (now : Instant) :
    IndexEntry where
  name := name
  url? := r.metadata.url?
  score := r.score.overall
  level := r.score.level
  issueCount := r.issueCount
  strategyCount := r.strategies.length
  indicatorCount := r.indicators.length
  riskCount := r.riskManagement.length
  reportPath := reportPath
  addedAt := now

structure IndexTotals where
  repositories : Nat
  strategies : Nat
  indicators : Nat
  risks : Nat
  issues : Nat
  deriving DecidableEq, Repr

structure ReportIndex where
  version : String
  createdAt : Instant
  updatedAt : Instant
  entries : List IndexEntry
  totals : IndexTotals
  deriving DecidableEq

namespace ReportIndex

def currentVersion : String := "1.0"

def empty (now : Instant) : ReportIndex := ⟨currentVersion, now, now, [], ⟨0, 0, 0, 0, 0⟩⟩

def sumOf (count : IndexEntry → Nat) : List IndexEntry → Nat
  | [] => 0
  | e :: rest => count e + sumOf count rest

/-- Totals are counted in 64 bits. -/
def totalOf (count : IndexEntry → Nat) (entries : List IndexEntry) : Nat :=
  sumOf count entries % UInt64.size

def totalsOf (entries : List IndexEntry) : IndexTotals where
  repositories := entries.length
  strategies := totalOf IndexEntry.strategyCount entries
  indicators := totalOf IndexEntry.indicatorCount entries
  risks := totalOf IndexEntry.riskCount entries
  issues := totalOf IndexEntry.issueCount entries

def recomputed (i : ReportIndex) : ReportIndex := { i with totals := totalsOf i.entries }

/-- Entries with the first one of the same name replaced, or with a new one at the end. -/
def put (entry : IndexEntry) : List IndexEntry → List IndexEntry
  | [] => [entry]
  | e :: rest => if e.name = entry.name then entry :: rest else e :: put entry rest

def upsert (i : ReportIndex) (entry : IndexEntry) (now : Instant) : ReportIndex :=
  recomputed { i with entries := put entry i.entries, updatedAt := now }

/-- The index without the entries of a name; the totals stay as they are. -/
def removed (i : ReportIndex) (name : String) : ReportIndex :=
  { i with entries := i.entries.filter (fun e => e.name ≠ name) }

/-- Where a double stands in the order of its bits, in which negative zero comes before zero. -/
def rank (x : Float) : Int :=
  let bits := x.toBits.toNat
  let half := UInt64.size / 2
  if bits < half then bits else -((bits - half : Nat) : Int) - 1

def scoreGe (a b : IndexEntry) : Bool := rank b.score ≤ rank a.score

def passes (minScore? : Option Float) (maxIssues? : Option Nat) (e : IndexEntry) : Bool :=
  minScore?.all (fun least => least ≤ e.score) && maxIssues?.all (fun most => e.issueCount ≤ most)

def filter (i : ReportIndex) (minScore? : Option Float) (maxIssues? : Option Nat) :
    List IndexEntry :=
  (i.entries.filter (passes minScore? maxIssues?)).mergeSort scoreGe

end ReportIndex

end Appraisal
