import Appraisal.Pattern.Reader
import Appraisal.Pattern.Match

set_option autoImplicit false

namespace Appraisal.Scan

inductive Category where
  | secret
  | suspicious
  deriving DecidableEq, Repr

inductive Severity where
  | low
  | medium
  | high
  | critical
  deriving DecidableEq, Repr

def Category.name : Category → String
  | .secret => "secret"
  | .suspicious => "suspicious"

def Category.all : List Category := [.secret, .suspicious]

def Severity.name : Severity → String
  | .low => "low"
  | .medium => "medium"
  | .high => "high"
  | .critical => "critical"

def Severity.all : List Severity := [.low, .medium, .high, .critical]

structure Rule where
  id : String
  category : Category
  pattern : String
  severity : Severity
  deriving DecidableEq, Repr

structure Detector where
  rule : Rule
  pattern : Pattern

def Detector.isSecret (d : Detector) : Bool := d.rule.category == .secret

structure RuleSet where
  detectors : List Detector

inductive RuleError where
  | duplicateId (id : String)
  | unreadablePattern (id : String)
  deriving DecidableEq, Repr

namespace RuleSet

/-- Reads the rules one by one; `seen` holds the names so far. -/
def compileFrom (seen : List String) : List Rule → Except RuleError (List Detector)
  | [] => .ok []
  | rule :: rest =>
    if rule.id ∈ seen then .error (.duplicateId rule.id)
    else match Pattern.read? rule.pattern.toList with
      | none => .error (.unreadablePattern rule.id)
      | some pattern =>
        match compileFrom (rule.id :: seen) rest with
        | .ok detectors => .ok (⟨rule, pattern⟩ :: detectors)
        | .error e => .error e

/-- The first rule that repeats a name or has no readable pattern is the error. -/
def compile (rules : List Rule) : Except RuleError RuleSet :=
  (compileFrom [] rules).map RuleSet.mk

def secrets (set : RuleSet) : List Detector := set.detectors.filter Detector.isSecret

def find? (set : RuleSet) (id : String) : Option Detector :=
  set.detectors.find? (fun d => d.rule.id == id)

theorem detectors_of_compileFrom {seen : List String} {rules : List Rule}
    {detectors : List Detector} (h : compileFrom seen rules = .ok detectors) :
    detectors.map Detector.rule = rules := by
  induction rules generalizing seen detectors with
  | nil =>
    obtain rfl := Except.ok.inj h
    rfl
  | cons rule rest ih =>
    rw [compileFrom] at h
    split at h
    · simp at h
    · split at h
      · simp at h
      · split at h
        · rename_i tail htail
          obtain rfl := Except.ok.inj h
          rw [List.map_cons, ih htail]
        · simp at h

theorem detectors_of_compile {given : List Rule} {set : RuleSet} (h : compile given = .ok set) :
    set.detectors.map Detector.rule = given := by
  unfold compile at h
  cases hfrom : compileFrom [] given with
  | error e => simp [hfrom, Except.map] at h
  | ok detectors =>
    simp only [hfrom, Except.map, Except.ok.injEq] at h
    rw [← h]
    exact detectors_of_compileFrom hfrom

theorem secrets_of_compile {given : List Rule} {set : RuleSet} (h : compile given = .ok set) :
    set.secrets.map Detector.rule = given.filter (fun rule => rule.category == .secret) := by
  rw [secrets, ← detectors_of_compile h, List.filter_map]
  rfl

end RuleSet

end Appraisal.Scan
