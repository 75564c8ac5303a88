import Appraisal.Proofs.Analysis.Outcomes
import Mathlib.Algebra.GroupWithZero.Nat

set_option autoImplicit false

namespace Appraisal

def Cancellation.at (c : Cancellation) (i : Nat) : Cancellation :=
  ⟨fun _ => c.seen i, c.atEnd, fun _ h => c.atEnd_of_seen i h⟩

/-- The lists of one result are those of others one after another, with the findings sorted, and
its numbers are the sums of theirs. -/
structure AnalysisResult.Joins (whole : AnalysisResult) (parts : List AnalysisResult) : Prop where
  findings : whole.findings = (parts.flatMap AnalysisResult.findings).mergeSort findingLe
  entities : whole.entities = parts.flatMap AnalysisResult.entities
  filesScanned : whole.filesScanned = (parts.map AnalysisResult.filesScanned).sum
  filesClassified : whole.filesClassified = (parts.map AnalysisResult.filesClassified).sum
  skipped : whole.skipped = parts.flatMap AnalysisResult.skipped
  parseErrors : whole.parseErrors = parts.flatMap AnalysisResult.parseErrors

section Lists

variable {α β κ : Type}

theorem countP_eq_sum (p : α → Bool) (l : List α) :
    l.countP p = (l.map (fun x => [x].countP p)).sum := by
  have hsum := List.countP_flatMap (p := p) (l := l) (f := fun x => [x])
  rwa [List.flatMap_singleton'] at hsum

theorem filterMap_eq_flatMap (f : α → Option β) (l : List α) :
    l.filterMap f = l.flatMap (fun x => [x].filterMap f) := by
  rw [← List.filterMap_flatMap, List.flatMap_singleton']

theorem map_zipIdx (f : α → β) (l : List α) : l.zipIdx.map (fun e => f e.1) = l.map f := by
  have hfst := congrArg (List.map f) (List.zipIdx_map_fst 0 l)
  rwa [List.map_map] at hfst

/-- When each key has one owner, what carries a key is what its owner gives. -/
theorem filter_flatMap [DecidableEq κ] (key : α → κ) (carries : β → κ) (gives : α → List β)
    {l : List α} (hkeys : (l.map key).Nodup) (hgives : ∀ x ∈ l, ∀ y ∈ gives x, carries y = key x)
    {x : α} (hx : x ∈ l) :
    (l.flatMap gives).filter (fun y => carries y = key x) = gives x := by
  induction l with
  | nil => simp at hx
  | cons z l ih =>
    rw [List.map_cons, List.nodup_cons] at hkeys
    obtain ⟨hz, hkeys⟩ := hkeys
    have hrest (k : κ) (hk : k ∉ l.map key) :
        (l.flatMap gives).filter (fun y => carries y = k) = [] := by
      simp only [List.filter_eq_nil_iff, List.mem_flatMap, decide_eq_true_eq]
      rintro y ⟨w, hw, hy⟩ rfl
      rw [hgives w (List.mem_cons_of_mem z hw) y hy] at hk
      exact hk (List.mem_map_of_mem hw)
    rw [List.flatMap_cons, List.filter_append]
    rcases List.mem_cons.1 hx with rfl | hx
    · have hown := hgives x List.mem_cons_self
      rw [hrest (key x) hz, List.append_nil, List.filter_eq_self]
      exact fun y hy => by simp [hown y hy]
    · have hne : key z ≠ key x := fun h => hz (h ▸ List.mem_map_of_mem hx)
      have hown := hgives z List.mem_cons_self
      have hnone : (gives z).filter (fun y => carries y = key x) = [] := by
        rw [List.filter_eq_nil_iff]
        exact fun y hy => by simp [hown y hy, hne]
      rw [hnone, List.nil_append]
      exact ih hkeys (fun w hw => hgives w (List.mem_cons_of_mem z hw)) hx

end Lists

namespace Analyzer

variable (a : Analyzer) (fs : FileSystem) (metadata : Score.Metadata)

theorem merge_singleton_findings {o : FileOutcome} (cancelled : Bool)
    (h : o.findings.Pairwise (fun x y => findingLe x y = true)) :
    (a.merge [o] metadata cancelled).findings = o.findings := by
  simp only [merge, List.flatMap_cons, List.flatMap_nil, List.append_nil]
  exact List.mergeSort_of_pairwise h

theorem merge_joins {outcomes : List FileOutcome} (cancelled : Bool)
    (h : ∀ o ∈ outcomes, o.findings.Pairwise (fun x y => findingLe x y = true)) :
    (a.merge outcomes metadata cancelled).Joins
      (outcomes.map (fun o => a.merge [o] metadata cancelled)) where
  findings := by
    rw [List.flatMap_map]
    have hparts : outcomes.flatMap (fun o => (a.merge [o] metadata cancelled).findings) =
        outcomes.flatMap FileOutcome.findings :=
      List.flatMap_congr fun o ho => a.merge_singleton_findings metadata cancelled (h o ho)
    rw [hparts]
    rfl
  entities := by
    rw [List.flatMap_map]
    simp only [merge, List.flatMap_cons, List.flatMap_nil, List.append_nil]
  filesScanned := by
    rw [List.map_map]
    exact countP_eq_sum FileOutcome.isScanned outcomes
  filesClassified := by
    rw [List.map_map]
    exact countP_eq_sum FileOutcome.isClassified outcomes
  skipped := by
    rw [List.flatMap_map]
    exact filterMap_eq_flatMap FileOutcome.skippedFile? outcomes
  parseErrors := by
    rw [List.flatMap_map]
    exact filterMap_eq_flatMap FileOutcome.parseError? outcomes

theorem analyze_joins (files : List SourceFile) (c : Cancellation) :
    (a.analyze fs files metadata c).Joins
      (files.zipIdx.map (fun e => a.analyze fs [e.1] metadata (c.at e.2))) := by
  have hsorted (o : FileOutcome) (ho : o ∈ a.outcomes fs c files) :
      o.findings.Pairwise (fun x y => findingLe x y = true) := by
    obtain ⟨e, _, rfl⟩ := List.mem_map.1 ho
    exact (a.outcome_about fs (c.seen e.2) e.1).sorted
  have hjoins := a.merge_joins metadata c.atEnd hsorted
  rw [outcomes, List.map_map] at hjoins
  exact hjoins

def analyzeFile (file : SourceFile) : AnalysisResult := a.analyze fs [file] metadata .none

/-- Without a wish to stop, the place of a file in the list does not matter. -/
theorem analyze_joins_files (files : List SourceFile) :
    (a.analyze fs files metadata .none).Joins (files.map (a.analyzeFile fs metadata)) := by
  have hjoins := a.analyze_joins fs metadata files .none
  exact map_zipIdx (a.analyzeFile fs metadata) files ▸ hjoins

end Analyzer

end Appraisal
