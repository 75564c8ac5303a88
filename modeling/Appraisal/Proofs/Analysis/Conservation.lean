import Appraisal.Proofs.Analysis.Isolation
import Mathlib.Algebra.Order.BigOperators.Group.List

set_option autoImplicit false

/-!
# Every file is accounted for

Wherever the wish to stop is noticed, each file is either scanned or skipped, once. The files at
which it is noticed are skipped for that reason, and the others give what they always give.
-/
namespace Appraisal

/-- The files at which the wish to stop is not noticed. -/
def Cancellation.spared (c : Cancellation) (files : List SourceFile) : List SourceFile :=
  (files.zipIdx.filter (fun e => !c.seen e.2)).map (·.1)

structure AnalysisResult.Single (r : AnalysisResult) : Prop where
  once : r.filesScanned + r.skipped.length = 1
  skipped : r.skipped ≠ [] → r.findings = [] ∧ r.entities = [] ∧ r.parseErrors = []
  refused : r.parseErrors ≠ [] → r.entities = []
  parseErrors_le : r.parseErrors.length ≤ r.filesClassified
  filesClassified_le : r.filesClassified ≤ r.filesScanned

section Lists

variable {α β : Type}

theorem flatMap_filter_of_nil {f : α → List β} {p : α → Bool} {l : List α}
    (h : ∀ x ∈ l, p x = false → f x = []) : (l.filter p).flatMap f = l.flatMap f := by
  induction l with
  | nil => rfl
  | cons x l ih =>
    have htail := ih (fun y hy => h y (List.mem_cons_of_mem x hy))
    cases hp : p x with
    | false =>
      rw [List.filter_cons_of_neg (by simp [hp]), List.flatMap_cons, htail,
        h x List.mem_cons_self hp, List.nil_append]
    | true => rw [List.filter_cons_of_pos hp, List.flatMap_cons, List.flatMap_cons, htail]

theorem sum_filter_of_zero {f : α → Nat} {p : α → Bool} {l : List α}
    (h : ∀ x ∈ l, p x = false → f x = 0) : ((l.filter p).map f).sum = (l.map f).sum := by
  induction l with
  | nil => rfl
  | cons x l ih =>
    have htail := ih (fun y hy => h y (List.mem_cons_of_mem x hy))
    cases hp : p x with
    | false =>
      rw [List.filter_cons_of_neg (by simp [hp]), List.map_cons, List.sum_cons, htail,
        h x List.mem_cons_self hp, Nat.zero_add]
    | true =>
      rw [List.filter_cons_of_pos hp, List.map_cons, List.map_cons, List.sum_cons, List.sum_cons,
        htail]

theorem flatMap_sublist_map {f : α → List β} {g : α → β} {l : List α}
    (h : ∀ x ∈ l, (f x).Sublist [g x]) : (l.flatMap f).Sublist (l.map g) := by
  induction l with
  | nil => exact List.Sublist.slnil
  | cons x l ih =>
    have htail := ih (fun y hy => h y (List.mem_cons_of_mem x hy))
    rw [List.flatMap_cons, List.map_cons, ← List.singleton_append]
    exact (h x List.mem_cons_self).append htail

end Lists

namespace AnalysisResult.Joins

variable {whole : AnalysisResult} {parts : List AnalysisResult}

theorem scanned_add_skipped (h : whole.Joins parts) (hparts : ∀ r ∈ parts, r.Single) :
    whole.filesScanned + whole.skipped.length = parts.length := by
  rw [h.filesScanned, h.skipped]
  clear h
  induction parts with
  | nil => rfl
  | cons r parts ih =>
    have honce := (hparts r List.mem_cons_self).once
    have hrest := ih (fun s hs => hparts s (List.mem_cons_of_mem r hs))
    simp only [List.map_cons, List.sum_cons, List.flatMap_cons, List.length_append,
      List.length_cons]
    omega

theorem parseErrors_le (h : whole.Joins parts) (hparts : ∀ r ∈ parts, r.Single) :
    whole.parseErrors.length ≤ whole.filesClassified := by
  rw [h.parseErrors, h.filesClassified, List.length_flatMap]
  exact List.sum_le_sum fun r hr => (hparts r hr).parseErrors_le

theorem filesClassified_le (h : whole.Joins parts) (hparts : ∀ r ∈ parts, r.Single) :
    whole.filesClassified ≤ whole.filesScanned := by
  rw [h.filesClassified, h.filesScanned]
  exact List.sum_le_sum fun r hr => (hparts r hr).filesClassified_le

end AnalysisResult.Joins

namespace Analyzer

variable (a : Analyzer) (fs : FileSystem) (metadata : Score.Metadata)

/-- What a file at a position adds to a run. -/
def share (c : Cancellation) (e : SourceFile × Nat) : AnalysisResult :=
  a.analyze fs [e.1] metadata (c.at e.2)

theorem share_of_seen {c : Cancellation} {e : SourceFile × Nat} (h : c.seen e.2 = true) :
    (a.share fs metadata c e).listing = ⟨[], [], [⟨e.1.relativePath, .cancelled⟩], []⟩ ∧
      (a.share fs metadata c e).filesScanned = 0 ∧
      (a.share fs metadata c e).filesClassified = 0 := by
  have hshare : a.share fs metadata c e =
      a.merge [.skip e.1 .cancelled] metadata c.atEnd := by
    change a.merge [a.outcome fs (c.seen e.2) e.1] metadata c.atEnd = _
    rw [h]
    rfl
  rw [hshare]
  refine ⟨?_, rfl, rfl⟩
  have hnone : (a.merge [.skip e.1 .cancelled] metadata c.atEnd).findings = [] :=
    a.merge_singleton_findings metadata c.atEnd List.Pairwise.nil
  simp only [AnalysisResult.listing, hnone]
  rfl

theorem share_of_not_seen {c : Cancellation} {e : SourceFile × Nat} (h : c.seen e.2 = false) :
    (a.share fs metadata c e).listing = (a.analyzeFile fs metadata e.1).listing ∧
      (a.share fs metadata c e).filesScanned = (a.analyzeFile fs metadata e.1).filesScanned ∧
      (a.share fs metadata c e).filesClassified =
        (a.analyzeFile fs metadata e.1).filesClassified := by
  have hshare : a.share fs metadata c e =
      a.merge [a.outcome fs false e.1] metadata c.atEnd := by
    change a.merge [a.outcome fs (c.seen e.2) e.1] metadata c.atEnd = _
    rw [h]
  rw [hshare]
  exact ⟨rfl, rfl, rfl⟩

theorem merge_single {o : FileOutcome} (cancelled : Bool)
    (h : o.findings.Pairwise (fun x y => findingLe x y = true)) :
    (a.merge [o] metadata cancelled).Single := by
  have hfindings := a.merge_singleton_findings metadata cancelled h
  cases o with
  | skipped file =>
    exact ⟨rfl, fun _ => ⟨hfindings, rfl, rfl⟩, fun _ => rfl, Nat.le_refl 0, Nat.le_refl 0⟩
  | scanned findings c? =>
    have hnot (hskipped : (a.merge [.scanned findings c?] metadata cancelled).skipped ≠ []) :
        False := hskipped rfl
    cases c? with
    | none =>
      exact ⟨rfl, fun h => (hnot h).elim, fun _ => rfl, Nat.le_refl 0, Nat.zero_le 1⟩
    | some c =>
      cases c with
      | classified entities =>
        exact ⟨rfl, fun h => (hnot h).elim, fun h => (h rfl).elim, Nat.zero_le 1, Nat.le_refl 1⟩
      | refused error =>
        exact ⟨rfl, fun h => (hnot h).elim, fun _ => rfl, Nat.le_refl 1, Nat.le_refl 1⟩

theorem share_single (c : Cancellation) (e : SourceFile × Nat) :
    (a.share fs metadata c e).Single :=
  a.merge_single metadata c.atEnd (a.outcome_about fs (c.seen e.2) e.1).sorted

theorem skippedFile?_of_mem_share {c : Cancellation} {e : SourceFile × Nat} {s : SkippedFile}
    (h : s ∈ (a.share fs metadata c e).skipped) :
    (a.outcome fs (c.seen e.2) e.1).skippedFile? = some s := by
  obtain ⟨o, ho, hs⟩ := List.mem_filterMap.1 h
  rwa [List.mem_singleton.1 ho] at hs

theorem seen_of_mem_share {c : Cancellation} {e : SourceFile × Nat} {s : SkippedFile}
    (h : s ∈ (a.share fs metadata c e).skipped) (hreason : s.reason = .cancelled) :
    c.seen e.2 = true := by
  have hs := a.skippedFile?_of_mem_share fs metadata h
  rcases a.outcome_cases fs e.1 (c.seen e.2) with ⟨reason, ho, hiff⟩ | ⟨_, text, content, ho⟩
  · rw [ho] at hs
    obtain rfl : ⟨e.1.relativePath, reason⟩ = s := Option.some.inj hs
    exact hiff.1 hreason
  · rw [ho] at hs
    simp [FileOutcome.skippedFile?] at hs

theorem share_skipped_sublist (c : Cancellation) (e : SourceFile × Nat) :
    ((a.share fs metadata c e).skipped.map SkippedFile.filePath).Sublist [e.1.relativePath] := by
  have honce := (a.share_single fs metadata c e).once
  have hpath (s : SkippedFile) (hs : s ∈ (a.share fs metadata c e).skipped) :
      s.filePath = e.1.relativePath :=
    (a.outcome_about fs (c.seen e.2) e.1).skippedFile s (a.skippedFile?_of_mem_share fs metadata hs)
  cases hlist : (a.share fs metadata c e).skipped with
  | nil => exact List.nil_sublist _
  | cons s rest =>
    rw [hlist] at honce hpath
    simp only [List.length_cons] at honce
    have hrest : rest = [] := List.eq_nil_of_length_eq_zero (by omega)
    rw [hrest, List.map_singleton, hpath s List.mem_cons_self]

section Spared

variable {c : Cancellation} {files : List SourceFile}

theorem flatMap_shares {β : Type} (field : AnalysisResult → List β)
    (hseen : ∀ e : SourceFile × Nat, c.seen e.2 = true →
      field (a.share fs metadata c e) = [])
    (hother : ∀ e : SourceFile × Nat, c.seen e.2 = false →
      field (a.share fs metadata c e) = field (a.analyzeFile fs metadata e.1)) :
    (files.zipIdx.map (a.share fs metadata c)).flatMap field =
      ((c.spared files).map (a.analyzeFile fs metadata)).flatMap field := by
  have hdrop : (files.zipIdx.filter (fun e => !c.seen e.2)).flatMap
      (fun e => field (a.share fs metadata c e)) =
        files.zipIdx.flatMap (fun e => field (a.share fs metadata c e)) :=
    flatMap_filter_of_nil fun e _ he => hseen e (by simpa using he)
  rw [Cancellation.spared, List.map_map, List.flatMap_map, List.flatMap_map, ← hdrop]
  refine List.flatMap_congr fun e he => hother e ?_
  simpa using (List.mem_filter.1 he).2

theorem sum_shares (field : AnalysisResult → Nat)
    (hseen : ∀ e : SourceFile × Nat, c.seen e.2 = true → field (a.share fs metadata c e) = 0)
    (hother : ∀ e : SourceFile × Nat, c.seen e.2 = false →
      field (a.share fs metadata c e) = field (a.analyzeFile fs metadata e.1)) :
    ((files.zipIdx.map (a.share fs metadata c)).map field).sum =
      (((c.spared files).map (a.analyzeFile fs metadata)).map field).sum := by
  have hdrop : ((files.zipIdx.filter (fun e => !c.seen e.2)).map
      (field ∘ a.share fs metadata c)).sum =
        (files.zipIdx.map (field ∘ a.share fs metadata c)).sum :=
    sum_filter_of_zero fun e _ he => hseen e (by simpa using he)
  rw [Cancellation.spared, List.map_map, List.map_map, List.map_map, ← hdrop]
  refine congrArg List.sum (List.map_congr_left fun e he => hother e ?_)
  simpa using (List.mem_filter.1 he).2

end Spared

end Analyzer

structure AccountsFor (a : Analyzer) (fs : FileSystem) (metadata : Score.Metadata)
    (files : List SourceFile) (c : Cancellation) : Prop where
  joins : (a.analyze fs files metadata c).Joins (files.zipIdx.map (a.share fs metadata c))
  single : ∀ e ∈ files.zipIdx, (a.share fs metadata c e).Single
  seen : ∀ e ∈ files.zipIdx, c.seen e.2 = true →
    (a.share fs metadata c e).listing = ⟨[], [], [⟨e.1.relativePath, .cancelled⟩], []⟩ ∧
      (a.share fs metadata c e).filesScanned = 0 ∧
      (a.share fs metadata c e).filesClassified = 0
  /-- What is not cancelled adds what it adds to the run without cancellation. -/
  notSeen : ∀ e ∈ files.zipIdx, c.seen e.2 = false →
    (a.share fs metadata c e).listing = (a.share fs metadata .none e).listing ∧
      (a.share fs metadata c e).filesScanned = (a.share fs metadata .none e).filesScanned ∧
      (a.share fs metadata c e).filesClassified = (a.share fs metadata .none e).filesClassified
  joinsNone : (a.analyze fs files metadata .none).Joins
    (files.zipIdx.map (a.share fs metadata .none))
  /-- But for the skipped files, the result is that of a run on the files that are left. -/
  spared : (a.analyze fs files metadata c).findings =
      (a.analyze fs (c.spared files) metadata .none).findings ∧
    (a.analyze fs files metadata c).entities =
      (a.analyze fs (c.spared files) metadata .none).entities ∧
    (a.analyze fs files metadata c).parseErrors =
      (a.analyze fs (c.spared files) metadata .none).parseErrors ∧
    (a.analyze fs files metadata c).filesScanned =
      (a.analyze fs (c.spared files) metadata .none).filesScanned ∧
    (a.analyze fs files metadata c).filesClassified =
      (a.analyze fs (c.spared files) metadata .none).filesClassified
  total : (a.analyze fs files metadata c).filesScanned +
    (a.analyze fs files metadata c).skipped.length = files.length
  parseErrors_le : (a.analyze fs files metadata c).parseErrors.length ≤
    (a.analyze fs files metadata c).filesClassified
  filesClassified_le : (a.analyze fs files metadata c).filesClassified ≤
    (a.analyze fs files metadata c).filesScanned
  skippedOrder : ((a.analyze fs files metadata c).skipped.map SkippedFile.filePath).Sublist
    (files.map SourceFile.relativePath)
  cancelled : ∀ s ∈ (a.analyze fs files metadata c).skipped, s.reason = .cancelled →
    (a.analyze fs files metadata c).cancelled = true

theorem analyze_accounts_for_files (a : Analyzer) (fs : FileSystem) (metadata : Score.Metadata)
    (files : List SourceFile) (c : Cancellation) : AccountsFor a fs metadata files c := by
  have hjoins : (a.analyze fs files metadata c).Joins (files.zipIdx.map (a.share fs metadata c)) :=
    a.analyze_joins fs metadata files c
  have hspared := a.analyze_joins_files fs metadata (c.spared files)
  have hsingle (r : AnalysisResult) (hr : r ∈ files.zipIdx.map (a.share fs metadata c)) :
      r.Single := by
    obtain ⟨e, _, rfl⟩ := List.mem_map.1 hr
    exact a.share_single fs metadata c e
  have hseen (e : SourceFile × Nat) (h : c.seen e.2 = true) :=
    a.share_of_seen fs metadata h
  have hother (e : SourceFile × Nat) (h : c.seen e.2 = false) :=
    a.share_of_not_seen fs metadata h
  refine ⟨hjoins, fun e _ => a.share_single fs metadata c e, fun e _ => hseen e,
    fun e _ => hother e, a.analyze_joins fs metadata files .none, ⟨?_, ?_, ?_, ?_, ?_⟩, ?_,
    hjoins.parseErrors_le hsingle, hjoins.filesClassified_le hsingle, ?_, ?_⟩
  · rw [hjoins.findings, hspared.findings, a.flatMap_shares fs metadata AnalysisResult.findings
      (fun e h => congrArg Listing.findings (hseen e h).1)
      (fun e h => congrArg Listing.findings (hother e h).1)]
  · rw [hjoins.entities, hspared.entities]
    exact a.flatMap_shares fs metadata AnalysisResult.entities
      (fun e h => congrArg Listing.entities (hseen e h).1)
      (fun e h => congrArg Listing.entities (hother e h).1)
  · rw [hjoins.parseErrors, hspared.parseErrors]
    exact a.flatMap_shares fs metadata AnalysisResult.parseErrors
      (fun e h => congrArg Listing.parseErrors (hseen e h).1)
      (fun e h => congrArg Listing.parseErrors (hother e h).1)
  · rw [hjoins.filesScanned, hspared.filesScanned]
    exact a.sum_shares fs metadata AnalysisResult.filesScanned (fun e h => (hseen e h).2.1)
      (fun e h => (hother e h).2.1)
  · rw [hjoins.filesClassified, hspared.filesClassified]
    exact a.sum_shares fs metadata AnalysisResult.filesClassified (fun e h => (hseen e h).2.2)
      (fun e h => (hother e h).2.2)
  · rw [hjoins.scanned_add_skipped hsingle, List.length_map, List.length_zipIdx]
  · rw [hjoins.skipped, List.map_flatMap, List.flatMap_map]
    have hsub := flatMap_sublist_map
      (fun e (_ : e ∈ files.zipIdx) => a.share_skipped_sublist fs metadata c e)
    rwa [map_zipIdx SourceFile.relativePath] at hsub
  · intro s hs hreason
    rw [hjoins.skipped, List.flatMap_map] at hs
    obtain ⟨e, _, hs⟩ := List.mem_flatMap.1 hs
    exact c.atEnd_of_seen e.2 (a.seen_of_mem_share fs metadata hs hreason)

end Appraisal
