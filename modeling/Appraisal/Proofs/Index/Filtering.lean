import Appraisal.Proofs.Data.Sorting
import Appraisal.Proofs.Score.TotalOrder

set_option autoImplicit false

namespace Appraisal.ReportIndex

open Doubles (TotalLe rank_le_iff)

structure Within (minScore? : Option Float) (maxIssues? : Option Nat) (e : IndexEntry) : Prop where
  score : ∀ least ∈ minScore?, least ≤ e.score
  issues : ∀ most ∈ maxIssues?, e.issueCount ≤ most

/-- Bounds of which each is given where the other one is, and lets through no more than that. -/
structure Stricter (minScore'? : Option Float) (maxIssues'? : Option Nat)
    (minScore? : Option Float) (maxIssues? : Option Nat) : Prop where
  score : ∀ least ∈ minScore?, ∃ least' ∈ minScore'?, least ≤ least'
  issues : ∀ most ∈ maxIssues?, ∃ most' ∈ maxIssues'?, most' ≤ most

variable {minScore? minScore'? : Option Float} {maxIssues? maxIssues'? : Option Nat}

theorem passes_iff (e : IndexEntry) :
    passes minScore? maxIssues? e = true ↔ Within minScore? maxIssues? e := by
  simp only [passes, Bool.and_eq_true, Option.all_eq_true, decide_eq_true_eq]
  exact ⟨fun h => ⟨h.1, h.2⟩, fun h => ⟨h.score, h.issues⟩⟩

instance : DecidablePred (Within minScore? maxIssues?) := fun e =>
  decidable_of_iff (passes minScore? maxIssues? e = true) (passes_iff e)

theorem Stricter.within {e : IndexEntry}
    (h : Stricter minScore'? maxIssues'? minScore? maxIssues?)
    (he : Within minScore'? maxIssues'? e) : Within minScore? maxIssues? e where
  score least hleast := by
    obtain ⟨least', hleast', hle⟩ := h.score least hleast
    exact Doubles.le_trans hle (he.score least' hleast')
  issues most hmost := by
    obtain ⟨most', hmost', hle⟩ := h.issues most hmost
    exact (he.issues most' hmost').trans hle

theorem scoreGe_iff (a b : IndexEntry) : scoreGe a b = true ↔ TotalLe b.score a.score :=
  decide_eq_true_iff.trans rank_le_iff

theorem scoreGe_trans (a b c : IndexEntry) (hab : scoreGe a b = true) (hbc : scoreGe b c = true) :
    scoreGe a c = true := by
  have hab : rank b.score ≤ rank a.score := of_decide_eq_true hab
  have hbc : rank c.score ≤ rank b.score := of_decide_eq_true hbc
  exact decide_eq_true (hbc.trans hab)

theorem scoreGe_total (a b : IndexEntry) : (scoreGe a b || scoreGe b a) = true := by
  rw [Bool.or_eq_true]
  exact (le_total (rank b.score) (rank a.score)).imp decide_eq_true decide_eq_true

theorem filter_eq (i : ReportIndex) (minScore? : Option Float) (maxIssues? : Option Nat) :
    i.filter minScore? maxIssues? =
      (i.entries.filter (Within minScore? maxIssues?)).mergeSort scoreGe := by
  unfold filter
  congr 2
  funext e
  rw [Bool.eq_iff_iff, passes_iff, decide_eq_true_iff]

theorem filter_filter (i : ReportIndex) (p : IndexEntry → Bool) :
    (i.filter minScore? maxIssues?).filter p =
      ((i.entries.filter (Within minScore? maxIssues?)).filter p).mergeSort scoreGe := by
  rw [filter_eq, filter_mergeSort scoreGe_trans scoreGe_total]

/-- A filter gives exactly the entries within its bounds, those of greater scores first and those
of one score as they stand in the index. Stricter bounds give the entries within them, as
they stand among those of the looser ones. -/
theorem filter_ranks_within (i : ReportIndex) (minScore? : Option Float)
    (maxIssues? : Option Nat) :
    (i.filter minScore? maxIssues?).Perm (i.entries.filter (Within minScore? maxIssues?)) ∧
      (i.filter minScore? maxIssues?).Pairwise (fun a b => TotalLe b.score a.score) ∧
      (∀ bits, (i.filter minScore? maxIssues?).filter (fun e => e.score.toBits = bits) =
        (i.entries.filter (Within minScore? maxIssues?)).filter (fun e => e.score.toBits = bits)) ∧
      (i.filter none none).Perm i.entries ∧
      ∀ minScore'? maxIssues'?, Stricter minScore'? maxIssues'? minScore? maxIssues? →
        i.filter minScore'? maxIssues'? =
          (i.filter minScore? maxIssues?).filter (Within minScore'? maxIssues'?) := by
  have hperm (minScore? : Option Float) (maxIssues? : Option Nat) :
      (i.filter minScore? maxIssues?).Perm (i.entries.filter (Within minScore? maxIssues?)) := by
    rw [filter_eq]
    exact List.mergeSort_perm _ _
  refine ⟨hperm _ _, ?_, fun bits => ?_, ?_, fun minScore'? maxIssues'? hstricter => ?_⟩
  · rw [filter_eq]
    exact (List.pairwise_mergeSort scoreGe_trans scoreGe_total _).imp fun h => (scoreGe_iff _ _).1 h
  · rw [filter_filter]
    refine List.mergeSort_of_pairwise (List.pairwise_of_forall_mem_list fun a ha b hb => ?_)
    have ha : a.score.toBits = bits := of_decide_eq_true (List.mem_filter.1 ha).2
    have hb : b.score.toBits = bits := of_decide_eq_true (List.mem_filter.1 hb).2
    refine decide_eq_true (le_of_eq ?_)
    unfold rank
    rw [ha, hb]
  · have hall : i.entries.filter (Within none none) = i.entries :=
      List.filter_eq_self.2 fun e _ => decide_eq_true ⟨nofun, nofun⟩
    exact (hperm none none).trans (.of_eq hall)
  · rw [filter_filter, List.filter_filter, filter_eq]
    congr 1
    refine List.filter_congr fun e _ => ?_
    rw [Bool.eq_iff_iff, Bool.and_eq_true, decide_eq_true_iff, decide_eq_true_iff]
    exact (and_iff_left_of_imp hstricter.within).symm

def scoredNamed (name : String) (score : Float) (issueCount : Nat) : IndexEntry :=
  ⟨name, none, score, .low, issueCount, 0, 0, 0, name ++ ".json", ⟨0, 0, 0⟩⟩

def mixedIndex : ReportIndex :=
  recomputed { empty ⟨0, 0, 0⟩ with
    entries := [scoredNamed "a" (-0) 2, scoredNamed "b" 0.5 0, scoredNamed "c" 0 0,
      scoredNamed "d" 0.5 3] }

/-- Neither zero is left out by the other as a bound, but they are ranked apart. -/
theorem zeros_within_bounds :
    Stricter (some 0) (some 2) (some (-0)) none ∧
      (mixedIndex.filter (some (-0)) none).Perm mixedIndex.entries ∧
      (mixedIndex.filter (some 0) (some 2)).Perm (mixedIndex.entries.take 3) ∧
      (mixedIndex.filter (some 0) (some 2)).Pairwise (fun a b => TotalLe b.score a.score) ∧
      mixedIndex.filter (some 0) (some 2) =
        (mixedIndex.filter (some (-0)) none).filter (Within (some 0) (some 2)) ∧
      ¬ TotalLe 0 (-0) := by
  have hstricter : Stricter (some 0) (some 2) (some (-0)) none :=
    ⟨fun least hleast => ⟨0, rfl, Option.mem_some.1 hleast ▸ by decide⟩, nofun⟩
  have hloose : mixedIndex.entries.filter (Within (some (-0)) none) = mixedIndex.entries := by
    decide +kernel
  have hstrict : mixedIndex.entries.filter (Within (some 0) (some 2)) =
      mixedIndex.entries.take 3 := by
    decide +kernel
  obtain ⟨hperm, -, -, -, hpart⟩ := filter_ranks_within mixedIndex (some (-0)) none
  obtain ⟨hperm', hranks, -⟩ := filter_ranks_within mixedIndex (some 0) (some 2)
  exact ⟨hstricter, hloose ▸ hperm, hstrict ▸ hperm', hranks, hpart _ _ hstricter,
    fun h => absurd (rank_le_iff.2 h) (by decide +kernel)⟩

end Appraisal.ReportIndex
