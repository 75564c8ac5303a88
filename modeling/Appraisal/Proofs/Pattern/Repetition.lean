import Appraisal.Proofs.Pattern.Runs

set_option autoImplicit false

namespace Appraisal

def Covers (step : Cursor → List Cursor) (count : Nat) (p : Cursor) (found : List Cursor) : Prop :=
  ∀ n ≤ count, ∀ q, Reaches step n p q → q ∈ found

/-- What is marked as explored with fewer than `count` steps left is explored, as seen from `o`. -/
def Settled (step : Cursor → List Cursor) (o : Cursor) (count : Nat) (e : Explored) : Prop :=
  ∀ k i, (k, i) ∈ e.seen → k < count →
    ∀ p, o.Ahead p → p.offset = i → Covers step (k + 1) p e.found

/-- `after` is `before` with the places at most `count` steps from one of the places `ps`. -/
structure ExploresUpTo (step : Cursor → List Cursor) (o : Cursor) (count : Nat)
    (ps : List Cursor) (before after : Explored) : Prop where
  keeps : ∀ f ∈ before.found, f ∈ after.found
  covers : ∀ p ∈ ps, Covers step count p after.found
  reached : ∀ q ∈ after.found, q ∈ before.found ∨ ∃ p ∈ ps, ∃ n ≤ count, Reaches step n p q
  marked : ∀ k i, (k, i) ∈ after.seen → (k, i) ∈ before.seen ∨
    k < count ∧ ∀ p, o.Ahead p → p.offset = i → Covers step (k + 1) p after.found

theorem Covers.mono {step : Cursor → List Cursor} {count : Nat} {p : Cursor}
    {found after : List Cursor} (h : Covers step count p found) (hsub : ∀ f ∈ found, f ∈ after) :
    Covers step count p after :=
  fun n hn q hq => hsub q (h n hn q hq)

theorem covers_succ {step : Cursor → List Cursor} {count : Nat} {p : Cursor}
    {found : List Cursor} (hp : p ∈ found) (h : ∀ q ∈ step p, Covers step count q found) :
    Covers step (count + 1) p found := by
  intro n hn q hq
  cases n with
  | zero =>
    obtain rfl := hq
    exact hp
  | succ n =>
    obtain ⟨m, hm, hmq⟩ := hq
    exact h m hm n (by omega) q hmq

section

variable {step : Cursor → List Cursor} {o : Cursor}

theorem Settled.after {count : Nat} {ps : List Cursor} {before after : Explored}
    (h : Settled step o count before) (hex : ExploresUpTo step o count ps before after) :
    Settled step o count after := by
  intro k i hki hk p hp hi
  rcases hex.marked k i hki with hold | ⟨_, hnew⟩
  · exact (h k i hold hk p hp hi).mono hex.keeps
  · exact hnew p hp hi

theorem ExploresUpTo.cons {count : Nat} {p : Cursor} {ps : List Cursor}
    {before mid after : Explored} (first : ExploresUpTo step o count [p] before mid)
    (rest : ExploresUpTo step o count ps mid after) :
    ExploresUpTo step o count (p :: ps) before after := by
  refine ⟨fun f h => rest.keeps f (first.keeps f h), ?_, ?_, ?_⟩
  · intro q hq
    rcases List.mem_cons.1 hq with rfl | hq
    · exact (first.covers q (by simp)).mono rest.keeps
    · exact rest.covers q hq
  · intro q hq
    rcases rest.reached q hq with h | ⟨r, hr, hn⟩
    · rcases first.reached q h with h | ⟨r, hr, hn⟩
      · exact .inl h
      · rw [List.mem_singleton.1 hr] at hn
        exact .inr ⟨p, by simp, hn⟩
    · exact .inr ⟨r, by simp [hr], hn⟩
  · intro k i hki
    rcases rest.marked k i hki with h | h
    · rcases first.marked k i h with h | ⟨hk, hc⟩
      · exact .inl h
      · exact .inr ⟨hk, fun p hp hi => (hc p hp hi).mono rest.keeps⟩
    · exact .inr h

variable (hstep : ∀ p, ∀ q ∈ step p, p.Ahead q)

include hstep

theorem ExploresUpTo.ahead {count : Nat} {ps : List Cursor} {before after : Explored}
    (h : ExploresUpTo step o count ps before after) (hf : ∀ f ∈ before.found, o.Ahead f)
    (hps : ∀ p ∈ ps, o.Ahead p) : ∀ q ∈ after.found, o.Ahead q := by
  intro q hq
  rcases h.reached q hq with hmem | ⟨p, hp, n, _, hn⟩
  · exact hf q hmem
  · exact (hps p hp).trans (Reaches.ahead hstep hn)

theorem foldl_exploresUpTo {count : Nat} {go : Explored → Cursor → Explored}
    (hgo : ∀ e p, o.Ahead p → (∀ f ∈ e.found, o.Ahead f) → Settled step o count e →
      ExploresUpTo step o count [p] e (go e p))
    {ps : List Cursor} {e : Explored} (hps : ∀ p ∈ ps, o.Ahead p)
    (hf : ∀ f ∈ e.found, o.Ahead f) (hset : Settled step o count e) :
    ExploresUpTo step o count ps e (ps.foldl go e) := by
  induction ps generalizing e with
  | nil => exact ⟨fun f h => h, by simp, fun q h => .inl h, fun k i h => .inl h⟩
  | cons p ps ih =>
    have hp : o.Ahead p := hps p (by simp)
    have hfirst := hgo e p hp hf hset
    have hahead := hfirst.ahead hstep hf (by simpa using hp)
    exact hfirst.cons (ih (fun q hq => hps q (by simp [hq])) hahead (hset.after hfirst))

theorem stepUpTo_explores (greedy : Bool) (count : Nat) {e : Explored} {p : Cursor}
    (hp : o.Ahead p) (hf : ∀ f ∈ e.found, o.Ahead f) (hset : Settled step o count e) :
    ExploresUpTo step o count [p] e (stepUpTo step greedy count e p) := by
  induction count generalizing e p with
  | zero =>
    have hadd := mem_addPlace hf hp
    rw [stepUpTo]
    refine ⟨fun f h => (hadd f).2 (.inl h), ?_, ?_, fun k i h => .inl h⟩
    · intro r hr n hn q hq
      obtain rfl := List.mem_singleton.1 hr
      obtain rfl : n = 0 := by omega
      obtain rfl := hq
      exact (hadd q).2 (.inr rfl)
    · intro q hq
      rcases (hadd q).1 hq with h | rfl
      · exact .inl h
      · exact .inr ⟨q, by simp, 0, Nat.le_refl _, rfl⟩
  | succ count ih =>
    rw [stepUpTo]
    by_cases hseen : (count, p.offset) ∈ e.seen
    · rw [if_pos hseen]
      refine ⟨fun f h => h, ?_, fun q h => .inl h, fun k i h => .inl h⟩
      intro r hr
      obtain rfl := List.mem_singleton.1 hr
      exact hset count r.offset hseen (by omega) r hp rfl
    · rw [if_neg hseen]
      have hbaseMem := mem_startingAt greedy hp hf
      revert hbaseMem
      generalize (if greedy then e.found else addPlace e.found p) = base
      rintro ⟨hkeep, hbaseMem, hbaseAhead⟩
      have hnextAhead : ∀ q ∈ step p, o.Ahead q := fun q hq => hp.trans (hstep p q hq)
      -- the new mark has `count` steps left, so it does not count among those with fewer
      have hbaseSet : Settled step o count ⟨base, (count, p.offset) :: e.seen⟩ := by
        intro k i hki hk q hq hi
        rcases List.mem_cons.1 hki with heq | hki
        · simp only [Prod.mk.injEq] at heq
          omega
        · exact (hset k i hki (by omega) q hq hi).mono hkeep
      have hex := foldl_exploresUpTo hstep (fun e q hq hf hset => ih hq hf hset)
        hnextAhead hbaseAhead hbaseSet
      dsimp only
      revert hex
      generalize List.foldl _ (Explored.mk base ((count, p.offset) :: e.seen)) (step p) = after
      intro hex
      have hadd := mem_addPlace (hex.ahead hstep hbaseAhead hnextAhead) hp
      have hcovers : Covers step (count + 1) p (addPlace after.found p) :=
        covers_succ ((hadd p).2 (.inr rfl))
          (fun q hq => (hex.covers q hq).mono (fun f h => (hadd f).2 (.inl h)))
      refine ⟨fun f h => (hadd f).2 (.inl (hex.keeps f (hkeep f h))), ?_, ?_, ?_⟩
      · intro r hr
        obtain rfl := List.mem_singleton.1 hr
        exact hcovers
      · intro q hq
        rcases (hadd q).1 hq with h | rfl
        · rcases hex.reached q h with h | ⟨m, hm, n, hn, hq⟩
          · rcases hbaseMem q h with h | rfl
            · exact .inl h
            · exact .inr ⟨q, by simp, 0, by omega, rfl⟩
          · exact .inr ⟨p, by simp, n + 1, by omega, m, hm, hq⟩
        · exact .inr ⟨q, by simp, 0, by omega, rfl⟩
      · intro k i hki
        rcases hex.marked k i hki with h | ⟨hk, hc⟩
        · rcases List.mem_cons.1 h with heq | h
          · simp only [Prod.mk.injEq] at heq
            obtain ⟨rfl, rfl⟩ := heq
            refine .inr ⟨Nat.lt_succ_self _, fun q hq hi => ?_⟩
            rw [hq.eq_of_offset_eq hp hi]
            exact hcovers
          · exact .inl h
        · exact .inr ⟨by omega, fun q hq hi =>
            (hc q hq hi).mono (fun f h => (hadd f).2 (.inl h))⟩

theorem mem_foldl_stepUpTo (greedy : Bool) (count : Nat) {ps : List Cursor}
    (hps : ∀ p ∈ ps, o.Ahead p) (q : Cursor) :
    q ∈ (ps.foldl (fun e p => stepUpTo step greedy count e p) ⟨[], []⟩).found ↔
      ∃ p ∈ ps, ∃ n ≤ count, Reaches step n p q := by
  have hex := foldl_exploresUpTo hstep
    (fun e p hp hf hset => stepUpTo_explores hstep greedy count hp hf hset) hps
    (e := ⟨[], []⟩) (by simp) (by simp [Settled])
  constructor
  · intro hq
    exact (hex.reached q hq).resolve_left (by simp)
  · rintro ⟨p, hp, n, hn, hq⟩
    exact hex.covers p hp n hn q hq

theorem mem_repeatStep (least : Nat) (most : Option Nat) (greedy : Bool) (p q : Cursor) :
    q ∈ repeatStep step least most greedy p ↔
      ∃ n, least ≤ n ∧ (∀ m, most = some m → n ≤ max least m) ∧ Reaches step n p q := by
  have hself : ∀ r ∈ [p], p.Ahead r := by
    intro r hr
    rw [List.mem_singleton.1 hr]
    exact .refl p
  have htimes : ∀ n, ∀ m, m ∈ stepTimes step n [p] ↔ Reaches step n p m := by
    intro n m
    rw [mem_stepTimes hstep hself]
    simp
  have htimesAhead : ∀ n, ∀ m ∈ stepTimes step n [p], p.Ahead m :=
    fun n m hm => Reaches.ahead hstep ((htimes n m).1 hm)
  unfold repeatStep
  cases most with
  | some most =>
    simp only [List.mem_reverse]
    rw [mem_foldl_stepUpTo hstep greedy _ (htimesAhead least)]
    constructor
    · rintro ⟨m, hm, n, hn, hq⟩
      refine ⟨least + n, Nat.le_add_right _ _, ?_, ?_⟩
      · rintro _ ⟨⟩
        omega
      · exact (iterates_add _ least n p q).2 ⟨m, (htimes least m).1 hm, hq⟩
    · rintro ⟨n, hleast, hmost, hq⟩
      have hle := hmost most rfl
      obtain ⟨k, rfl⟩ := Nat.exists_eq_add_of_le hleast
      obtain ⟨m, hm, hmq⟩ := (iterates_add _ least k p q).1 hq
      exact ⟨m, (htimes least m).2 hm, k, by omega, hmq⟩
  | none =>
    cases least with
    | zero =>
      simp only [List.mem_reverse]
      rw [mem_stepMany hstep]
      simp
    | succ least =>
      -- the last of the required steps begins the run
      simp only [List.mem_reverse]
      rw [mem_foldl_stepSome hstep greedy (htimesAhead least) (by simp) (by simp [ClosedFrom])]
      constructor
      · rintro (h | ⟨m, hm, n, hq⟩)
        · simp at h
        · refine ⟨least + (n + 1), by omega, by simp, ?_⟩
          exact (iterates_add _ least (n + 1) p q).2 ⟨m, (htimes least m).1 hm, hq⟩
      · rintro ⟨n, hleast, _, hq⟩
        obtain ⟨k, rfl⟩ := Nat.exists_eq_add_of_le hleast
        rw [Nat.add_assoc, Nat.add_comm 1 k] at hq
        obtain ⟨m, hm, hmq⟩ := (iterates_add _ least (k + 1) p q).1 hq
        exact .inr ⟨m, (htimes least m).2 hm, k, hmq⟩

end

end Appraisal
