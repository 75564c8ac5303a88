import Appraisal.Proofs.Pattern.Places

set_option autoImplicit false

/-!
# Repeated steps

A repetition collects the places that some number of steps leads to. The collecting functions skip
what they have found or explored before; here they are shown to find every such place all the same.
-/
namespace Appraisal

def Iterates {α : Type} (r : α → α → Prop) : Nat → α → α → Prop
  | 0, a, b => b = a
  | n + 1, a, b => ∃ m, r a m ∧ Iterates r n m b

theorem iterates_add {α : Type} (r : α → α → Prop) (m n : Nat) (a c : α) :
    Iterates r (m + n) a c ↔ ∃ b, Iterates r m a b ∧ Iterates r n b c := by
  induction m generalizing a with
  | zero => simp [Iterates]
  | succ m ih =>
    rw [Nat.succ_add]
    simp only [Iterates, ih]
    constructor
    · rintro ⟨b, hb, d, hd, hc⟩
      exact ⟨d, ⟨b, hb, hd⟩, hc⟩
    · rintro ⟨d, ⟨b, hb, hd⟩, hc⟩
      exact ⟨b, hb, d, hd, hc⟩

theorem iterates_congr {α : Type} {r s : α → α → Prop} (h : ∀ a b, r a b ↔ s a b) (n : Nat)
    (a b : α) : Iterates r n a b ↔ Iterates s n a b := by
  induction n generalizing a with
  | zero => rfl
  | succ n ih => simp only [Iterates, h, ih]

theorem Iterates.ahead {r : Cursor → Cursor → Prop} (hr : ∀ p q, r p q → p.Ahead q) {n : Nat}
    {p q : Cursor} (h : Iterates r n p q) : p.Ahead q := by
  induction n generalizing p with
  | zero =>
    obtain rfl := h
    exact .refl _
  | succ n ih =>
    obtain ⟨m, hm, hq⟩ := h
    exact (hr p m hm).trans (ih hq)

abbrev Reaches (step : Cursor → List Cursor) (n : Nat) (p q : Cursor) : Prop :=
  Iterates (fun p q => q ∈ step p) n p q

/-- What `found` holds from offset `low` on, it holds together with the places one step away. -/
def ClosedFrom (step : Cursor → List Cursor) (low : Nat) (found : List Cursor) : Prop :=
  ∀ f ∈ found, low ≤ f.offset → ∀ q ∈ step f, q ∈ found

structure Explores (step : Cursor → List Cursor) (found after : List Cursor) (p : Cursor) :
    Prop where
  keeps : ∀ f ∈ found, f ∈ after
  holds : p ∈ after
  reached : ∀ q ∈ after, q ∈ found ∨ ∃ n, Reaches step n p q
  closed : ∀ low ≤ p.offset, ClosedFrom step low found → ClosedFrom step low after

/-- `after` is `found` with what can be reached from the places `qs`, each one step from `p`. Of
`p` itself not all steps need have been taken yet. -/
structure Visits (step : Cursor → List Cursor) (p : Cursor) (qs found after : List Cursor) :
    Prop where
  keeps : ∀ f ∈ found, f ∈ after
  holds : ∀ q ∈ qs, q ∈ after
  reached : ∀ r ∈ after, r ∈ found ∨ ∃ q ∈ qs, ∃ n, Reaches step n q r
  closed : ClosedFrom step (p.offset + 1) after

section

variable {step : Cursor → List Cursor} (hstep : ∀ p, ∀ q ∈ step p, p.Ahead q) {o : Cursor}

include hstep

theorem Reaches.ahead {n : Nat} {p q : Cursor} (h : Reaches step n p q) : p.Ahead q :=
  Iterates.ahead hstep h

theorem mem_stepTimes {ps : List Cursor} (h : ∀ p ∈ ps, o.Ahead p) (n : Nat) (q : Cursor) :
    q ∈ stepTimes step n ps ↔ ∃ p ∈ ps, Reaches step n p q := by
  induction n generalizing ps with
  | zero => simp [stepTimes, Reaches, Iterates]
  | succ n ih =>
    have hnext : ∀ m ∈ ps.flatMap step, o.Ahead m := by
      intro m hm
      obtain ⟨p, hp, hmp⟩ := List.mem_flatMap.1 hm
      exact (h p hp).trans (hstep p m hmp)
    have hunfold : stepTimes step (n + 1) ps = stepTimes step n (distinctPlaces (ps.flatMap step)) ∨
        ps = [] := by
      cases ps with
      | nil => exact .inr rfl
      | cons p ps => exact .inl rfl
    rcases hunfold with hunfold | rfl
    · rw [hunfold, ih (fun m hm => hnext m ((mem_distinctPlaces hnext m).1 hm))]
      constructor
      · rintro ⟨m, hm, hq⟩
        obtain ⟨p, hp, hmp⟩ := List.mem_flatMap.1 ((mem_distinctPlaces hnext m).1 hm)
        exact ⟨p, hp, m, hmp, hq⟩
      · rintro ⟨p, hp, m, hmp, hq⟩
        exact ⟨m, (mem_distinctPlaces hnext m).2 (List.mem_flatMap.2 ⟨p, hp, hmp⟩), hq⟩
    · simp [stepTimes]

omit hstep in
theorem ClosedFrom.mono {low high : Nat} {found : List Cursor} (h : ClosedFrom step low found)
    (hle : low ≤ high) : ClosedFrom step high found :=
  fun f hf hhigh => h f hf (Nat.le_trans hle hhigh)

omit hstep in
theorem ClosedFrom.reaches {found : List Cursor} (h : ClosedFrom step 0 found) {n : Nat}
    {p q : Cursor} (hp : p ∈ found) (hq : Reaches step n p q) : q ∈ found := by
  induction n generalizing p with
  | zero =>
    obtain rfl := hq
    exact hp
  | succ n ih =>
    obtain ⟨m, hm, hmq⟩ := hq
    exact ih (h p hp (Nat.zero_le _) m hm) hmq

theorem Visits.ahead {p : Cursor} {qs found after : List Cursor}
    (h : Visits step p qs found after) (hf : ∀ f ∈ found, o.Ahead f) (hq : ∀ q ∈ qs, o.Ahead q) :
    ∀ r ∈ after, o.Ahead r := by
  intro r hr
  rcases h.reached r hr with hmem | ⟨q, hqs, n, hn⟩
  · exact hf r hmem
  · exact (hq q hqs).trans (Reaches.ahead hstep hn)

/-- Going through steps from `p`: one that stays at `p` is added, and the others are explored. -/
theorem foldl_visits {go : List Cursor → Cursor → List Cursor} {p : Cursor} (hp : o.Ahead p)
    (hgo : ∀ found q, (∀ f ∈ found, o.Ahead f) → q ∈ step p → q.offset ≠ p.offset →
      ClosedFrom step (p.offset + 1) found → Explores step found (go found q) q)
    {qs found : List Cursor} (hqs : ∀ q ∈ qs, q ∈ step p) (hf : ∀ f ∈ found, o.Ahead f)
    (hclosed : ClosedFrom step (p.offset + 1) found) :
    Visits step p qs found
      (qs.foldl (fun found q => if q.offset = p.offset then addPlace found q else go found q)
        found) := by
  induction qs generalizing found with
  | nil => exact ⟨fun f hf => hf, by simp, fun r hr => .inl hr, hclosed⟩
  | cons q qs ih =>
    have hq : q ∈ step p := hqs q (by simp)
    have hqo : o.Ahead q := hp.trans (hstep p q hq)
    have htail : ∀ q ∈ qs, q ∈ step p := fun r hr => hqs r (by simp [hr])
    -- one step of the fold, whichever branch it takes
    obtain ⟨mid, hmid, hkeep, hhold, hreach, hmidClosed⟩ : ∃ mid,
        (if q.offset = p.offset then addPlace found q else go found q) = mid ∧
        (∀ f ∈ found, f ∈ mid) ∧ q ∈ mid ∧
        (∀ r ∈ mid, r ∈ found ∨ ∃ n, Reaches step n q r) ∧
        ClosedFrom step (p.offset + 1) mid := by
      refine ⟨_, rfl, ?_⟩
      by_cases he : q.offset = p.offset
      · simp only [he, if_true]
        have hmem := mem_addPlace hf hqo
        refine ⟨fun f h => (hmem f).2 (.inl h), (hmem q).2 (.inr rfl), ?_, ?_⟩
        · intro r hr
          rcases (hmem r).1 hr with h | rfl
          · exact .inl h
          · exact .inr ⟨0, rfl⟩
        · intro f hfm hlow r hr
          rcases (hmem f).1 hfm with h | rfl
          · exact (hmem r).2 (.inl (hclosed f h hlow r hr))
          · omega
      · simp only [he, if_false]
        have hle := (hstep p q hq).offset_le
        have hex := hgo found q hf hq he hclosed
        exact ⟨hex.keeps, hex.holds, hex.reached, hex.closed _ (by omega) hclosed⟩
    have hmidAhead : ∀ f ∈ mid, o.Ahead f := by
      intro f hfm
      rcases hreach f hfm with h | ⟨n, hn⟩
      · exact hf f h
      · exact hqo.trans (Reaches.ahead hstep hn)
    have hrest := ih htail hmidAhead hmidClosed
    rw [List.foldl_cons, hmid]
    refine ⟨fun f h => hrest.keeps f (hkeep f h), ?_, ?_, hrest.closed⟩
    · intro r hr
      rcases List.mem_cons.1 hr with rfl | hr
      · exact hrest.keeps r hhold
      · exact hrest.holds r hr
    · intro r hr
      rcases hrest.reached r hr with hm | ⟨s, hs, n, hn⟩
      · rcases hreach r hm with h | ⟨n, hn⟩
        · exact .inl h
        · exact .inr ⟨q, by simp, n, hn⟩
      · exact .inr ⟨s, by simp [hs], n, hn⟩

theorem Visits.closed_from {p : Cursor} {found after : List Cursor}
    (h : Visits step p (step p) found after) {low : Nat}
    (hfound : ∀ f ∈ found, low ≤ f.offset → f ≠ p → ∀ q ∈ step f, q ∈ after) :
    ClosedFrom step low after := by
  intro f hf hlow q hq
  by_cases hp : f = p
  · subst hp
    exact h.holds q hq
  · by_cases hoff : p.offset + 1 ≤ f.offset
    · exact h.closed f hf hoff q hq
    · rcases h.reached f hf with hmem | ⟨s, hs, n, hn⟩
      · exact hfound f hmem hlow hp q hq
      · -- what is reached from `p` without getting further is `p`
        have hahead : p.Ahead f := (hstep p s hs).trans (Reaches.ahead hstep hn)
        have hle := hahead.offset_le
        exact absurd (hahead.eq_of_offset_eq (.refl p) (by omega)) hp

omit hstep in
/-- A lazy run adds the place it is at before the places beyond, a greedy one after them. -/
theorem mem_startingAt (greedy : Bool) {found : List Cursor} {p : Cursor} (hp : o.Ahead p)
    (hf : ∀ f ∈ found, o.Ahead f) :
    (∀ f ∈ found, f ∈ if greedy then found else addPlace found p) ∧
      (∀ f ∈ if greedy then found else addPlace found p, f ∈ found ∨ f = p) ∧
      ∀ f ∈ if greedy then found else addPlace found p, o.Ahead f := by
  cases greedy with
  | true => exact ⟨fun f h => h, fun f h => .inl h, hf⟩
  | false =>
    have hadd := mem_addPlace hf hp
    refine ⟨fun f h => (hadd f).2 (.inl h), fun f h => (hadd f).1 h, fun f h => ?_⟩
    rcases (hadd f).1 h with h | rfl
    · exact hf f h
    · exact hp

theorem stepMany_explores (greedy : Bool) (fuel : Nat) {found : List Cursor} {p : Cursor}
    (hp : o.Ahead p) (hf : ∀ f ∈ found, o.Ahead f) (hfuel : p.rest.length < fuel)
    (hclosed : ClosedFrom step p.offset found) :
    Explores step found (stepMany step greedy fuel found p) p := by
  induction fuel generalizing found p with
  | zero => omega
  | succ fuel ih =>
    rw [stepMany]
    by_cases hmem : p ∈ found
    · rw [if_pos ((any_offset_iff hf hp).2 hmem)]
      exact ⟨fun f h => h, hmem, fun q h => .inl h, fun low _ h => h⟩
    · rw [if_neg (fun h => hmem ((any_offset_iff hf hp).1 h))]
      have hbaseMem := mem_startingAt greedy hp hf
      revert hbaseMem
      generalize (if greedy then found else addPlace found p) = base
      rintro ⟨hkeep, hbaseMem, hbaseAhead⟩
      have hbaseClosed : ClosedFrom step (p.offset + 1) base := by
        intro f h hlow q hq
        rcases hbaseMem f h with h | rfl
        · exact hkeep q (hclosed f h (by omega) q hq)
        · omega
      -- the places beyond `p` are left to the induction, since less of the text follows them
      have hgo : ∀ found q, (∀ f ∈ found, o.Ahead f) → q ∈ step p → q.offset ≠ p.offset →
          ClosedFrom step (p.offset + 1) found →
          Explores step found (stepMany step greedy fuel found q) q := by
        intro found q hf hq hne hclosed
        have hahead := hstep p q hq
        have hle := hahead.offset_le
        have hlen := hahead.length_rest
        exact ih (hp.trans hahead) hf (by omega) (hclosed.mono (by omega))
      have hvisits := foldl_visits hstep hp hgo (fun q hq => hq) hbaseAhead hbaseClosed
      dsimp only
      revert hvisits
      generalize List.foldl _ base (step p) = after
      intro hvisits
      have hafter := hvisits.ahead hstep hbaseAhead (fun q hq => hp.trans (hstep p q hq))
      have hadd := mem_addPlace hafter hp
      refine ⟨fun f h => (hadd f).2 (.inl (hvisits.keeps f (hkeep f h))),
        (hadd p).2 (.inr rfl), ?_, ?_⟩
      · intro q hq
        rcases (hadd q).1 hq with h | rfl
        · rcases hvisits.reached q h with h | ⟨m, hm, n, hn⟩
          · rcases hbaseMem q h with h | rfl
            · exact .inl h
            · exact .inr ⟨0, rfl⟩
          · exact .inr ⟨n + 1, m, hm, hn⟩
        · exact .inr ⟨0, rfl⟩
      · intro low hlow hlowClosed f hfm hlf q hq
        have hopen : ClosedFrom step low after := by
          apply hvisits.closed_from hstep
          intro f h hlf hne q hq
          have hold : f ∈ found := (hbaseMem f h).resolve_right hne
          exact hvisits.keeps q (hkeep q (hlowClosed f hold hlf q hq))
        rcases (hadd f).1 hfm with h | rfl
        · exact (hadd q).2 (.inl (hopen f h hlf q hq))
        · exact (hadd q).2 (.inl (hvisits.holds q hq))

theorem mem_stepMany (greedy : Bool) (p q : Cursor) :
    q ∈ stepMany step greedy (p.rest.length + 1) [] p ↔ ∃ n, Reaches step n p q := by
  have hempty : ∀ low, ClosedFrom step low [] := by simp [ClosedFrom]
  have h := stepMany_explores hstep greedy (p.rest.length + 1) (.refl p) (by simp)
    (Nat.lt_succ_self _) (hempty p.offset)
  constructor
  · intro hq
    exact (h.reached q hq).resolve_left (by simp)
  · rintro ⟨n, hn⟩
    exact (h.closed 0 (Nat.zero_le _) (hempty 0)).reaches h.holds hn

theorem stepSome_spec (greedy : Bool) {found : List Cursor} {p : Cursor} (hp : o.Ahead p)
    (hf : ∀ f ∈ found, o.Ahead f) (hclosed : ClosedFrom step 0 found) :
    ClosedFrom step 0 (stepSome step greedy found p) ∧
      ∀ q, q ∈ stepSome step greedy found p ↔ q ∈ found ∨ ∃ n, Reaches step (n + 1) p q := by
  have hgo : ∀ found q, (∀ f ∈ found, o.Ahead f) → q ∈ step p → q.offset ≠ p.offset →
      ClosedFrom step (p.offset + 1) found →
      Explores step found (stepMany step greedy (p.rest.length + 1) found q) q := by
    intro found q hf hq hne hclosed
    have hahead := hstep p q hq
    have hle := hahead.offset_le
    have hlen := hahead.length_rest
    exact stepMany_explores hstep greedy _ (hp.trans hahead) hf (by omega)
      (hclosed.mono (by omega))
  have hvisits := foldl_visits hstep hp hgo (fun q hq => hq) hf (hclosed.mono (Nat.zero_le _))
  rw [stepSome]
  revert hvisits
  generalize List.foldl _ found (step p) = after
  intro hvisits
  have hafter : ClosedFrom step 0 after :=
    hvisits.closed_from hstep (fun f h hlow _ q hq => hvisits.keeps q (hclosed f h hlow q hq))
  refine ⟨hafter, fun q => ⟨?_, ?_⟩⟩
  · intro hq
    rcases hvisits.reached q hq with h | ⟨m, hm, n, hn⟩
    · exact .inl h
    · exact .inr ⟨n, m, hm, hn⟩
  · rintro (h | ⟨n, m, hm, hn⟩)
    · exact hvisits.keeps q h
    · exact hafter.reaches (hvisits.holds m hm) hn

theorem mem_foldl_stepSome (greedy : Bool) {ps found : List Cursor} (hps : ∀ p ∈ ps, o.Ahead p)
    (hf : ∀ f ∈ found, o.Ahead f) (hclosed : ClosedFrom step 0 found) (q : Cursor) :
    q ∈ ps.foldl (stepSome step greedy) found ↔
      q ∈ found ∨ ∃ p ∈ ps, ∃ n, Reaches step (n + 1) p q := by
  induction ps generalizing found with
  | nil => simp
  | cons p ps ih =>
    have hp : o.Ahead p := hps p (by simp)
    obtain ⟨hnext, hmem⟩ := stepSome_spec hstep greedy hp hf hclosed
    have hnextAhead : ∀ f ∈ stepSome step greedy found p, o.Ahead f := by
      intro f h
      rcases (hmem f).1 h with h | ⟨n, hn⟩
      · exact hf f h
      · exact hp.trans (Reaches.ahead hstep hn)
    rw [List.foldl_cons, ih (fun r hr => hps r (by simp [hr])) hnextAhead hnext, hmem]
    simp only [List.mem_cons, exists_eq_or_imp, or_assoc]

end

end Appraisal
