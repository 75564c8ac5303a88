import Appraisal.Proofs.Pattern.Repetition

set_option autoImplicit false

namespace Appraisal

namespace Pattern

/-- A match from the place `p` may end at `q`. -/
def Leads : Pattern → Cursor → Cursor → Prop
  | .empty, p, q => q = p
  | .chars set, p, q => ∃ c t, p.rest = c :: t ∧ set.contains c = true ∧ q = p.past [c]
  | .assertion a, p, q => a.holds p = true ∧ q = p
  | .seq a b, p, q => ∃ m, a.Leads p m ∧ b.Leads m q
  | .alt a b, p, q => a.Leads p q ∨ b.Leads p q
  | .repetition body least most _, p, q =>
    ∃ n, least ≤ n ∧ (∀ m, most = some m → n ≤ max least m) ∧ Iterates body.Leads n p q

def MatchesAt (r : Pattern) (cs : List Char) (i : Nat) : Prop :=
  ∃ p q, (Cursor.start cs).Ahead p ∧ p.offset = i ∧ r.Leads p q

def Occurs (r : Pattern) (cs : List Char) : Prop := ∃ i, r.MatchesAt cs i

theorem Leads.ahead {r : Pattern} {p q : Cursor} (h : r.Leads p q) : p.Ahead q := by
  induction r generalizing p q with
  | empty =>
    obtain rfl := h
    exact .refl _
  | chars set =>
    obtain ⟨c, t, ht, _, rfl⟩ := h
    exact .past_of_isPrefix ht
  | assertion a =>
    obtain ⟨_, rfl⟩ := h
    exact .refl _
  | seq a b iha ihb =>
    obtain ⟨m, ha, hb⟩ := h
    exact (iha ha).trans (ihb hb)
  | alt a b iha ihb =>
    rcases h with h | h
    · exact iha h
    · exact ihb h
  | repetition body least most greedy ih =>
    obtain ⟨n, _, _, hn⟩ := h
    exact Iterates.ahead (fun _ _ => ih) hn

theorem mem_ends_iff (r : Pattern) (p q : Cursor) : q ∈ r.ends p ↔ r.Leads p q := by
  induction r generalizing p q with
  | empty => simp [ends, Leads]
  | chars set =>
    rw [ends, Leads]
    cases hrest : p.rest with
    | nil => simp
    | cons c t =>
      by_cases hc : set.contains c = true
      · simp only [hc, if_true, List.mem_singleton, List.cons.injEq]
        constructor
        · rintro rfl
          exact ⟨c, t, ⟨rfl, rfl⟩, hc, (Cursor.past_singleton hrest).symm⟩
        · rintro ⟨_, _, ⟨rfl, rfl⟩, _, rfl⟩
          exact Cursor.past_singleton hrest
      · simp only [hc, List.cons.injEq]
        constructor
        · simp
        · rintro ⟨_, _, ⟨rfl, rfl⟩, hset, _⟩
          exact absurd hset hc
  | assertion a =>
    rw [ends, Leads]
    by_cases ha : a.holds p = true <;> simp [ha]
  | seq a b iha ihb =>
    have hahead : ∀ m ∈ (a.ends p).flatMap b.ends, p.Ahead m := by
      intro m hm
      obtain ⟨k, hk, hkm⟩ := List.mem_flatMap.1 hm
      exact ((iha p k).1 hk).ahead.trans ((ihb k m).1 hkm).ahead
    rw [ends, mem_distinctPlaces hahead, List.mem_flatMap]
    simp only [Leads, iha, ihb]
  | alt a b iha ihb =>
    have hahead : ∀ m ∈ a.ends p ++ b.ends p, p.Ahead m := by
      intro m hm
      rcases List.mem_append.1 hm with h | h
      · exact ((iha p m).1 h).ahead
      · exact ((ihb p m).1 h).ahead
    rw [ends, mem_distinctPlaces hahead, List.mem_append, iha, ihb, Leads]
  | repetition body least most greedy ih =>
    -- a step of the body only leads ahead, so none of its runs is missed
    have hstep : ∀ p, ∀ q ∈ body.ends p, p.Ahead q := fun p q hq => ((ih p q).1 hq).ahead
    rw [ends, mem_repeatStep hstep, Leads]
    simp only [Reaches, iterates_congr ih]

theorem endAt?_eq_none_iff (r : Pattern) (p : Cursor) :
    r.endAt? p = none ↔ ∀ q, ¬ r.Leads p q := by
  simp only [endAt?, List.head?_eq_none_iff, List.eq_nil_iff_forall_not_mem, mem_ends_iff]

theorem leads_of_endAt? {r : Pattern} {p q : Cursor} (h : r.endAt? p = some q) : r.Leads p q :=
  (mem_ends_iff r p q).1 (List.mem_of_head? h)

end Pattern

namespace Cursor

theorem ahead_nil_iff {before : Option Char} {offset : Nat} {q : Cursor} :
    Ahead ⟨before, offset, []⟩ q ↔ q = ⟨before, offset, []⟩ := by
  constructor
  · rintro ⟨w, t, ht, rfl⟩
    obtain rfl : w = [] := (List.append_eq_nil_iff.1 ht.symm).1
    rfl
  · rintro rfl
    exact .refl _

theorem ahead_cons_iff {before : Option Char} {offset : Nat} {c : Char} {rest : List Char}
    {q : Cursor} :
    Ahead ⟨before, offset, c :: rest⟩ q ↔
      q = ⟨before, offset, c :: rest⟩ ∨ Ahead ⟨some c, offset + 1, rest⟩ q := by
  have hnext : past ⟨before, offset, c :: rest⟩ [c] = ⟨some c, offset + 1, rest⟩ :=
    past_singleton rfl
  constructor
  · rintro ⟨w, t, ht, rfl⟩
    cases w with
    | nil => exact .inl rfl
    | cons d w =>
      obtain ⟨hc, hrest⟩ : c = d ∧ rest = w ++ t := List.cons.inj ht
      subst hc
      refine .inr ⟨w, t, hrest, ?_⟩
      rw [← hnext, ← past_append, List.singleton_append]
  · rintro (rfl | h)
    · exact .refl _
    · rw [← hnext] at h
      exact (Ahead.past_of_isPrefix (w := [c]) rfl).trans h

end Cursor

namespace Pattern

theorem findFrom?_eq_none_iff (r : Pattern) (before : Option Char) (offset : Nat)
    (cs : List Char) : r.findFrom? before offset cs = none ↔
      ∀ p, Cursor.Ahead ⟨before, offset, cs⟩ p → r.endAt? p = none := by
  induction cs generalizing before offset with
  | nil => simp [findFrom?, Cursor.ahead_nil_iff]
  | cons c rest ih =>
    rw [findFrom?]
    cases hend : r.endAt? ⟨before, offset, c :: rest⟩ with
    | some q =>
      simp only [reduceCtorEq, false_iff]
      intro h
      simp [h _ (.refl _)] at hend
    | none =>
      simp only [ih, Cursor.ahead_cons_iff]
      constructor
      · rintro h p (rfl | hp)
        · exact hend
        · exact h p hp
      · exact fun h p hp => h p (.inr hp)

theorem findFrom?_eq_some {r : Pattern} {before : Option Char} {offset : Nat} {cs : List Char}
    {o : Occurrence} (h : r.findFrom? before offset cs = some o) :
    ∃ p q, Cursor.Ahead ⟨before, offset, cs⟩ p ∧ r.Leads p q ∧ o.start = p.offset ∧
      ∀ m, Cursor.Ahead ⟨before, offset, cs⟩ m → m.offset < p.offset → r.endAt? m = none := by
  induction cs generalizing before offset with
  | nil =>
    rw [findFrom?, Option.map_eq_some_iff] at h
    obtain ⟨q, hq, rfl⟩ := h
    refine ⟨_, q, .refl _, leads_of_endAt? hq, rfl, ?_⟩
    intro m hm hlt
    rw [Cursor.ahead_nil_iff.1 hm] at hlt
    exact absurd hlt (Nat.lt_irrefl _)
  | cons c rest ih =>
    rw [findFrom?] at h
    cases hend : r.endAt? ⟨before, offset, c :: rest⟩ with
    | some q =>
      simp only [hend, Option.some.injEq] at h
      refine ⟨_, q, .refl _, leads_of_endAt? hend, by rw [← h], ?_⟩
      intro m hm hlt
      have hle := hm.offset_le
      simp only at hle hlt
      omega
    | none =>
      simp only [hend] at h
      obtain ⟨p, q, hp, hq, hstart, hfirst⟩ := ih h
      refine ⟨p, q, Cursor.ahead_cons_iff.2 (.inr hp), hq, hstart, ?_⟩
      intro m hm hlt
      rcases Cursor.ahead_cons_iff.1 hm with rfl | hm
      · exact hend
      · exact hfirst m hm hlt

theorem find?_eq_none_iff (r : Pattern) (cs : List Char) :
    r.find? cs = none ↔ ¬ r.Occurs cs := by
  rw [find?, findFrom?_eq_none_iff]
  constructor
  · rintro h ⟨_, p, q, hp, _, hq⟩
    exact (endAt?_eq_none_iff r p).1 (h p hp) q hq
  · intro h p hp
    exact (endAt?_eq_none_iff r p).2 (fun q hq => h ⟨p.offset, p, q, hp, rfl, hq⟩)

/-- A search finds the first place from which the pattern matches. -/
theorem find?_start {r : Pattern} {cs : List Char} {o : Occurrence} (h : r.find? cs = some o) :
    r.MatchesAt cs o.start ∧ ∀ i < o.start, ¬ r.MatchesAt cs i := by
  obtain ⟨p, q, hp, hq, hstart, hfirst⟩ := findFrom?_eq_some h
  refine ⟨⟨p, q, hp, hstart.symm, hq⟩, ?_⟩
  rintro i hi ⟨m, e, hm, rfl, he⟩
  exact (endAt?_eq_none_iff r m).1 (hfirst m hm (by omega)) e he

theorem leads_of_mem_occurrencesFrom {r : Pattern} {skip : Nat} {before : Option Char}
    {offset : Nat} {cs : List Char} {o : Occurrence}
    (h : o ∈ r.occurrencesFrom skip before offset cs) :
    ∃ p q, Cursor.Ahead ⟨before, offset, cs⟩ p ∧ r.Leads p q ∧ o.start = p.offset ∧
      p.offset < q.offset ∧ o.text = p.rest.take (q.offset - p.offset) := by
  induction cs generalizing skip before offset with
  | nil => simp [occurrencesFrom] at h
  | cons c rest ih =>
    have hlater : ∀ {k : Nat}, o ∈ r.occurrencesFrom k (some c) (offset + 1) rest →
        ∃ p q, Cursor.Ahead ⟨before, offset, c :: rest⟩ p ∧ r.Leads p q ∧ o.start = p.offset ∧
          p.offset < q.offset ∧ o.text = p.rest.take (q.offset - p.offset) := by
      intro k hk
      obtain ⟨p, q, hp, hq⟩ := ih hk
      exact ⟨p, q, Cursor.ahead_cons_iff.2 (.inr hp), hq⟩
    cases skip with
    | succ skip => exact hlater (by simpa [occurrencesFrom] using h)
    | zero =>
      rw [occurrencesFrom] at h
      cases hend : r.endAt? ⟨before, offset, c :: rest⟩ with
      | none => exact hlater (by simpa [hend] using h)
      | some q =>
        simp only [hend] at h
        by_cases hzero : q.offset - offset = 0
        · exact hlater (by simpa [hzero] using h)
        · simp only [hzero, if_false, List.mem_cons] at h
          rcases h with rfl | h
          · refine ⟨_, q, .refl _, leads_of_endAt? hend, rfl, ?_, rfl⟩
            simp only
            omega
          · exact hlater h

end Pattern

end Appraisal
