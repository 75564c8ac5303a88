import Appraisal.Proofs.Pattern.Matching

set_option autoImplicit false

namespace Appraisal.Pattern

/-- The words that matches take up; conditions on places are passed over. -/
def Accepts : Pattern → List Char → Prop
  | .empty, w => w = []
  | .chars set, w => ∃ c, set.contains c = true ∧ w = [c]
  | .assertion _, w => w = []
  | .seq a b, w => ∃ u v, a.Accepts u ∧ b.Accepts v ∧ w = u ++ v
  | .alt a b, w => a.Accepts w ∨ b.Accepts w
  | .repetition body least most _, w =>
    ∃ parts : List (List Char), least ≤ parts.length ∧
      (∀ m, most = some m → parts.length ≤ max least m) ∧
      (∀ u ∈ parts, body.Accepts u) ∧ w = parts.flatten

def isFloating : Pattern → Bool
  | .empty => true
  | .chars _ => true
  | .assertion _ => false
  | .seq a b => a.isFloating && b.isFloating
  | .alt a b => a.isFloating && b.isFloating
  | .repetition body _ _ _ => body.isFloating

theorem exists_parts_of_iterates {r : Cursor → Cursor → Prop} {P : List Char → Prop}
    (hr : ∀ p q, r p q → ∃ w t, P w ∧ p.rest = w ++ t ∧ q = p.past w) {n : Nat} {p q : Cursor}
    (h : Iterates r n p q) :
    ∃ parts : List (List Char), ∃ t, parts.length = n ∧ (∀ u ∈ parts, P u) ∧
      p.rest = parts.flatten ++ t ∧ q = p.past parts.flatten := by
  induction n generalizing p with
  | zero => exact ⟨[], p.rest, rfl, by simp, rfl, h⟩
  | succ n ih =>
    obtain ⟨m, hm, hq⟩ := h
    obtain ⟨u, t, hu, ht, rfl⟩ := hr p m hm
    obtain ⟨parts, s, hlen, hparts, hs, rfl⟩ := ih hq
    rw [Cursor.past_rest ht] at hs
    refine ⟨u :: parts, s, by simp [hlen], ?_, ?_, ?_⟩
    · intro v hv
      rcases List.mem_cons.1 hv with rfl | hv
      · exact hu
      · exact hparts v hv
    · rw [ht, hs, List.flatten_cons, List.append_assoc]
    · rw [List.flatten_cons, Cursor.past_append]

theorem iterates_of_parts {r : Cursor → Cursor → Prop} {P : List Char → Prop}
    (hr : ∀ w t p, P w → p.rest = w ++ t → r p (p.past w)) {parts : List (List Char)}
    {t : List Char} {p : Cursor} (hparts : ∀ u ∈ parts, P u) (hp : p.rest = parts.flatten ++ t) :
    Iterates r parts.length p (p.past parts.flatten) := by
  induction parts generalizing p with
  | nil => rfl
  | cons u parts ih =>
    rw [List.flatten_cons, List.append_assoc] at hp
    refine ⟨p.past u, hr u _ p (hparts u (by simp)) hp, ?_⟩
    rw [List.flatten_cons, Cursor.past_append]
    exact ih (fun v hv => hparts v (by simp [hv])) (Cursor.past_rest hp)

theorem Leads.exists_word {r : Pattern} {p q : Cursor} (h : r.Leads p q) :
    ∃ w t, r.Accepts w ∧ p.rest = w ++ t ∧ q = p.past w := by
  induction r generalizing p q with
  | empty => exact ⟨[], p.rest, rfl, rfl, h⟩
  | chars set =>
    obtain ⟨c, t, ht, hc, rfl⟩ := h
    exact ⟨[c], t, ⟨c, hc, rfl⟩, ht, rfl⟩
  | assertion a => exact ⟨[], p.rest, rfl, rfl, h.2⟩
  | seq a b iha ihb =>
    obtain ⟨m, ha, hb⟩ := h
    obtain ⟨u, t, hu, ht, rfl⟩ := iha ha
    obtain ⟨v, s, hv, hs, rfl⟩ := ihb hb
    rw [Cursor.past_rest ht] at hs
    refine ⟨u ++ v, s, ⟨u, v, hu, hv, rfl⟩, ?_, (Cursor.past_append p u v).symm⟩
    rw [ht, hs, List.append_assoc]
  | alt a b iha ihb =>
    rcases h with h | h
    · obtain ⟨w, t, hw, hp⟩ := iha h
      exact ⟨w, t, .inl hw, hp⟩
    · obtain ⟨w, t, hw, hp⟩ := ihb h
      exact ⟨w, t, .inr hw, hp⟩
  | repetition body least most greedy ih =>
    obtain ⟨n, hleast, hmost, hn⟩ := h
    obtain ⟨parts, t, hlen, hparts, hp, hq⟩ := exists_parts_of_iterates (fun p q => ih) hn
    refine ⟨parts.flatten, t, ⟨parts, ?_, ?_, hparts, rfl⟩, hp, hq⟩
    · rw [hlen]
      exact hleast
    · rw [hlen]
      exact hmost

theorem leads_of_accepts {r : Pattern} (hr : r.isFloating = true) {w t : List Char} {p : Cursor}
    (hw : r.Accepts w) (hp : p.rest = w ++ t) : r.Leads p (p.past w) := by
  induction r generalizing p w t with
  | empty =>
    obtain rfl := hw
    rfl
  | chars set =>
    obtain ⟨c, hc, rfl⟩ := hw
    exact ⟨c, t, hp, hc, rfl⟩
  | assertion a => simp [isFloating] at hr
  | seq a b iha ihb =>
    simp only [isFloating, Bool.and_eq_true] at hr
    obtain ⟨u, v, hu, hv, rfl⟩ := hw
    rw [List.append_assoc] at hp
    rw [Cursor.past_append]
    exact ⟨p.past u, iha hr.1 hu hp, ihb hr.2 hv (Cursor.past_rest hp)⟩
  | alt a b iha ihb =>
    simp only [isFloating, Bool.and_eq_true] at hr
    rcases hw with hw | hw
    · exact .inl (iha hr.1 hw hp)
    · exact .inr (ihb hr.2 hw hp)
  | repetition body least most greedy ih =>
    obtain ⟨parts, hleast, hmost, hparts, rfl⟩ := hw
    exact ⟨parts.length, hleast, hmost, iterates_of_parts (fun w t p => ih hr) hparts hp⟩

theorem exists_word_of_matchesAt {r : Pattern} {cs : List Char} {i : Nat}
    (h : r.MatchesAt cs i) :
    ∃ before w after, cs = before ++ w ++ after ∧ before.length = i ∧ r.Accepts w := by
  obtain ⟨p, q, ⟨before, rest, hcs, rfl⟩, hi, hq⟩ := h
  obtain ⟨w, after, hw, hrest, -⟩ := hq.exists_word
  rw [Cursor.past_rest hcs] at hrest
  refine ⟨before, w, after, ?_, ?_, hw⟩
  · rw [List.append_assoc, ← hrest]
    exact hcs
  · simpa [Cursor.start] using hi

theorem matchesAt_of_accepts {r : Pattern} (hr : r.isFloating = true) {before w after : List Char}
    (hw : r.Accepts w) : r.MatchesAt (before ++ w ++ after) before.length := by
  have hcs : (Cursor.start (before ++ w ++ after)).rest = before ++ (w ++ after) :=
    List.append_assoc before w after
  refine ⟨(Cursor.start (before ++ w ++ after)).past before, _, .past_of_isPrefix hcs, ?_,
    leads_of_accepts hr hw (Cursor.past_rest hcs)⟩
  simp [Cursor.start]

theorem exists_infix_of_occurs {r : Pattern} {cs : List Char} (h : r.Occurs cs) :
    ∃ w, w <:+: cs ∧ r.Accepts w := by
  obtain ⟨i, hi⟩ := h
  obtain ⟨before, w, after, hcs, -, hw⟩ := exists_word_of_matchesAt hi
  exact ⟨w, ⟨before, after, hcs.symm⟩, hw⟩

theorem occurs_iff {r : Pattern} (hr : r.isFloating = true) (cs : List Char) :
    r.Occurs cs ↔ ∃ w, w <:+: cs ∧ r.Accepts w := by
  constructor
  · exact exists_infix_of_occurs
  · rintro ⟨w, ⟨before, after, rfl⟩, hw⟩
    exact ⟨before.length, matchesAt_of_accepts hr hw⟩

theorem Occurs.of_isInfix {r : Pattern} (hr : r.isFloating = true) {piece cs : List Char}
    (hpiece : piece <:+: cs) (h : r.Occurs piece) : r.Occurs cs := by
  obtain ⟨w, hw, hacc⟩ := exists_infix_of_occurs h
  exact (occurs_iff hr cs).2 ⟨w, hw.trans hpiece, hacc⟩

end Appraisal.Pattern
