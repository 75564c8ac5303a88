import Appraisal.Pattern.Match

set_option autoImplicit false

namespace Appraisal

namespace Cursor

def past (p : Cursor) (w : List Char) : Cursor :=
  ⟨w.getLast?.or p.before, p.offset + w.length, p.rest.drop w.length⟩

/-- `q` is a place in the text that follows `p`, or `p` itself. -/
def Ahead (p q : Cursor) : Prop := ∃ w t, p.rest = w ++ t ∧ q = p.past w

@[simp] theorem past_nil (p : Cursor) : p.past [] = p := rfl

@[simp] theorem past_offset (p : Cursor) (w : List Char) :
    (p.past w).offset = p.offset + w.length := rfl

theorem past_append (p : Cursor) (u v : List Char) : p.past (u ++ v) = (p.past u).past v := by
  simp only [past, List.getLast?_append, List.length_append, List.drop_drop, Nat.add_assoc,
    Option.or_assoc]

theorem past_rest {p : Cursor} {w t : List Char} (h : p.rest = w ++ t) :
    (p.past w).rest = t := by
  simp [past, h]

theorem past_singleton {p : Cursor} {c : Char} {t : List Char} (h : p.rest = c :: t) :
    p.past [c] = ⟨some c, p.offset + 1, t⟩ := by
  simp [past, h]

theorem Ahead.refl (p : Cursor) : p.Ahead p := ⟨[], p.rest, rfl, rfl⟩

theorem Ahead.trans {p q r : Cursor} (first : p.Ahead q) (second : q.Ahead r) : p.Ahead r := by
  obtain ⟨u, t, ht, rfl⟩ := first
  obtain ⟨v, s, hs, rfl⟩ := second
  rw [past_rest ht] at hs
  refine ⟨u ++ v, s, ?_, (past_append p u v).symm⟩
  rw [ht, hs, List.append_assoc]

theorem Ahead.offset_le {p q : Cursor} (h : p.Ahead q) : p.offset ≤ q.offset := by
  obtain ⟨w, _, _, rfl⟩ := h
  exact Nat.le_add_right _ _

theorem Ahead.length_rest {p q : Cursor} (h : p.Ahead q) :
    q.offset + q.rest.length = p.offset + p.rest.length := by
  obtain ⟨w, t, ht, rfl⟩ := h
  rw [past_rest ht, ht, past_offset, List.length_append, Nat.add_assoc]

theorem Ahead.eq_of_offset_eq {o p q : Cursor} (hp : o.Ahead p) (hq : o.Ahead q)
    (h : p.offset = q.offset) : p = q := by
  obtain ⟨u, t, ht, rfl⟩ := hp
  obtain ⟨v, s, hs, rfl⟩ := hq
  have hlen : u.length = v.length := by simpa using h
  have huv : u = v := (List.append_inj (ht.symm.trans hs) hlen).1
  rw [huv]

theorem Ahead.past_of_isPrefix {p : Cursor} {w t : List Char} (h : p.rest = w ++ t) :
    p.Ahead (p.past w) :=
  ⟨w, t, h, rfl⟩

end Cursor

section

variable {o : Cursor}

theorem any_offset_iff {found : List Cursor} {p : Cursor} (hf : ∀ f ∈ found, o.Ahead f)
    (hp : o.Ahead p) : found.any (fun q => q.offset == p.offset) = true ↔ p ∈ found := by
  simp only [List.any_eq_true, beq_iff_eq]
  constructor
  · rintro ⟨q, hq, he⟩
    rwa [← (hf q hq).eq_of_offset_eq hp he]
  · intro h
    exact ⟨p, h, rfl⟩

theorem mem_addPlace {found : List Cursor} {p : Cursor} (hf : ∀ f ∈ found, o.Ahead f)
    (hp : o.Ahead p) (q : Cursor) : q ∈ addPlace found p ↔ q ∈ found ∨ q = p := by
  unfold addPlace
  split
  · rename_i h
    have hmem := (any_offset_iff hf hp).1 h
    constructor
    · exact Or.inl
    · rintro (hq | rfl)
      · exact hq
      · exact hmem
  · rw [List.mem_cons, or_comm]

theorem mem_foldl_addPlace {ps found : List Cursor} (hf : ∀ f ∈ found, o.Ahead f)
    (hps : ∀ p ∈ ps, o.Ahead p) (q : Cursor) :
    q ∈ ps.foldl addPlace found ↔ q ∈ found ∨ q ∈ ps := by
  induction ps generalizing found with
  | nil => simp
  | cons p ps ih =>
    have hp : o.Ahead p := hps p (by simp)
    have hf' : ∀ f ∈ addPlace found p, o.Ahead f := by
      intro f hmem
      rcases (mem_addPlace hf hp f).1 hmem with h | rfl
      · exact hf f h
      · exact hp
    rw [List.foldl_cons, ih hf' (fun r hr => hps r (by simp [hr])), mem_addPlace hf hp,
      List.mem_cons, or_assoc]

theorem mem_distinctPlaces {ps : List Cursor} (h : ∀ p ∈ ps, o.Ahead p) (q : Cursor) :
    q ∈ distinctPlaces ps ↔ q ∈ ps := by
  rw [distinctPlaces, List.mem_reverse, mem_foldl_addPlace (by simp) h]
  simp

end

end Appraisal
