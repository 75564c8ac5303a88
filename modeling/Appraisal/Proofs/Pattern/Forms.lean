import Appraisal.Proofs.Pattern.Words

set_option autoImplicit false

namespace Appraisal.Pattern

/-- One of some characters, or a run of at least so many of them. -/
inductive Piece where
  | one (cs : List Char)
  | run (least : Nat) (cs : List Char)

def Piece.Fits : Piece → List Char → Prop
  | .one cs, w => ∃ c ∈ cs, w = [c]
  | .run least cs, w => least ≤ w.length ∧ ∀ c ∈ w, c ∈ cs

def FitsForm : List Piece → List Char → Prop
  | [], w => w = []
  | piece :: rest, w => ∃ u v, piece.Fits u ∧ FitsForm rest v ∧ w = u ++ v

/-- Each text of the form is seen to be a word. A run is taken up by a repetition as a whole. -/
def admits : Pattern → List Piece → Bool
  | .empty, form => form.isEmpty
  | .chars set, form =>
    match form with
    | [.one cs] => cs.all set.contains
    | _ => false
  | .assertion _, form => form.isEmpty
  | .seq a b, form =>
    (List.range (form.length + 1)).any (fun n => a.admits (form.take n) && b.admits (form.drop n))
  | .alt a b, form => a.admits form || b.admits form
  | .repetition body least most _, form =>
    match form with
    | [] => least == 0
    | [.run n cs] => least ≤ n && most.isNone && body.admits [.one cs]
    | _ => least ≤ 1 && most.all (1 ≤ ·) && body.admits form

theorem fitsForm_one_iff {cs w : List Char} :
    FitsForm [.one cs] w ↔ ∃ c ∈ cs, w = [c] := by
  simp [FitsForm, Piece.Fits]

theorem fitsForm_run_iff {least : Nat} {cs w : List Char} :
    FitsForm [.run least cs] w ↔ least ≤ w.length ∧ ∀ c ∈ w, c ∈ cs := by
  simp [FitsForm, Piece.Fits]

theorem FitsForm.one {c : Char} {cs w : List Char} {form : List Piece} (hc : c ∈ cs)
    (hw : FitsForm form w) : FitsForm (.one cs :: form) (c :: w) :=
  ⟨[c], w, ⟨c, hc, rfl⟩, hw, rfl⟩

theorem FitsForm.run {least : Nat} {cs u w : List Char} {form : List Piece}
    (hlength : least ≤ u.length) (hu : ∀ c ∈ u, c ∈ cs) (hw : FitsForm form w) :
    FitsForm (.run least cs :: form) (u ++ w) :=
  ⟨u, w, ⟨hlength, hu⟩, hw, rfl⟩

theorem fitsForm_append {form rest : List Piece} {w : List Char} :
    FitsForm (form ++ rest) w ↔ ∃ u v, FitsForm form u ∧ FitsForm rest v ∧ w = u ++ v := by
  induction form generalizing w with
  | nil => simp [FitsForm]
  | cons piece form ih =>
    simp only [List.cons_append, FitsForm, ih]
    constructor
    · rintro ⟨x, -, hx, ⟨u, v, hu, hv, rfl⟩, rfl⟩
      exact ⟨x ++ u, v, ⟨x, u, hx, hu, rfl⟩, hv, (List.append_assoc x u v).symm⟩
    · rintro ⟨-, v, ⟨x, u, hx, hu, rfl⟩, hv, rfl⟩
      exact ⟨x, u ++ v, hx, ⟨u, v, hu, hv, rfl⟩, List.append_assoc x u v⟩

theorem accepts_repetition_once {body : Pattern} {least : Nat} {most : Option Nat} {greedy : Bool}
    {w : List Char} (hleast : least ≤ 1) (hmost : most.all (1 ≤ ·) = true) (hw : body.Accepts w) :
    (repetition body least most greedy).Accepts w := by
  refine ⟨[w], hleast, ?_, by simpa using hw, by simp⟩
  rintro m rfl
  have hone : 1 ≤ m := by simpa using hmost
  exact Nat.le_trans hone (Nat.le_max_right least m)

theorem accepts_repetition_run {body : Pattern} {least : Nat} {greedy : Bool} {w : List Char}
    (hleast : least ≤ w.length) (hw : ∀ c ∈ w, body.Accepts [c]) :
    (repetition body least none greedy).Accepts w := by
  refine ⟨w.map (fun c => [c]), by simpa using hleast, by simp, ?_, ?_⟩
  · intro u hu
    obtain ⟨c, hc, rfl⟩ := List.mem_map.1 hu
    exact hw c hc
  · rw [← List.flatMap_def, List.flatMap_singleton']

theorem accepts_of_admits {r : Pattern} {form : List Piece} {w : List Char}
    (h : r.admits form = true) (hw : FitsForm form w) : r.Accepts w := by
  induction r generalizing form w with
  | empty =>
    obtain rfl := List.isEmpty_iff.1 h
    exact hw
  | chars set =>
    unfold admits at h
    split at h
    · obtain ⟨c, hc, rfl⟩ := fitsForm_one_iff.1 hw
      exact ⟨c, List.all_eq_true.1 h c hc, rfl⟩
    · simp at h
  | assertion a =>
    obtain rfl := List.isEmpty_iff.1 h
    exact hw
  | seq a b iha ihb =>
    -- the form is cut where the check found that it can be, and the word with it
    obtain ⟨n, -, hn⟩ := List.any_eq_true.1 h
    obtain ⟨ha, hb⟩ := Bool.and_eq_true_iff.1 hn
    rw [← List.take_append_drop n form] at hw
    obtain ⟨u, v, hu, hv, rfl⟩ := fitsForm_append.1 hw
    exact ⟨u, v, iha ha hu, ihb hb hv, rfl⟩
  | alt a b iha ihb =>
    rcases Bool.or_eq_true_iff.1 h with ha | hb
    · exact .inl (iha ha hw)
    · exact .inr (ihb hb hw)
  | repetition body least most greedy ih =>
    unfold admits at h
    split at h
    · -- no repetition at all
      obtain rfl := hw
      exact ⟨[], Nat.le_of_eq (by simpa using h), by simp, by simp, rfl⟩
    · simp only [Bool.and_eq_true, decide_eq_true_eq, Option.isNone_iff_eq_none] at h
      obtain ⟨⟨hleast, rfl⟩, hbody⟩ := h
      obtain ⟨hlength, hcs⟩ := fitsForm_run_iff.1 hw
      refine accepts_repetition_run (Nat.le_trans hleast hlength) fun c hc => ?_
      exact ih hbody (fitsForm_one_iff.2 ⟨c, hcs c hc, rfl⟩)
    · simp only [Bool.and_eq_true, decide_eq_true_eq] at h
      exact accepts_repetition_once h.1.1 h.1.2 (ih h.2 hw)

end Appraisal.Pattern
