set_option autoImplicit false

namespace Appraisal.Python

/-- Rows and columns count from zero, and columns count bytes. -/
structure Cursor where
  rest : List Char
  offset : Nat
  row : Nat
  column : Nat

namespace Cursor

def start (text : List Char) : Cursor := ⟨text, 0, 0, 0⟩

def advance (c : Cursor) : Cursor :=
  match c.rest with
  | [] => c
  | ch :: r =>
    if ch = '\n' then ⟨r, c.offset + 1, c.row + 1, 0⟩
    else ⟨r, c.offset + 1, c.row, c.column + ch.utf8Size⟩

def advanceBy : Nat → Cursor → Cursor
  | 0, c => c
  | n + 1, c => advanceBy n c.advance

def textTo (start stop : Cursor) : List Char := start.rest.take (stop.offset - start.offset)

inductive Reaches : Cursor → Cursor → Prop where
  | refl (a : Cursor) : Reaches a a
  | step (a b : Cursor) (later : Reaches a.advance b) : Reaches a b

theorem Reaches.trans {a b c : Cursor} (first : Reaches a b) (second : Reaches b c) :
    Reaches a c := by
  induction first with
  | refl => exact second
  | step a b _ ih => exact .step a c (ih second)

theorem reaches_advanceBy (n : Nat) (c : Cursor) : Reaches c (advanceBy n c) := by
  induction n generalizing c with
  | zero => exact .refl c
  | succ n ih => exact .step c _ (ih c.advance)

theorem row_le_advance (c : Cursor) : c.row ≤ c.advance.row := by
  unfold advance
  split
  · exact Nat.le_refl _
  · split
    · exact Nat.le_succ _
    · exact Nat.le_refl _

theorem Reaches.row_le {a b : Cursor} (h : Reaches a b) : a.row ≤ b.row := by
  induction h with
  | refl => exact Nat.le_refl _
  | step a _ _ ih => exact Nat.le_trans (row_le_advance a) ih

def Passes (a b : Cursor) : Prop := a.row < b.row ∨ b.rest = []

instance (a b : Cursor) : Decidable (Passes a b) := inferInstanceAs (Decidable (_ ∨ _))

theorem Reaches.rest_eq_nil {a b : Cursor} (h : Reaches a b) (ha : a.rest = []) : b.rest = [] := by
  induction h with
  | refl => exact ha
  | step a _ _ ih => exact ih (by rw [advance, ha]; exact ha)

theorem Passes.trans_reaches {a b c : Cursor} (first : Passes a b) (second : Reaches b c) :
    Passes a c :=
  first.imp (Nat.lt_of_lt_of_le · second.row_le) second.rest_eq_nil

theorem Reaches.trans_passes {a b c : Cursor} (first : Reaches a b) (second : Passes b c) :
    Passes a c :=
  second.imp_left (Nat.lt_of_le_of_lt first.row_le)

end Cursor

end Appraisal.Python
