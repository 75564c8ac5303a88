import Appraisal.Text.Blank

set_option autoImplicit false

/-!
# Lines

A line ends at a line feed, and a carriage return directly before that line feed belongs to
the line end. A text that ends in a line feed has no empty line after it.
-/
namespace Appraisal.Text

/-- One step from the right: the character after `c`, and the lines of the text after `c`. -/
def prependToLines (c : Char) (after : Option Char × List (List Char)) :
    Option Char × List (List Char) :=
  (some c,
    if c = '\n' then [] :: after.2
    else if c = '\r' ∧ after.1 = some '\n' then after.2
    else match after.2 with
      | [] => [[c]]
      | line :: rest => (c :: line) :: rest)

def lines (cs : List Char) : List (List Char) := (cs.foldr prependToLines (none, [])).2

theorem foldr_prependToLines_fst (cs : List Char) :
    (cs.foldr prependToLines (none, [])).1 = cs.head? := by
  cases cs <;> rfl

@[simp] theorem lines_nil : lines [] = [] := rfl

theorem lines_newline (r : List Char) : lines ('\n' :: r) = [] :: lines r := by
  simp [lines, prependToLines]

theorem lines_carriageReturn_newline (r : List Char) :
    lines ('\r' :: '\n' :: r) = [] :: lines r := by
  simp [lines, prependToLines]

theorem lines_cons (c : Char) (r : List Char) (hc : c ≠ '\n')
    (hr : ¬ (c = '\r' ∧ r.head? = some '\n')) :
    lines (c :: r) = match lines r with
      | [] => [[c]]
      | line :: rest => (c :: line) :: rest := by
  have hf := foldr_prependToLines_fst r
  simp only [lines, List.foldr_cons, prependToLines, hc, if_false, hf, hr]

def firstLine (cs : List Char) : List Char :=
  (((lines cs).map trim).find? (fun line => !line.isEmpty)).getD []

def truncate (limit : Nat) (cs : List Char) : List Char := cs.take limit

theorem truncate_isPrefix (limit : Nat) (cs : List Char) : truncate limit cs <+: cs :=
  List.take_prefix limit cs

end Appraisal.Text
