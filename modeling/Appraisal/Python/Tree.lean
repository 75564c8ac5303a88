import Appraisal.Python.Cursor

set_option autoImplicit false

/-!
# Syntax trees

Of a source text the tree keeps the statements of each block in order, with the comments between
them, and everything about definitions. What expressions say is kept as text.
-/
namespace Appraisal.Python

inductive Stars where
  | one
  | two
  deriving DecidableEq

def Stars.text : Stars → List Char
  | .one => ['*']
  | .two => ['*', '*']

inductive Parameter where
  | named (target : List Char) (annotation? default? : Option (List Char))
  /-- A name behind stars, with all that stands between them. -/
  | starred (stars : Stars) (between name : List Char) (annotation? : Option (List Char))
  /-- A star on its own: what follows is given by keyword. -/
  | keywordOnly
  /-- A slash on its own: what precedes is given by position. -/
  | positionalOnly
  | comment (text : List Char)
  | joint (text : List Char)
  deriving DecidableEq

inductive Signature where
  | classOf (bases : List (List Char))
  | functionOf (parameters : List Parameter)

/-- An element of a block. Rows and columns count from zero. -/
inductive Node where
  | comment (row column : Nat) (text : List Char)
  /-- Expressions as a statement: the first of them if it is a literal, and whether it stands
  alone, with no comma behind it. -/
  | expression (literal? : Option (List Char)) (alone : Bool)
  | definition (row column : Nat) (decorators : List (List Char)) (line : Nat) (name : List Char)
      (signature : Signature) (body : List Node)
  | other

end Appraisal.Python
