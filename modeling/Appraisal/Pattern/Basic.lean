import Appraisal.Unicode.CharSet

set_option autoImplicit false

/-!
# Patterns

A pattern describes pieces of a text. Alternatives are in order of preference: a match that takes
an earlier alternative, or one repetition more where the repetition is greedy, is preferred.
-/
namespace Appraisal

open Unicode

inductive WordEdge where
  | boundary
  | interior
  | start
  | stop
  | startHalf
  | stopHalf
  deriving DecidableEq, Repr

inductive Assertion where
  | textStart
  | textEnd
  /-- With `carriage`, a carriage return ends a line too, alone or before a line feed. -/
  | lineStart (carriage : Bool)
  | lineEnd (carriage : Bool)
  | word (edge : WordEdge) (chars : CharSet)

inductive Pattern where
  | empty
  | chars (set : CharSet)
  | assertion (condition : Assertion)
  | seq (first second : Pattern)
  | alt (first second : Pattern)
  | repetition (body : Pattern) (least : Nat) (most : Option Nat) (greedy : Bool)
  deriving Inhabited

namespace Pattern

def literal (c : Char) : Pattern := .chars (.ranges [Range.single c])

def impossible : Pattern := .chars .none

def seqOf : List Pattern → Pattern
  | [] => .empty
  | [p] => p
  | p :: rest => .seq p (seqOf rest)

def altOf : List Pattern → Pattern
  | [] => impossible
  | [p] => p
  | p :: rest => .alt p (altOf rest)

end Pattern

end Appraisal
