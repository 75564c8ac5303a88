import Appraisal.Pattern.Basic

set_option autoImplicit false

/-!
# Matching

`Pattern.ends` lists, for a place in a text, the places where a match from there can end, most
preferred first and each once. The match at a place is the most preferred one; the match in a text
is the one at the first place that has any.
-/
namespace Appraisal

open Unicode

structure Cursor where
  before : Option Char
  offset : Nat
  rest : List Char
  deriving Inhabited, DecidableEq

namespace Cursor

def start (cs : List Char) : Cursor := ⟨none, 0, cs⟩

def wordBefore (p : Cursor) (word : CharSet) : Bool := p.before.any word.contains

def wordAfter (p : Cursor) (word : CharSet) : Bool := p.rest.head?.any word.contains

end Cursor

namespace WordEdge

def holds (edge : WordEdge) (before after : Bool) : Bool :=
  match edge with
  | .boundary => before != after
  | .interior => before == after
  | .start => !before && after
  | .stop => before && !after
  | .startHalf => !before
  | .stopHalf => !after

end WordEdge

namespace Assertion

def holds (a : Assertion) (p : Cursor) : Bool :=
  match a with
  | .textStart => p.before.isNone
  | .textEnd => p.rest.isEmpty
  | .lineStart carriage =>
    p.before.isNone || p.before == some '\n' ||
      (carriage && p.before == some '\r' && p.rest.head? != some '\n')
  | .lineEnd carriage =>
    p.rest.isEmpty ||
      (if carriage then
        p.rest.head? == some '\r' || (p.rest.head? == some '\n' && p.before != some '\r')
      else p.rest.head? == some '\n')
  | .word edge chars => edge.holds (p.wordBefore chars) (p.wordAfter chars)

end Assertion

def addPlace (found : List Cursor) (p : Cursor) : List Cursor :=
  if found.any (fun q => q.offset == p.offset) then found else p :: found

def distinctPlaces (ps : List Cursor) : List Cursor := (ps.foldl addPlace []).reverse

def stepTimes (step : Cursor → List Cursor) : Nat → List Cursor → List Cursor
  | 0, ps => ps
  | count + 1, ps =>
    match ps with
    | [] => []
    | _ => stepTimes step count (distinctPlaces (ps.flatMap step))

/-- Any number of steps from `p`, added to places found so far, the latest first. A greedy run
adds `p` after all that lies beyond it. A step that stays at `p` ends the run there. -/
def stepMany (step : Cursor → List Cursor) (greedy : Bool) :
    Nat → List Cursor → Cursor → List Cursor
  | 0, found, p => addPlace found p
  | fuel + 1, found, p =>
    if found.any (fun q => q.offset == p.offset) then found
    else
      let found := if greedy then found else addPlace found p
      let found := (step p).foldl
        (fun found q =>
          if q.offset = p.offset then addPlace found q else stepMany step greedy fuel found q)
        found
      addPlace found p

def stepSome (step : Cursor → List Cursor) (greedy : Bool) (found : List Cursor) (p : Cursor) :
    List Cursor :=
  (step p).foldl
    (fun found q =>
      if q.offset = p.offset then addPlace found q
      else stepMany step greedy (p.rest.length + 1) found q)
    found

/-- Places found, the latest first, and the pairs of steps left and offset already explored. -/
structure Explored where
  found : List Cursor
  seen : List (Nat × Nat)

def stepUpTo (step : Cursor → List Cursor) (greedy : Bool) :
    Nat → Explored → Cursor → Explored
  | 0, e, p => { e with found := addPlace e.found p }
  | count + 1, e, p =>
    if (count, p.offset) ∈ e.seen then e
    else
      let e : Explored := ⟨if greedy then e.found else addPlace e.found p, (count, p.offset) :: e.seen⟩
      let e := (step p).foldl (fun e q => stepUpTo step greedy count e q) e
      { e with found := addPlace e.found p }

def repeatStep (step : Cursor → List Cursor) (least : Nat) (most : Option Nat) (greedy : Bool)
    (p : Cursor) : List Cursor :=
  match most with
  | some most =>
    ((stepTimes step least [p]).foldl
      (fun e q => stepUpTo step greedy (most - least) e q) ⟨[], []⟩).found.reverse
  | none =>
    match least with
    | 0 => (stepMany step greedy (p.rest.length + 1) [] p).reverse
    | least + 1 => ((stepTimes step least [p]).foldl (stepSome step greedy) []).reverse

namespace Pattern

def ends : Pattern → Cursor → List Cursor
  | .empty, p => [p]
  | .chars set, p =>
    match p.rest with
    | c :: r => if set.contains c then [⟨some c, p.offset + 1, r⟩] else []
    | [] => []
  | .assertion a, p => if a.holds p then [p] else []
  | .seq a b, p => distinctPlaces ((a.ends p).flatMap b.ends)
  | .alt a b, p => distinctPlaces (a.ends p ++ b.ends p)
  | .repetition body least most greedy, p => repeatStep body.ends least most greedy p

def endAt? (r : Pattern) (p : Cursor) : Option Cursor := (r.ends p).head?

structure Occurrence where
  start : Nat
  text : List Char
  deriving DecidableEq, Repr

def findFrom? (r : Pattern) (before : Option Char) (offset : Nat) : List Char → Option Occurrence
  | [] => (r.endAt? ⟨before, offset, []⟩).map (fun _ => ⟨offset, []⟩)
  | c :: rest =>
    match r.endAt? ⟨before, offset, c :: rest⟩ with
    | some q => some ⟨offset, (c :: rest).take (q.offset - offset)⟩
    | none => r.findFrom? (some c) (offset + 1) rest

def find? (r : Pattern) (cs : List Char) : Option Occurrence := r.findFrom? none 0 cs

/-- The matches after `skip` more characters. Each search goes on where the match before ended,
and one character further where that match was empty. -/
def occurrencesFrom (r : Pattern) (skip : Nat) (before : Option Char) (offset : Nat) :
    List Char → List Occurrence
  | [] => []
  | c :: rest =>
    match skip with
    | skip + 1 => r.occurrencesFrom skip (some c) (offset + 1) rest
    | 0 =>
      match r.endAt? ⟨before, offset, c :: rest⟩ with
      | none => r.occurrencesFrom 0 (some c) (offset + 1) rest
      | some q =>
        let length := q.offset - offset
        if length = 0 then r.occurrencesFrom 0 (some c) (offset + 1) rest
        else
          ⟨offset, (c :: rest).take length⟩ ::
            r.occurrencesFrom (length - 1) (some c) (offset + 1) rest

/-- The non-empty matches in a text, from left to right, none overlapping another. -/
def occurrences (r : Pattern) (cs : List Char) : List Occurrence := r.occurrencesFrom 0 none 0 cs

end Pattern

end Appraisal
