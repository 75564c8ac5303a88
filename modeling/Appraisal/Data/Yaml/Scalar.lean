import Appraisal.Data.Yaml.Place

set_option autoImplicit false

namespace Appraisal.Yaml

structure Gap where
  /-- The blanks, last first, while there is no line end. -/
  blanks : List Char
  broken : Bool
  first? : Option Char
  more : List Char

namespace Gap

def none : Gap := ⟨[], false, .none, []⟩

def escaped : Gap := ⟨[], true, .none, []⟩

def isSome (g : Gap) : Bool := g.broken || !g.blanks.isEmpty

def push (g : Gap) (c : Char) : Gap :=
  if isBreak c then
    if g.broken then { g with more := c :: g.more } else ⟨[], true, some c, []⟩
  else if g.broken then g
  else { g with blanks := c :: g.blanks }

def text (g : Gap) : List Char :=
  if g.broken then
    match g.first? with
    | some '\n' => if g.more.isEmpty then [' '] else g.more
    | some c => g.more ++ [c]
    | .none => g.more
  else g.blanks

end Gap

def hexDigit? (c : Char) : Option Nat :=
  if '0' ≤ c ∧ c ≤ '9' then some (c.toNat - 48)
  else if 'a' ≤ c ∧ c ≤ 'f' then some (c.toNat - 87)
  else if 'A' ≤ c ∧ c ≤ 'F' then some (c.toNat - 55)
  else none

def hexValue? (cs : List Char) : Option Nat :=
  cs.foldlM (fun n c => (hexDigit? c).map (fun d => n * 16 + d)) 0

def coded? (digits : Nat) (ps : Places) : Option (Char × Places) :=
  if ps.length < digits then none
  else match hexValue? ((ps.take digits).map (·.char)) with
    | some n =>
      if n < 0xD800 ∨ (0xE000 ≤ n ∧ n < 0x110000) then some (Char.ofNat n, ps.drop digits)
      else none
    | none => none

def escapes : List (Char × Char) :=
  [('0', '\x00'), ('a', '\x07'), ('b', '\x08'), ('t', '\t'), ('\t', '\t'), ('n', '\n'),
    ('v', '\x0B'), ('f', '\x0C'), ('r', '\r'), ('e', '\x1B'), (' ', ' '), ('"', '"'),
    ('/', '/'), ('\\', '\\'), ('N', '\u0085'), ('_', '\u00A0'), ('L', '\u2028'),
    ('P', '\u2029')]

def escape? (c : Char) (rest : Places) : Option (Char × Places) :=
  match c with
  | 'x' => coded? 2 rest
  | 'u' => coded? 4 rest
  | 'U' => coded? 8 rest
  | _ => (escapes.find? (fun e => e.1 == c)).map (fun e => (e.2, rest))

def singleQuoted? (done : List Char) (gap : Gap) : Places → Option (List Char × Places)
  | [] => none
  | [p] => if p.char = '\'' then some (gap.text ++ done, []) else none
  | p :: q :: r =>
    if isDocumentMark (p :: q :: r) then none
    else if isBlank p.char || isBreak p.char then singleQuoted? done (gap.push p.char) (q :: r)
    else if p.char = '\'' then
      if q.char = '\'' then singleQuoted? ('\'' :: (gap.text ++ done)) .none r
      else some (gap.text ++ done, q :: r)
    else singleQuoted? (p.char :: (gap.text ++ done)) .none (q :: r)

/-- The rest of a scalar in double quotes. Every step takes a character, so as many steps as there
are characters will do. -/
def doubleQuoted? : Nat → List Char → Gap → Places → Option (List Char × Places)
  | 0, _, _, _ => none
  | _, _, _, [] => none
  | steps + 1, done, gap, p :: r =>
    if isDocumentMark (p :: r) then none
    else if isBlank p.char || isBreak p.char then doubleQuoted? steps done (gap.push p.char) r
    else if p.char = '"' then some (gap.text ++ done, r)
    else if p.char = '\\' then
      match r with
      | [] => none
      | q :: r =>
        if isBreak q.char then doubleQuoted? steps (gap.text ++ done) .escaped r
        else match escape? q.char r with
          | some (c, r) => doubleQuoted? steps (c :: (gap.text ++ done)) .none r
          | none => none
    else doubleQuoted? steps (p.char :: (gap.text ++ done)) .none r

def isFlowIndicator (c : Char) : Bool := c ∈ [',', '[', ']', '\x7b', '\x7d']

/-- The rest of a plain scalar, with the gap behind it. Its lines start at `floor` or further to the
right, unless it is within brackets. -/
def plainRest? (inFlow : Bool) (floor : Nat) (done : List Char) (gap : Gap) :
    Places → Option (List Char × Gap × Places)
  | [] => some (done, gap, [])
  | p :: r =>
    if isBlank p.char || isBreak p.char then
      if gap.broken && p.column < floor && p.char == '\t' then none
      else plainRest? inFlow floor done (gap.push p.char) r
    else if gap.isSome &&
        ((!inFlow && p.column < floor) || p.char == '#' || isDocumentMark (p :: r)) then
      some (done, gap, p :: r)
    else if inFlow && p.char == ':' &&
        (char? 0 r).any (fun c => c == '?' || isFlowIndicator c) then none
    else if (p.char == ':' && gapAt 0 r) || (inFlow && isFlowIndicator p.char) then
      some (done, gap, p :: r)
    else plainRest? inFlow floor (p.char :: (gap.text ++ done)) .none r

inductive Chomping where
  | strip
  | clip
  | keep
  deriving DecidableEq

structure BlockHeader where
  chomping : Chomping
  increment? : Option Nat

def chomping? (c : Char) : Option Chomping :=
  match c with
  | '+' => some .keep
  | '-' => some .strip
  | _ => none

def increment? (c : Char) : Option Nat := if c.isDigit then some (c.toNat - 48) else none

def BlockHeader.valid? (h : BlockHeader) : Option BlockHeader :=
  if h.increment? = some 0 then none else some h

def blockHeader? (ps : Places) : Option (BlockHeader × Places) :=
  match ps with
  | [] => some (⟨.clip, none⟩, [])
  | p :: r =>
    match chomping? p.char, increment? p.char with
    | some ch, _ =>
      match (char? 0 r).bind increment? with
      | some n => (BlockHeader.valid? ⟨ch, some n⟩).map (·, r.tail)
      | none => some (⟨ch, none⟩, r)
    | none, some n =>
      let ch? := (char? 0 r).bind chomping?
      (BlockHeader.valid? ⟨ch?.getD .clip, some n⟩).map (·, if ch?.isSome then r.tail else r)
    | none, none => some (⟨.clip, none⟩, ps)

def lineRest? (ps : Places) : Option Places :=
  let ps := ps.dropWhile (fun p => isBlank p.char)
  let ps := if startsWith '#' ps then ps.dropWhile (fun p => !isBreak p.char) else ps
  if lineEnds ps then some ps.tail else none

/-- Empty lines before a line of a block scalar: their ends, last first, the widest indentation
and the places behind. `indent` is zero as long as it is not known. -/
def emptyLines? (indent widest : Nat) (ends : List Char) :
    Places → Option (List Char × Nat × Places)
  | [] => some (ends, widest, [])
  | p :: r =>
    let inside := indent == 0 || p.column < indent
    if inside && p.char == ' ' then emptyLines? indent (max widest (p.column + 1)) ends r
    else if inside && p.char == '\t' then none
    else if isBreak p.char then emptyLines? indent (max widest p.column) (p.char :: ends) r
    else some (ends, max widest p.column, p :: r)

/-- The lines of a block scalar from the next one on. `last?` is the end of the line before, `ends`
holds those of the empty lines since, and `spaced` says that the line before starts with a blank.
The answer is the text, last character first, with the line ends behind it. -/
def blockLines? (literal : Bool) (indent : Nat) : Nat → List Char → (last? : Option Char) →
    (ends : List Char) → (spaced : Bool) → Places →
    Option (List Char × Option Char × List Char × Places)
  | 0, _, _, _, _, _ => none
  | _ + 1, done, last?, ends, _, [] => some (done, last?, ends, [])
  | steps + 1, done, last?, ends, spaced, p :: r =>
    if p.column ≠ indent then some (done, last?, ends, p :: r)
    else
      let indented := isBlank p.char
      let folded := !literal && last? == some '\n' && !spaced && !indented
      let between :=
        if folded then (if ends.isEmpty then [' '] else ends) else ends ++ last?.toList
      let line := ((p :: r).takeWhile (fun p => !isBreak p.char)).map (·.char)
      let rest := (p :: r).dropWhile (fun p => !isBreak p.char)
      match emptyLines? indent 0 [] rest.tail with
      | none => none
      | some (ends, _, after) =>
        blockLines? literal indent steps (line.reverse ++ (between ++ done)) (char? 0 rest) ends
          indented after

def block? (literal : Bool) (floor : Nat) (ps : Places) : Option (List Char × Places) := do
  let (header, ps) ← blockHeader? ps
  let ps ← lineRest? ps
  let known := match header.increment? with
    | some n => floor - 1 + n
    | none => 0
  let (ends, widest, ps) ← emptyLines? known 0 [] ps
  let indent := if known = 0 then max (max widest floor) 1 else known
  let (done, last?, ends, ps) ←
    blockLines? literal indent (ps.length + 1) [] none ends false ps
  let tail := match header.chomping with
    | .strip => []
    | .clip => last?.toList
    | .keep => ends ++ last?.toList
  return (tail ++ done, ps)

end Appraisal.Yaml
