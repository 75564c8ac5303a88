import Appraisal.Data.Yaml.Scalar

set_option autoImplicit false

/-!
# Tokens of a document

Indentation becomes tokens of its own: a block collection starts where a line is indented further
than the collection around it, and ends where a line is indented less. That a scalar is a key
shows only at the colon behind it, so the place of every possible key is remembered.
-/
namespace Appraisal.Yaml

inductive Token where
  | version (major minor : Nat)
  | handle (name : List Char)
  | documentStart
  | documentEnd
  | blockSequence
  | blockMapping
  | blockEnd
  | flowSequence
  | flowSequenceEnd
  | flowMapping
  | flowMappingEnd
  | item
  | comma
  | key
  | value
  | alias (name : List Char)
  | anchor (name : List Char)
  | tag (handle : List Char)
  | scalar (text : List Char) (isPlain : Bool)
  deriving DecidableEq, Repr

def isWordChar (c : Char) : Bool := c.isAlphanum || c == '_' || c == '-'

def takeWord (ps : Places) : List Char × Places :=
  ((ps.takeWhile (fun p => isWordChar p.char)).map (·.char),
    ps.dropWhile (fun p => isWordChar p.char))

def skipBlanks (ps : Places) : Places := ps.dropWhile (fun p => isBlank p.char)

def anchorName? (ps : Places) : Option (List Char × Places) :=
  let (name, rest) := takeWord ps
  let ended := gapAt 0 rest ||
    (char? 0 rest).any (fun c => c ∈ ['?', ':', ',', ']', '\x7d', '%', '@', '\x60'])
  if name.isEmpty || !ended then none else some (name, rest)

def tagHandle? (ps : Places) : Option (List Char × Places) :=
  if startsWith '!' ps then
    let (word, rest) := takeWord ps.tail
    if startsWith '!' rest then some ('!' :: (word ++ ['!']), rest.tail)
    else some ('!' :: word, rest)
  else none

def escapedByte? (ps : Places) : Option (Nat × Places) :=
  match ps with
  | p :: q :: r :: rest =>
    if p.char = '%' then (hexValue? [q.char, r.char]).map (·, rest) else none
  | _ => none

def characterLength? (byte : Nat) : Option Nat :=
  if byte < 0x80 then some 1
  else if 0xC0 ≤ byte ∧ byte < 0xE0 then some 2
  else if 0xE0 ≤ byte ∧ byte < 0xF0 then some 3
  else if 0xF0 ≤ byte ∧ byte < 0xF8 then some 4
  else none

def continuation? : Nat → Places → Option Places
  | 0, ps => some ps
  | n + 1, ps =>
    match escapedByte? ps with
    | some (byte, rest) =>
      if 0x80 ≤ byte ∧ byte < 0xC0 then continuation? n rest else none
    | none => none

def escapedCharacter? (ps : Places) : Option Places := do
  let (byte, rest) ← escapedByte? ps
  continuation? ((← characterLength? byte) - 1) rest

def isTagChar (withFlow : Bool) (c : Char) : Bool :=
  isWordChar c ||
    c ∈ [';', '/', '?', ':', '@', '&', '=', '+', '$', '.', '%', '!', '~', '*', '\'', '(', ')'] ||
    (withFlow && c ∈ [',', '[', ']'])

def tagText? (withFlow : Bool) : Nat → (count : Nat) → Places → Option (Nat × Places)
  | 0, _, _ => none
  | _, count, [] => some (count, [])
  | steps + 1, count, p :: r =>
    if p.char = '%' then
      match escapedCharacter? (p :: r) with
      | some rest => tagText? withFlow steps (count + 1) rest
      | none => none
    else if isTagChar withFlow p.char then tagText? withFlow steps (count + 1) r
    else some (count, p :: r)

def someTagText? (withFlow : Bool) (ps : Places) : Option Places :=
  match tagText? withFlow (ps.length + 1) 0 ps with
  | some (count, rest) => if count = 0 then none else some rest
  | none => none

def tag? (inFlow : Bool) (ps : Places) : Option (List Char × Places) := do
  let (handle, rest) ← (if char? 1 ps == some '<' then do
      let rest ← someTagText? true (ps.drop 2)
      if startsWith '>' rest then some ([], rest.tail) else none
    else do
      let (handle, rest) ← tagHandle? ps
      if 1 < handle.length ∧ handle.getLast? = some '!' then
        return (handle, ← someTagText? false rest)
      else
        let (_, rest) ← tagText? false (rest.length + 1) 0 rest
        return (['!'], rest))
  if gapAt 0 rest || (inFlow && startsWith ',' rest) then some (handle, rest) else none

def number? (ps : Places) : Option (Nat × Places) :=
  let digits := (ps.takeWhile (fun p => p.char.isDigit)).map (·.char)
  if digits.isEmpty || 9 < digits.length then none
  else some (digits.foldl (fun n c => n * 10 + (c.toNat - 48)) 0, ps.drop digits.length)

def directive? (ps : Places) : Option (Token × Places) := do
  let (name, rest) := takeWord ps
  if !gapAt 0 rest then none
  let (token, rest) ← (
    if name = "YAML".toList then do
      let (major, rest) ← number? (skipBlanks rest)
      if startsWith '.' rest then
        let (minor, rest) ← number? rest.tail
        some (.version major minor, rest)
      else none
    else if name = "TAG".toList then do
      let (handle, rest) ← tagHandle? (skipBlanks rest)
      if handle ≠ ['!'] ∧ ¬ (1 < handle.length ∧ handle.getLast? = some '!') then none
      if !(char? 0 rest).any isBlank then none
      let rest ← someTagText? true (skipBlanks rest)
      if gapAt 0 rest then some (.handle handle, rest) else none
    else none)
  return (token, ← lineRest? rest)

structure PossibleKey where
  place : Place
  number : Nat
  /-- Nothing but a key may stand there. -/
  required : Bool

structure Scan where
  rest : Places
  tokens : List Token
  count : Nat
  indents : List Nat
  key? : Option PossibleKey
  /-- The possible keys outside the brackets around, innermost first. -/
  outer : List (Option PossibleKey)
  keyAllowed : Bool

namespace Scan

def start (ps : Places) : Scan := ⟨ps, [], 0, [], none, [], true⟩

def inFlow (s : Scan) : Bool := !s.outer.isEmpty

def floor (s : Scan) : Nat :=
  match s.indents with
  | [] => 0
  | i :: _ => i + 1

end Scan

abbrev Scanning := StateT Scan Option

namespace Scanning

def emit (t : Token) : Scanning Unit :=
  modify (fun s => { s with tokens := t :: s.tokens, count := s.count + 1 })

/-- Puts a token before those that came after the first `number` ones. -/
def insert (number : Nat) (t : Token) : Scanning Unit :=
  modify (fun s =>
    { s with tokens := s.tokens.insertIdx (s.count - number) t, count := s.count + 1 })

def skip (n : Nat) : Scanning Unit := modify (fun s => { s with rest := s.rest.drop n })

def allowKey (allowed : Bool) : Scanning Unit := modify (fun s => { s with keyAllowed := allowed })

def dropKey : Scanning Unit := do
  match (← get).key? with
  | some k => if k.required then failure
  | none => pure ()
  modify (fun s => { s with key? := none })

def saveKey (p : Place) : Scanning Unit := do
  let s ← get
  if s.keyAllowed then
    dropKey
    let required := !s.inFlow && s.indents.head? == some p.column
    modify (fun s => { s with key? := some ⟨p, s.count, required⟩ })

/-- The greatest distance from the start of a key to its colon. -/
def keyReach : Nat := 1024

def isStale (p : Place) (k : PossibleKey) : Bool :=
  k.place.line < p.line || k.place.index + keyReach < p.index

def withoutStale? (p : Place) : Option PossibleKey → Option (Option PossibleKey)
  | none => some none
  | some k =>
    if isStale p k then (if k.required then none else some none) else some (some k)

def dropStale (p : Place) : Scanning Unit := do
  let s ← get
  let key? ← withoutStale? p s.key?
  let outer ← (s.outer.mapM (withoutStale? p) : Option (List (Option PossibleKey)))
  set { s with key? := key?, outer := outer }

def roll (column number : Nat) (t : Token) : Scanning Unit := do
  let s ← get
  if !s.inFlow && s.floor ≤ column then
    set { s with indents := column :: s.indents }
    insert number t

def ended (column : Nat) (indents : List Nat) : Nat :=
  (indents.takeWhile (fun i => column < i)).length

def closeBlocks (n : Nat) : Scanning Unit :=
  modify (fun s =>
    { s with
      tokens := List.replicate n .blockEnd ++ s.tokens
      count := s.count + n
      indents := s.indents.drop n })

def unroll (column : Nat) : Scanning Unit := do
  let s ← get
  if !s.inFlow then closeBlocks (ended column s.indents)

def unrollAll : Scanning Unit := do
  let s ← get
  if !s.inFlow then closeBlocks s.indents.length

/-- Behind blanks, comments and line ends. Tabs do not count as blanks where a key may start
outside brackets; behind a line end a key may start. -/
def skipGap (inFlow : Bool) : (comment keyAllowed : Bool) → Places → Bool × Places
  | _, keyAllowed, [] => (keyAllowed, [])
  | comment, keyAllowed, p :: r =>
    if isBreak p.char then skipGap inFlow false (keyAllowed || !inFlow) r
    else if comment then skipGap inFlow true keyAllowed r
    else if p.char = ' ' || (p.char = '\t' && (inFlow || !keyAllowed)) then
      skipGap inFlow false keyAllowed r
    else if p.char = '#' then skipGap inFlow true keyAllowed r
    else (keyAllowed, p :: r)

def gap : Scanning Unit :=
  modify (fun s =>
    let (keyAllowed, rest) := skipGap s.inFlow false s.keyAllowed s.rest
    { s with keyAllowed := keyAllowed, rest := rest })

def take {α : Type} (read? : Places → Option (α × Places)) : Scanning α := do
  let s ← get
  let (a, rest) ← read? s.rest
  set { s with rest := rest }
  return a

def openFlow (p : Place) (t : Token) : Scanning Unit := do
  saveKey p
  modify (fun s => { s with outer := s.key? :: s.outer, key? := none })
  allowKey true
  skip 1
  emit t

def closeFlow (t : Token) : Scanning Unit := do
  dropKey
  modify (fun s =>
    match s.outer with
    | [] => s
    | key? :: outer => { s with key? := key?, outer := outer })
  allowKey false
  skip 1
  emit t

def documentMark (t : Token) : Scanning Unit := do
  unrollAll
  dropKey
  allowKey false
  skip 3
  emit t

def blockIndicator (p : Place) (collection : Token) : Scanning Unit := do
  let s ← get
  if !s.inFlow then
    if !s.keyAllowed then failure
    roll p.column s.count collection

def item (p : Place) : Scanning Unit := do
  blockIndicator p .blockSequence
  dropKey
  allowKey true
  skip 1
  emit .item

def key (p : Place) : Scanning Unit := do
  blockIndicator p .blockMapping
  dropKey
  allowKey (!(← get).inFlow)
  skip 1
  emit .key

def value (p : Place) : Scanning Unit := do
  match (← get).key? with
  | some k =>
    modify (fun s => { s with key? := none })
    insert k.number .key
    roll k.place.column k.number .blockMapping
    allowKey false
  | none =>
    blockIndicator p .blockMapping
    allowKey (!(← get).inFlow)
  skip 1
  emit .value

def nodePart (p : Place) (t : Scanning Token) : Scanning Unit := do
  saveKey p
  allowKey false
  emit (← t)

def plain : Scanning Token := do
  let s ← get
  let (text, gap) ← take (fun ps =>
    (plainRest? s.inFlow s.floor [] .none ps).map (fun (text, gap, rest) => ((text, gap), rest)))
  if gap.broken then allowKey true
  return .scalar text.reverse true

def quoted (read? : Places → Option (List Char × Places)) : Scanning Token := do
  skip 1
  return .scalar (← take read?).reverse false

def block (literal : Bool) : Scanning Unit := do
  dropKey
  allowKey true
  skip 1
  emit (.scalar (← take (block? literal (← get).floor)).reverse false)

def isIndicator (c : Char) : Bool :=
  c ∈ ['-', '?', ':', ',', '[', ']', '\x7b', '\x7d', '#', '&', '*', '!', '|', '>', '\'', '"', '%',
    '@', '\x60']

def startsPlain (inFlow : Bool) (p : Place) (r : Places) : Bool :=
  !(isIndicator p.char || isBlank p.char || isBreak p.char) ||
    (p.char == '-' && !(char? 0 r).any isBlank) ||
    (!inFlow && (p.char == '?' || p.char == ':') && !gapAt 0 r)

def tokenAt (p : Place) (r : Places) : Scanning Unit := do
  let inFlow := (← get).inFlow
  if p.column = 0 ∧ p.char = '%' then
    unrollAll
    dropKey
    allowKey false
    skip 1
    emit (← take directive?)
  else if isMark '-' (p :: r) then documentMark .documentStart
  else if isMark '.' (p :: r) then documentMark .documentEnd
  else match p.char with
    | '[' => openFlow p .flowSequence
    | '\x7b' => openFlow p .flowMapping
    | ']' => closeFlow .flowSequenceEnd
    | '\x7d' => closeFlow .flowMappingEnd
    | ',' => do
      dropKey
      allowKey true
      skip 1
      emit .comma
    | '*' => nodePart p (do skip 1; return .alias (← take anchorName?))
    | '&' => nodePart p (do skip 1; return .anchor (← take anchorName?))
    | '!' => nodePart p (do return .tag (← take (tag? inFlow)))
    | '\'' => nodePart p (quoted (singleQuoted? [] .none))
    | '"' => nodePart p (quoted (fun ps => doubleQuoted? (ps.length + 1) [] .none ps))
    | c =>
      if c = '-' ∧ gapAt 0 r then item p
      else if c = '?' ∧ (inFlow ∨ gapAt 0 r) then key p
      else if c = ':' ∧ (inFlow ∨ gapAt 0 r) then value p
      else if c = '|' ∧ !inFlow then block true
      else if c = '>' ∧ !inFlow then block false
      else if startsPlain inFlow p r then nodePart p plain
      else failure

def next : Scanning Bool := do
  gap
  match (← get).rest with
  | [] =>
    unrollAll
    dropKey
    return false
  | p :: r =>
    dropStale p
    unroll p.column
    tokenAt p r
    return true

/-- Each round takes a character, so as many rounds as there are characters will do. -/
def run : Nat → Scanning Unit
  | 0 => failure
  | rounds + 1 => do
    if ← next then run rounds

end Scanning

def tokens? (cs : List Char) : Option (List Token) := do
  let ps ← places? cs
  let ((), s) ← StateT.run (Scanning.run (ps.length + 2)) (.start ps)
  return s.tokens.reverse

end Appraisal.Yaml
