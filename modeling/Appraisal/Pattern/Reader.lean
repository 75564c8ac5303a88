import Appraisal.Pattern.Basic

set_option autoImplicit false

/-!
# Reading patterns

The written form of patterns: alternatives with `|`, groups, classes in brackets, counted
repetitions, assertions, and flags that hold to the end of their group. There is no look-around
and no back-reference. `read?` answers nothing for a text that is no pattern.
-/
namespace Appraisal.Pattern

open Unicode

structure Flags where
  caseless : Bool
  multiline : Bool
  dotAll : Bool
  lazyFirst : Bool
  unicode : Bool
  carriage : Bool
  spaced : Bool

def Flags.initial : Flags := ⟨false, false, false, false, true, false, false⟩

structure ReadState where
  rest : List Char
  flags : Flags
  names : List (List Char)

abbrev Reading := StateT ReadState Option

/-- A pattern, how deep its constructs nest, and how much room it takes once its repetitions are
written out; a flag setting is no pattern to repeat. -/
structure Item where
  pattern : Pattern
  depth : Nat
  room : Nat
  repeatable : Bool

def stepRoom : Nat := 32

def rangesIn : CharSet → List Range
  | .ranges rs => rs
  | .compl s => ⟨0x80, 0x10FFFF⟩ :: rangesIn s
  | .union s t => rangesIn s ++ rangesIn t
  | .inter s t => rangesIn s ++ rangesIn t

/-- Ranges beyond ASCII take a step for each byte but the last. -/
def setRoom (s : CharSet) : Nat :=
  (rangesIn s).foldl (fun n r => n + (if r.last < 128 then 8 else stepRoom + 8)) stepRoom

def repetitionRoom (body least : Nat) (most : Option Nat) : Nat :=
  match most with
  | some most => body * least + (body + stepRoom + 8) * (most - least) + stepRoom
  | none => body * max least 1 + 2 * (stepRoom + 8)

def peek? : Reading (Option Char) := do return (← get).rest.head?

def peekSecond? : Reading (Option Char) := do return (← get).rest.tail.head?

def bump : Reading Unit := modify (fun s => { s with rest := s.rest.tail })

def bumpTimes (n : Nat) : Reading Unit := modify (fun s => { s with rest := s.rest.drop n })

def skipSpaced (inComment : Bool) : List Char → List Char
  | [] => []
  | c :: r =>
    if inComment then skipSpaced (c != '\n') r
    else if Range.anyContains blankRanges c then skipSpaced false r
    else if c == '#' then skipSpaced true r
    else c :: r

/-- Skips what the flag for spaced patterns lets stand between constructs. -/
def bumpSpace : Reading Unit := modify (fun s =>
  if s.flags.spaced then { s with rest := skipSpaced false s.rest } else s)

def bumpAndSpace : Reading Unit := do bump; bumpSpace

def peekSpaced? : Reading (Option Char) := do
  let s ← get
  let r := s.rest.tail
  return (if s.flags.spaced then skipSpaced false r else r).head?

def hexValue? (c : Char) : Option Nat :=
  if '0' ≤ c ∧ c ≤ '9' then some (c.toNat - 48)
  else if 'a' ≤ c ∧ c ≤ 'f' then some (c.toNat - 87)
  else if 'A' ≤ c ∧ c ≤ 'F' then some (c.toNat - 55)
  else none

def scalar? (n : Nat) : Option Char :=
  if n < 0xD800 ∨ (0xE000 ≤ n ∧ n < 0x110000) then some (Char.ofNat n) else none

def hexFixed : Nat → Nat → Reading Nat
  | 0, n => pure n
  | count + 1, n => do
    let some c ← peek? | failure
    let some v := hexValue? c | failure
    bumpAndSpace
    hexFixed count (n * 16 + v)

def hexBraced : Nat → List Nat → Reading (List Nat)
  | 0, _ => failure
  | fuel + 1, done => do
    let some c ← peek? | failure
    if c == '\x7d' then
      bump
      return done.reverse
    let some v := hexValue? c | failure
    bumpAndSpace
    hexBraced fuel (v :: done)

def hexEscape (kind : Char) : Reading (Char × Bool) := do
  bumpAndSpace
  let some c ← peek? | failure
  if c == '\x7b' then
    bumpAndSpace
    let digits ← hexBraced ((← get).rest.length + 1) []
    if digits.isEmpty then failure
    let some ch := scalar? (digits.foldl (fun n d => n * 16 + d) 0) | failure
    return (ch, false)
  else
    let count := if kind == 'x' then 2 else if kind == 'u' then 4 else 8
    let n ← hexFixed count 0
    let some ch := scalar? n | failure
    return (ch, kind == 'x')

inductive Primitive where
  | literal (c : Char) (byte : Bool)
  | set (s : CharSet) (negated folded : Bool)
  | assertion (a : Assertion)
  | dot

def asciiDigits : CharSet := .ranges [⟨48, 57⟩]

def asciiSpaces : CharSet := .ranges [⟨9, 13⟩, ⟨32, 32⟩]

def asciiWord : CharSet := .ranges [⟨48, 57⟩, ⟨65, 90⟩, ⟨95, 95⟩, ⟨97, 122⟩]

def wordOf (flags : Flags) : CharSet := if flags.unicode then wordChars else asciiWord

def letterClass? (flags : Flags) (c : Char) : Option Primitive :=
  let named (s : CharSet) : Option Primitive := some (.set s c.isUpper true)
  match c.toLower with
  | 'd' => named (if flags.unicode then digits else asciiDigits)
  | 's' => named (if flags.unicode then blanks else asciiSpaces)
  | 'w' => named (wordOf flags)
  | _ => none

def isEscapable (c : Char) : Bool :=
  c.toNat < 128 && !c.isAlphanum && c != '<' && c != '>'

def controlEscape? (c : Char) : Option Char :=
  match c with
  | 'a' => some (Char.ofNat 7)
  | 'f' => some (Char.ofNat 12)
  | 't' => some '\t'
  | 'n' => some '\n'
  | 'r' => some '\r'
  | 'v' => some (Char.ofNat 11)
  | _ => none

def braceProperty? (cs : List Char) : Option (CharSet × Bool) :=
  let split (sep : Char) : Option (List Char × List Char) :=
    if cs.contains sep then
      some (cs.takeWhile (· != sep), (cs.dropWhile (· != sep)).tail)
    else none
  let unequal := (cs.zip cs.tail).contains ('!', '=')
  if unequal then
    let name := (cs.takeWhile (· != '!'))
    let value := (cs.dropWhile (· != '!')).drop 2
    (propertyValue? name value).map (fun s => (s, true))
  else
    match (split ':').or (split '=') with
    | some (name, value) => (propertyValue? name value).map (fun s => (s, false))
    | none => (property? cs).map (fun s => (s, false))

def unicodeClass : Reading Primitive := do
  let some kind ← peek? | failure
  let s ← get
  if !s.flags.unicode then failure
  bumpAndSpace
  let some c ← peek? | failure
  let (set, inverted) ← (do
    if c == '\x7b' then
      bumpAndSpace
      let r := (← get).rest
      let name := r.takeWhile (· != '\x7d')
      if name.length == r.length then failure
      bumpTimes (name.length + 1)
      let some found := braceProperty? name | failure
      pure found
    else
      if c == '\\' then failure
      bumpAndSpace
      let some found := property? [c] | failure
      pure (found, false))
  return .set set ((kind == 'P') != inverted) false

def wordEdgeNames : List (List Char × WordEdge) := [
  ("start".toList, .start), ("end".toList, .stop),
  ("start-half".toList, .startHalf), ("end-half".toList, .stopHalf)]

def isEdgeNameChar (c : Char) : Bool := c.isAlpha || c == '-'

/-- A name of a word edge in braces, after the boundary escape. Braces that hold a number are a
repetition and stay. -/
def wordBoundary : Reading Assertion := do
  let s ← get
  let word := wordOf s.flags
  match s.rest with
  | '\x7b' :: _ =>
    bumpAndSpace
    let r := (← get).rest
    match r with
    | [] => failure
    | c :: _ =>
      if !isEdgeNameChar c then
        set s
        return .word .boundary word
      else
        let name := r.takeWhile isEdgeNameChar
        let after := r.dropWhile isEdgeNameChar
        let after := if s.flags.spaced then skipSpaced false after else after
        match after with
        | '\x7d' :: after =>
          let some found := wordEdgeNames.find? (fun e => e.1 == name) | failure
          modify (fun s => { s with rest := after })
          return .word found.2 word
        | _ => failure
  | _ => return .word .boundary word

def escaped : Reading Primitive := do
  bump
  let some c ← peek? | failure
  if c.isDigit then failure
  if c == 'x' || c == 'u' || c == 'U' then
    let (ch, byte) ← hexEscape c
    return .literal ch byte
  if c == 'p' || c == 'P' then unicodeClass
  else
    let flags := (← get).flags
    if "dswDSW".toList.contains c then
      bump
      let some found := letterClass? flags c | failure
      return found
    bump
    if isEscapable c then return .literal c false
    match controlEscape? c with
    | some ch => return .literal ch false
    | none =>
      match c with
      | 'A' => return .assertion .textStart
      | 'z' => return .assertion .textEnd
      | 'b' => return .assertion (← wordBoundary)
      | 'B' => return .assertion (.word .interior (wordOf flags))
      | '<' => return .assertion (.word .start (wordOf flags))
      | '>' => return .assertion (.word .stop (wordOf flags))
      | _ => failure

def isAscii (c : Char) : Bool := c.toNat < 128

/-- A character of a class. Outside of Unicode only ASCII characters are. -/
def classLiteral (p : Primitive) : Reading Char := do
  match p with
  | .literal c _ =>
    if (← get).flags.unicode || isAscii c then return c else failure
  | _ => failure

def withCase (flags : Flags) (s : CharSet) : CharSet :=
  if flags.caseless then
    if flags.unicode then s.caseClosed
    else .inter s.caseClosed (.ranges [⟨0, 127⟩])
  else s

def negatedIf (negated : Bool) (s : CharSet) : CharSet := if negated then .compl s else s

def withinMode (s : CharSet) : Reading CharSet := do
  if !(← get).flags.unicode && s.contains (Char.ofNat 0x80) then failure
  return s

def asciiClasses : List (List Char × List Range) := [
  ("alnum".toList, [⟨48, 57⟩, ⟨65, 90⟩, ⟨97, 122⟩]),
  ("alpha".toList, [⟨65, 90⟩, ⟨97, 122⟩]),
  ("ascii".toList, [⟨0, 127⟩]),
  ("blank".toList, [⟨9, 9⟩, ⟨32, 32⟩]),
  ("cntrl".toList, [⟨0, 31⟩, ⟨127, 127⟩]),
  ("digit".toList, [⟨48, 57⟩]),
  ("graph".toList, [⟨33, 126⟩]),
  ("lower".toList, [⟨97, 122⟩]),
  ("print".toList, [⟨32, 126⟩]),
  ("punct".toList, [⟨33, 47⟩, ⟨58, 64⟩, ⟨91, 96⟩, ⟨123, 126⟩]),
  ("space".toList, [⟨9, 13⟩, ⟨32, 32⟩]),
  ("upper".toList, [⟨65, 90⟩]),
  ("word".toList, [⟨48, 57⟩, ⟨65, 90⟩, ⟨95, 95⟩, ⟨97, 122⟩]),
  ("xdigit".toList, [⟨48, 57⟩, ⟨65, 70⟩, ⟨97, 102⟩])]

def asciiClass? (cs : List Char) : Option (CharSet × Bool × List Char) :=
  match cs with
  | '[' :: ':' :: r =>
    let (negated, r) := match r with
      | '^' :: r => (true, r)
      | _ => (false, r)
    let name := r.takeWhile (· != ':')
    match r.dropWhile (· != ':') with
    | ':' :: ']' :: after =>
      (asciiClasses.find? (fun e => e.1 == name)).map (fun e => (.ranges e.2, negated, after))
    | _ => none
  | _ => none

inductive SetOperator where
  | inter
  | diff
  | symmDiff

def SetOperator.apply (op : SetOperator) (s t : CharSet) : CharSet :=
  match op with
  | .inter => .inter s t
  | .diff => s.diff t
  | .symmDiff => s.symmDiff t

/-- The part of a class read so far: the operand before the last operator, and the union since. -/
structure ClassPart where
  left : Option (CharSet × SetOperator)
  items : CharSet
  depth : Nat

def ClassPart.value (p : ClassPart) : CharSet :=
  match p.left with
  | some (s, op) => op.apply s p.items
  | none => p.items

def ClassPart.add (p : ClassPart) (s : CharSet) : ClassPart := { p with items := .union p.items s }

def ClassPart.operator (p : ClassPart) (op : SetOperator) : ClassPart :=
  ⟨some (p.value, op), .none, p.depth + 1⟩

def singleRange (a b : Char) : CharSet := .ranges [⟨a.toNat, b.toNat⟩]

def classElement : Reading CharSet := do
  let flags := (← get).flags
  let element : Reading Primitive := do
    let some c ← peek? | failure
    if c == '\\' then escaped
    else
      bump
      return .literal c false
  let first ← element
  bumpSpace
  let some c ← peek? | failure
  let second ← peekSpaced?
  if c != '-' || second == some ']' || second == some '-' then
    match first with
    | .set s negated folded => return negatedIf negated (if folded then s else withCase flags s)
    | _ =>
      let ch ← classLiteral first
      return withCase flags (singleRange ch ch)
  else
    bumpAndSpace
    if (← peek?).isNone then failure
    let last ← element
    let a ← classLiteral first
    let b ← classLiteral last
    if a ≤ b then return withCase flags (singleRange a b) else failure

/-- Hyphens, or a bracket, at the start of a class stand for themselves. -/
def classLeading : Nat → ClassPart → Reading ClassPart
  | 0, part => pure part
  | fuel + 1, part => do
    let flags := (← get).flags
    match ← peek? with
    | some '-' =>
      bumpAndSpace
      if (← peek?).isNone then failure
      classLeading fuel (part.add (withCase flags (singleRange '-' '-')))
    | _ => return part

mutual

def classBody : Nat → Reading (CharSet × Nat)
  | 0 => failure
  | fuel + 1 => do
    bumpAndSpace
    if (← peek?).isNone then failure
    let negated ← (do
      if (← peek?) == some '^' then
        bumpAndSpace
        if (← peek?).isNone then failure
        pure true
      else pure false)
    let part ← classLeading ((← get).rest.length + 1) ⟨none, .none, 0⟩
    let leadingHyphen := match part.items with
      | .union _ _ => true
      | _ => false
    let part ← (do
      if !leadingHyphen && (← peek?) == some ']' then
        bumpAndSpace
        if (← peek?).isNone then failure
        pure (part.add (singleRange ']' ']'))
      else pure part)
    let (s, depth) ← classItems fuel part
    return (negatedIf negated s, depth + 1)

def classItems : Nat → ClassPart → Reading (CharSet × Nat)
  | 0, _ => failure
  | fuel + 1, part => do
    bumpSpace
    let flags := (← get).flags
    match ← peek?, ← peekSecond? with
    | none, _ => failure
    | some ']', _ =>
      bump
      return (part.value, part.depth)
    | some '&', some '&' =>
      bumpTimes 2
      classItems fuel (part.operator .inter)
    | some '-', some '-' =>
      bumpTimes 2
      classItems fuel (part.operator .diff)
    | some '~', some '~' =>
      bumpTimes 2
      classItems fuel (part.operator .symmDiff)
    | some '[', _ =>
      match asciiClass? (← get).rest with
      | some (s, negated, after) =>
        modify (fun st => { st with rest := after })
        classItems fuel (part.add (negatedIf negated (withCase flags s)))
      | none =>
        let (s, depth) ← classBody fuel
        classItems fuel { part.add s with depth := max part.depth (depth + 1) }
    | _, _ =>
      let s ← classElement
      classItems fuel (part.add s)

end

def flagItems : Nat → List Char → Bool → Flags → Reading (Flags × Bool)
  | 0, _, _, _ => failure
  | fuel + 1, seen, negated, flags => do
    let some c ← peek? | failure
    if c == ':' || c == ')' then
      if seen.head? == some '-' then failure
      return (flags, seen.isEmpty)
    if seen.contains c then failure
    let on := !negated
    let flags ← (match c with
      | '-' => pure flags
      | 'i' => pure { flags with caseless := on }
      | 'm' => pure { flags with multiline := on }
      | 's' => pure { flags with dotAll := on }
      | 'U' => pure { flags with lazyFirst := on }
      | 'u' => pure { flags with unicode := on }
      | 'R' => pure { flags with carriage := on }
      | 'x' => pure { flags with spaced := on }
      | _ => failure)
    bump
    if (← peek?).isNone then failure
    flagItems fuel (c :: seen) (negated || c == '-') flags

def isNameStart (c : Char) : Bool := c == '_' || alphabetic.contains c

def isNameChar (c : Char) : Bool :=
  isNameStart c || c == '.' || c == '[' || c == ']' || numeric.contains c

def groupName : Reading Unit := do
  let s ← get
  let name := s.rest.takeWhile (· != '>')
  if name.length == s.rest.length then failure
  match name with
  | [] => failure
  | c :: r =>
    if !(isNameStart c && r.all isNameChar) then failure
    if s.names.contains name then failure
    set { s with rest := s.rest.drop (name.length + 1), names := name :: s.names }

def decimalCount : Reading (Option Nat) := do
  let blank (c : Char) : Bool := Range.anyContains blankRanges c
  modify (fun s => { s with rest := s.rest.dropWhile blank })
  let ds := (← get).rest.takeWhile Char.isDigit
  bumpTimes ds.length
  modify (fun s => { s with rest := s.rest.dropWhile blank })
  bumpSpace
  if ds.isEmpty then return none
  let n := ds.foldl (fun n d => n * 10 + (d.toNat - 48)) 0
  if n < UInt32.size then return some n else failure

def counts : Reading (Nat × Option Nat) := do
  bumpAndSpace
  if (← peek?).isNone then failure
  let some least ← decimalCount | failure
  match ← peek? with
  | some ',' =>
    bumpAndSpace
    match ← peek? with
    | some '\x7d' => return (least, none)
    | _ =>
      let some most ← decimalCount | failure
      if (← peek?) != some '\x7d' then failure
      if most < least then failure
      return (least, some most)
  | some '\x7d' => return (least, some least)
  | _ => failure

/-- Outside of Unicode a code beyond ASCII stands for a byte, which is no character. -/
def literalItem (flags : Flags) (c : Char) (byte : Bool) : Reading Item := do
  if !flags.unicode && !isAscii c && byte then failure
  if flags.caseless && (flags.unicode || isAscii c) then
    let s := withCase flags (singleRange c c)
    return ⟨.chars s, 0, setRoom s, true⟩
  else return ⟨literal c, 0, stepRoom * c.utf8Size, true⟩

def dotSet (flags : Flags) : CharSet :=
  if flags.dotAll then .all
  else if flags.carriage then .compl (.ranges [⟨10, 10⟩, ⟨13, 13⟩])
  else .compl (.ranges [⟨10, 10⟩])

def setItem (s : CharSet) (depth : Nat) : Reading Item := do
  let s ← withinMode s
  return ⟨.chars s, depth, setRoom s, true⟩

def primitiveItem (p : Primitive) : Reading Item := do
  let flags := (← get).flags
  match p with
  | .literal c byte => literalItem flags c byte
  | .set s negated folded => setItem (negatedIf negated (if folded then s else withCase flags s)) 0
  | .assertion a => return ⟨.assertion a, 0, stepRoom, true⟩
  | .dot => setItem (dotSet flags) 0

def primitive : Reading Item := do
  let flags := (← get).flags
  let some c ← peek? | failure
  let p ← (match c with
    | '\\' => escaped
    | '.' => do bump; pure Primitive.dot
    | '^' => do
      bump
      pure (.assertion (if flags.multiline then .lineStart flags.carriage else .textStart))
    | '$' => do
      bump
      pure (.assertion (if flags.multiline then .lineEnd flags.carriage else .textEnd))
    | c => do bump; pure (.literal c false))
  primitiveItem p

/-- The last item repeated; a lazy mark or the flag that swaps the default turns greed off. -/
def repeatLast (items : List Item) (least : Nat) (most : Option Nat) (lazyMark : Bool) :
    Reading (List Item) := do
  let flags := (← get).flags
  match items with
  | last :: rest =>
    if !last.repeatable then failure
    return ⟨.repetition last.pattern least most (lazyMark == flags.lazyFirst), last.depth + 1,
      repetitionRoom last.room least most, true⟩ :: rest
  | [] => failure

def lazyMark : Reading Bool := do
  if (← peek?) == some '?' then
    bump
    return true
  else return false

def deepest (items : List Item) : Nat := items.foldl (fun n i => max n i.depth) 0

def totalRoom (items : List Item) : Nat := items.foldl (fun n i => n + i.room) 0

def sequenceItem (items : List Item) : Item :=
  match items with
  | [] => ⟨.empty, 0, stepRoom, true⟩
  | [i] => { i with repeatable := true }
  | _ => ⟨seqOf (items.reverse.map (·.pattern)), deepest items + 1, totalRoom items, true⟩

def choiceItem (branches : List Item) : Item :=
  match branches with
  | [] => ⟨.empty, 0, stepRoom, true⟩
  | [i] => i
  | _ => ⟨altOf (branches.reverse.map (·.pattern)), deepest branches + 1,
      totalRoom branches + 2 * stepRoom + 4 * branches.length, true⟩

mutual

def choice : Nat → List Item → Reading Item
  | 0, _ => failure
  | fuel + 1, done => do
    let branch ← sequence fuel []
    if (← peek?) == some '|' then
      bump
      choice fuel (branch :: done)
    else return choiceItem (branch :: done)

def sequence : Nat → List Item → Reading Item
  | 0, _ => failure
  | fuel + 1, items => do
    bumpSpace
    match ← peek? with
    | none => return sequenceItem items
    | some '|' => return sequenceItem items
    | some ')' => return sequenceItem items
    | some '(' =>
      let item ← group fuel
      sequence fuel (item :: items)
    | some '[' =>
      let (s, depth) ← classBody fuel
      sequence fuel ((← setItem s depth) :: items)
    | some '?' =>
      bump
      sequence fuel (← repeatLast items 0 (some 1) (← lazyMark))
    | some '*' =>
      bump
      sequence fuel (← repeatLast items 0 none (← lazyMark))
    | some '+' =>
      bump
      sequence fuel (← repeatLast items 1 none (← lazyMark))
    | some '\x7b' =>
      let (least, most) ← counts
      bumpAndSpace
      sequence fuel (← repeatLast items least most (← lazyMark))
    | some _ =>
      let item ← primitive
      sequence fuel (item :: items)

def group : Nat → Reading Item
  | 0 => failure
  | fuel + 1 => do
    bumpAndSpace
    let outer := (← get).flags
    let closed (groupRoom : Nat) (inner : Item) : Reading Item := do
      if (← peek?) != some ')' then failure
      bump
      modify (fun s => { s with flags := outer })
      return ⟨inner.pattern, inner.depth + 1, inner.room + groupRoom, true⟩
    match (← get).rest with
    | '?' :: '=' :: _ => failure
    | '?' :: '!' :: _ => failure
    | '?' :: '<' :: '=' :: _ => failure
    | '?' :: '<' :: '!' :: _ => failure
    | '?' :: 'P' :: '<' :: _ =>
      bumpTimes 3
      groupName
      closed (2 * stepRoom) (← choice fuel [])
    | '?' :: '<' :: _ =>
      bumpTimes 2
      groupName
      closed (2 * stepRoom) (← choice fuel [])
    | '?' :: _ =>
      bump
      let (flags, noFlags) ← flagItems ((← get).rest.length + 1) [] false outer
      let finish ← peek?
      bump
      modify (fun s => { s with flags := flags })
      if finish == some ')' then
        if noFlags then failure
        return ⟨.empty, 0, 0, false⟩
      else closed 0 (← choice fuel [])
    | _ => closed (2 * stepRoom) (← choice fuel [])

end

def depthLimit : Nat := 250

def roomLimit : Nat := 10485760

def read? (cs : List Char) : Option Pattern :=
  match (choice (2 * cs.length + 4) []).run ⟨cs, Flags.initial, []⟩ with
  | some (item, s) =>
    if s.rest.isEmpty && item.depth ≤ depthLimit && item.room ≤ roomLimit then some item.pattern
    else none
  | none => none

end Appraisal.Pattern
