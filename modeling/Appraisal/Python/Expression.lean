import Appraisal.Python.Token
import Appraisal.Python.Tree

set_option autoImplicit false

/-!
# Expressions

Which texts are expressions, assignment targets, argument lists, parameter lists and types. Of an
expression it is only kept whether it can be assigned to and whether it is one literal.
-/
namespace Appraisal.Python

inductive Shape where
  | name
  | access
  | pattern
  | literal
  | other
  deriving DecidableEq, Inhabited

def Shape.isTarget : Shape → Bool
  | .name => true
  | .access => true
  | .pattern => true
  | .literal => false
  | .other => false

structure Phrase where
  shape : Shape
  /-- A star may stand right before it and apply to its start alone. -/
  starred : Bool
  deriving Inhabited

def Phrase.plain : Phrase := ⟨.other, false⟩

inductive Goal where
  /-- Without `conditional`, a word `if` ends the expression. -/
  | expression (follow : Follow) (conditional : Bool)
  | operand
  | type (follow : Follow)
  | interpolation

/-- How to read what is nested one level deeper, and a bound on the length of lists. -/
structure Nested where
  fuel : Nat
  read : Goal → Reading Phrase

def reservedWords : List (List Char) :=
  ["and", "as", "assert", "break", "class", "continue", "def", "del", "elif", "else", "except",
    "finally", "for", "from", "global", "if", "import", "in", "is", "lambda", "nonlocal", "not",
    "or", "pass", "raise", "return", "try", "while", "with", "yield", "True", "False",
    "None"].map String.toList

def openingWords : List (List Char) :=
  ["lambda", "not", "True", "False", "None"].map String.toList

def constantWords : List (List Char) := ["True", "False", "None"].map String.toList

def binaryOperators : List (List Char) :=
  ["+", "-", "*", "@", "/", "%", "//", "**", "|", "&", "^", "<<", ">>", "<", "<=", "==", "!=",
    ">=", ">", "<>"].map String.toList

def openingSymbols : List (List Char) :=
  ["(", "[", "\x7b", "-", "+", "~", "*", "."].map String.toList

def Token.isName : Token → Bool
  | .word w => !reservedWords.contains w
  | _ => false

def Token.startsOperand : Token → Bool
  | .word w => !reservedWords.contains w || constantWords.contains w
  | .number => true
  | .opening _ => true
  | .symbol s => openingSymbols.contains s
  | _ => false

def Token.startsExpression (t : Token) : Bool :=
  t.startsOperand || match t with
    | .word w => openingWords.contains w
    | _ => false

def Token.isBinaryOperator : Token → Bool
  | .symbol s => binaryOperators.contains s
  | _ => false

namespace Reading

def identifier : Reading Unit := do
  if (← peek .neither).isName then
    let _ ← next .neither
  else fail .unexpected

end Reading

namespace Expression

open Reading

/-- Where the characters of a literal lead to, and how many they are. -/
inductive Chunk where
  | closed (length : Nat)
  | brace (length : Nat)
  | unclosed

def hexRun (count : Nat) (text : List Char) : Nat :=
  let digits := text.take count
  if digits.length = count ∧
      digits.all (fun c => c.isDigit || ('a' ≤ c.toLower && c.toLower ≤ 'f')) then count else 0

def escapeLength (text : List Char) : Nat :=
  match text with
  | [] => 0
  | '\r' :: '\n' :: _ => 2
  | c :: r =>
    if c ∈ ['\n', '\'', '"', '\\', 'a', 'b', 'f', 'n', 'r', 't', 'v'] then 1
    else if c.isDigit then (text.take 3).takeWhile Char.isDigit |>.length
    else
      let hex (count : Nat) : Nat :=
        let digits := hexRun count r
        if digits = 0 then 0 else 1 + digits
      match c with
      | 'x' => hex 2
      | 'u' => hex 4
      | 'U' => hex 8
      | 'N' =>
        match r with
        | '\x7b' :: name =>
          let length := (name.takeWhile (· ≠ '\x7d')).length
          if 0 < length ∧ length < name.length then length + 3 else 0
        | _ => 0
      | _ => 0

def rawEscapeLength (quote : Char) (text : List Char) : Nat :=
  let quoted := oneOf [quote, '\\'] text
  let behind := text.drop quoted
  quoted + match behind with
    | '\r' :: '\n' :: _ => 2
    | '\r' :: _ => 1
    | '\n' :: _ => 1
    | _ => 0

/-- Goes over the characters of a literal, of which so many belong to what stands before them;
`inside` says that a character stands since the last escape. -/
def chunk (q : Quoting) : Nat → Bool → Nat → List Char → Chunk
  | _, _, _, [] => .unclosed
  | k + 1, inside, n, _ :: r => chunk q k inside (n + 1) r
  | 0, inside, n, c :: r =>
    if q.format && (c == '\x7b' || c == '\x7d') then
      if r.head? = some c then chunk q 1 false (n + 1) r
      else if c = '\x7b' then .brace n
      else .unclosed
    else if c = '\\' then
      if q.raw then chunk q (rawEscapeLength q.quote r) inside (n + 1) r
      else if q.bytes && r.head?.any (fun e => e ∈ ['N', 'u', 'U']) then chunk q 2 true (n + 1) r
      else chunk q (escapeLength r) false (n + 1) r
    else if c = q.quote then
      if !q.triple then .closed (n + 1)
      else if r.take 2 = [c, c] then .closed (n + 3)
      else chunk q 0 false (n + 1) r
    else if c = '\n' ∧ inside ∧ !q.triple then .unclosed
    else chunk q 0 true (n + 1) r

def literalRest (g : Nested) (q : Quoting) (unclosed : Fault) : Reading Unit := do
  setFormatting q.format
  iterate (fun (_ : Unit) => do
    match chunk q 0 false 0 (← place).rest with
    | .unclosed => fail unclosed
    | .closed n =>
      consume n
      setFormatting false
      return .inr ()
    | .brace n =>
      consume (n + 1)
      let _ ← g.read .interpolation
      return .inl ()) g.fuel ()

def literal (g : Nested) (follow : Follow) (q : Quoting) : Reading Unit := do
  let _ ← approach follow
  let start ← place
  let _ ← next .neither
  literalRest g q (.unclosed start (start.textTo (← place)))

def listRest {α : Type} (g : Nested) (closer : String) (item : Reading α) (done : List α) :
    Reading (List α) :=
  iterate (fun done => do
    let _ ← approach .closer
    if ← trySymbol .closer closer then return .inr (List.reverse done)
    else
      symbol ","
      let _ ← approach .closer
      if ← trySymbol .closer closer then return .inr (List.reverse done)
      else return .inl ((← item) :: done)) g.fuel done

def expressions (g : Nested) (follow : Follow) (conditional : Bool) : Reading (List Phrase) := do
  let first ← g.read (.expression follow conditional)
  iterate (fun done => do
    if ← trySymbol follow "," then
      if (← peek follow).startsExpression then
        let _ ← approach follow
        return .inl ((← g.read (.expression follow conditional)) :: done)
      else return .inr (List.reverse done)
    else return .inr (List.reverse done)) g.fuel [first]

def yieldRest (g : Nested) (follow : Follow) : Reading Unit := do
  if ← tryWord follow "from" then
    let _ ← g.read (.expression follow true)
  else if (← peek follow).startsExpression then
    let _ ← approach follow
    let _ ← expressions g follow true
  else return ()

def element (g : Nested) : Reading (Phrase × Bool) := do
  if ← tryWord .closer "yield" then
    yieldRest g .closer
    return (.plain, false)
  else if ← trySymbol .closer "*" then
    let inner ← g.read (.expression .closer true)
    let shape := if inner.shape = .name ∨ inner.shape = .access then .pattern else .other
    return (⟨shape, false⟩, inner.starred)
  else return (← g.read (.expression .closer true), true)

def Token.startsClause (t : Token) : Bool := isWord "for" t || isWord "async" t

def target (g : Nested) : Reading Unit := do
  let starred ← trySymbol .neither "*"
  let p ← g.read .operand
  let fits := if starred then p.shape == .name || p.shape == .access else p.shape.isTarget
  if fits then return () else fail .unexpected

def targets (g : Nested) : Reading Unit := do
  target g
  iterate (fun (_ : Unit) => do
    if ← trySymbol .neither "," then
      if isWord "in" (← peek .neither) then return .inr ()
      else
        target g
        return .inl ()
    else return .inr ()) g.fuel ()

def clauses (g : Nested) : Reading Unit :=
  iterate (fun (first : Bool) => do
    let t ← peek .closer
    if Token.startsClause t then
      if ← tryWord .closer "async" then word "for"
      else
        let _ ← next .closer
      targets g
      word "in"
      let _ ← expressions g .closer false
      return .inl false
    else if isWord "if" t && !first then
      let _ ← next .closer
      let _ ← g.read (.expression .closer false)
      return .inl false
    else return .inr ()) g.fuel true

def elementsRest (g : Nested) (closer : String) : Reading Phrase := do
  let (first, whole) ← element g
  if whole && Token.startsClause (← peek .closer) then
    clauses g
    closing closer
    return .plain
  else
    let all ← listRest g closer (element g) [(first, whole)]
    return ⟨if all.all (·.1.shape.isTarget) then .pattern else .other, false⟩

def bracketed (g : Nested) (closer : String) : Reading Phrase := do
  let _ ← approach .closer
  if ← trySymbol .closer closer then return ⟨.pattern, false⟩
  else elementsRest g closer

def entry (g : Nested) : Reading Unit := do
  if ← trySymbol .closer "**" then
    let _ ← g.read (.expression .closer true)
  else
    let _ ← g.read (.expression .neither true)
    symbol ":"
    let _ ← g.read (.expression .closer true)

def braced (g : Nested) : Reading Phrase := do
  let _ ← approach .closer
  let t ← peek .closer
  if isSymbol "\x7d" t then
    let _ ← next .closer
  else if isSymbol "," t then
    let _ ← next .closer
    let _ ← approach .closer
    closing "\x7d"
  else if isSymbol "**" t then
    let _ ← listRest g "\x7d" (entry g) [← entry g]
  else if isSymbol "*" t || isWord "yield" t then
    let _ ← elementsRest g "\x7d"
  else
    let _ ← g.read (.expression .closer true)
    if ← trySymbol .closer ":" then
      let _ ← g.read (.expression .closer true)
      if Token.startsClause (← peek .closer) then
        clauses g
        closing "\x7d"
      else
        let _ ← listRest g "\x7d" (entry g) [()]
    else if Token.startsClause (← peek .closer) then
      clauses g
      closing "\x7d"
    else
      let _ ← listRest g "\x7d" (element g) []
  return .plain

def isJoint : Extra → Option (List Char)
  | .joint text => some text
  | .comment _ _ => none

def missingParenthesis (last : Cursor) : Reading Fault := do
  let t ← peek .closer
  return if isSymbol ":" t || isSymbol "->" t then .missing last ")" else .unexpected

def argument (g : Nested) : Reading Bool := do
  if (← trySymbol .closer "*") || (← trySymbol .closer "**") then
    let _ ← g.read (.expression .closer true)
    return false
  else
    let p ← g.read (.expression .closer true)
    if p.shape == .name && isSymbol "=" (← peek .closer) then
      let _ ← next .closer
      let _ ← g.read (.expression .closer true)
      return false
    else return true

/-- Behind an opening parenthesis: arguments, each with its text, up to and with the closer.
With `comprehension`, a comprehension may stand for them. -/
def arguments (g : Nested) (comprehension : Bool) :
    Reading (List (List Char)) := do
  let last ← place
  let joints := (← approach .closer).filterMap isJoint
  if ← trySymbol .closer ")" then return joints
  else if ← trySymbol .closer "," then
    let more := (← approach .closer).filterMap isJoint
    closing ")"
    return joints ++ more
  else if !(← peek .closer).startsExpression && !isSymbol "**" (← peek .closer) then
    fail (← missingParenthesis last)
  else
    let (plain, text) ← withText (argument g)
    if comprehension && plain && Token.startsClause (← peek .closer) then
      clauses g
      closing ")"
      return []
    else
      iterate (fun done => do
        let last ← place
        let done := done ++ (← approach .closer).filterMap isJoint
        if ← trySymbol .closer ")" then return .inr done
        else if ← trySymbol .closer "," then
          let last ← place
          let done := done ++ (← approach .closer).filterMap isJoint
          if ← trySymbol .closer ")" then return .inr done
          else if !(← peek .closer).startsExpression && !isSymbol "**" (← peek .closer) then
            fail (← missingParenthesis last)
          else return .inl (done ++ [(← withText (argument g)).2])
        else fail (← missingParenthesis last)) g.fuel (joints ++ [text])

def optionalExpression (g : Nested) (follow : Follow) : Reading Unit := do
  if (← peek follow).startsExpression then
    let _ ← approach follow
    let _ ← g.read (.expression follow true)
  else return ()

def subscript (g : Nested) : Reading Unit := do
  let t ← peek .closer
  if !isSymbol ":" t then
    let _ ← g.read (.expression .closer true)
  if ← trySymbol .closer ":" then
    optionalExpression g .closer
    if ← trySymbol .closer ":" then optionalExpression g .closer

def subscripts (g : Nested) : Reading Unit := do
  let _ ← approach .neither
  let _ ← listRest g "]" (subscript g) [← subscript g]

def atom (g : Nested) (follow : Follow) : Reading Phrase := do
  match ← peek .neither with
  | .word w =>
    let _ ← next .neither
    if constantWords.contains w then return .plain
    else if reservedWords.contains w then fail .unexpected
    else return ⟨.name, true⟩
  | .number =>
    let _ ← next .neither
    return .plain
  | .opening q =>
    literal g .neither q
    iterate (fun (p : Phrase) => do
      match ← peek follow with
      | .opening q =>
        literal g follow q
        return .inl .plain
      | _ => return .inr p) g.fuel ⟨.literal, false⟩
  | .symbol s =>
    if s == ['('] then
      let _ ← next .neither
      bracketed g ")"
    else if s == ['['] then
      let _ ← next .neither
      bracketed g "]"
    else if s == ['\x7b'] then
      let _ ← next .neither
      braced g
    else if s == ['.'] then
      let _ ← approach .neither
      if (← place).rest.take 3 = ['.', '.', '.'] then
        consume 3
        return .plain
      else fail .unexpected
    else fail .unexpected
  | _ => fail .unexpected

def applied (g : Nested) (follow : Follow) (p : Phrase) :
    Reading Phrase :=
  iterate (fun (p : Phrase) => do
    let t ← peek follow
    if isSymbol "." t then
      let _ ← next follow
      identifier
      return .inl ⟨.access, true⟩
    else if isSymbol "[" t then
      let _ ← next follow
      subscripts g
      return .inl ⟨.access, true⟩
    else if isSymbol "(" t then
      let _ ← next follow
      let _ ← arguments g true
      return .inl ⟨.other, p.starred⟩
    else return .inr p) g.fuel p

def primary (g : Nested) (follow : Follow) : Reading Phrase := do
  applied g follow (← atom g follow)

/-- An operand with the signs before it. A star may stand only before what starts with a name or
has an attribute or a subscript. -/
def operand (g : Nested) (follow : Follow) : Reading Phrase :=
  iterate (fun (signed : Bool) => do
    let result (p : Phrase) : Bool ⊕ Phrase := .inr (if signed then .plain else p)
    let t ← peek .neither
    if isSymbol "+" t || isSymbol "-" t || isSymbol "~" t then
      let _ ← next .neither
      return .inl true
    else if isSymbol "*" t then
      let _ ← next .neither
      let p ← primary g follow
      if !p.starred then fail .unexpected
      else return result ⟨if p.shape == .other then .other else .pattern, false⟩
    else if isWord "await" t then
      let _ ← next .neither
      if (← peek follow).startsOperand then return .inl true
      else return result (← applied g follow ⟨.name, true⟩)
    else return result (← primary g follow)) g.fuel false

def operation (g : Nested) (follow : Follow) : Reading Phrase := do
  let first ← operand g follow
  iterate (fun p => do
    let t ← peek follow
    if t.isBinaryOperator || isWord "in" t then
      let _ ← next follow
      let _ ← operand g follow
      return .inl ⟨.other, first.starred⟩
    else if isWord "not" t then
      let _ ← next follow
      word "in"
      let _ ← operand g follow
      return .inl ⟨.other, first.starred⟩
    else if isWord "is" t then
      let _ ← next follow
      let _ ← tryWord .neither "not"
      let _ ← operand g follow
      return .inl ⟨.other, first.starred⟩
    else return .inr p) g.fuel first

def parameterTarget (g : Nested) (starred : Bool) : Reading Unit := do
  let bracket := (← place).rest.head?
  let p ← g.read .operand
  let fits := if starred then p.shape == .name || p.shape == .access
    else p.shape == .name || (p.shape == .pattern && bracket == some '(')
  if fits then return () else fail .unexpected

def behindSign? (follow : Follow) (sign : String) (text : Reading Phrase) :
    Reading (Option (List Char)) := do
  if ← trySymbol follow sign then
    let _ ← approach .neither
    return some (← withText text).2
  else return none

def annotation? (g : Nested) (typed : Bool) (follow : Follow) : Reading (Option (List Char)) :=
  if typed then behindSign? follow ":" (g.read (.type follow)) else return none

/-- Behind the stars; `next` says what may stand there besides a name. -/
def starredParameter (g : Nested) (typed : Bool) (next follow : Follow) (stars : Stars) :
    Reading Parameter := do
  let (_, between) ← withText (approach next)
  let (_, name) ← withText (parameterTarget g true)
  return .starred stars between name (← annotation? g typed follow)

def parameter (g : Nested) (typed : Bool) (follow : Follow) : Reading Parameter := do
  if ← trySymbol follow "*" then
    if (← peek follow).startsOperand then starredParameter g typed follow follow .one
    else return .keywordOnly
  else if ← trySymbol follow "**" then starredParameter g typed .neither follow .two
  else if ← trySymbol follow "/" then return .positionalOnly
  else
    let (_, target) ← withText (parameterTarget g false)
    let annotation? ← annotation? g typed follow
    return .named target annotation?
      (← behindSign? follow "=" (g.read (.expression follow true)))

def lambdaParameters (g : Nested) : Reading Unit :=
  iterate (fun (_ : Unit) => do
    if isSymbol ":" (← peek .neither) then return .inr ()
    else
      let _ ← approach .neither
      let _ ← parameter g false .neither
      if ← trySymbol .neither "," then return .inl ()
      else return .inr ()) g.fuel ()

def Parameter.ofExtra : Extra → Parameter
  | .comment _ text => .comment text
  | .joint text => .joint text

/-- Behind an opening parenthesis: parameters with the comments between them, up to and with the
closing one. -/
def parametersRest (g : Nested) : Reading (List Parameter) :=
  iterate (fun (done, expected) => do
    let last ← place
    let done := done ++ (← approach .closer).map Parameter.ofExtra
    if ← trySymbol .closer ")" then return .inr done
    else if expected then
      let t ← peek .closer
      if t.startsOperand || isSymbol "**" t || isSymbol "/" t then
        return .inl (done ++ [← parameter g true .closer], false)
      else fail (← missingParenthesis last)
    else if ← trySymbol .closer "," then return .inl (done, true)
    else fail (← missingParenthesis last)) g.fuel (([] : List Parameter), true)

def typeParameters (g : Nested) : Reading Unit := do
  symbol "["
  let _ ← approach .neither
  let _ ← listRest g "]" (g.read (.type .closer)) [← g.read (.type .closer)]

def simpleType (g : Nested) (follow : Follow) : Reading Unit := do
  if ← trySymbol .neither "**" then identifier
  else
    let plain : Reading Unit := do
      let _ ← g.read (.expression follow true)
    plain.orElse (do
      identifier
      typeParameters g)

def typeAt (g : Nested) (bounded : Bool) (follow : Follow) : Reading Unit := do
  simpleType g follow
  iterate (fun (_ : Unit) => do
    let t ← peek follow
    if isSymbol "|" t || (bounded && isSymbol ":" t) then
      let _ ← next follow
      simpleType g follow
      return .inl ()
    else if isSymbol "." t then
      let _ ← next follow
      identifier
      return .inl ()
    else return .inr ()) g.fuel ()

def unit (g : Nested) (follow : Follow) : Reading Phrase :=
  iterate (fun (behind : Bool) => do
    let t ← peek .neither
    if isWord "not" t then
      let _ ← next .neither
      return .inl true
    else if isWord "lambda" t then
      let _ ← next .neither
      lambdaParameters g
      symbol ":"
      return .inl true
    else
      let p ← operation g follow
      if p.shape == .name && isSymbol ":=" (← peek follow) then
        let _ ← next follow
        return .inl true
      else return .inr (if behind then .plain else p)) g.fuel false

def expressionAt (g : Nested) (follow : Follow) (conditional : Bool) : Reading Phrase := do
  let first ← unit g follow
  iterate (fun p => do
    let t ← peek follow
    if isWord "and" t || isWord "or" t || isWord "as" t then
      let _ ← next follow
      let _ ← unit g follow
      return .inl ⟨.other, first.starred⟩
    else if isWord "if" t && conditional then
      let _ ← next follow
      let _ ← g.read (.expression .neither true)
      word "else"
      let _ ← unit g follow
      return .inl ⟨.other, first.starred⟩
    else return .inr p) g.fuel first

def formatRest (g : Nested) : Reading Unit :=
  iterate (fun (_ : Unit) => do
    match (← place).rest with
    | [] => fail .unexpected
    | c :: r =>
      if c = '\x7d' then
        consume 1
        return .inr ()
      else if c = '\x7b' then
        consume 1
        let _ ← g.read .interpolation
        return .inl ()
      else if c = '\n' then
        consume 1
        return .inl ()
      else
        consume ((r.takeWhile (fun c => c ≠ '\x7b' ∧ c ≠ '\x7d' ∧ c ≠ '\n')).length + 1)
        return .inl ()) g.fuel ()

def interpolation (g : Nested) : Reading Unit := do
  let _ ← approach .neither
  if ← tryWord .neither "yield" then yieldRest g .closer
  else
    let _ ← expressions g .closer true
  let _ ← trySymbol .closer "="
  let _ ← approach .closer
  match (← place).rest with
  | '!' :: c :: _ => if 'a' ≤ c ∧ c ≤ 'z' then consume 2 else fail .unexpected
  | _ => pure ()
  let _ ← approach .closer
  match (← place).rest with
  | ':' :: _ =>
    consume 1
    formatRest g
  | _ => closing "\x7d"

/-- Reads what nests at most so deep. -/
def readNested : Nat → Goal → Reading Phrase
  | 0, _ => fail .unexpected
  | depth + 1, goal =>
    let g : Nested := ⟨depth, readNested depth⟩
    match goal with
    | .expression follow conditional => expressionAt g follow conditional
    | .operand => primary g .neither
    | .type follow => do
      typeAt g true follow
      return .plain
    | .interpolation => do
      interpolation g
      return .plain

def nestedFor (length : Nat) : Nested :=
  let bound := 2 * length + 16
  ⟨bound, readNested bound⟩

end Expression

end Appraisal.Python
