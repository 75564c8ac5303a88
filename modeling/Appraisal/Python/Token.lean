import Appraisal.Python.Reading
import Appraisal.Text.Blank
import Appraisal.Unicode.CharSet

set_option autoImplicit false

/-!
# Tokens

What stands next in the source depends on what may stand there. A line end is a token only where
a statement may end, and elsewhere it is a blank; a line that is indented less than the innermost
open block ends that block, unless a closing bracket may stand at the place.
-/
namespace Appraisal.Python

inductive Follow where
  | lineEnd
  | closer
  | statement
  | neither
  deriving DecidableEq

structure Quoting where
  quote : Char
  triple : Bool
  raw : Bool
  bytes : Bool
  format : Bool

inductive Token where
  | word (text : List Char)
  | number
  | symbol (text : List Char)
  | opening (quoting : Quoting)
  | lineEnd
  | dedent
  | endOfText
  | unknown
  deriving Inhabited

inductive Extra where
  | comment (place : Cursor) (text : List Char)
  | joint (text : List Char)

structure Gap where
  length : Nat
  /-- The length up to and with the first line end; `none` where there is no line end. -/
  lineEnd? : Option Nat
  broken : Bool
  indent : Nat
  /-- The indentation of the first line that holds only a comment. -/
  comment? : Option Nat
  rest : List Char

inductive GapMode where
  | blank
  | comment
  | escape
  | escapeReturn

def Gap.past (g : Gap) (indent : Nat) : Gap :=
  { g with length := g.length + 1, indent := indent }

def Gap.pastLineEnd (g : Gap) : Gap :=
  { g with length := g.length + 1, indent := 0, broken := true,
           lineEnd? := g.lineEnd?.or (some (g.length + 1)) }

/-- Goes over a gap. There is none where a backslash joins nothing and, with `overComments`, where
a comment stands behind something on its line. -/
def Gap.scan (overComments : Bool) : GapMode → Gap → List Char → Option Gap
  | _, g, [] =>
    some { g with indent := 0, broken := true, lineEnd? := g.lineEnd?.or (some g.length),
                  rest := [] }
  | .comment, g, c :: r =>
    if c = '\n' then scan overComments .blank g.pastLineEnd r
    else scan overComments .comment (g.past 0) r
  | .escape, g, c :: r =>
    if c = '\n' then scan overComments .blank (g.past g.indent) r
    else if c = '\r' then scan overComments .escapeReturn (g.past g.indent) r
    else none
  | .escapeReturn, g, c :: r =>
    if c = '\n' then scan overComments .blank (g.past g.indent) r else none
  | .blank, g, c :: r =>
    if c = '\n' then scan overComments .blank g.pastLineEnd r
    else if c = ' ' then scan overComments .blank (g.past (g.indent + 1)) r
    else if c = '\t' then scan overComments .blank (g.past (g.indent + 8)) r
    else if c = '\r' ∨ c = '\x0c' then scan overComments .blank (g.past 0) r
    else if c = '\\' then scan overComments .escape (g.past g.indent) r
    else if c = '#' ∧ overComments then
      if g.broken then
        scan overComments .comment
          { g with length := g.length + 1, comment? := g.comment?.or (some g.indent) } r
      else none
    else some { g with rest := c :: r }

def State.gap? (s : State) (overComments : Bool) : Option Gap :=
  Gap.scan overComments .blank ⟨0, none, s.fresh, 0, none, []⟩ s.cursor.rest

def State.indent (s : State) : Nat := s.indents.headD 0

def State.dedents (s : State) (g : Gap) : Bool :=
  g.broken && g.indent < s.indent && !s.formatting &&
    (match g.comment? with
      | some indent => indent < s.indent
      | none => true)

def wordStarts : Unicode.CharSet := (Unicode.lookUp? Unicode.binaryTable "xidstart").getD .none

def wordParts : Unicode.CharSet := (Unicode.lookUp? Unicode.binaryTable "xidcontinue").getD .none

def isWordStart (c : Char) : Bool :=
  if c.toNat < 128 then c.isAlpha || c == '_' else wordStarts.contains c

def isWordPart (c : Char) : Bool :=
  if c.toNat < 128 then c.isAlphanum || c == '_' else wordParts.contains c

def isSpace (c : Char) : Bool :=
  Text.isBlank c || c == '\ufeff' || c == '\u2060' || c == '\u200b'

/-- The length of decimal digits, each run of which may have one underscore behind it. -/
def digitsLength (behindDigit : Bool) : List Char → Nat
  | [] => 0
  | c :: r =>
    if c.isDigit then digitsLength true r + 1
    else if c = '_' ∧ behindDigit then digitsLength false r + 1
    else 0

def basedLength (isDigit : Char → Bool) : List Char → Nat
  | [] => 0
  | c :: r =>
    if isDigit c then basedLength isDigit r + 1
    else if c = '_' ∧ r.head?.any isDigit then basedLength isDigit r + 1
    else 0

def basedDigit? (marker : Char) : Option (Char → Bool) :=
  match marker.toLower with
  | 'x' => some (fun c => c.isDigit || ('a' ≤ c.toLower && c.toLower ≤ 'f'))
  | 'o' => some (fun c => '0' ≤ c && c ≤ '7')
  | 'b' => some (fun c => c == '0' || c == '1')
  | _ => none

def oneOf (cs : List Char) (text : List Char) : Nat :=
  match text with
  | c :: _ => if c ∈ cs then 1 else 0
  | [] => 0

def exponentLength (text : List Char) : Nat :=
  if oneOf ['e', 'E'] text = 0 then 0
  else
    let sign := oneOf ['+', '-'] text.tail
    let digits := digitsLength false (text.drop (1 + sign))
    if digits = 0 then 0 else 1 + sign + digits

def numberLength (text : List Char) : Nat :=
  let based := match text with
    | '0' :: marker :: r =>
      match basedDigit? marker with
      | some isDigit => basedLength isDigit r
      | none => 0
    | _ => 0
  if 0 < based then 2 + based + oneOf ['l', 'L'] (text.drop (2 + based))
  else
    let whole := digitsLength false text
    let behind := text.drop whole
    let fraction := match behind with
      | '.' :: r =>
        let digits := digitsLength false r
        if whole = 0 ∧ digits = 0 then 0 else 1 + digits
      | _ => 0
    if whole = 0 ∧ fraction = 0 then 0
    else
      let size := whole + fraction
      let exponent := exponentLength (text.drop size)
      let size := size + exponent
      let suffixes := if fraction = 0 ∧ exponent = 0 then ['l', 'L', 'j', 'J'] else ['j', 'J']
      size + oneOf suffixes (text.drop size)

def opening? (text : List Char) : Option (Quoting × Nat) :=
  let isMark (c : Char) : Bool := c.toLower ∈ ['f', 't', 'r', 'b', 'u']
  let marks := (text.takeWhile isMark).map Char.toLower
  let quoting (quote : Char) (triple : Bool) : Quoting :=
    ⟨quote, triple, 'r' ∈ marks, 'b' ∈ marks, 'f' ∈ marks || 't' ∈ marks⟩
  match text.drop marks.length with
  | [] => none
  | q :: r =>
    if q = '\'' ∨ q = '"' then
      if r.take 2 = [q, q] then some (quoting q true, marks.length + 3)
      else some (quoting q false, marks.length + 1)
    else if q = '\x60' then some (quoting q false, marks.length + 1)
    else none

/-- Symbols, a longer one before every one that it starts with. -/
def symbols : List (List Char) :=
  ["**=", "//=", ">>=", "<<=", "**", "//", "<<", ">>", "<=", ">=", "==", "!=", "<>", "->", ":=",
    "+=", "-=", "*=", "/=", "%=", "@=", "&=", "|=", "^=", "+", "-", "*", "/", "%", "@", "&", "|",
    "^", "~", "<", ">", "=", "(", ")", "[", "]", "\x7b", "\x7d", ",", ":", ".", ";"].map
    String.toList

def tokenAt (text : List Char) : Token × Nat :=
  match text with
  | [] => (.endOfText, 0)
  | c :: _ =>
    if isWordStart c then
      let word := text.takeWhile isWordPart
      (.word word, word.length)
    else
      let number := numberLength text
      if 0 < number then (.number, number)
      else match symbols.find? (List.isPrefixOf · text) with
        | some s => (.symbol s, s.length)
        | none => (.unknown, 0)

structure Lexed where
  token : Token
  ahead : Nat
  length : Nat
  extras : List Extra
  deriving Inhabited

def jointLength : List Char → Nat
  | '\\' :: '\r' :: '\n' :: _ => 3
  | '\\' :: '\n' :: _ => 2
  | ['\\'] => 1
  | _ => 0

def State.structural? (s : State) (follow : Follow) : Option (Token × Nat × Nat) :=
  match s.gap? (follow == .lineEnd || follow == .statement) with
  | none => none
  | some g =>
    let literal := if g.comment?.isNone then opening? g.rest else none
    let dedents := s.dedents g && (match follow with
      | .statement => true
      | .neither => oneOf ['"', '\'', '\x60'] g.rest = 0
      | .lineEnd => false
      | .closer => false)
    if dedents then some (.dedent, 0, 0)
    else match follow, g.broken, g.lineEnd? with
      | .lineEnd, true, _ => some (.lineEnd, 0, g.lineEnd?.getD 0)
      | _, _, _ => literal.map (fun (quoting, length) => (.opening quoting, g.length, length))

/-- Extras are passed one after the other; `done` characters have been passed. The first list is at
least as long as the text that is left, and one longer at the start, so it never runs out. -/
def lexFrom (follow : Follow) : List Char → State → Nat → List Extra → Lexed
  | [], _, done, extras => ⟨.unknown, done, 0, extras.reverse⟩
  | _ :: fuel, s, done, extras =>
    match s.structural? follow with
    | some (token, ahead, length) => ⟨token, done + ahead, length, extras.reverse⟩
    | none =>
      let blanks := (s.cursor.rest.takeWhile isSpace).length
      let here := s.cursor.advanceBy blanks
      let past (n : Nat) : State := { s with cursor := here.advanceBy n, fresh := false }
      if here.rest.head? = some '#' then
        let text := here.rest.takeWhile (· ≠ '\n')
        lexFrom follow fuel (past text.length) (done + blanks + text.length)
          (.comment here text :: extras)
      else
        let joint := jointLength here.rest
        if 0 < joint then
          lexFrom follow fuel (past joint) (done + blanks + joint)
            (.joint (here.rest.take joint) :: extras)
        else
          let (token, length) := tokenAt here.rest
          ⟨token, done + blanks, length, extras.reverse⟩

def State.lex (s : State) (follow : Follow) : Lexed :=
  lexFrom follow ('\n' :: s.cursor.rest) s 0 []

namespace Reading

def peek (follow : Follow) : Reading Token := do return ((← state).lex follow).token

def next (follow : Follow) : Reading Token := do
  let lexed := (← state).lex follow
  match lexed.token with
  | .lineEnd => consumeLine (lexed.ahead + lexed.length)
  | _ => consume (lexed.ahead + lexed.length)
  return lexed.token

/-- To the start of the next token; gives the extras before it. -/
def approach (follow : Follow) : Reading (List Extra) := do
  let lexed := (← state).lex follow
  consume lexed.ahead
  return lexed.extras

def isSymbol (s : String) : Token → Bool
  | .symbol text => text == s.toList
  | _ => false

def isWord (w : String) : Token → Bool
  | .word text => text == w.toList
  | _ => false

def trySymbol (follow : Follow) (s : String) : Reading Bool := do
  if isSymbol s (← peek follow) then
    let _ ← next follow
    return true
  else return false

def tryWord (follow : Follow) (w : String) : Reading Bool := do
  if isWord w (← peek follow) then
    let _ ← next follow
    return true
  else return false

def symbol (s : String) : Reading Unit := do
  if ← trySymbol .neither s then return () else fail .unexpected

def closing (s : String) : Reading Unit := do
  if ← trySymbol .closer s then return () else fail .unexpected

def word (w : String) : Reading Unit := do
  if ← tryWord .neither w then return () else fail .unexpected

end Reading

end Appraisal.Python
