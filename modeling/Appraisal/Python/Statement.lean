import Appraisal.Python.Expression

set_option autoImplicit false

namespace Appraisal.Python.Statement

open Reading Expression

def commentNode : Extra → Option Node
  | .comment place text => some (.comment place.row place.column text)
  | .joint _ => none

def augmentedOperators : List (List Char) :=
  ["+=", "-=", "*=", "/=", "@=", "//=", "%=", "**=", ">>=", "<<=", "&=", "^=", "|="].map
    String.toList

def assigned (g : Nested) : Reading Bool := do
  let _ ← approach .neither
  if ← tryWord .neither "yield" then
    yieldRest g .lineEnd
    return false
  else return (← expressions g .lineEnd true).all (·.shape.isTarget)

def assignments (g : Nested) (isTarget : Bool) : Reading Bool :=
  iterate (fun ((isTarget : Bool), (found : Bool)) => do
    match ← peek .lineEnd with
    | .symbol s =>
      if s == ['='] || augmentedOperators.contains s then
        if !isTarget then fail .unexpected
        else
          let _ ← next .lineEnd
          return .inl (← assigned g, true)
      else if s == [':'] then
        if !isTarget then fail .unexpected
        else
          let _ ← next .lineEnd
          let _ ← approach .neither
          typeAt g true .lineEnd
          if ← trySymbol .lineEnd "=" then return .inl (← assigned g, true)
          else return .inr true
      else return .inr found
    | _ => return .inr found) g.fuel (isTarget, false)

def expressionStatement (g : Nested) : Reading Node := do
  if ← tryWord .neither "yield" then
    yieldRest g .lineEnd
    return .expression none true
  else
    let (first, text) ← withText (g.read (.expression .lineEnd true))
    let (isTarget, alone) ← iterate (fun ((isTarget : Bool), (alone : Bool)) => do
      if ← trySymbol .lineEnd "," then
        if (← peek .lineEnd).startsExpression then
          let p ← g.read (.expression .lineEnd true)
          return .inl (isTarget && p.shape.isTarget, false)
        else return .inr (isTarget, false)
      else return .inr (isTarget, alone)) g.fuel (first.shape.isTarget, true)
    if ← assignments g isTarget then return .other
    else return .expression (if first.shape = .literal then some text else none) alone

def atEnd : Reading Unit := do
  match ← peek .lineEnd with
  | .lineEnd => return ()
  | .symbol [';'] => return ()
  | _ => fail .unexpected

def commaList (g : Nested) (follow : Follow) (trailing : Bool) (item : Reading Unit) :
    Reading Unit := do
  item
  iterate (fun (_ : Unit) => do
    if ← trySymbol follow "," then
      let t ← peek follow
      if trailing && !t.startsExpression then return .inr ()
      else
        if trailing then
          let _ ← approach follow
        item
        return .inl ()
    else return .inr ()) g.fuel ()

def expressionItem (g : Nested) (follow : Follow) : Reading Unit := do
  let _ ← g.read (.expression follow true)

def dottedName (g : Nested) (follow : Follow) : Reading Unit := do
  identifier
  iterate (fun (_ : Unit) => do
    if ← trySymbol follow "." then
      identifier
      return .inl ()
    else return .inr ()) g.fuel ()

def importList (g : Nested) (follow : Follow) : Reading Unit :=
  commaList g follow true (do
    dottedName g follow
    if ← tryWord follow "as" then identifier)

def importedNames (g : Nested) : Reading Unit := do
  if ← trySymbol .neither "(" then
    importList g .closer
    symbol ")"
  else importList g .lineEnd

def fromImport (g : Nested) : Reading Unit := do
  if ← tryWord .neither "__future__" then
    word "import"
    importedNames g
  else
    let dots ← iterate (fun (dots : Nat) => do
      if ← trySymbol .neither "." then return .inl (dots + 1)
      else return .inr dots) g.fuel 0
    if dots = 0 || (← peek .neither).isName then dottedName g .neither
    word "import"
    if ← trySymbol .neither "*" then return ()
    else importedNames g

def optionalExpressions (g : Nested) : Reading Unit := do
  if (← peek .lineEnd).startsExpression then
    let _ ← approach .lineEnd
    let _ ← expressions g .lineEnd true

/-- The statement that a reserved word opens, behind that word; `none` for the words that open
no simple statement. -/
def reservedStatement? (g : Nested) (w : String) : Option (Reading Unit) :=
  match w with
  | "import" => some (importList g .lineEnd)
  | "from" => some (fromImport g)
  | "assert" => some (commaList g .lineEnd false (expressionItem g .lineEnd))
  | "return" => some (optionalExpressions g)
  | "del" => some (do
    let _ ← expressions g .lineEnd true)
  | "raise" => some (do
    optionalExpressions g
    if ← tryWord .lineEnd "from" then expressionItem g .lineEnd)
  | "pass" => some (pure ())
  | "break" => some (pure ())
  | "continue" => some (pure ())
  | "global" => some (commaList g .lineEnd false identifier)
  | "nonlocal" => some (commaList g .lineEnd false identifier)
  | _ => none

/-- Statements that a word opens which is a name elsewhere, behind that word. -/
def namedStatement? (g : Nested) (w : String) : Option (Reading Unit) :=
  match w with
  | "print" => some (do
    if ← trySymbol .neither ">>" then
      expressionItem g .lineEnd
      if ← trySymbol .lineEnd "," then
        if (← peek .lineEnd).startsExpression then
          commaList g .lineEnd true (expressionItem g .lineEnd)
    else commaList g .lineEnd true (expressionItem g .lineEnd))
  | "exec" => some (do
    match ← peek .neither with
    | .opening q => literal g .neither q
    | _ => identifier
    if ← tryWord .lineEnd "in" then commaList g .lineEnd false (expressionItem g .lineEnd))
  | "type" => some (do
    typeAt g true .neither
    symbol "="
    let _ ← approach .neither
    typeAt g true .lineEnd)
  | _ => none

def simpleStatement (g : Nested) : Reading Node := do
  match ← peek .neither with
  | .word w =>
    match reservedStatement? g (String.ofList w) with
    | some statement => do
      let _ ← next .neither
      statement
      return .other
    | none =>
      match namedStatement? g (String.ofList w) with
      | some statement =>
        let plain : Reading Node := do
          let node ← expressionStatement g
          atEnd
          return node
        plain.orElse (do
          let _ ← next .neither
          statement
          return .other)
      | none => expressionStatement g
  | _ => expressionStatement g

def simpleStatements (g : Nested) : Reading (List Node) :=
  iterate (fun (done : List Node) => do
    let node ← simpleStatement g
    let comments := (← approach .lineEnd).filterMap commentNode
    let done := done ++ node :: comments
    if ← trySymbol .lineEnd ";" then
      let comments := (← approach .lineEnd).filterMap commentNode
      match ← peek .lineEnd with
      | .lineEnd =>
        let _ ← next .lineEnd
        return .inr (done ++ comments)
      | _ => return .inl (done ++ comments)
    else
      match ← peek .lineEnd with
      | .lineEnd =>
        let _ ← next .lineEnd
        return .inr done
      | _ => fail .unexpected) g.fuel []

def suite {α : Type} (block line : Reading (List α)) : Reading (List α) := do
  let s ← state
  match (s.lex .lineEnd).token with
  | .lineEnd =>
    let _ ← approach .lineEnd
    let s ← state
    match s.gap? true with
    | none => fail .unexpected
    | some g =>
      consumeLine (g.lineEnd?.getD 0)
      if s.indent < g.indent then
        setIndents (g.indent :: s.indents)
        block
      else return []
  | _ =>
    let _ ← approach .lineEnd
    line

/-- Elements up to the end of the block. Comments before the first one of an indented block
belong to the line that opens the block. -/
def block {α : Type} (fuel : Nat) (top : Bool) (comment : Extra → Option α)
    (element : Reading (List α)) : Reading (List α) :=
  iterate (fun ((first : Bool), (done : List α)) => do
    let s ← state
    let lexed := s.lex .statement
    let _ ← approach .statement
    let comments := if first && !top then [] else lexed.extras.filterMap comment
    let done := comments.reverse ++ done
    match lexed.token with
    | .dedent =>
      setIndents s.indents.tail
      return .inr done.reverse
    | .endOfText => if top then return .inr done.reverse else fail .unexpected
    | _ => return .inl (false, (← element).reverse ++ done)) fuel (true, [])

def tryClause (words : List String) : Reading (Option String) := do
  match (← peek .statement) with
  | .word w =>
    let w := String.ofList w
    if w ∈ words then
      let _ ← next .statement
      return some w
    else return none
  | _ => return none

structure Parts where
  nested : Nested
  suite : Reading (List Node)
  cases : Reading Unit

def colonSuite (p : Parts) : Reading (List Node) := do
  symbol ":"
  p.suite

def condition (p : Parts) : Reading Unit := expressionItem p.nested .neither

def clausesFrom (p : Parts) (header : String → Reading Unit) (after : String → List String)
    (words : List String) : Reading Unit :=
  iterate (fun words => do
    match ← tryClause words with
    | none => return .inr ()
    | some w =>
      header w
      let _ ← colonSuite p
      return .inl (after w)) p.nested.fuel words

def ifStatement (p : Parts) : Reading Unit := do
  condition p
  let _ ← colonSuite p
  clausesFrom p (fun w => if w = "elif" then condition p else pure ())
    (fun w => if w = "elif" then ["elif", "else"] else []) ["elif", "else"]

def elseClause (p : Parts) : Reading Unit :=
  clausesFrom p (fun _ => pure ()) (fun _ => []) ["else"]

def whileStatement (p : Parts) : Reading Unit := do
  condition p
  let _ ← colonSuite p
  elseClause p

def forStatement (p : Parts) : Reading Unit := do
  targets p.nested
  word "in"
  let _ ← expressions p.nested .neither true
  let _ ← colonSuite p
  elseClause p

def exceptHeader (p : Parts) : Reading Unit := do
  let _ ← trySymbol .neither "*"
  if (← peek .neither).startsExpression then
    commaList p.nested .neither false (expressionItem p.nested .neither)

def tryStatement (p : Parts) : Reading Unit := do
  let _ ← colonSuite p
  clausesFrom p (fun w => if w = "except" then exceptHeader p else pure ())
    (fun w =>
      if w = "except" then ["except", "else", "finally"]
      else if w = "else" then ["finally"] else [])
    ["except", "else", "finally"]

def withStatement (p : Parts) : Reading Unit := do
  commaList p.nested .neither true (expressionItem p.nested .neither)
  let _ ← colonSuite p

def name : Reading (List Char) := do
  let _ ← approach .neither
  return (← withText identifier).2

def optionalTypeParameters (p : Parts) : Reading Unit := do
  if isSymbol "[" (← peek .neither) then typeParameters p.nested

def definition (p : Parts) (row column : Nat) (decorators : List (List Char)) :
    Reading Node := do
  let line := (← place).row
  if ← tryWord .neither "class" then
    let name ← name
    optionalTypeParameters p
    let bases ← (do
      if ← trySymbol .neither "(" then arguments p.nested false else return [])
    let body ← colonSuite p
    return .definition row column decorators line name (.classOf bases) body
  else
    let _ ← tryWord .neither "async"
    word "def"
    let name ← name
    optionalTypeParameters p
    symbol "("
    let parameters ← parametersRest p.nested
    if ← trySymbol .neither "->" then
      let _ ← approach .neither
      typeAt p.nested false .neither
    let body ← colonSuite p
    return .definition row column decorators line name (.functionOf parameters) body

def decorator (p : Parts) : Reading (List Char) := do
  let (_, text) ← withText (do
    symbol "@"
    let _ ← approach .neither
    expressionItem p.nested .lineEnd
    let _ ← approach .lineEnd)
  match ← next .lineEnd with
  | .lineEnd => return text
  | _ => fail .unexpected

/-- A decorator starts with the first at sign, but its text starts behind every one. -/
def decorated (p : Parts) (row column : Nat) : Reading Node :=
  iterate (fun (done : List (List Char)) => do
    let _ ← approach .neither
    if isSymbol "@" (← peek .neither) then return .inl (done ++ [← decorator p])
    else return .inr (← definition p row column done)) p.nested.fuel []

def matchStatement (p : Parts) : Reading Unit := do
  word "match"
  commaList p.nested .neither true (expressionItem p.nested .neither)
  symbol ":"
  p.cases

def compound? (p : Parts) (w : String) : Option (Reading Unit) :=
  match w with
  | "if" => some (ifStatement p)
  | "while" => some (whileStatement p)
  | "for" => some (forStatement p)
  | "try" => some (tryStatement p)
  | "with" => some (withStatement p)
  | _ => none

def wordBehind (s : State) : String :=
  match next .neither s with
  | .error _ => ""
  | .ok r =>
    match (r.state.lex .lineEnd).token with
    | .word w => String.ofList w
    | _ => ""

def secondWord : Reading String := do return wordBehind (← Reading.state)

def statement (p : Parts) : Reading (List Node) := do
  let c ← place
  match ← peek .neither with
  | .symbol ['@'] => return [← decorated p c.row c.column]
  | .word w =>
    let w := String.ofList w
    if w = "class" ∨ w = "def" then return [← definition p c.row c.column []]
    else if w = "async" then
      match ← secondWord with
      | "def" => return [← definition p c.row c.column []]
      | "for" =>
        let _ ← next .neither
        word "for"
        forStatement p
        return [.other]
      | "with" =>
        let _ ← next .neither
        word "with"
        withStatement p
        return [.other]
      | _ => simpleStatements p.nested
    else if w = "match" then
      let plain : Reading (List Node) := do
        matchStatement p
        return [.other]
      plain.orElse (simpleStatements p.nested)
    else
      match compound? p w with
      | some rest =>
        let _ ← next .neither
        rest
        return [.other]
      | none => simpleStatements p.nested
  | _ => simpleStatements p.nested

/-- Patterns nest in each other; `read` reads the inner ones, with `simple` only such that name no
value and no keyword. -/
structure CaseNested where
  nested : Nested
  read : (simple : Bool) → Reading Unit

def numberPattern : Reading Unit := do
  let _ ← trySymbol .neither "-"
  match ← next .neither with
  | .number =>
    let t ← peek .neither
    if isSymbol "+" t || isSymbol "-" t then
      let _ ← next .neither
      match ← next .neither with
      | .number => return ()
      | _ => fail .unexpected
  | _ => fail .unexpected

def caseItems (c : CaseNested) (closer : String) (item : Reading Unit) : Reading Unit := do
  let _ ← approach .closer
  if ← trySymbol .closer closer then return ()
  else
    let _ ← listRest c.nested closer item [← item]

def casePair (c : CaseNested) : Reading Unit := do
  if ← trySymbol .closer "**" then identifier
  else if ← trySymbol .closer "*" then identifier
  else
    c.read true
    symbol ":"
    c.read false

def literalPattern (c : CaseNested) (q : Quoting) : Reading Unit := do
  literal c.nested .neither q
  iterate (fun (_ : Unit) => do
    match ← peek .neither with
    | .opening q =>
      literal c.nested .neither q
      return .inl ()
    | _ => return .inr ()) c.nested.fuel ()

def closedPattern (c : CaseNested) : Reading Unit := do
  match ← peek .neither with
  | .opening q => literalPattern c q
  | .number => numberPattern
  | .word w =>
    if constantWords.contains w then
      let _ ← next .neither
    else
      dottedName c.nested .neither
      if ← trySymbol .neither "(" then caseItems c ")" (c.read false)
  | .symbol s =>
    if s == ['-'] then numberPattern
    else if s == ['*'] || s == ['*', '*'] then
      let _ ← next .neither
      identifier
    else if s == ['['] then
      let _ ← next .neither
      caseItems c "]" (c.read false)
    else if s == ['('] then
      let _ ← next .neither
      caseItems c ")" (c.read false)
    else if s == ['\x7b'] then
      let _ ← next .neither
      caseItems c "\x7d" (casePair c)
    else fail .unexpected
  | _ => fail .unexpected

def unionPattern (c : CaseNested) : Reading Unit := do
  closedPattern c
  iterate (fun (_ : Unit) => do
    if ← trySymbol .neither "|" then
      closedPattern c
      return .inl ()
    else return .inr ()) c.nested.fuel ()

def keywordPattern (c : CaseNested) : Reading Unit := do
  identifier
  symbol "="
  unionPattern c

def casePatternAt (c : CaseNested) (simple : Bool) : Reading Unit := do
  if simple then unionPattern c
  else
    (keywordPattern c).orElse (unionPattern c)
    iterate (fun (_ : Unit) => do
      if ← tryWord .closer "as" then
        identifier
        return .inl ()
      else return .inr ()) c.nested.fuel ()

def casePattern (g : Nested) : Nat → Bool → Reading Unit
  | 0, _ => fail .unexpected
  | depth + 1, simple => casePatternAt ⟨g, casePattern g depth⟩ simple

def caseClause (g : Nested) (suite : Reading (List Node)) : Reading (List Node) := do
  word "case"
  casePattern g g.fuel false
  iterate (fun (_ : Unit) => do
    if ← trySymbol .neither "," then
      let t ← peek .neither
      if isSymbol ":" t || isWord "if" t then return .inr ()
      else
        casePattern g g.fuel false
        return .inl ()
    else return .inr ()) g.fuel ()
  if ← tryWord .neither "if" then expressionItem g .neither
  symbol ":"
  let _ ← suite
  return []

def partsOver (g : Nested) (inner : Reading (List Node)) : Parts :=
  let colonPart := suite inner (simpleStatements g)
  let cases : Reading Unit := do
    let _ ← suite (block g.fuel false (fun _ => none) (caseClause g colonPart)) (fail .unexpected)
  ⟨g, colonPart, cases⟩

def blockRest (g : Nested) : Nat → Reading (List Node)
  | 0 => fail .unexpected
  | depth + 1 => fun s =>
    block g.fuel false commentNode (statement (partsOver g (blockRest g depth))) s

/-- Says of a statement that fails without a better reason where it starts. -/
def located {α : Type} (p : Reading α) : Reading α := fun s =>
  match p s with
  | .ok r => .ok r
  | .error .unexpected => .error (.invalid s.cursor)
  | .error e => .error e

def source (g : Nested) : Reading (List Node) :=
  block g.fuel true commentNode (located (statement (partsOver g (blockRest g g.fuel))))

end Statement

def startState (text : List Char) : State :=
  let start := Cursor.start text
  ⟨if text.head? = some '\ufeff' then start.advance else start, [], false, false⟩

def read (text : List Char) : Except Fault (List Node) :=
  match Statement.source (Expression.nestedFor text.length) (startState text) with
  | .ok r => .ok r.value
  | .error e => .error e

end Appraisal.Python
