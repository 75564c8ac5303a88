import Appraisal.Code.Grammar
import Appraisal.Python.Statement
import Appraisal.Text.Line
import Appraisal.Text.Quoted

set_option autoImplicit false

namespace Appraisal.Python

/-- The name by which a parameter is listed: for a starred one, the whole text up to its name's
end. -/
def Parameter.name? : Parameter → Option (List Char)
  | .named target _ _ => some target
  | .starred stars between name _ => some (stars.text ++ between ++ name)
  | .joint text => some text
  | .keywordOnly | .positionalOnly | .comment _ => none

def parameterNames (parameters : List Parameter) : List (List Char) :=
  parameters.filterMap Parameter.name?

def commentText (comment : List Char) : List Char :=
  match comment.dropWhile (· = '#') with
  | ' ' :: rest => Text.trimEnd rest
  | rest => Text.trimEnd rest

/-- The comments that end right above `row`, nearest first; `before` is what precedes, nearest
first. -/
def commentRun (column : Nat) : (row : Nat) → (before : List Node) → List (List Char)
  | row, .comment r c text :: before =>
    if c = column ∧ r + 1 = row then commentText text :: commentRun column r before else []
  | _, _ => []

def joinLines : List (List Char) → List Char
  | [] => []
  | [line] => line
  | line :: rest => line ++ '\n' :: joinLines rest

def leadingComments? (row column : Nat) (before : List Node) : Option (List Char) :=
  match commentRun column row before with
  | [] => none
  | run => some (joinLines run.reverse)

/-- The text of the literal that a body starts with, if it says something. -/
def bodyDocstring? (body : List Node) : Option (List Char) :=
  match body.find? (fun n => match n with | .comment _ _ _ => false | _ => true) with
  | some (.expression (some literal) _) =>
    let text := Text.trim (Text.unquote literal)
    if text.isEmpty then none else some text
  | _ => none

def decoratorText (text : List Char) : List Char := Text.trim (text.dropWhile (· = '@'))

mutual

def definitionsAmong (before : List Node) : List Node → List Code.Definition
  | [] => []
  | n :: rest =>
    match definitionOf? before n with
    | some d => d :: definitionsAmong (n :: before) rest
    | none => definitionsAmong (n :: before) rest

def definitionOf? (before : List Node) : Node → Option Code.Definition
  | .definition row column decorators line name signature body =>
    let docstring? := (bodyDocstring? body).or (leadingComments? row column before)
    let decorators := decorators.map decoratorText
    match signature with
    | .classOf bases =>
      some ⟨.classForm, name, line + 1, bases, decorators, [], docstring?,
        definitionsAmong [] body⟩
    | .functionOf parameters =>
      some ⟨.functionForm, name, line + 1, [], decorators, parameterNames parameters,
        docstring?, []⟩
  | _ => none

end

def quotedLength : Nat := 40

def quoted (text : List Char) : String :=
  String.ofList (Text.truncate quotedLength (Text.trim (text.takeWhile (· ≠ '\n'))))

def Fault.error : Fault → Code.GrammarError
  | .unexpected => .invalid 1 1 "invalid syntax"
  | .invalid place =>
    .invalid (place.row + 1) (place.column + 1)
      ("invalid syntax near '" ++ quoted place.rest ++ "'")
  | .missing place token => .invalid (place.row + 1) (place.column + 1) ("missing " ++ token)
  | .unclosed place opening =>
    .invalid (place.row + 1) (place.column + 1)
      ("invalid syntax near '" ++ quoted opening ++ "'")

def definitions (source : List Char) : Except Code.GrammarError Code.DefinitionTree :=
  match read source with
  | .error e => .error e.error
  | .ok nodes =>
    .ok ⟨Code.Definition.ofModule (definitionsAmong [] nodes), (Text.lines source).length⟩

def extensions : List (List Char) := ["py", "pyi"].map String.toList

def grammar : Code.Grammar where
  name := "python"
  handles path := path.extension?.any (extensions.contains ·)
  definitions _ source := definitions source

end Appraisal.Python
