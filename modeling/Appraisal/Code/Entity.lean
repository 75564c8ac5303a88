import Appraisal.Code.Grammar
import Appraisal.Code.Vocabulary
import Appraisal.Text.Line

set_option autoImplicit false

namespace Appraisal.Code

structure Entity where
  kind : EntityKind
  form : Form
  name : String
  filePath : String
  lineNumber : Nat
  docstring? : Option String
  signature : String
  /-- The classes around the definition, with dots between them. -/
  scope? : Option String
  deriving DecidableEq, Repr

structure Classifier where
  rules : List KeywordRule
  maxDocstring : Nat

def Classifier.defaultMaxDocstring : Nat := 500

def Classifier.ofVocabulary (v : Vocabulary) (maxDocstring : Nat) : Classifier :=
  ⟨v.rules, maxDocstring⟩

structure Scoped where
  definition : Definition
  scope? : Option (List Char)

def innerScope (outer? : Option (List Char)) (name : List Char) : List Char :=
  match outer? with
  | some outer => outer ++ '.' :: name
  | none => name

mutual

def Definition.walk (scope? : Option (List Char)) : Definition → List Scoped
  | ⟨.moduleForm, _, _, _, _, _, _, children⟩ => walkAll none children
  | ⟨.classForm, name, line, bases, decorators, parameters, docstring?, children⟩ =>
    ⟨⟨.classForm, name, line, bases, decorators, parameters, docstring?, children⟩, scope?⟩ ::
      walkAll (some (innerScope scope? name)) children
  | ⟨.functionForm, name, line, bases, decorators, parameters, docstring?, children⟩ =>
    [⟨⟨.functionForm, name, line, bases, decorators, parameters, docstring?, children⟩, scope?⟩]

def walkAll (scope? : Option (List Char)) : List Definition → List Scoped
  | [] => []
  | d :: rest => d.walk scope? ++ walkAll scope? rest

end

def DefinitionTree.walk (tree : DefinitionTree) : List Scoped := tree.root.walk none

def DefinitionTree.holds (tree : DefinitionTree) (s : Scoped) : Bool :=
  1 ≤ s.definition.line && s.definition.line ≤ tree.lineCount

def Classifier.entity (c : Classifier) (path : String) (s : Scoped) : Entity where
  kind := classify c.rules s.definition
  form := s.definition.form
  name := String.ofList s.definition.name
  filePath := path
  lineNumber := s.definition.line
  docstring? :=
    s.definition.docstring?.map (fun d => String.ofList (Text.truncate c.maxDocstring d))
  signature := String.ofList s.definition.signature
  scope? := s.scope?.map String.ofList

def Classifier.entities (c : Classifier) (path : String) (tree : DefinitionTree) : List Entity :=
  (tree.walk.filter tree.holds).map (c.entity path)

structure ParseError where
  filePath : String
  message : String
  deriving DecidableEq, Repr

inductive FileClassification where
  | classified (entities : List Entity)
  | refused (error : ParseError)
  deriving DecidableEq, Repr

namespace FileClassification

def entities : FileClassification → List Entity
  | .classified entities => entities
  | .refused _ => []

def parseError? : FileClassification → Option ParseError
  | .classified _ => none
  | .refused error => some error

end FileClassification

def classifyFile (path : String) (source : List Char) (c : Classifier) (grammar : Grammar) :
    FileClassification :=
  match grammar.definitions path source with
  | .ok tree => .classified (c.entities path tree)
  | .error e => .refused ⟨path, e.message⟩

end Appraisal.Code
