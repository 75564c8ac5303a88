set_option autoImplicit false

namespace Appraisal.Code

inductive Form where
  | moduleForm
  | classForm
  | functionForm
  deriving DecidableEq, Repr

structure Definition where
  form : Form
  name : List Char
  /-- The line of the definition's keyword, counted from one. -/
  line : Nat
  bases : List (List Char)
  decorators : List (List Char)
  parameters : List (List Char)
  docstring? : Option (List Char)
  children : List Definition

def commaSeparated : List (List Char) → List Char
  | [] => []
  | [t] => t
  | t :: rest => t ++ ',' :: ' ' :: commaSeparated rest

def Definition.signature (d : Definition) : List Char :=
  match d.form with
  | .moduleForm => []
  | .classForm =>
    if d.bases.isEmpty then "class ".toList ++ d.name
    else "class ".toList ++ d.name ++ '(' :: commaSeparated d.bases ++ [')']
  | .functionForm =>
    "def ".toList ++ d.name ++ '(' :: commaSeparated d.parameters ++ [')']

structure DefinitionTree where
  root : Definition
  lineCount : Nat

def Definition.ofModule (children : List Definition) : Definition :=
  ⟨.moduleForm, [], 1, [], [], [], none, children⟩

instance : Inhabited Definition := ⟨.ofModule []⟩

inductive GrammarError where
  | noLanguage (language : String)
  | noTree (path : String)
  | invalid (line column : Nat) (reason : String)
  deriving DecidableEq, Repr

def GrammarError.message : GrammarError → String
  | .noLanguage language => "failed to set parser language: " ++ language
  | .noTree path => "failed to parse source code in " ++ path
  | .invalid line column reason =>
    "syntax error at line " ++ toString line ++ ", column " ++ toString column ++ ": " ++ reason

end Appraisal.Code
