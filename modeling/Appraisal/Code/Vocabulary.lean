import Appraisal.Code.Definition
import Appraisal.Text.Blank
import Appraisal.Unicode.Lowercase

set_option autoImplicit false

namespace Appraisal.Code

inductive EntityKind where
  | strategy
  | indicator
  | riskManagement
  | genericClass
  | genericFunction
  deriving DecidableEq, Repr

def EntityKind.name : EntityKind → String
  | .strategy => "strategy"
  | .indicator => "indicator"
  | .riskManagement => "risk_management"
  | .genericClass => "generic_class"
  | .genericFunction => "generic_function"

def EntityKind.isDomain : EntityKind → Bool
  | .strategy => true
  | .indicator => true
  | .riskManagement => true
  | .genericClass => false
  | .genericFunction => false

structure Vocabulary where
  risk : List String
  indicator : List String
  strategy : List String
  deriving DecidableEq, Repr

def Vocabulary.default : Vocabulary where
  risk := ["risk", "stop_loss", "stoploss", "take_profit", "takeprofit", "position_siz",
    "positionsiz", "drawdown", "trailing_stop", "trailingstop", "max_loss", "exposure"]
  indicator := ["indicator", "sma", "ema", "rsi", "macd", "bollinger", "moving_average",
    "movingaverage", "stochastic", "oscillator", "vwap", "ichimoku"]
  strategy := ["strategy", "signal", "backtest", "trade", "trading"]

inductive Target where
  | name
  | bases
  | decorators
  deriving DecidableEq, Repr

def Target.text : Target → String
  | .name => "name"
  | .bases => "bases"
  | .decorators => "decorators"

def Target.texts (d : Definition) : Target → List (List Char)
  | .name => [d.name]
  | .bases => d.bases
  | .decorators => d.decorators

def normalizeKeyword (keyword : String) : List Char :=
  Unicode.lowercase (Text.trim keyword.toList)

/-- A keyword list with the parts of a definition that it looks at. -/
structure KeywordRule where
  kind : EntityKind
  targets : List Target
  keywords : List (List Char)

def KeywordRule.ofList (kind : EntityKind) (targets : List Target) (keywords : List String) :
    KeywordRule :=
  ⟨kind, targets, (keywords.map normalizeKeyword).filter (fun k => !k.isEmpty)⟩

def occursIn (part : List Char) : List Char → Bool
  | [] => part.isEmpty
  | c :: r => part.isPrefixOf (c :: r) || occursIn part r

namespace KeywordRule

def keywordIn? (rule : KeywordRule) (text : List Char) : Option (List Char) :=
  let lowered := Unicode.lowercase text
  rule.keywords.find? (occursIn · lowered)

def match? (rule : KeywordRule) (d : Definition) : Option (List Char) :=
  rule.targets.findSome? (fun target => (target.texts d).findSome? rule.keywordIn?)

end KeywordRule

/-- The keyword lists in the order in which they are tried. -/
def Vocabulary.rules (v : Vocabulary) : List KeywordRule :=
  [.ofList .riskManagement [.name, .bases, .decorators] v.risk,
    .ofList .indicator [.name] v.indicator,
    .ofList .strategy [.name, .bases] v.strategy]

/-- The kind of a definition for which no keyword speaks. -/
def Definition.genericKind (d : Definition) : EntityKind :=
  if d.form = .classForm then .genericClass else .genericFunction

def classify (rules : List KeywordRule) (d : Definition) : EntityKind :=
  match rules.find? (fun rule => (rule.match? d).isSome) with
  | some rule => rule.kind
  | none => d.genericKind

end Appraisal.Code
