import Appraisal.Code.Entity
import Appraisal.Data.Field

set_option autoImplicit false

namespace Appraisal.Code

def Vocabulary.fields : List String :=
  ["risk_keywords", "indicator_keywords", "strategy_keywords"]

/-- The lists given by the entries; a list that is not given keeps its default. -/
def Vocabulary.ofRecord? (r : Datum.Record) : Option Vocabulary := do
  return {
    risk := ← r.orElse? "risk_keywords" Vocabulary.default.risk (Datum.list? Datum.text?)
    indicator :=
      ← r.orElse? "indicator_keywords" Vocabulary.default.indicator (Datum.list? Datum.text?)
    strategy :=
      ← r.orElse? "strategy_keywords" Vocabulary.default.strategy (Datum.list? Datum.text?) }

def Vocabulary.ofDatum? (d : Datum) : Option Vocabulary := do
  Vocabulary.ofRecord? (← d.recordOrList? Vocabulary.fields)

def Entity.toDatum (e : Entity) : Datum :=
  .map ([
    ("kind", .text e.kind.name),
    ("name", .text e.name),
    ("file_path", .text e.filePath),
    ("line_number", .ofNat e.lineNumber)] ++
    Datum.optional "docstring" (e.docstring?.map .text) ++
    [("signature_summary", .text e.signature)] ++
    Datum.optional "scope" (e.scope?.map .text))

def ParseError.toDatum (e : ParseError) : Datum :=
  .map [("file_path", .text e.filePath), ("message", .text e.message)]

end Appraisal.Code
