import Appraisal.Data.Json.Reader
import Appraisal.Data.Yaml.Reader

set_option autoImplicit false

namespace Appraisal

inductive Format where
  | json
  | yaml
  deriving DecidableEq, Repr

/-- Formats go by the extension of the file, in small letters. -/
def Format.ofExtension? (extension : String) : Option Format :=
  if extension = "json" then some .json
  else if extension ∈ ["yaml", "yml"] then some .yaml
  else none

def Format.read? : Format → String → Option Datum
  | .json => Json.read?
  | .yaml => Yaml.read?

end Appraisal
