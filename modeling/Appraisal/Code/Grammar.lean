import Appraisal.Code.Definition
import Appraisal.Files.Path

set_option autoImplicit false

namespace Appraisal.Code

structure Grammar where
  name : String
  handles : Path → Bool
  definitions : (path : String) → (source : List Char) → Except GrammarError DefinitionTree

end Appraisal.Code
