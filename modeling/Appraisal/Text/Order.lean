set_option autoImplicit false

namespace Appraisal.Text

/-- The first text does not come after the second one. -/
def le : List Char → List Char → Bool
  | [], _ => true
  | _ :: _, [] => false
  | a :: as, b :: bs => a < b || (a == b && le as bs)

end Appraisal.Text
