import Appraisal.Score.Arithmetic
import Appraisal.Text.Blank

set_option autoImplicit false

namespace Appraisal.Score

structure Params (R : Type) where
  starCap : Nat
  ageCapDays : Nat
  sizeCapKb : Nat
  activityWindowDays : Nat
  recognizedLicenses : List String
  unrecognizedLicenseScore : R

def defaultLicenses : List String :=
  ["MIT", "Apache-2.0", "Apache License 2.0", "BSD-2-Clause", "BSD-3-Clause", "BSD 2-Clause",
    "BSD 3-Clause", "GPL-2.0", "GPL-3.0", "GNU General Public License", "LGPL-2.1", "LGPL-3.0",
    "GNU Lesser General Public License", "AGPL-3.0", "GNU Affero General Public License",
    "MPL-2.0", "Mozilla Public License 2.0", "ISC", "Unlicense", "The Unlicense"]

def Params.default : Params Float := ⟨1000, 730, 10000, 365, defaultLicenses, 0.3⟩

inductive ParamFlaw (R : Type) where
  | zeroCap (key : String)
  | licenseScore (value : R)

section
variable {R : Type} [Arithmetic R]
open Arithmetic

def isUnit (x : R) : Bool := le zero x && le x one

/-- The caps by the names under which they are configured. -/
def Params.caps (p : Params R) : List (String × Nat) :=
  [("star_cap", p.starCap), ("age_cap_days", p.ageCapDays), ("size_cap_kb", p.sizeCapKb),
    ("activity_window_days", p.activityWindowDays)]

def Params.flaw? (p : Params R) : Option (ParamFlaw R) :=
  match p.caps.find? (fun cap => cap.2 = 0) with
  | some cap => some (.zeroCap cap.1)
  | none =>
    if isUnit p.unrecognizedLicenseScore then none
    else some (.licenseScore p.unrecognizedLicenseScore)

def licenseName? (license? : Option String) : Option (List Char) :=
  match license? with
  | none => none
  | some license =>
    let name := Text.trim license.toList
    if name.isEmpty then none else some name

def lowerAscii (cs : List Char) : List Char := cs.map Char.toLower

/-- The name starts with that of a recognized license; case does not count. -/
def isRecognized (recognized : List String) (name : List Char) : Bool :=
  recognized.any (fun r =>
    let r := lowerAscii (Text.trim r.toList)
    !r.isEmpty && r.isPrefixOf (lowerAscii name))

/-- One for a recognized license, `unrecognized` for any other, zero for none. -/
def licenseScore (license? : Option String) (recognized : List String) (unrecognized : R) : R :=
  match licenseName? license? with
  | none => zero
  | some name => if isRecognized recognized name then one else unrecognized

end

end Appraisal.Score
