import Appraisal.Data.Field
import Appraisal.Score.Trust

set_option autoImplicit false

namespace Appraisal

def Instant.ofDatum? (d : Datum) : Option Instant := d.text?.bind Instant.read?

def Instant.toDatum (t : Instant) : Datum := .text t.text

namespace Score

def Metadata.fields : List String :=
  ["full_name", "url", "description", "language", "license", "stars", "forks", "open_issues",
    "size_kb", "created_at", "updated_at", "pushed_at", "retrieved_at"]

/-- Second names of fields. -/
def Metadata.aliases : List (String × String) :=
  [("html_url", "url"), ("stargazers_count", "stars"), ("forks_count", "forks"),
    ("open_issues_count", "open_issues"), ("size", "size_kb")]

def Metadata.canonicalKey (key : String) : String :=
  match Metadata.aliases.find? (fun e => e.1 == key) with
  | some e => e.2
  | none => key

def Metadata.canonical : Datum → Datum
  | .map entries => .map (entries.map (fun e => (Metadata.canonicalKey e.1, e.2)))
  | d => d

def Metadata.ofDatum? (d : Datum) : Option Metadata := do
  let r ← (Metadata.canonical d).recordOrList? Metadata.fields
  return {
    fullName? := ← r.optional? "full_name" Datum.text?
    url? := ← r.optional? "url" Datum.text?
    description? := ← r.optional? "description" Datum.text?
    language? := ← r.optional? "language" Datum.text?
    license? := ← r.optional? "license" Datum.text?
    stars? := ← r.optional? "stars" Datum.nat?
    forks? := ← r.optional? "forks" Datum.nat?
    openIssues? := ← r.optional? "open_issues" Datum.nat?
    sizeKb? := ← r.optional? "size_kb" Datum.nat?
    createdAt? := ← r.optional? "created_at" Instant.ofDatum?
    updatedAt? := ← r.optional? "updated_at" Instant.ofDatum?
    pushedAt? := ← r.optional? "pushed_at" Instant.ofDatum?
    retrievedAt? := ← r.optional? "retrieved_at" Instant.ofDatum? }

def orNull {α : Type} (write : α → Datum) : Option α → Datum
  | some a => write a
  | none => .null

def Metadata.toDatum (m : Metadata) : Datum :=
  .map [
    ("full_name", orNull .text m.fullName?),
    ("url", orNull .text m.url?),
    ("description", orNull .text m.description?),
    ("language", orNull .text m.language?),
    ("license", orNull .text m.license?),
    ("stars", orNull .ofNat m.stars?),
    ("forks", orNull .ofNat m.forks?),
    ("open_issues", orNull .ofNat m.openIssues?),
    ("size_kb", orNull .ofNat m.sizeKb?),
    ("created_at", orNull Instant.toDatum m.createdAt?),
    ("updated_at", orNull Instant.toDatum m.updatedAt?),
    ("pushed_at", orNull Instant.toDatum m.pushedAt?),
    ("retrieved_at", orNull Instant.toDatum m.retrievedAt?)]

def Weights.fields : List String := Component.all.map Component.name

def Weights.ofDatum? (d : Datum) : Option (Weights Float) := do
  let r ← d.recordOrList? Weights.fields
  return {
    stars := ← r.orElse? "stars" Weights.default.stars Datum.float?
    age := ← r.orElse? "age" Weights.default.age Datum.float?
    commits := ← r.orElse? "commits" Weights.default.commits Datum.float?
    license := ← r.orElse? "license" Weights.default.license Datum.float?
    activity := ← r.orElse? "activity" Weights.default.activity Datum.float? }

def Level.ofDatum? : Datum → Option Level := Datum.choice? Level.all Level.name

def Threshold.ofDatum? (d : Datum) : Option (Threshold Float) := do
  let r ← d.recordOrList? ["below", "level"]
  return {
    below := ← r.required? "below" Datum.float?
    level := ← r.required? "level" Level.ofDatum? }

def Params.fields : List String :=
  ["star_cap", "age_cap_days", "size_cap_kb", "activity_window_days", "recognized_licenses",
    "unrecognized_license_score"]

def Params.ofRecord? (r : Datum.Record) : Option (Params Float) := do
  let p := Params.default
  return {
    starCap := ← r.orElse? "star_cap" p.starCap Datum.nat?
    ageCapDays := ← r.orElse? "age_cap_days" p.ageCapDays Datum.nat?
    sizeCapKb := ← r.orElse? "size_cap_kb" p.sizeCapKb Datum.nat?
    activityWindowDays := ← r.orElse? "activity_window_days" p.activityWindowDays Datum.nat?
    recognizedLicenses :=
      ← r.orElse? "recognized_licenses" p.recognizedLicenses (Datum.list? Datum.text?)
    unrecognizedLicenseScore :=
      ← r.orElse? "unrecognized_license_score" p.unrecognizedLicenseScore Datum.float? }

def Params.ofDatum? (d : Datum) : Option (Params Float) := do
  Params.ofRecord? (← d.recordOrList? Params.fields)

def RawValue.toDatum : RawValue → Datum
  | .missing => .null
  | .count n => .ofNat n
  | .text s => .text s

def ScoredComponent.toDatum (c : ScoredComponent Float) : Datum :=
  .map [
    ("name", .text c.component.name),
    ("raw_value", c.raw.toDatum),
    ("normalized_value", .float c.normalized),
    ("weight", .float c.weight)]

def TrustScore.toDatum (s : TrustScore Float) : Datum :=
  .map [
    ("overall", .float s.overall),
    ("level", .text s.level.name),
    ("components", .list (s.components.map ScoredComponent.toDatum))]

end Score

end Appraisal
