import Appraisal.Proofs.Data.JsonDocuments
import Appraisal.Proofs.Settings.Values

set_option autoImplicit false

namespace Appraisal

namespace Settings

open Datum (Shape)

inductive Setting where
  | scanSecrets
  | scanPatterns
  | rules
  | maxFileSize
  | probeBytes
  | contextLines
  | placeholder
  | riskKeywords
  | indicatorKeywords
  | strategyKeywords
  | maxDocstring
  | weight (c : Score.Component)
  | thresholds
  | minScore
  | starCap
  | ageCapDays
  | sizeCapKb
  | activityWindowDays
  | recognizedLicenses
  | unrecognizedLicenseScore
  | workers
  | extensions
  | skippedDirectories

namespace Setting

def sectionKey : Setting → String
  | .scanSecrets | .scanPatterns | .rules | .maxFileSize | .probeBytes | .contextLines
  | .placeholder => "security"
  | .riskKeywords | .indicatorKeywords | .strategyKeywords | .maxDocstring => "classifier"
  | .weight _ | .thresholds | .minScore | .starCap | .ageCapDays | .sizeCapKb
  | .activityWindowDays | .recognizedLicenses | .unrecognizedLicenseScore => "scoring"
  | .workers | .extensions | .skippedDirectories => "analysis"

def keys : Setting → List String
  | .scanSecrets => ["scan_secrets"]
  | .scanPatterns => ["scan_patterns"]
  | .rules => ["rules"]
  | .maxFileSize => ["max_file_size"]
  | .probeBytes => ["binary_probe_bytes"]
  | .contextLines => ["context_lines"]
  | .placeholder => ["redaction_placeholder"]
  | .riskKeywords => ["risk_keywords"]
  | .indicatorKeywords => ["indicator_keywords"]
  | .strategyKeywords => ["strategy_keywords"]
  | .maxDocstring => ["max_docstring_length"]
  | .weight c => ["weights", c.name]
  | .thresholds => ["thresholds"]
  | .minScore => ["min_score"]
  | .starCap => ["star_cap"]
  | .ageCapDays => ["age_cap_days"]
  | .sizeCapKb => ["size_cap_kb"]
  | .activityWindowDays => ["activity_window_days"]
  | .recognizedLicenses => ["recognized_licenses"]
  | .unrecognizedLicenseScore => ["unrecognized_license_score"]
  | .workers => ["workers"]
  | .extensions => ["extensions"]
  | .skippedDirectories => ["skip_dirs"]

def path (s : Setting) : List String := s.sectionKey :: s.keys

def kind : Setting → Kind
  | .scanSecrets | .scanPatterns => .flag
  | .rules => .rules
  | .maxFileSize | .probeBytes | .contextLines | .maxDocstring => .count
  | .placeholder => .text
  | .riskKeywords | .indicatorKeywords | .strategyKeywords => .texts
  | .weight _ | .minScore | .unrecognizedLicenseScore => .number
  | .thresholds => .thresholds
  | .starCap | .ageCapDays | .sizeCapKb | .activityWindowDays | .workers => .count
  | .recognizedLicenses | .extensions | .skippedDirectories => .texts

def get (c : Config) : (s : Setting) → s.kind.Value
  | .scanSecrets => c.security.scanSecrets
  | .scanPatterns => c.security.scanPatterns
  | .rules => c.security.rules
  | .maxFileSize => c.security.limits.maxFileSize
  | .probeBytes => c.security.limits.probeBytes
  | .contextLines => c.security.limits.contextLines
  | .placeholder => c.security.limits.placeholder
  | .riskKeywords => c.classification.vocabulary.risk
  | .indicatorKeywords => c.classification.vocabulary.indicator
  | .strategyKeywords => c.classification.vocabulary.strategy
  | .maxDocstring => c.classification.maxDocstring
  | .weight component => c.scoring.weights.get component
  | .thresholds => c.scoring.thresholds
  | .minScore => c.scoring.minScore
  | .starCap => c.scoring.params.starCap
  | .ageCapDays => c.scoring.params.ageCapDays
  | .sizeCapKb => c.scoring.params.sizeCapKb
  | .activityWindowDays => c.scoring.params.activityWindowDays
  | .recognizedLicenses => c.scoring.params.recognizedLicenses
  | .unrecognizedLicenseScore => c.scoring.params.unrecognizedLicenseScore
  | .workers => c.analysis.workers
  | .extensions => c.analysis.extensions
  | .skippedDirectories => c.analysis.skippedDirectories

end Setting

def Config.shape : Shape := .record [
  ("security", .record [("scan_secrets", .value), ("scan_patterns", .value),
    ("rules", Kind.rules.shape), ("max_file_size", .value), ("binary_probe_bytes", .value),
    ("context_lines", .value), ("redaction_placeholder", .value)]),
  ("classifier", .record [("risk_keywords", .value), ("indicator_keywords", .value),
    ("strategy_keywords", .value), ("max_docstring_length", .value)]),
  ("scoring", .record [("weights", .record (Score.Weights.fields.map (·, .value))),
    ("thresholds", Kind.thresholds.shape), ("min_score", .value), ("star_cap", .value),
    ("age_cap_days", .value), ("size_cap_kb", .value), ("activity_window_days", .value),
    ("recognized_licenses", .value), ("unrecognized_license_score", .value)]),
  ("analysis", .record [("workers", .value), ("extensions", .value), ("skip_dirs", .value)])]

theorem Setting.shape_at? (s : Setting) : Config.shape.at? s.path = some s.kind.shape := by
  cases s with
  | weight c => cases c <;> rfl
  | _ => rfl

def Config.ofSettings (f : (s : Setting) → s.kind.Value) : Config where
  security := {
    scanSecrets := f .scanSecrets
    scanPatterns := f .scanPatterns
    rules := f .rules
    limits := {
      maxFileSize := f .maxFileSize
      probeBytes := f .probeBytes
      contextLines := f .contextLines
      placeholder := f .placeholder } }
  classification := {
    vocabulary := {
      risk := f .riskKeywords
      indicator := f .indicatorKeywords
      strategy := f .strategyKeywords }
    maxDocstring := f .maxDocstring }
  scoring := {
    weights := {
      stars := f (.weight .stars)
      age := f (.weight .age)
      commits := f (.weight .commits)
      license := f (.weight .license)
      activity := f (.weight .activity) }
    thresholds := f .thresholds
    minScore := f .minScore
    params := {
      starCap := f .starCap
      ageCapDays := f .ageCapDays
      sizeCapKb := f .sizeCapKb
      activityWindowDays := f .activityWindowDays
      recognizedLicenses := f .recognizedLicenses
      unrecognizedLicenseScore := f .unrecognizedLicenseScore } }
  analysis := {
    workers := f .workers
    extensions := f .extensions
    skippedDirectories := f .skippedDirectories }

theorem Config.ofSettings_get (c : Config) : Config.ofSettings (Setting.get c) = c := rfl

theorem Setting.get_ofSettings (f : (s : Setting) → s.kind.Value) (s : Setting) :
    Setting.get (.ofSettings f) s = f s := by
  cases s with
  | weight c => cases c <;> rfl
  | _ => rfl

/-- The document is a configuration whose sections, weights, rules and thresholds are records with
distinct keys, and whatever stands at the path of a setting is of its type. -/
structure Config.Fits (d : Datum) : Prop where
  tidy : d.Tidy Config.shape
  denotes : ∀ s : Setting, ∀ e, d.at? s.path = some e → ∃ v, Denotes s.kind e v

def given (workers : Nat) (d : Datum) (s : Setting) : s.kind.Value :=
  ((d.at? s.path).bind s.kind.read?).getD (s.get (.default workers))

theorem bind_of_eq_some {α β : Type} {o : Option α} {f : α → Option β} {a : α} {b : β}
    (ho : o = some a) (hf : f a = some b) : o >>= f = some b := by
  rw [ho]
  exact hf

section Sections

variable {workers : Nat} {d : Datum} {before : List String} {name : String} {s : Setting}

theorem read?_eq_given (hd : Config.Fits d) {e : Datum} (he : d.at? s.path = some e) :
    s.kind.read? e = some (given workers d s) := by
  obtain ⟨v, hv⟩ := hd.denotes s e he
  have hread := Kind.read?_of_denotes (hd.tidy.at? s.shape_at? he) hv
  rw [given, he, Option.bind_some, hread]
  rfl

theorem orElse?_eq_given (hd : Config.Fits d) (hpath : s.path = before ++ [name]) :
    (d.recordAt before).orElse? name (s.get (.default workers)) s.kind.read? =
      some (given workers d s) := by
  rw [Datum.Record.orElse?, Datum.get?_recordAt, ← hpath]
  cases he : d.at? s.path with
  | none =>
    rw [given, he]
    rfl
  | some e => exact read?_eq_given hd he

/-- A setting that stands among the fields of a section is read as if it were one of them. -/
theorem orElse?_others_eq_given (hd : Config.Fits d) (hpath : s.path = before ++ [name])
    (hshape : s.kind.shape = .value) {own : List String} (hown : name ∉ own) :
    ((d.recordAt before).others own).orElse? name (s.get (.default workers)) s.kind.read? =
      some (given workers d s) := by
  rw [← orElse?_eq_given hd hpath, Datum.Record.orElse?, Datum.Record.orElse?,
    Datum.Record.get?_others hown, Datum.get?_recordAt, ← hpath]
  cases he : d.at? s.path with
  | none => rfl
  | some e =>
    obtain ⟨v, hv⟩ := hd.denotes s e he
    rw [Option.map_some, settled_of_denotes hshape hv]

theorem inlined?_eq {r : Datum.Record} (hr : r.HasDistinctKeys) (own fields : List String) :
    inlined? own fields r = some (r.others own) :=
  (hr.others own).record? fields

variable (workers)

theorem Security.ofDatum?_eq (hd : Config.Fits d) :
    Security.ofDatum? (.map (d.recordAt ["security"])) =
      some (Config.ofSettings (given workers d)).security := by
  have hkeys : (d.recordAt ["security"]).HasDistinctKeys := hd.tidy.recordAt rfl
  have own {s : Setting} {name : String} := @orElse?_eq_given workers d ["security"] name s hd
  have inner {s : Setting} {name : String} :=
    @orElse?_others_eq_given workers d ["security"] name s hd
  refine bind_of_eq_some (hkeys.record? _) ?_
  refine bind_of_eq_some (@own .scanSecrets _ rfl) ?_
  refine bind_of_eq_some (@own .scanPatterns _ rfl) ?_
  refine bind_of_eq_some (@own .rules _ rfl) ?_
  refine bind_of_eq_some (inlined?_eq hkeys _ _) ?_
  refine bind_of_eq_some (a := (Config.ofSettings (given workers d)).security.limits) ?_ rfl
  refine bind_of_eq_some (@inner .maxFileSize _ rfl rfl _ (by decide)) ?_
  refine bind_of_eq_some (@inner .probeBytes _ rfl rfl _ (by decide)) ?_
  refine bind_of_eq_some (@inner .contextLines _ rfl rfl _ (by decide)) ?_
  exact bind_of_eq_some (@inner .placeholder _ rfl rfl _ (by decide)) rfl

theorem Classification.ofDatum?_eq (hd : Config.Fits d) :
    Classification.ofDatum? (.map (d.recordAt ["classifier"])) =
      some (Config.ofSettings (given workers d)).classification := by
  have hkeys : (d.recordAt ["classifier"]).HasDistinctKeys := hd.tidy.recordAt rfl
  have inner {s : Setting} {name : String} :=
    @orElse?_others_eq_given workers d ["classifier"] name s hd
  refine bind_of_eq_some (hkeys.record? _) ?_
  refine bind_of_eq_some (inlined?_eq hkeys _ _) ?_
  refine bind_of_eq_some
    (a := (Config.ofSettings (given workers d)).classification.vocabulary) ?_ ?_
  · refine bind_of_eq_some (@inner .riskKeywords _ rfl rfl _ (by decide)) ?_
    refine bind_of_eq_some (@inner .indicatorKeywords _ rfl rfl _ (by decide)) ?_
    exact bind_of_eq_some (@inner .strategyKeywords _ rfl rfl _ (by decide)) rfl
  · exact bind_of_eq_some (@orElse?_eq_given workers d _ _ .maxDocstring hd rfl) rfl

theorem Weights.ofDatum?_eq (hd : Config.Fits d) :
    Score.Weights.ofDatum? (.map (d.recordAt ["scoring", "weights"])) =
      some (Config.ofSettings (given workers d)).scoring.weights := by
  have hkeys : (d.recordAt ["scoring", "weights"]).HasDistinctKeys := hd.tidy.recordAt rfl
  have own {s : Setting} {name : String} :=
    @orElse?_eq_given workers d ["scoring", "weights"] name s hd
  refine bind_of_eq_some (hkeys.recordOrList? _) ?_
  refine bind_of_eq_some (@own (.weight .stars) _ rfl) ?_
  refine bind_of_eq_some (@own (.weight .age) _ rfl) ?_
  refine bind_of_eq_some (@own (.weight .commits) _ rfl) ?_
  refine bind_of_eq_some (@own (.weight .license) _ rfl) ?_
  exact bind_of_eq_some (@own (.weight .activity) _ rfl) rfl

theorem Scoring.ofDatum?_eq (hd : Config.Fits d) :
    Scoring.ofDatum? (.map (d.recordAt ["scoring"])) =
      some (Config.ofSettings (given workers d)).scoring := by
  have hkeys : (d.recordAt ["scoring"]).HasDistinctKeys := hd.tidy.recordAt rfl
  have own {s : Setting} {name : String} := @orElse?_eq_given workers d ["scoring"] name s hd
  have inner {s : Setting} {name : String} :=
    @orElse?_others_eq_given workers d ["scoring"] name s hd
  have hweights : (d.recordAt ["scoring"]).orElse? "weights" .default Score.Weights.ofDatum? =
      some (Config.ofSettings (given workers d)).scoring.weights :=
    hd.tidy.orElse?_recordAt ["scoring"] "weights" rfl rfl (Weights.ofDatum?_eq workers hd)
  refine bind_of_eq_some (hkeys.record? _) ?_
  refine bind_of_eq_some hweights ?_
  refine bind_of_eq_some (@own .thresholds _ rfl) ?_
  refine bind_of_eq_some (@own .minScore _ rfl) ?_
  refine bind_of_eq_some (inlined?_eq hkeys _ _) ?_
  refine bind_of_eq_some (a := (Config.ofSettings (given workers d)).scoring.params) ?_ rfl
  refine bind_of_eq_some (@inner .starCap _ rfl rfl _ (by decide)) ?_
  refine bind_of_eq_some (@inner .ageCapDays _ rfl rfl _ (by decide)) ?_
  refine bind_of_eq_some (@inner .sizeCapKb _ rfl rfl _ (by decide)) ?_
  refine bind_of_eq_some (@inner .activityWindowDays _ rfl rfl _ (by decide)) ?_
  refine bind_of_eq_some (@inner .recognizedLicenses _ rfl rfl _ (by decide)) ?_
  exact bind_of_eq_some (@inner .unrecognizedLicenseScore _ rfl rfl _ (by decide)) rfl

theorem Analysis.ofDatum?_eq (hd : Config.Fits d) :
    Analysis.ofDatum? workers (.map (d.recordAt ["analysis"])) =
      some (Config.ofSettings (given workers d)).analysis := by
  have hkeys : (d.recordAt ["analysis"]).HasDistinctKeys := hd.tidy.recordAt rfl
  have own {s : Setting} {name : String} := @orElse?_eq_given workers d ["analysis"] name s hd
  refine bind_of_eq_some (hkeys.recordOrList? _) ?_
  refine bind_of_eq_some (@own .workers _ rfl) ?_
  refine bind_of_eq_some (@own .extensions _ rfl) ?_
  exact bind_of_eq_some (@own .skippedDirectories _ rfl) rfl

theorem Config.ofDatum?_eq (hd : Config.Fits d) :
    Config.ofDatum? workers d = some (Config.ofSettings (given workers d)) := by
  obtain ⟨r, rfl, hkeys⟩ : ∃ r : Datum.Record, d = .map r ∧ r.HasDistinctKeys := by
    cases hd.tidy with
    | @record _ r hkeys => exact ⟨r, rfl, hkeys⟩
  refine bind_of_eq_some (hkeys.recordOrList? _) ?_
  refine bind_of_eq_some
    (hd.tidy.orElse?_recordAt [] "security" rfl rfl (Security.ofDatum?_eq workers hd)) ?_
  refine bind_of_eq_some
    (hd.tidy.orElse?_recordAt [] "classifier" rfl rfl (Classification.ofDatum?_eq workers hd)) ?_
  refine bind_of_eq_some
    (hd.tidy.orElse?_recordAt [] "scoring" rfl rfl (Scoring.ofDatum?_eq workers hd)) ?_
  exact bind_of_eq_some
    (hd.tidy.orElse?_recordAt [] "analysis" rfl rfl (Analysis.ofDatum?_eq workers hd)) rfl

end Sections

section Rearranged

variable {d d' : Datum}

theorem Config.Fits.rearranged (hd : Config.Fits d) (h : d.Rearranged Config.shape d') :
    Config.Fits d' where
  tidy := hd.tidy.rearranged h
  denotes s e' he' := by
    obtain ⟨e, he, hrel⟩ := h.symm.at? (hd.tidy.rearranged h) s.shape_at? he'
    obtain ⟨v, hv⟩ := hd.denotes s e he
    exact ⟨v, hv.rearranged (hd.tidy.at? s.shape_at? he) hrel.symm⟩

theorem given_eq_of_denotes (workers : Nat) (hd : Config.Fits d) {s : Setting} {e : Datum}
    {v : s.kind.Value} (he : d.at? s.path = some e) (hv : Denotes s.kind e v) :
    given workers d s = v := by
  rw [given, he, Option.bind_some,
    Kind.read?_of_denotes (hd.tidy.at? s.shape_at? he) hv, Option.getD_some]

theorem given_eq_default (workers : Nat) {s : Setting} (h : d.at? s.path = none) :
    given workers d s = s.get (.default workers) := by
  rw [given, h]
  rfl

theorem given_rearranged (workers : Nat) (hd : Config.Fits d) (h : d.Rearranged Config.shape d') :
    given workers d' = given workers d := by
  funext s
  cases he : d.at? s.path with
  | none =>
    cases he' : d'.at? s.path with
    | none => rw [given_eq_default workers he, given_eq_default workers he']
    | some e' =>
      obtain ⟨e, hcontra, -⟩ := h.symm.at? (hd.tidy.rearranged h) s.shape_at? he'
      rw [he] at hcontra
      cases hcontra
  | some e =>
    obtain ⟨v, hv⟩ := hd.denotes s e he
    obtain ⟨e', he', hrel⟩ := h.at? hd.tidy s.shape_at? he
    have hv' := hv.rearranged (hd.tidy.at? s.shape_at? he) hrel
    rw [given_eq_of_denotes workers hd he hv,
      given_eq_of_denotes workers (hd.rearranged h) he' hv']

end Rearranged

theorem Config.read?_eq {workers : Nat} {text : String} {d : Datum}
    (hread : Json.read? text = some d) :
    Config.read? workers .json text = Config.ofDatum? workers d := by
  have hjson : ¬ (Format.json = .yaml ∧ (Text.trim text.toList).isEmpty) := fun h => nomatch h.1
  rw [Config.read?, if_neg hjson, Format.read?, hread, Option.bind_some]

/-- A configuration that gives some settings can be read. It has the value that is given for a
setting, and the default where none is given. It stays the same when keys stand in another order or
when keys that mean nothing are added, at any level, and a setting stays the same whatever is
changed in other sections. -/
theorem Config.overlays_defaults (workers : Nat) {text : String} {d : Datum}
    (hread : Json.read? text = some d) (hd : Config.Fits d) :
    ∃ c, Config.read? workers .json text = some c ∧
      (∀ s : Setting, (d.at? s.path = none → s.get c = s.get (.default workers)) ∧
        ∀ e v, d.at? s.path = some e → Denotes s.kind e v → s.get c = v) ∧
      (∀ text' d', Json.read? text' = some d' → d.Rearranged Config.shape d' →
        Config.read? workers .json text' = some c) ∧
      ∀ text' d', Json.read? text' = some d' → Config.Fits d' →
        ∃ c', Config.read? workers .json text' = some c' ∧
          ∀ s : Setting, d'.get? s.sectionKey = d.get? s.sectionKey → s.get c' = s.get c := by
  have hconfig {text : String} {d : Datum} (hread : Json.read? text = some d)
      (hd : Config.Fits d) :
      Config.read? workers .json text = some (.ofSettings (given workers d)) :=
    (Config.read?_eq hread).trans (Config.ofDatum?_eq workers hd)
  refine ⟨_, hconfig hread hd, fun s => ⟨fun hnone => ?_, fun e v he hv => ?_⟩,
    fun text' d' hread' hrel => ?_, fun text' d' hread' hd' =>
      ⟨_, hconfig hread' hd', fun s hsection => ?_⟩⟩
  · rw [Setting.get_ofSettings, given_eq_default workers hnone]
  · rw [Setting.get_ofSettings, given_eq_of_denotes workers hd he hv]
  · rw [hconfig hread' (hd.rearranged hrel), given_rearranged workers hd hrel]
  · have hpath : d'.at? s.path = d.at? s.path := congrArg (Option.bind · _) hsection
    rw [Setting.get_ofSettings, Setting.get_ofSettings, given, given, hpath]

def partialDatum (workers : Nat) : Datum := .map [
  ("analysis", .map [("workers", .int workers)]),
  ("scoring", .map [("weights", .map [("stars", .int 1)])])]

def rearrangedDatum (workers : Nat) : Datum := .map [
  ("note", .null),
  ("scoring", .map [("weights", .map [("stars", .int 1)])]),
  ("analysis", .map [("workers", .int workers)])]

theorem fits_partialDatum {workers : Nat} (h : workers < 2 ^ 64) :
    Config.Fits (partialDatum workers) where
  tidy := by
    have hdistinct (key : String) (d : Datum) : Datum.Record.HasDistinctKeys [(key, d)] :=
      List.nodup_singleton key
    refine .of_mem (by simp [Datum.Record.HasDistinctKeys])
      (List.forall_mem_cons.2 ⟨?_, List.forall_mem_singleton.2 ?_⟩)
    · rintro _ ⟨⟩
      refine .of_mem (hdistinct _ _) (List.forall_mem_singleton.2 ?_)
      rintro _ ⟨⟩
      exact .value _
    · rintro _ ⟨⟩
      refine .of_mem (hdistinct _ _) (List.forall_mem_singleton.2 ?_)
      rintro _ ⟨⟩
      refine .of_mem (hdistinct _ _) (List.forall_mem_singleton.2 ?_)
      rintro _ ⟨⟩
      exact .value _
  denotes s e he := by
    cases s with
    | workers =>
      cases he
      exact ⟨workers, rfl, h⟩
    | weight c =>
      cases c with
      | stars =>
        cases he
        exact ⟨_, .int (by decide) (by decide)⟩
      | _ => cases he
    | _ => cases he

theorem rearranged_partialDatum (workers : Nat) :
    (partialDatum workers).Rearranged Config.shape (rearrangedDatum workers) :=
  .trans (.order (.swap _ _ _)) (.unknown .null rfl (by simp))

theorem read?_pretty_of_workers {workers : Nat} (h : workers < 2 ^ 64) :
    Json.read? (Json.pretty (partialDatum workers)) = some (partialDatum workers) ∧
      Json.read? (Json.pretty (rearrangedDatum workers)) = some (rearrangedDatum workers) := by
  have hworkers (depth : Nat) : Json.Restorable depth (.int workers) :=
    .int depth (by omega) (by rw [← wordLimit_eq] at h; exact_mod_cast h)
  have hone (depth : Nat) : Json.Restorable depth (.int 1) := .int depth (by decide) (by decide)
  have hmap {depth : Nat} {key : String} {d : Datum} (hd : Json.Restorable (depth + 1) d) :
      Json.Restorable (depth + 2) (.map [(key, d)]) :=
    .map (List.forall_mem_singleton.2 hd)
  have hanalysis : Json.Restorable (Json.nestingLimit - 1) (.map [("workers", .int workers)]) :=
    hmap (hworkers _)
  have hscoring : Json.Restorable (Json.nestingLimit - 1)
      (.map [("weights", .map [("stars", .int 1)])]) :=
    hmap (hmap (hone _))
  refine ⟨Json.read?_pretty (.map ?_), Json.read?_pretty (.map ?_)⟩
  · simpa using ⟨hanalysis, hscoring⟩
  · simpa using ⟨.null _, hscoring, hanalysis⟩

theorem workers_and_weight_overlay_defaults : ∃ c c',
    Config.read? 8 .json (Json.pretty (partialDatum 3)) = some c ∧
      c.analysis.workers = 3 ∧ c.analysis.extensions = defaultExtensions ∧
      c.scoring.weights.stars = Datum.floatOfInt 1 ∧
      Config.read? 8 .json (Json.pretty (rearrangedDatum 3)) = some c ∧
      Config.read? 8 .json (Json.pretty (partialDatum 5)) = some c' ∧
      c'.scoring.weights.stars = c.scoring.weights.stars := by
  have hthree : 3 < 2 ^ 64 := by decide
  have hfive : 5 < 2 ^ 64 := by decide
  obtain ⟨hread, hread'⟩ := read?_pretty_of_workers hthree
  obtain ⟨c, hc, hsettings, hrearranged, hframe⟩ :=
    Config.overlays_defaults 8 hread (fits_partialDatum hthree)
  obtain ⟨c', hc', hkept⟩ :=
    hframe _ _ (read?_pretty_of_workers hfive).1 (fits_partialDatum hfive)
  have hworkers := (hsettings .workers).2 (.int 3) (3 : Nat) rfl ⟨rfl, hthree⟩
  have hextensions := (hsettings .extensions).1 rfl
  have hstars := (hsettings (.weight .stars)).2 (.int 1) _ rfl (.int (by decide) (by decide))
  exact ⟨c, c', hc, hworkers, hextensions, hstars,
    hrearranged _ _ hread' (rearranged_partialDatum 3), hc', hkept (.weight .stars) rfl⟩

end Settings

end Appraisal
