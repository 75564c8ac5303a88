import Appraisal.Proofs.Scan.Compiled
import Appraisal.Proofs.Score.Fitness
import Appraisal.Settings.Config

set_option autoImplicit false

namespace Appraisal.Settings

inductive Check where
  | rules
  | fileSize
  | probe
  | docstring
  | weights
  | thresholds
  | params
  | minScore
  | workers
  | extensions

namespace Check

def later : List Check :=
  [.fileSize, .probe, .docstring, .weights, .thresholds, .params, .minScore, .workers, .extensions]

def all : List Check := .rules :: later

def Holds (c : Config) : Check → Prop
  | .rules => (c.security.enabledRules.map Scan.Rule.id).Nodup ∧
      ∀ rule ∈ c.security.enabledRules, ∃ pattern, Pattern.read? rule.pattern.toList = some pattern
  | .fileSize => 0 < c.security.limits.maxFileSize
  | .probe => 0 < c.security.limits.probeBytes
  | .docstring => 0 < c.classification.maxDocstring
  | .weights => c.scoring.weights.Fit
  | .thresholds => Score.Ascending c.scoring.thresholds
  | .params => c.scoring.params.Fit
  | .minScore => Score.InUnit c.scoring.minScore
  | .workers => 0 < c.analysis.workers
  | .extensions => ∃ e ∈ c.analysis.extensions, normalizeExtension e ≠ ""

/-- How a check fails, and the error that tells it. -/
inductive Fails (c : Config) : Check → SettingsError → Prop
  | rules {before after : List Scan.Rule} {rule : Scan.Rule} {e : Scan.RuleError}
      (hgiven : c.security.enabledRules = before ++ rule :: after)
      (hbefore : ∃ detectors, Scan.Compiled before detectors)
      (hrule : Scan.Refused (before.map Scan.Rule.id) rule e) : Fails c .rules (.rule e)
  | fileSize (h : c.security.limits.maxFileSize = 0) :
      Fails c .fileSize (.value "security.max_file_size" .positive)
  | probe (h : c.security.limits.probeBytes = 0) :
      Fails c .probe (.value "security.binary_probe_bytes" .positive)
  | docstring (h : c.classification.maxDocstring = 0) :
      Fails c .docstring (.value "classifier.max_docstring_length" .positive)
  | weights {flaw : Score.WeightFlaw Float} (h : c.scoring.weights.Flawed flaw) :
      Fails c .weights (.weights flaw)
  | thresholds {flaw : Score.ThresholdFlaw Float}
      (h : Score.NotAscending c.scoring.thresholds flaw) : Fails c .thresholds (.thresholds flaw)
  | params {flaw : Score.ParamFlaw Float} (h : c.scoring.params.Flawed flaw) :
      Fails c .params (.ofParams flaw)
  | minScore (h : ¬ Score.InUnit c.scoring.minScore) :
      Fails c .minScore (.value "scoring.min_score" (.withinUnit c.scoring.minScore))
  | workers (h : c.analysis.workers = 0) : Fails c .workers (.value "analysis.workers" .positive)
  | extensions (h : ∀ e ∈ c.analysis.extensions, normalizeExtension e = "") :
      Fails c .extensions (.value "analysis.extensions" .someExtension)

def error? (c : Config) : Check → Option SettingsError
  | .rules =>
    match Scan.RuleSet.compile c.security.enabledRules with
    | .error e => some (.rule e)
    | .ok _ => none
  | .fileSize => zeroError? "security.max_file_size" c.security.limits.maxFileSize
  | .probe => zeroError? "security.binary_probe_bytes" c.security.limits.probeBytes
  | .docstring => zeroError? "classifier.max_docstring_length" c.classification.maxDocstring
  | .weights => c.scoring.weights.flaw?.map .weights
  | .thresholds => (Score.thresholdFlaw? c.scoring.thresholds).map .thresholds
  | .params => c.scoring.params.flaw?.map .ofParams
  | .minScore =>
    if !Score.isUnit c.scoring.minScore then
      some (.value "scoring.min_score" (.withinUnit c.scoring.minScore))
    else none
  | .workers => zeroError? "analysis.workers" c.analysis.workers
  | .extensions =>
    if c.analysis.normalizedExtensions.isEmpty then
      some (.value "analysis.extensions" .someExtension)
    else none
where
  zeroError? (key : String) (n : Nat) : Option SettingsError :=
    if n = 0 then some (.value key .positive) else none

end Check

def Config.settings (c : Config) (rules : Scan.RuleSet) : Settings where
  rules := rules
  limits := c.security.limits
  classifier := .ofVocabulary c.classification.vocabulary c.classification.maxDocstring
  weights := c.scoring.weights
  thresholds := c.scoring.thresholds
  params := c.scoring.params
  minScore := c.scoring.minScore
  workers := c.analysis.workers
  extensions := c.analysis.normalizedExtensions
  skippedDirectories := c.analysis.skippedDirectories

section Refusing

variable {α : Type}

theorem positive_eq (key : String) (n : Nat) :
    positive key n = refuse (Check.error?.zeroError? key n) := by
  unfold positive Check.error?.zeroError?
  split <;> rfl

theorem error_if (p : Prop) [Decidable p] (e : SettingsError) (f : Unit → Except SettingsError α)
    (x : Except SettingsError α) : (if p then .error e >>= f else x) =
      (refuse (if p then some e else none) >>= fun _ => x) := by
  split <;> rfl

theorem refuse_findSome?_cons {β : Type} (g : β → Option SettingsError) (b : β) (bs : List β)
    (x : Except SettingsError α) : (refuse ((b :: bs).findSome? g) >>= fun _ => x) =
      (refuse (g b) >>= fun _ => refuse (bs.findSome? g) >>= fun _ => x) := by
  rw [List.findSome?_cons]
  cases g b <;> rfl

end Refusing

theorem validate_eq (c : Config) : c.validate = (do
    let rules ← (Scan.RuleSet.compile c.security.enabledRules).mapError .rule
    refuse (Check.later.findSome? (Check.error? c))
    return c.settings rules) := by
  unfold Config.validate
  congr 1
  funext rules
  simp only [Check.later, refuse_findSome?_cons, positive_eq, error_if]
  rfl

namespace Check

variable {c : Config}

theorem rules_eq_none_iff : Check.rules.error? c = none ↔ Check.rules.Holds c := by
  rw [Holds, ← Scan.exists_compiled_iff, ← Scan.RuleSet.exists_compile_iff, error?]
  cases Scan.RuleSet.compile c.security.enabledRules <;> simp

theorem rules_eq_some_iff (e : SettingsError) :
    Check.rules.error? c = some e ↔ Check.rules.Fails c e := by
  have hrules : Check.rules.error? c = some e ↔
      ∃ e', Scan.RuleSet.compile c.security.enabledRules = .error e' ∧ e = .rule e' := by
    rw [error?]
    cases Scan.RuleSet.compile c.security.enabledRules <;> simp [eq_comm]
  simp only [hrules, Scan.RuleSet.compile_eq_error_iff]
  constructor
  · rintro ⟨e', ⟨before, rule, after, hgiven, hbefore, hrule⟩, rfl⟩
    exact .rules hgiven hbefore hrule
  · intro hfails
    cases hfails with
    | rules hgiven hbefore hrule => exact ⟨_, ⟨_, _, _, hgiven, hbefore, hrule⟩, rfl⟩

theorem zeroError?_eq_none_iff {key : String} {n : Nat} :
    error?.zeroError? key n = none ↔ 0 < n := by
  simp [error?.zeroError?, Nat.pos_iff_ne_zero]

theorem zeroError?_eq_some_iff {key : String} {n : Nat} {e : SettingsError} :
    error?.zeroError? key n = some e ↔ n = 0 ∧ e = .value key .positive := by
  simp [error?.zeroError?, eq_comm]

theorem isEmpty_normalizedExtensions_iff (a : Analysis) :
    a.normalizedExtensions.isEmpty = true ↔ ∀ e ∈ a.extensions, normalizeExtension e = "" := by
  simp [Analysis.normalizedExtensions]

theorem error?_eq_none_iff (check : Check) : check.error? c = none ↔ check.Holds c := by
  cases check with
  | rules => exact rules_eq_none_iff
  | fileSize | probe | docstring | workers => exact zeroError?_eq_none_iff
  | weights => exact Option.map_eq_none_iff.trans c.scoring.weights.flaw?_spec.1
  | thresholds => exact Option.map_eq_none_iff.trans (Score.thresholdFlaw?_spec _).1
  | params => exact Option.map_eq_none_iff.trans c.scoring.params.flaw?_spec.1
  | minScore => simp [error?, Holds, ← Score.isUnit_iff]
  | extensions =>
    simp only [error?, Holds, ite_eq_right_iff, reduceCtorEq, imp_false,
      isEmpty_normalizedExtensions_iff, not_forall, exists_prop, ne_eq]

theorem error?_eq_some_iff (check : Check) (e : SettingsError) :
    check.error? c = some e ↔ check.Fails c e := by
  cases check with
  | rules => exact rules_eq_some_iff e
  | fileSize | probe | docstring | workers =>
    refine zeroError?_eq_some_iff.trans ⟨?_, fun hfails => ?_⟩
    · rintro ⟨h, rfl⟩
      constructor
      exact h
    · cases hfails
      exact ⟨by assumption, rfl⟩
  | weights =>
    refine Option.map_eq_some_iff.trans ⟨?_, fun hfails => ?_⟩
    · rintro ⟨flaw, h, rfl⟩
      exact .weights ((c.scoring.weights.flaw?_spec.2 flaw).1 h)
    · cases hfails with
      | weights h => exact ⟨_, (c.scoring.weights.flaw?_spec.2 _).2 h, rfl⟩
  | thresholds =>
    refine Option.map_eq_some_iff.trans ⟨?_, fun hfails => ?_⟩
    · rintro ⟨flaw, h, rfl⟩
      exact .thresholds (((Score.thresholdFlaw?_spec _).2 flaw).1 h)
    · cases hfails with
      | thresholds h => exact ⟨_, ((Score.thresholdFlaw?_spec _).2 _).2 h, rfl⟩
  | params =>
    refine Option.map_eq_some_iff.trans ⟨?_, fun hfails => ?_⟩
    · rintro ⟨flaw, h, rfl⟩
      exact .params ((c.scoring.params.flaw?_spec.2 flaw).1 h)
    · cases hfails with
      | params h => exact ⟨_, (c.scoring.params.flaw?_spec.2 _).2 h, rfl⟩
  | minScore =>
    refine Option.ite_none_right_eq_some.trans ⟨?_, fun hfails => ?_⟩
    · rintro ⟨h, he⟩
      obtain rfl := Option.some.inj he
      exact .minScore (by simpa [← Score.isUnit_iff] using h)
    · cases hfails with
      | minScore h => exact ⟨by simpa [← Score.isUnit_iff] using h, rfl⟩
  | extensions =>
    refine Option.ite_none_right_eq_some.trans ⟨?_, fun hfails => ?_⟩
    · rintro ⟨h, he⟩
      obtain rfl := Option.some.inj he
      exact .extensions ((isEmpty_normalizedExtensions_iff _).1 h)
    · cases hfails with
      | extensions h => exact ⟨(isEmpty_normalizedExtensions_iff _).2 h, rfl⟩

end Check

theorem Check.mem_all (check : Check) : check ∈ all := by
  cases check <;> simp [all, later]

theorem Check.findSome?_eq_none_iff (c : Config) :
    all.findSome? (error? c) = none ↔ ∀ check : Check, check.Holds c := by
  simp only [List.findSome?_eq_none_iff, mem_all, error?_eq_none_iff, forall_const]

theorem Check.findSome?_eq_some_iff (c : Config) (e : SettingsError) :
    all.findSome? (error? c) = some e ↔
      ∃ check, IsFirst (fun k : Check => ¬ k.Holds c) all check ∧ check.Fails c e := by
  simp only [List.findSome?_eq_some_iff, error?_eq_none_iff, error?_eq_some_iff, IsFirst, not_not]
  constructor
  · rintro ⟨before, check, after, hall, hfails, hbefore⟩
    have hnot : ¬ check.Holds c := fun h =>
      Option.some_ne_none e (((error?_eq_some_iff check e).2 hfails).symm.trans
        ((error?_eq_none_iff check).2 h))
    exact ⟨check, ⟨before, after, hall, hbefore, hnot⟩, hfails⟩
  · rintro ⟨check, ⟨before, after, hall, hbefore, -⟩, hfails⟩
    exact ⟨before, check, after, hall, hfails, hbefore⟩

structure Carries (s : Settings) (c : Config) : Prop where
  rules : Scan.Compiled c.security.enabledRules s.rules.detectors
  limits : s.limits = c.security.limits
  classifier : s.classifier =
    .ofVocabulary c.classification.vocabulary c.classification.maxDocstring
  weights : s.weights = c.scoring.weights
  thresholds : s.thresholds = c.scoring.thresholds
  params : s.params = c.scoring.params
  minScore : s.minScore = c.scoring.minScore
  workers : s.workers = c.analysis.workers
  extensions : s.extensions = (c.analysis.extensions.map normalizeExtension).filter (· ≠ "")
  skippedDirectories : s.skippedDirectories = c.analysis.skippedDirectories

theorem carries_iff {s : Settings} {c : Config} : s.Carries c ↔
    ∃ rules, Scan.RuleSet.compile c.security.enabledRules = .ok rules ∧ s = c.settings rules := by
  have hextensions : c.analysis.normalizedExtensions =
      (c.analysis.extensions.map normalizeExtension).filter (· ≠ "") := by
    refine List.filter_congr fun e _ => ?_
    rw [Bool.eq_iff_iff]
    simp
  constructor
  · intro h
    refine ⟨s.rules, Scan.RuleSet.compile_eq_ok_iff.2 h.rules, ?_⟩
    obtain ⟨hrules, hlimits, hclassifier, hweights, hthresholds, hparams, hscore, hworkers, hext,
      hskipped⟩ := h
    rw [← hextensions] at hext
    cases s
    simp only [Config.settings, Settings.mk.injEq, true_and]
    exact ⟨hlimits, hclassifier, hweights, hthresholds, hparams, hscore, hworkers, hext, hskipped⟩
  · rintro ⟨rules, hrules, rfl⟩
    exact ⟨Scan.RuleSet.compile_eq_ok_iff.1 hrules, rfl, rfl, rfl, rfl, rfl, rfl, rfl, hextensions,
      rfl⟩

theorem validate_cases (c : Config) :
    (∃ e, c.validate = .error e ∧ Check.all.findSome? (Check.error? c) = some e) ∨
      ∃ rules, Scan.RuleSet.compile c.security.enabledRules = .ok rules ∧
        c.validate = .ok (c.settings rules) ∧ Check.all.findSome? (Check.error? c) = none := by
  rw [validate_eq, Check.all, List.findSome?_cons]
  cases hcompile : Scan.RuleSet.compile c.security.enabledRules with
  | error e =>
    have hrules : Check.rules.error? c = some (.rule e) := by rw [Check.error?, hcompile]
    rw [hrules]
    exact .inl ⟨.rule e, rfl, rfl⟩
  | ok rules =>
    have hrules : Check.rules.error? c = none := by rw [Check.error?, hcompile]
    rw [hrules]
    cases Check.later.findSome? (Check.error? c) with
    | some e => exact .inl ⟨e, rfl, rfl⟩
    | none => exact .inr ⟨rules, rfl, rfl, rfl⟩

theorem validate_default {workers : Nat} (h : 0 < workers) :
    ∃ s, (Config.default workers).validate = .ok s := by
  have hone : Check.all.findSome? (Check.error? (Config.default 1)) = none := by
    rw [← Option.isNone_iff_eq_none]
    decide +kernel
  have hholds := (Check.findSome?_eq_none_iff (Config.default 1)).1 hone
  have hnone : Check.all.findSome? (Check.error? (Config.default workers)) = none := by
    refine (Check.findSome?_eq_none_iff _).2 fun check => ?_
    have hcheck := hholds check
    cases check
    case workers => exact h
    -- the other checks do not look at the workers
    all_goals exact hcheck
  rcases validate_cases (Config.default workers) with ⟨e, -, hfound⟩ | ⟨rules, -, hvalid, -⟩
  · exact absurd (hnone.symm.trans hfound) (Option.some_ne_none e).symm
  · exact ⟨_, hvalid⟩

/-- Validation succeeds exactly when all checks hold, with settings that carry what was configured,
and fails exactly with an error of the first check that does not hold. -/
theorem validate_sound_complete (c : Config) :
    ((∃ s, c.validate = .ok s) ↔ ∀ check : Check, check.Holds c) ∧
      (∀ s, c.validate = .ok s ↔ (∀ check : Check, check.Holds c) ∧ s.Carries c) ∧
      ∀ e, c.validate = .error e ↔
        ∃ check, IsFirst (fun k : Check => ¬ k.Holds c) Check.all check ∧ check.Fails c e := by
  simp only [← Check.findSome?_eq_none_iff, ← Check.findSome?_eq_some_iff, carries_iff]
  rcases validate_cases c with ⟨e, hvalid, hfound⟩ | ⟨rules, hcompile, hvalid, hfound⟩
  · simp [hvalid, hfound]
  · simp [hvalid, hfound, hcompile, eq_comm]

end Appraisal.Settings
