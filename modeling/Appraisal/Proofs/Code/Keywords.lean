import Appraisal.Code.Vocabulary
import Appraisal.Proofs.Text.Lowercase
import Mathlib.Data.Set.Basic

set_option autoImplicit false

namespace Appraisal.Code

def lookedFor (keywords : List String) : Set (List Char) :=
  {k | ∃ keyword ∈ keywords, Text.trim keyword.toList ≠ [] ∧
    k = Unicode.lowercase (Text.trim keyword.toList)}

/-- A keyword of the list that is not blank occurs in one of the texts, whatever the case. -/
def Speaks (keywords : List String) (texts : List (List Char)) : Prop :=
  ∃ k ∈ lookedFor keywords, ∃ text ∈ texts, k <:+: Unicode.lowercase text

namespace Vocabulary

def RiskSpeaks (v : Vocabulary) (d : Definition) : Prop :=
  Speaks v.risk (d.name :: (d.bases ++ d.decorators))

def IndicatorSpeaks (v : Vocabulary) (d : Definition) : Prop := Speaks v.indicator [d.name]

def StrategySpeaks (v : Vocabulary) (d : Definition) : Prop :=
  Speaks v.strategy (d.name :: d.bases)

structure Tells (v : Vocabulary) (d : Definition) (kind : EntityKind) : Prop where
  risk : kind = .riskManagement ↔ v.RiskSpeaks d
  indicator : kind = .indicator ↔ ¬ v.RiskSpeaks d ∧ v.IndicatorSpeaks d
  strategy : kind = .strategy ↔ ¬ v.RiskSpeaks d ∧ ¬ v.IndicatorSpeaks d ∧ v.StrategySpeaks d
  genericClass : kind = .genericClass ↔
    (¬ v.RiskSpeaks d ∧ ¬ v.IndicatorSpeaks d ∧ ¬ v.StrategySpeaks d) ∧ d.form = .classForm
  genericFunction : kind = .genericFunction ↔
    (¬ v.RiskSpeaks d ∧ ¬ v.IndicatorSpeaks d ∧ ¬ v.StrategySpeaks d) ∧ d.form ≠ .classForm

/-- The lists of both look for the same keywords, in whatever order and however they are padded. -/
structure Agrees (v w : Vocabulary) : Prop where
  risk : lookedFor v.risk = lookedFor w.risk
  indicator : lookedFor v.indicator = lookedFor w.indicator
  strategy : lookedFor v.strategy = lookedFor w.strategy

end Vocabulary

theorem occursIn_iff (part text : List Char) : occursIn part text = true ↔ part <:+: text := by
  induction text with
  | nil => simp [occursIn]
  | cons c r ih =>
    rw [occursIn, Bool.or_eq_true, ih, List.isPrefixOf_iff_prefix, List.infix_cons_iff]

theorem mem_keywords_ofList (kind : EntityKind) (targets : List Target) (keywords : List String)
    (k : List Char) :
    k ∈ (KeywordRule.ofList kind targets keywords).keywords ↔ k ∈ lookedFor keywords := by
  have hblank (keyword : String) :
      normalizeKeyword keyword = [] ↔ Text.trim keyword.toList = [] :=
    Unicode.lowercase_eq_nil_iff _
  simp only [KeywordRule.ofList, List.mem_filter, List.mem_map, Bool.not_eq_true',
    List.isEmpty_eq_false_iff]
  constructor
  · rintro ⟨⟨keyword, hkeyword, rfl⟩, hk⟩
    exact ⟨keyword, hkeyword, mt (hblank keyword).2 hk, rfl⟩
  · rintro ⟨keyword, hkeyword, htrim, rfl⟩
    exact ⟨⟨keyword, hkeyword, rfl⟩, mt (hblank keyword).1 htrim⟩

theorem isSome_keywordIn?_iff (rule : KeywordRule) (text : List Char) :
    (rule.keywordIn? text).isSome = true ↔
      ∃ k ∈ rule.keywords, k <:+: Unicode.lowercase text := by
  simp only [KeywordRule.keywordIn?, List.find?_isSome, occursIn_iff]

theorem isSome_match?_iff (rule : KeywordRule) (d : Definition) :
    (rule.match? d).isSome = true ↔ ∃ k ∈ rule.keywords,
      ∃ text ∈ rule.targets.flatMap (Target.texts d), k <:+: Unicode.lowercase text := by
  simp only [KeywordRule.match?, List.findSome?_isSome_iff, isSome_keywordIn?_iff,
    List.mem_flatMap]
  constructor
  · rintro ⟨target, htarget, text, htext, k, hk, hoccurs⟩
    exact ⟨k, hk, text, ⟨target, htarget, htext⟩, hoccurs⟩
  · rintro ⟨k, hk, text, ⟨target, htarget, htext⟩, hoccurs⟩
    exact ⟨target, htarget, text, htext, k, hk, hoccurs⟩

theorem isSome_match?_ofList (kind : EntityKind) (targets : List Target) (keywords : List String)
    (d : Definition) :
    ((KeywordRule.ofList kind targets keywords).match? d).isSome = true ↔
      Speaks keywords (targets.flatMap (Target.texts d)) := by
  simp only [isSome_match?_iff, mem_keywords_ofList]
  rfl

theorem Speaks.mono {fewer more : List String} {texts : List (List Char)}
    (h : lookedFor fewer ⊆ lookedFor more) (hspeaks : Speaks fewer texts) :
    Speaks more texts := by
  obtain ⟨k, hk, htext⟩ := hspeaks
  exact ⟨k, h hk, htext⟩

theorem speaks_congr {keywords keywords' : List String}
    (h : lookedFor keywords = lookedFor keywords') (texts : List (List Char)) :
    Speaks keywords texts ↔ Speaks keywords' texts :=
  ⟨Speaks.mono h.subset, Speaks.mono h.superset⟩

theorem classify_nil (d : Definition) : classify [] d = d.genericKind := rfl

theorem classify_cons (rule : KeywordRule) (rules : List KeywordRule) (d : Definition) :
    classify (rule :: rules) d =
      if (rule.match? d).isSome then rule.kind else classify rules d := by
  unfold classify
  rw [List.find?_cons]
  cases (rule.match? d).isSome <;> rfl

open Classical in
theorem classify_eq (v : Vocabulary) (d : Definition) :
    classify v.rules d =
      if v.RiskSpeaks d then .riskManagement
      else if v.IndicatorSpeaks d then .indicator
      else if v.StrategySpeaks d then .strategy
      else d.genericKind := by
  have hrisk := isSome_match?_ofList .riskManagement [.name, .bases, .decorators] v.risk d
  have hindicator := isSome_match?_ofList .indicator [.name] v.indicator d
  have hstrategy := isSome_match?_ofList .strategy [.name, .bases] v.strategy d
  simp only [List.flatMap_cons, List.flatMap_nil, List.append_nil, Target.texts,
    List.singleton_append] at hrisk hindicator hstrategy
  rw [Vocabulary.rules, classify_cons, classify_cons, classify_cons, classify_nil]
  exact if_congr hrisk rfl (if_congr hindicator rfl (if_congr hstrategy rfl rfl))

theorem genericKind_cases (d : Definition) :
    d.form = .classForm ∧ d.genericKind = .genericClass ∨
      d.form ≠ .classForm ∧ d.genericKind = .genericFunction := by
  unfold Definition.genericKind
  by_cases hform : d.form = .classForm
  · exact .inl ⟨hform, if_pos hform⟩
  · exact .inr ⟨hform, if_neg hform⟩

theorem tells_classify (v : Vocabulary) (d : Definition) : v.Tells d (classify v.rules d) := by
  rw [classify_eq]
  by_cases hrisk : v.RiskSpeaks d
  · rw [if_pos hrisk]
    constructor <;> simp [hrisk]
  by_cases hindicator : v.IndicatorSpeaks d
  · rw [if_neg hrisk, if_pos hindicator]
    constructor <;> simp [hrisk, hindicator]
  by_cases hstrategy : v.StrategySpeaks d
  · rw [if_neg hrisk, if_neg hindicator, if_pos hstrategy]
    constructor <;> simp [hrisk, hindicator, hstrategy]
  rw [if_neg hrisk, if_neg hindicator, if_neg hstrategy]
  rcases genericKind_cases d with ⟨hform, hkind⟩ | ⟨hform, hkind⟩
  · constructor <;> simp [hkind, hform, hrisk, hindicator, hstrategy]
  · constructor <;> simp [hkind, hform, hrisk, hindicator, hstrategy]

theorem classify_congr {v w : Vocabulary} (d : Definition)
    (hrisk : v.RiskSpeaks d ↔ w.RiskSpeaks d)
    (hindicator : v.IndicatorSpeaks d ↔ w.IndicatorSpeaks d)
    (hstrategy : v.StrategySpeaks d ↔ w.StrategySpeaks d) :
    classify v.rules d = classify w.rules d := by
  classical
  rw [classify_eq, classify_eq]
  exact if_congr hrisk rfl (if_congr hindicator rfl (if_congr hstrategy rfl rfl))

theorem Vocabulary.Agrees.classify_eq {v w : Vocabulary} (h : v.Agrees w) (d : Definition) :
    classify v.rules d = classify w.rules d :=
  classify_congr d (speaks_congr h.risk _) (speaks_congr h.indicator _)
    (speaks_congr h.strategy _)

section Larger

variable (v : Vocabulary) (d : Definition) {more : List String}

theorem classify_more_risk (h : lookedFor v.risk ⊆ lookedFor more) :
    classify { v with risk := more }.rules d = classify v.rules d ∨
      classify { v with risk := more }.rules d = .riskManagement := by
  by_cases hmore : Vocabulary.RiskSpeaks { v with risk := more } d
  · exact .inr ((tells_classify _ d).risk.2 hmore)
  · have hfewer : ¬ v.RiskSpeaks d := fun hspeaks => hmore (Speaks.mono h hspeaks)
    exact .inl (classify_congr d (iff_of_false hmore hfewer) Iff.rfl Iff.rfl)

theorem classify_more_indicator (h : lookedFor v.indicator ⊆ lookedFor more) :
    classify { v with indicator := more }.rules d = classify v.rules d ∨
      classify v.rules d ≠ .riskManagement ∧
        classify { v with indicator := more }.rules d = .indicator := by
  have hbefore := tells_classify v d
  have hafter := tells_classify { v with indicator := more } d
  by_cases hrisk : v.RiskSpeaks d
  · exact .inl ((hafter.risk.2 hrisk).trans (hbefore.risk.2 hrisk).symm)
  by_cases hmore : Vocabulary.IndicatorSpeaks { v with indicator := more } d
  · exact .inr ⟨mt hbefore.risk.1 hrisk, hafter.indicator.2 ⟨hrisk, hmore⟩⟩
  · have hfewer : ¬ v.IndicatorSpeaks d := fun hspeaks => hmore (Speaks.mono h hspeaks)
    exact .inl (classify_congr d Iff.rfl (iff_of_false hmore hfewer) Iff.rfl)

theorem classify_more_strategy (h : lookedFor v.strategy ⊆ lookedFor more) :
    classify { v with strategy := more }.rules d = classify v.rules d ∨
      (classify v.rules d).isDomain = false ∧
        classify { v with strategy := more }.rules d = .strategy := by
  have hbefore := tells_classify v d
  have hafter := tells_classify { v with strategy := more } d
  by_cases hrisk : v.RiskSpeaks d
  · exact .inl ((hafter.risk.2 hrisk).trans (hbefore.risk.2 hrisk).symm)
  by_cases hindicator : v.IndicatorSpeaks d
  · have hspeaks : ¬ v.RiskSpeaks d ∧ v.IndicatorSpeaks d := ⟨hrisk, hindicator⟩
    exact .inl ((hafter.indicator.2 hspeaks).trans (hbefore.indicator.2 hspeaks).symm)
  by_cases hmore : Vocabulary.StrategySpeaks { v with strategy := more } d
  · have hstrategy : classify { v with strategy := more }.rules d = .strategy :=
      hafter.strategy.2 ⟨hrisk, hindicator, hmore⟩
    by_cases hfewer : v.StrategySpeaks d
    · exact .inl (hstrategy.trans (hbefore.strategy.2 ⟨hrisk, hindicator, hfewer⟩).symm)
    · refine .inr ⟨?_, hstrategy⟩
      rw [classify_eq, if_neg hrisk, if_neg hindicator, if_neg hfewer]
      rcases genericKind_cases d with ⟨-, hkind⟩ | ⟨-, hkind⟩ <;> rw [hkind] <;> rfl
  · have hfewer : ¬ v.StrategySpeaks d := fun hspeaks => hmore (Speaks.mono h hspeaks)
    exact .inl (classify_congr d Iff.rfl Iff.rfl (iff_of_false hmore hfewer))

end Larger

/-- The kind of a definition by the lists that speak of it. It depends on each list as a set only,
and keywords added to one list change kinds to that list's own, where no earlier list decides. -/
theorem classify_told_by_lists (v : Vocabulary) (d : Definition) :
    v.Tells d (classify v.rules d) ∧
      (∀ w : Vocabulary, v.Agrees w → classify w.rules d = classify v.rules d) ∧
      (∀ more, lookedFor v.risk ⊆ lookedFor more →
        classify { v with risk := more }.rules d = classify v.rules d ∨
          classify { v with risk := more }.rules d = .riskManagement) ∧
      (∀ more, lookedFor v.indicator ⊆ lookedFor more →
        classify { v with indicator := more }.rules d = classify v.rules d ∨
          classify v.rules d ≠ .riskManagement ∧
            classify { v with indicator := more }.rules d = .indicator) ∧
      (∀ more, lookedFor v.strategy ⊆ lookedFor more →
        classify { v with strategy := more }.rules d = classify v.rules d ∨
          (classify v.rules d).isDomain = false ∧
            classify { v with strategy := more }.rules d = .strategy) :=
  ⟨tells_classify v d, fun _ h => (h.classify_eq d).symm,
    fun _ h => classify_more_risk v d h, fun _ h => classify_more_indicator v d h,
    fun _ h => classify_more_strategy v d h⟩

/-- A keyword for risks that stands in a part of a definition word for word decides its kind, where
each of its capital sigmas ends a word there as it does in the keyword. -/
theorem classify_of_risk_word {v : Vocabulary} {d : Definition} {keyword : String}
    {before after : List Char} (hkeyword : keyword ∈ v.risk)
    (hblank : Text.trim keyword.toList ≠ [])
    (hpart : before ++ Text.trim keyword.toList ++ after ∈ d.name :: (d.bases ++ d.decorators))
    (hsigmas : Unicode.KeepsSigmas before (Text.trim keyword.toList) after) :
    classify v.rules d = .riskManagement := by
  have hoccurs := Unicode.lowercase_isInfix hsigmas
  exact (tells_classify v d).risk.2 ⟨_, ⟨keyword, hkeyword, hblank, rfl⟩, _, hpart, hoccurs⟩

def greekVocabulary : Vocabulary := { Vocabulary.default with risk := [" ΡΙΣΚΟΣ"] }

def classNamed (name : String) : Definition :=
  ⟨.classForm, name.toList, 1, [], [], [], none, []⟩

theorem classify_spaced_greek_word :
    Text.trim " ΡΙΣΚΟΣ".toList = "ΡΙΣΚΟΣ".toList ∧
      Unicode.KeepsSigmas [] "ΡΙΣΚΟΣ".toList "_Manager".toList ∧
      classify greekVocabulary.rules (classNamed "ΡΙΣΚΟΣ_Manager") = .riskManagement := by
  have htrim : Text.trim " ΡΙΣΚΟΣ".toList = "ΡΙΣΚΟΣ".toList := by decide +kernel
  have hkeyword : " ΡΙΣΚΟΣ" ∈ greekVocabulary.risk := List.mem_singleton.2 rfl
  have hblank : Text.trim " ΡΙΣΚΟΣ".toList ≠ [] := by
    rw [htrim]
    exact List.cons_ne_nil _ _
  have hpart : [] ++ Text.trim " ΡΙΣΚΟΣ".toList ++ "_Manager".toList ∈
      (classNamed "ΡΙΣΚΟΣ_Manager").name :: ([] ++ []) := by
    rw [htrim]
    exact List.mem_cons_self
  have hsigmas : Unicode.KeepsSigmas [] (Text.trim " ΡΙΣΚΟΣ".toList) "_Manager".toList := by
    decide +kernel
  exact ⟨htrim, htrim ▸ hsigmas, classify_of_risk_word hkeyword hblank hpart hsigmas⟩

/-- The last sigma of the keyword ends a word, and the same letter in the name does not. -/
theorem greek_word_missed :
    Text.trim " ΡΙΣΚΟΣ".toList <+: (classNamed "ΡΙΣΚΟΣManager").name ∧
      " ΡΙΣΚΟΣ" ∈ greekVocabulary.risk ∧
      classify greekVocabulary.rules (classNamed "ΡΙΣΚΟΣManager") = .genericClass := by
  decide +kernel

end Appraisal.Code
