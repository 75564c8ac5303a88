import Appraisal.Proofs.Score.Reals
import Appraisal.Proofs.Time.Elapsed
import Appraisal.Proofs.Time.Reading
import Appraisal.Score.Document
import Appraisal.Score.Trust
import Mathlib.Tactic.NormNum

set_option autoImplicit false

/-!
# Better metadata, better scores

With exact arithmetic a score never falls when the metadata gets better: more stars or kilobytes, an
earlier creation, a later push, a better license, or any of these where nothing was known before.
The one exception is a leap second at the end of a day, by which a day less may have passed.
-/
namespace Appraisal.Score

namespace Metadata

def Kept {α : Type} (r : α → α → Prop) (a? b? : Option α) : Prop :=
  ∀ a, a? = some a → ∃ b, b? = some b ∧ r a b

def BetterLicense (recognized : List String) (a? b? : Option String) : Prop :=
  (licenseName? a? = none ∧ (licenseName? b?).isSome = true) ∨
    ∃ a b, licenseName? a? = some a ∧ isRecognized recognized a = false ∧
      licenseName? b? = some b ∧ isRecognized recognized b = true

/-- From `m` to `m'` nothing that is measured gets worse, where a time may be moved back or forth as
`earlier` tells. -/
structure Improves (m : Metadata) (earlier : Instant → Instant → Prop)
    (recognized : List String) (m' : Metadata) : Prop where
  stars : Kept (· ≤ ·) m.stars? m'.stars?
  sizeKb : Kept (· ≤ ·) m.sizeKb? m'.sizeKb?
  createdAt : Kept (fun t t' => t' = t ∨ earlier t' t) m.createdAt? m'.createdAt?
  pushedAt : Kept (fun t t' => t' = t ∨ earlier t t') m.pushedAt? m'.pushedAt?
  retrievedAt : m'.retrievedAt? = m.retrievedAt?
  license : m'.license? = m.license? ∨ BetterLicense recognized m.license? m'.license?

/-- The times are such as are read from documents. -/
structure Regular (m : Metadata) : Prop where
  createdAt : ∀ t, m.createdAt? = some t → t.Regular
  pushedAt : ∀ t, m.pushedAt? = some t → t.Regular
  retrievedAt : ∀ t, m.retrievedAt? = some t → t.Regular

theorem regular_of_optional? {r : Datum.Record} {field : String} {t? : Option Instant}
    (h : r.optional? field Instant.ofDatum? = some t?) : ∀ t, t? = some t → t.Regular := by
  rintro t rfl
  unfold Datum.Record.optional? Datum.Record.orElse? at h
  split at h
  · cases h
  · next d _ =>
    have hread : Instant.ofDatum? d = some t := by
      unfold Datum.option? at h
      split at h
      · cases h
      · split at h
        · cases h
        · simpa using h
      · simpa using h
    obtain ⟨text, -, hread⟩ := Option.bind_eq_some_iff.1 hread
    exact Instant.regular_of_read? hread

theorem regular_of_ofDatum? {d : Datum} {m : Metadata} (h : ofDatum? d = some m) : m.Regular := by
  obtain ⟨r, -, h⟩ := Option.bind_eq_some_iff.1 h
  -- the texts and the counters
  iterate 9 replace ⟨_, _, h⟩ := Option.bind_eq_some_iff.1 h
  obtain ⟨created?, hcreated, h⟩ := Option.bind_eq_some_iff.1 h
  obtain ⟨updated?, -, h⟩ := Option.bind_eq_some_iff.1 h
  obtain ⟨pushed?, hpushed, h⟩ := Option.bind_eq_some_iff.1 h
  obtain ⟨retrieved?, hretrieved, h⟩ := Option.bind_eq_some_iff.1 h
  cases h
  exact ⟨regular_of_optional? hcreated, regular_of_optional? hpushed,
    regular_of_optional? hretrieved⟩

/-- An instant before another one, and not in a leap second at the end of a day. -/
def PlainlyBefore (a b : Instant) : Prop := a.Before b ∧ ¬ a.InMidnightLeap

theorem Kept.daysBetween {r : Instant → Instant → Prop} {s : Nat → Nat → Prop}
    {a? b? later? : Option Instant} (h : Kept r a? b?)
    (hdays : ∀ a b t, a? = some a → b? = some b → later? = some t → r a b →
      s (a.daysUntil t) (b.daysUntil t)) :
    Kept s (daysBetween? a? later?) (daysBetween? b? later?) := by
  intro n hn
  obtain ⟨a, ha, hn⟩ := Option.bind_eq_some_iff.1 hn
  obtain ⟨t, ht, hn⟩ := Option.bind_eq_some_iff.1 hn
  cases hn
  obtain ⟨b, hb, hr⟩ := h a ha
  exact ⟨b.daysUntil t, by simp [daysBetween?, hb, ht], hdays a b t ha hb ht hr⟩

variable {recognized : List String} {m m' : Metadata}

theorem Improves.ageDays (h : m.Improves PlainlyBefore recognized m') (hm : m.Regular)
    (hm' : m'.Regular) : Kept (· ≤ ·) m.ageDays? m'.ageDays? := by
  rw [ageDays?, ageDays?, h.retrievedAt]
  refine h.createdAt.daysBetween fun a b t ha hb ht hmoved => ?_
  rcases hmoved with rfl | ⟨hbefore, hleap⟩
  · exact le_rfl
  · exact Instant.daysUntil_le_of_before (hm'.createdAt b hb) (hm.createdAt a ha)
      (hm.retrievedAt t ht) hbefore hleap

theorem Improves.daysSincePush (h : m.Improves PlainlyBefore recognized m') (hm : m.Regular)
    (hm' : m'.Regular) : Kept (· ≥ ·) m.daysSincePush? m'.daysSincePush? := by
  rw [daysSincePush?, daysSincePush?, h.retrievedAt]
  refine h.pushedAt.daysBetween fun a b t ha hb ht hmoved => ?_
  rcases hmoved with rfl | ⟨hbefore, hleap⟩
  · exact le_rfl
  · exact Instant.daysUntil_le_of_before (hm.pushedAt a ha) (hm'.pushedAt b hb)
      (hm.retrievedAt t ht) hbefore hleap

end Metadata

variable {log : ℝ → ℝ} {m m' : Metadata} {p : Params (Reals log)} {w : Weights (Reals log)}

section Counted

variable {measure : Reals log → Reals log}

theorem counted_none : (counted none measure).2 = 0 := zero_eq

theorem counted_mem (hmem : ∀ x, measure x ∈ Set.Icc 0 1) (n? : Option Nat) :
    (counted n? measure).2 ∈ Set.Icc 0 1 := by
  cases n? with
  | none =>
    rw [counted_none]
    exact ⟨le_rfl, zero_le_one⟩
  | some n => exact hmem _

theorem counted_le {r : Nat → Nat → Prop} {a? b? : Option Nat} (h : Metadata.Kept r a? b?)
    (hmem : ∀ x, measure x ∈ Set.Icc 0 1)
    (hmono : ∀ a b, r a b → measure (Arithmetic.ofNat a) ≤ measure (Arithmetic.ofNat b)) :
    (counted a? measure).2 ≤ (counted b? measure).2 := by
  cases a? with
  | none =>
    rw [counted_none]
    exact (counted_mem hmem b?).1
  | some a =>
    obtain ⟨b, rfl, hr⟩ := h a rfl
    exact hmono a b hr

end Counted

theorem unrecognized_mem (hp : p.flaw? = none) : p.unrecognizedLicenseScore ∈ Set.Icc 0 1 := by
  unfold Params.flaw? at hp
  split at hp
  · cases hp
  · split at hp
    · next hunit =>
      obtain ⟨hlow, hhigh⟩ := Bool.and_eq_true_iff.1 hunit
      rw [zero_eq] at hlow
      rw [one_eq] at hhigh
      exact ⟨of_decide_eq_true hlow, of_decide_eq_true hhigh⟩
    · cases hp

theorem normalize_license (m : Metadata) (p : Params (Reals log)) : (normalize m p .license).2 =
    match licenseName? m.license? with
    | none => 0
    | some name =>
      if isRecognized p.recognizedLicenses name then 1 else p.unrecognizedLicenseScore := by
  rw [← zero_eq, ← one_eq]
  simp only [normalize, licenseScore]
  cases licenseName? m.license? <;> rfl

theorem normalize_license_mem (hp : p.flaw? = none) (m : Metadata) :
    (normalize m p .license).2 ∈ Set.Icc 0 1 := by
  rw [normalize_license]
  split
  · exact ⟨le_rfl, zero_le_one⟩
  · split
    · exact ⟨zero_le_one, le_rfl⟩
    · exact unrecognized_mem hp

theorem normalize_license_le (hp : p.flaw? = none) (h : m'.license? = m.license? ∨
    Metadata.BetterLicense p.recognizedLicenses m.license? m'.license?) :
    (normalize m p .license).2 ≤ (normalize m' p .license).2 := by
  rcases h with hsame | ⟨hnone, -⟩ | ⟨a, b, ha, hunknown, hb, hknown⟩
  · rw [normalize_license, normalize_license, hsame]
  · rw [normalize_license m, hnone]
    exact (normalize_license_mem hp m').1
  · rw [normalize_license, normalize_license, ha, hb]
    simp only [hunknown, hknown, Bool.false_eq_true, if_false, if_true]
    exact (unrecognized_mem hp).2

theorem normalize_mem (hlog : GrowsFromZero log) (hp : p.flaw? = none) (m : Metadata)
    (c : Component) : (normalize m p c).2 ∈ Set.Icc 0 1 := by
  cases c with
  | stars => exact counted_mem (fun x => logSaturating_mem hlog x _) m.stars?
  | age => exact counted_mem (fun x => linearRamp_mem x _) m.ageDays?
  | commits => exact counted_mem (fun x => logSaturating_mem hlog x _) m.sizeKb?
  | license => exact normalize_license_mem hp m
  | activity => exact counted_mem (fun x => linearDecay_mem x _) m.daysSincePush?

theorem normalize_le (hlog : GrowsFromZero log) (hp : p.flaw? = none) (hm : m.Regular)
    (hm' : m'.Regular) (h : m.Improves Metadata.PlainlyBefore p.recognizedLicenses m')
    (c : Component) : (normalize m p c).2 ≤ (normalize m' p c).2 := by
  cases c with
  | stars =>
    exact counted_le h.stars (fun x => logSaturating_mem hlog x _)
      fun a b hab => logSaturating_mono hlog (ofNat_mono hab)
  | age =>
    exact counted_le (h.ageDays hm hm') (fun x => linearRamp_mem x _)
      fun a b hab => linearRamp_mono (ofNat_mono hab)
  | commits =>
    exact counted_le h.sizeKb (fun x => logSaturating_mem hlog x _)
      fun a b hab => logSaturating_mono hlog (ofNat_mono hab)
  | license => exact normalize_license_le hp h.license
  | activity =>
    exact counted_le (h.daysSincePush hm hm') (fun x => linearDecay_mem x _)
      fun a b hab => linearDecay_anti (ofNat_mono hab)

theorem weight_nonneg (hw : w.flaw? = none) (c : Component) : 0 ≤ w.get c := by
  unfold Weights.flaw? at hw
  split at hw
  · cases hw
  · next hnone =>
    have hproper := List.find?_eq_none.1 hnone c (by cases c <;> decide)
    have hlt : ¬ w.get c < 0 := by
      intro hneg
      rw [← zero_eq] at hneg
      exact hproper (Bool.or_eq_true_iff.2 (.inr (decide_eq_true hneg)))
    exact not_lt.1 hlt

theorem overall_eq (m : Metadata) (w : Weights (Reals log)) (ts : List (Threshold (Reals log)))
    (p : Params (Reals log)) : (score m w ts p).overall =
      clampUnit (Component.all.map (fun c => (normalize m p c).2 * w.get c)).sum := by
  change clampUnit (sumOf _) = _
  rw [sumOf_eq, List.map_map]
  rfl

theorem overall_of_age {ts : List (Threshold (Reals log))}
    (h : ∀ c, c ≠ .age → (normalize m p c).2 = 0) :
    (score m w ts p).overall = clampUnit ((normalize m p .age).2 * w.get .age) := by
  rw [overall_eq]
  simp [Component.all, h]

theorem overall_le (hlog : GrowsFromZero log) (hw : w.flaw? = none) (hp : p.flaw? = none)
    (hm : m.Regular) (hm' : m'.Regular)
    (h : m.Improves Metadata.PlainlyBefore p.recognizedLicenses m')
    (ts : List (Threshold (Reals log))) :
    (score m w ts p).overall ≤ (score m' w ts p).overall := by
  rw [overall_eq, overall_eq]
  refine clampUnit_mono (List.sum_le_sum fun c _ => ?_)
  exact mul_le_mul_of_nonneg_right (normalize_le hlog hp hm hm' h c) (weight_nonneg hw c)

/-- With exact arithmetic all that is between zero and one should be, the level is that of the
threshold at its position, and better metadata has no lower score and no earlier threshold. -/
theorem score_bounded_and_monotone (hlog : GrowsFromZero log) (hw : w.flaw? = none)
    {ts : List (Threshold (Reals log))} (hts : thresholdFlaw? ts = none) (hp : p.flaw? = none) :
    (∀ m, (∀ c ∈ (score m w ts p).components, c.normalized ∈ Set.Icc 0 1) ∧
      (score m w ts p).overall ∈ Set.Icc 0 1 ∧
      ∃ t, ts[levelIndex ts (score m w ts p).overall]? = some t ∧
        (score m w ts p).level = t.level) ∧
    ∀ m m' : Metadata, m.Regular → m'.Regular →
      m.Improves Metadata.PlainlyBefore p.recognizedLicenses m' →
        (score m w ts p).overall ≤ (score m' w ts p).overall ∧
        levelIndex ts (score m w ts p).overall ≤ levelIndex ts (score m' w ts p).overall := by
  refine ⟨fun m => ⟨fun c hc => ?_, clampUnit_mem _, levelFor_eq hts _⟩, ?_⟩
  · obtain ⟨component, -, rfl⟩ := List.mem_map.1 hc
    exact normalize_mem hlog hp m component
  · intro m m' hm hm' h
    have hle := overall_le hlog hw hp hm hm' h ts
    exact ⟨hle, levelIndex_mono hle⟩

theorem lt_eq (x y : Reals log) : Arithmetic.lt x y = decide (x < y) := rfl

theorem le_eq (x y : Reals log) : Arithmetic.le x y = decide (x ≤ y) := rfl

theorem ofNat_eq (n : Nat) : (Arithmetic.ofNat n : Reals log) = n := rfl

theorem isFinite_eq (x : Reals log) : Arithmetic.isFinite x = true := rfl

theorem weights_flaw?_of_sum (hnonneg : ∀ c, 0 ≤ w.get c) (hsum : w.sum = 1) :
    w.flaw? = none := by
  have hproper : Component.all.find? (fun c => Weights.isImproper (w.get c)) = none := by
    simp only [List.find?_eq_none, Weights.isImproper, isFinite_eq, lt_eq, zero_eq,
      Bool.not_true, Bool.false_or, decide_eq_true_eq, not_lt]
    exact fun c _ => hnonneg c
  have htolerance : (0 : Reals log) ≤ Weights.tolerance :=
    div_nonneg (Nat.cast_nonneg 1) (Nat.cast_nonneg 1000000)
  have hdistance : Weights.distance (1 : Reals log) 1 = 0 := by
    simp only [Weights.distance, lt_eq, lt_irrefl, decide_false]
    exact sub_self 1
  simp only [Weights.flaw?, hproper, hsum, one_eq, hdistance, lt_eq]
  simp [htolerance]

noncomputable def evenWeights : Weights (Reals id) := ⟨1 / 5, 1 / 5, 1 / 5, 1 / 5, 1 / 5⟩

noncomputable def halves : List (Threshold (Reals id)) := [⟨1 / 2, .low⟩, ⟨1, .veryHigh⟩]

noncomputable def plainParams : Params (Reals id) := ⟨1000, 730, 10000, 365, defaultLicenses, 0⟩

theorem growsFromZero_id : GrowsFromZero id := ⟨rfl, fun _ _ _ _ h => h⟩

theorem flaw?_evenWeights : evenWeights.flaw? = none := by
  refine weights_flaw?_of_sum (fun c => ?_) ?_
  · cases c <;> norm_num [Weights.get, evenWeights]
  · rw [Weights.sum, sumOf_eq]
    norm_num [Component.all, Weights.get, evenWeights]

theorem flaw?_halves : thresholdFlaw? halves = none := by
  norm_num [thresholdFlaw?, halves, isFinite_eq, descent?, le_eq]

theorem flaw?_plainParams : plainParams.flaw? = none := by
  simp [Params.flaw?, Params.caps, plainParams, isUnit, le_eq, zero_eq, one_eq]

def youngRepository : Metadata :=
  { Metadata.empty with
    stars? := some 10
    createdAt? := some ⟨19844, 43200, 0⟩
    retrievedAt? := some ⟨19875, 0, 0⟩ }

def oldRepository : Metadata :=
  { youngRepository with
    license? := some "MIT"
    stars? := some 250
    createdAt? := some ⟨18321, 86399, 0⟩
    pushedAt? := some ⟨19874, 59, 1000000000⟩ }

theorem regular_youngRepository : youngRepository.Regular :=
  Metadata.regular_of_ofDatum? (d := .map [("stars", .int 10),
    ("created_at", .text "2024-05-01T12:00:00Z"), ("retrieved_at", .text "2024-06-01T00:00:00Z")])
    (by decide +kernel)

theorem regular_oldRepository : oldRepository.Regular :=
  Metadata.regular_of_ofDatum? (d := .map [("stars", .int 250), ("license", .text "MIT"),
    ("created_at", .text "2020-02-29T23:59:59Z"), ("pushed_at", .text "2024-05-31T00:00:60Z"),
    ("retrieved_at", .text "2024-06-01T00:00:00Z")])
    (by decide +kernel)

theorem oldRepository_improves : youngRepository.Improves Metadata.PlainlyBefore
    plainParams.recognizedLicenses oldRepository where
  stars n hn := by cases hn; exact ⟨250, rfl, by decide⟩
  sizeKb n hn := by cases hn
  createdAt t ht := by
    cases ht
    exact ⟨_, rfl, .inr ⟨.inl (by decide), fun h => absurd h.2 (by decide)⟩⟩
  pushedAt t ht := by cases ht
  retrievedAt := rfl
  license := .inr (.inl ⟨rfl, by decide⟩)

theorem score_of_oldRepository :
    GrowsFromZero id ∧ evenWeights.flaw? = none ∧ thresholdFlaw? halves = none ∧
      plainParams.flaw? = none ∧ youngRepository.Regular ∧ oldRepository.Regular ∧
      youngRepository.Improves Metadata.PlainlyBefore plainParams.recognizedLicenses
        oldRepository ∧
      (score oldRepository evenWeights halves plainParams).overall ∈ Set.Icc 0 1 ∧
      (score youngRepository evenWeights halves plainParams).overall ≤
        (score oldRepository evenWeights halves plainParams).overall ∧
      levelIndex halves (score youngRepository evenWeights halves plainParams).overall ≤
        levelIndex halves (score oldRepository evenWeights halves plainParams).overall := by
  obtain ⟨hbounded, hmonotone⟩ := score_bounded_and_monotone growsFromZero_id flaw?_evenWeights
    flaw?_halves flaw?_plainParams
  exact ⟨growsFromZero_id, flaw?_evenWeights, flaw?_halves, flaw?_plainParams,
    regular_youngRepository, regular_oldRepository, oldRepository_improves,
    (hbounded oldRepository).2.1, hmonotone youngRepository oldRepository regular_youngRepository
      regular_oldRepository oldRepository_improves⟩

def midnightRepository : Metadata :=
  { Metadata.empty with
    createdAt? := some ⟨17167, 0, 0⟩
    retrievedAt? := some ⟨17168, 0, 0⟩ }

def leapRepository : Metadata :=
  { midnightRepository with createdAt? := some ⟨17166, 86399, 1500000000⟩ }

/-- Without the condition on leap seconds, an earlier creation may lower the score. -/
theorem leap_second_lowers_score :
    GrowsFromZero id ∧ evenWeights.flaw? = none ∧ thresholdFlaw? halves = none ∧
      plainParams.flaw? = none ∧
      Instant.read? "2016-12-31T23:59:60.5Z" = leapRepository.createdAt? ∧
      Instant.read? "2017-01-01T00:00:00Z" = midnightRepository.createdAt? ∧
      midnightRepository.Improves Instant.Before plainParams.recognizedLicenses leapRepository ∧
      (score leapRepository evenWeights halves plainParams).overall <
        (score midnightRepository evenWeights halves plainParams).overall := by
  refine ⟨growsFromZero_id, flaw?_evenWeights, flaw?_halves, flaw?_plainParams,
    by decide +kernel, by decide +kernel, ?_, ?_⟩
  · exact {
      stars := fun n hn => by cases hn
      sizeKb := fun n hn => by cases hn
      createdAt := fun t ht => by
        cases ht
        exact ⟨_, rfl, .inr (.inl (by decide))⟩
      pushedAt := fun t ht => by cases ht
      retrievedAt := rfl
      license := .inl rfl }
  · have hage : ∀ c, c ≠ .age → (normalize leapRepository plainParams c).2 = 0 ∧
        (normalize midnightRepository plainParams c).2 = 0 := by
      intro c hc
      cases c with
      | age => exact absurd rfl hc
      | _ => exact ⟨zero_eq, zero_eq⟩
    have hleap : leapRepository.ageDays? = some 0 := by decide +kernel
    have hmidnight : midnightRepository.ageDays? = some 1 := by decide +kernel
    rw [overall_of_age fun c hc => (hage c hc).1, overall_of_age fun c hc => (hage c hc).2]
    simp only [normalize, counted, hleap, hmidnight, linearRamp_eq, clampUnit_eq, ofNat_eq,
      plainParams, evenWeights, Weights.get]
    norm_num

end Appraisal.Score
