import Appraisal.Proofs.Score.Doubles
import Appraisal.Score.Level
import Appraisal.Score.Params
import Appraisal.Score.Weights
import Mathlib.Data.List.Chain

set_option autoImplicit false

namespace Appraisal

def IsFirst {α : Type} (p : α → Prop) (xs : List α) (x : α) : Prop :=
  ∃ before after, xs = before ++ x :: after ∧ (∀ y ∈ before, ¬ p y) ∧ p x

section First

variable {α : Type} {p : α → Prop} {test : α → Bool} {xs : List α} {x : α}

theorem IsFirst.holds (h : IsFirst p xs x) : x ∈ xs ∧ p x := by
  obtain ⟨before, after, rfl, -, hx⟩ := h
  exact ⟨List.mem_append_right _ List.mem_cons_self, hx⟩

theorem find?_eq_none_iff (htest : ∀ x ∈ xs, test x = true ↔ p x) :
    xs.find? test = none ↔ ∀ x ∈ xs, ¬ p x := by
  rw [List.find?_eq_none]
  exact forall₂_congr fun x hx => not_congr (htest x hx)

theorem find?_eq_some_iff (htest : ∀ x ∈ xs, test x = true ↔ p x) :
    xs.find? test = some x ↔ IsFirst p xs x := by
  rw [List.find?_eq_some_iff_append]
  constructor
  · rintro ⟨hx, before, after, rfl, hbefore⟩
    refine ⟨before, after, rfl, fun y hy => ?_, (htest x (by simp)).1 hx⟩
    rw [← htest y (List.mem_append_left _ hy)]
    simpa using hbefore y hy
  · rintro ⟨before, after, rfl, hbefore, hx⟩
    refine ⟨(htest x (by simp)).2 hx, before, after, rfl, fun y hy => ?_⟩
    have hfails := hbefore y hy
    rw [← htest y (List.mem_append_left _ hy)] at hfails
    simpa using hfails

variable {φ : Type} {f : α → φ} {rest? : Option φ}

/-- No flaw of a first element with a property, and none of what is looked at after that. -/
theorem elim_find?_eq_none_iff (htest : ∀ x ∈ xs, test x = true ↔ p x) :
    (xs.find? test).elim rest? (fun x => some (f x)) = none ↔
      (∀ x ∈ xs, ¬ p x) ∧ rest? = none := by
  rw [← find?_eq_none_iff htest]
  cases xs.find? test <;> simp

theorem elim_find?_eq_some_iff (htest : ∀ x ∈ xs, test x = true ↔ p x) (flaw : φ) :
    (xs.find? test).elim rest? (fun x => some (f x)) = some flaw ↔
      (∃ x, IsFirst p xs x ∧ f x = flaw) ∨ (∀ x ∈ xs, ¬ p x) ∧ rest? = some flaw := by
  simp only [← find?_eq_some_iff htest, ← find?_eq_none_iff htest]
  cases xs.find? test <;> simp

end First

namespace Score

theorem zero_float : (zero : Float) = 0 := by decide +kernel

theorem one_float : (one : Float) = 1 := by decide +kernel

namespace Weights

def IsProper (x : Float) : Prop := x.isFinite = true ∧ 0 ≤ x

structure Fit (w : Weights Float) : Prop where
  proper : ∀ component, IsProper (w.get component)
  sum : distance (w.stars + w.age + w.commits + w.license + w.activity) 1 ≤ 1e-6

inductive Flawed (w : Weights Float) : WeightFlaw Float → Prop
  | improper {component : Component}
      (h : IsFirst (fun k => ¬ IsProper (w.get k)) Component.all component) :
      Flawed w (.improper component (w.get component))
  | sum (hproper : ∀ component, IsProper (w.get component))
      (hsum : ¬ distance (w.stars + w.age + w.commits + w.license + w.activity) 1 ≤ 1e-6) :
      Flawed w (.sum (w.stars + w.age + w.commits + w.license + w.activity))

theorem tolerance_float : (tolerance : Float) = 1e-6 := by decide +kernel

theorem sum_float (w : Weights Float) :
    w.sum = w.stars + w.age + w.commits + w.license + w.activity := rfl

theorem isImproper_iff (x : Float) : isImproper x = true ↔ ¬ IsProper x := by
  have hlt : Arithmetic.lt x zero = decide (x < 0) := by rw [zero_float]; rfl
  have hfinite : Arithmetic.isFinite x = x.isFinite := rfl
  unfold isImproper IsProper
  rw [hlt, hfinite]
  cases h : x.isFinite with
  | false => simp
  | true =>
    have hnumber : (0 : Float).isNaN = false := by decide
    simp [← Doubles.not_lt_iff (Doubles.isNaN_of_isFinite h) hnumber]

theorem mem_all (component : Component) : component ∈ Component.all := by
  cases component <;> decide

theorem isNaN_distance {x y : Float} (hx : x.isNaN = false) (hy : y.isFinite = true) :
    (distance x y).isNaN = false := by
  have hnumber := Doubles.isNaN_of_isFinite hy
  unfold distance
  split
  · exact (Doubles.isNaN_sub (.inl hy)).trans (by rw [hx, hnumber]; rfl)
  · exact (Doubles.isNaN_sub (.inr hy)).trans (by rw [hx, hnumber]; rfl)

/-- Finite numbers may add up to infinity, but not to what is no number. -/
theorem isNaN_sum {w : Weights Float} (h : ∀ component, IsProper (w.get component)) :
    (w.stars + w.age + w.commits + w.license + w.activity).isNaN = false := by
  have hadd {x y : Float} (hx : x.isNaN = false) (hy : y.isFinite = true) :
      (x + y).isNaN = false := by
    rw [Doubles.isNaN_add (.inr hy), hx, Doubles.isNaN_of_isFinite hy]
    rfl
  have hstars := Doubles.isNaN_of_isFinite (h .stars).1
  exact hadd (hadd (hadd (hadd hstars (h .age).1) (h .commits).1) (h .license).1) (h .activity).1

theorem lt_tolerance_iff {w : Weights Float} (h : ∀ component, IsProper (w.get component)) :
    Arithmetic.lt tolerance (distance w.sum one) = true ↔
      ¬ distance (w.stars + w.age + w.commits + w.license + w.activity) 1 ≤ 1e-6 := by
  have hdistance := isNaN_distance (isNaN_sum h) (by decide : (1 : Float).isFinite = true)
  have hle := Doubles.not_le_iff hdistance (by decide +kernel : (1e-6 : Float).isNaN = false)
  rw [hle, tolerance_float, one_float, sum_float]
  exact decide_eq_true_iff

theorem flaw?_eq (w : Weights Float) :
    w.flaw? = (Component.all.find? (fun k => isImproper (w.get k))).elim
      (if Arithmetic.lt tolerance (distance w.sum one) then some (.sum w.sum) else none)
      (fun k => some (.improper k (w.get k))) := by
  unfold flaw?
  cases Component.all.find? (fun k => isImproper (w.get k)) <;> rfl

theorem flaw?_spec (w : Weights Float) : (w.flaw? = none ↔ w.Fit) ∧
    ∀ flaw, w.flaw? = some flaw ↔ w.Flawed flaw := by
  have htest : ∀ k ∈ Component.all, isImproper (w.get k) = true ↔ ¬ IsProper (w.get k) :=
    fun k _ => isImproper_iff (w.get k)
  have hproper : (∀ k ∈ Component.all, ¬ ¬ IsProper (w.get k)) ↔ ∀ k, IsProper (w.get k) := by
    simp [mem_all]
  refine ⟨?_, fun flaw => ?_⟩
  · rw [flaw?_eq, elim_find?_eq_none_iff htest, hproper]
    constructor
    · rintro ⟨hproper, hsum⟩
      exact ⟨hproper, by simpa [lt_tolerance_iff hproper] using hsum⟩
    · rintro ⟨hproper, hsum⟩
      exact ⟨hproper, if_neg fun hlt => (lt_tolerance_iff hproper).1 hlt hsum⟩
  · rw [flaw?_eq, elim_find?_eq_some_iff htest, hproper]
    constructor
    · rintro (⟨k, hfirst, rfl⟩ | ⟨hproper, hsum⟩)
      · exact .improper hfirst
      · obtain ⟨hlt, h⟩ := Option.ite_none_right_eq_some.1 hsum
        obtain rfl := Option.some.inj h
        exact .sum hproper ((lt_tolerance_iff hproper).1 hlt)
    · rintro (hfirst | ⟨hproper, hsum⟩)
      · exact .inl ⟨_, hfirst, rfl⟩
      · exact .inr ⟨hproper, if_pos ((lt_tolerance_iff hproper).2 hsum)⟩

end Weights

section Thresholds

def Rises (s t : Threshold Float) : Prop := s.below < t.below

instance : Trans Rises Rises Rises := ⟨Doubles.lt_trans⟩

structure Ascending (ts : List (Threshold Float)) : Prop where
  nonempty : ts ≠ []
  finite : ∀ t ∈ ts, t.below.isFinite = true
  ascending : ts.Pairwise Rises

inductive NotAscending (ts : List (Threshold Float)) : ThresholdFlaw Float → Prop
  | none (h : ts = []) : NotAscending ts .none
  | notFinite {t : Threshold Float} (h : IsFirst (fun t => ¬ t.below.isFinite = true) ts t) :
      NotAscending ts (.notFinite t.level)
  | notAscending {s t : Threshold Float} (hfinite : ∀ t ∈ ts, t.below.isFinite = true)
      (h : IsFirst (fun pair => ¬ Rises pair.1 pair.2) (ts.zip ts.tail) (s, t)) :
      NotAscending ts (.notAscending s t)

variable {ts : List (Threshold Float)}

theorem descent?_eq_find? (ts : List (Threshold Float)) : descent? ts =
    (ts.zip ts.tail).find? (fun pair => Arithmetic.le pair.2.below pair.1.below) := by
  induction ts with
  | nil => rfl
  | cons s rest ih =>
    cases rest with
    | nil => rfl
    | cons t rest =>
      rw [descent?, ih, List.tail_cons, List.tail_cons, List.zip_cons_cons, List.find?_cons]
      cases Arithmetic.le t.below s.below <;> rfl

theorem pairwise_iff_neighbours (ts : List (Threshold Float)) :
    ts.Pairwise Rises ↔ ∀ pair ∈ ts.zip ts.tail, Rises pair.1 pair.2 := by
  rw [← List.isChain_iff_pairwise]
  induction ts with
  | nil => simp
  | cons s rest ih =>
    cases rest with
    | nil => simp
    | cons t rest =>
      rw [List.isChain_cons_cons, ih, List.tail_cons, List.tail_cons, List.zip_cons_cons,
        List.forall_mem_cons]

theorem le_below_iff {s t : Threshold Float} (hs : s.below.isFinite = true)
    (ht : t.below.isFinite = true) :
    Arithmetic.le t.below s.below = true ↔ ¬ Rises s t := by
  rw [Rises, Doubles.not_lt_iff (Doubles.isNaN_of_isFinite hs) (Doubles.isNaN_of_isFinite ht)]
  exact decide_eq_true_iff

theorem thresholdFlaw?_eq (hnonempty : ts ≠ []) :
    thresholdFlaw? ts = (ts.find? (fun t => !Arithmetic.isFinite t.below)).elim
      ((descent? ts).map (fun pair => .notAscending pair.1 pair.2))
      (fun t => some (.notFinite t.level)) := by
  unfold thresholdFlaw?
  rw [List.isEmpty_eq_false_iff.2 hnonempty, if_neg Bool.false_ne_true]
  cases ts.find? (fun t => !Arithmetic.isFinite t.below) <;> rfl

theorem descent_test (hfinite : ∀ t ∈ ts, t.below.isFinite = true) :
    ∀ pair ∈ ts.zip ts.tail,
      Arithmetic.le pair.2.below pair.1.below = true ↔ ¬ Rises pair.1 pair.2 := by
  intro pair hpair
  obtain ⟨hs, ht⟩ := List.of_mem_zip hpair
  exact le_below_iff (hfinite _ hs) (hfinite _ (List.mem_of_mem_tail ht))

theorem descent?_eq_none_iff (hfinite : ∀ t ∈ ts, t.below.isFinite = true) :
    descent? ts = none ↔ ts.Pairwise Rises := by
  rw [descent?_eq_find?, find?_eq_none_iff (descent_test hfinite), pairwise_iff_neighbours]
  simp only [not_not]

theorem descent?_eq_some_iff (hfinite : ∀ t ∈ ts, t.below.isFinite = true)
    {pair : Threshold Float × Threshold Float} : descent? ts = some pair ↔
      IsFirst (fun pair => ¬ Rises pair.1 pair.2) (ts.zip ts.tail) pair := by
  rw [descent?_eq_find?, find?_eq_some_iff (descent_test hfinite)]

theorem thresholdFlaw?_spec (ts : List (Threshold Float)) :
    (thresholdFlaw? ts = none ↔ Ascending ts) ∧
      ∀ flaw, thresholdFlaw? ts = some flaw ↔ NotAscending ts flaw := by
  by_cases hempty : ts = []
  · subst hempty
    refine ⟨iff_of_false (Option.some_ne_none _) fun h => h.nonempty rfl, fun flaw => ?_⟩
    constructor
    · intro h
      obtain rfl := Option.some.inj h
      exact .none rfl
    · rintro (_ | hfirst | ⟨-, hfirst⟩)
      · rfl
      all_goals cases hfirst.holds.1
  have htest : ∀ t ∈ ts, (!Arithmetic.isFinite t.below) = true ↔ ¬ t.below.isFinite = true :=
    fun t _ => by rw [Bool.not_eq_true', Bool.not_eq_true]; rfl
  rw [thresholdFlaw?_eq hempty]
  refine ⟨?_, fun flaw => ?_⟩
  · simp only [elim_find?_eq_none_iff htest, not_not, Option.map_eq_none_iff]
    constructor
    · rintro ⟨hfinite, hdescent⟩
      exact ⟨hempty, hfinite, (descent?_eq_none_iff hfinite).1 hdescent⟩
    · rintro ⟨-, hfinite, hascending⟩
      exact ⟨hfinite, (descent?_eq_none_iff hfinite).2 hascending⟩
  · simp only [elim_find?_eq_some_iff htest, not_not, Option.map_eq_some_iff]
    constructor
    · rintro (⟨t, hfirst, rfl⟩ | ⟨hfinite, pair, hdescent, rfl⟩)
      · exact .notFinite hfirst
      · exact .notAscending hfinite ((descent?_eq_some_iff hfinite).1 hdescent)
    · rintro (hnone | hfirst | ⟨hfinite, hfirst⟩)
      · exact absurd hnone hempty
      · exact .inl ⟨_, hfirst, rfl⟩
      · exact .inr ⟨hfinite, _, (descent?_eq_some_iff hfinite).2 hfirst, rfl⟩

end Thresholds

def InUnit (x : Float) : Prop := 0 ≤ x ∧ x ≤ 1

theorem isUnit_iff (x : Float) : isUnit x = true ↔ InUnit x := by
  unfold isUnit InUnit
  rw [zero_float, one_float, Bool.and_eq_true]
  exact and_congr decide_eq_true_iff decide_eq_true_iff

example : InUnit (-0) ∧ ¬ InUnit (0 / 0) ∧ ¬ InUnit (1 / 0) := by
  unfold InUnit
  decide +kernel

structure Params.Fit (p : Params Float) : Prop where
  starCap : 0 < p.starCap
  ageCapDays : 0 < p.ageCapDays
  sizeCapKb : 0 < p.sizeCapKb
  activityWindowDays : 0 < p.activityWindowDays
  licenseScore : InUnit p.unrecognizedLicenseScore

inductive Params.Flawed (p : Params Float) : ParamFlaw Float → Prop
  | zeroCap {key : String} {value : Nat}
      (h : IsFirst (fun cap => cap.2 = 0) p.caps (key, value)) : Flawed p (.zeroCap key)
  | licenseScore (hcaps : ∀ cap ∈ p.caps, ¬ cap.2 = 0)
      (h : ¬ InUnit p.unrecognizedLicenseScore) :
      Flawed p (.licenseScore p.unrecognizedLicenseScore)

theorem Params.fit_iff (p : Params Float) :
    p.Fit ↔ (∀ cap ∈ p.caps, ¬ cap.2 = 0) ∧ InUnit p.unrecognizedLicenseScore := by
  simp only [Params.caps, List.forall_mem_cons, List.not_mem_nil, false_implies, implies_true,
    and_true, ← Nat.pos_iff_ne_zero]
  constructor
  · exact fun h => ⟨⟨h.starCap, h.ageCapDays, h.sizeCapKb, h.activityWindowDays⟩, h.licenseScore⟩
  · rintro ⟨⟨hstar, hage, hsize, hwindow⟩, hlicense⟩
    exact ⟨hstar, hage, hsize, hwindow, hlicense⟩

theorem Params.flaw?_eq (p : Params Float) :
    p.flaw? = (p.caps.find? (fun cap => cap.2 = 0)).elim
      (if isUnit p.unrecognizedLicenseScore then none
        else some (.licenseScore p.unrecognizedLicenseScore))
      (fun cap => some (.zeroCap cap.1)) := by
  unfold Params.flaw?
  cases p.caps.find? (fun cap => cap.2 = 0) <;> rfl

theorem Params.flaw?_spec (p : Params Float) : (p.flaw? = none ↔ p.Fit) ∧
    ∀ flaw, p.flaw? = some flaw ↔ p.Flawed flaw := by
  have htest : ∀ cap ∈ p.caps, decide (cap.2 = 0) = true ↔ cap.2 = 0 :=
    fun _ _ => decide_eq_true_iff
  refine ⟨?_, fun flaw => ?_⟩
  · rw [Params.flaw?_eq, elim_find?_eq_none_iff htest, Params.fit_iff, ← isUnit_iff]
    simp
  · rw [Params.flaw?_eq, elim_find?_eq_some_iff htest]
    constructor
    · rintro (⟨cap, hfirst, rfl⟩ | ⟨hcaps, hlicense⟩)
      · exact .zeroCap hfirst
      · obtain ⟨hunit, h⟩ := Option.ite_none_left_eq_some.1 hlicense
        obtain rfl := Option.some.inj h
        exact .licenseScore hcaps (mt (isUnit_iff _).2 hunit)
    · rintro (hfirst | ⟨hcaps, hlicense⟩)
      · exact .inl ⟨_, hfirst, rfl⟩
      · exact .inr ⟨hcaps, if_neg (mt (isUnit_iff _).1 hlicense)⟩

end Score

end Appraisal
