import Appraisal.Scan.Rule
import Mathlib.Data.List.Nodup
import Mathlib.Data.List.Perm.Subperm

set_option autoImplicit false

namespace Appraisal.Scan

structure Compiled (given : List Rule) (detectors : List Detector) : Prop where
  rules : detectors.map Detector.rule = given
  patterns : ∀ d ∈ detectors, Pattern.read? d.rule.pattern.toList = some d.pattern
  names : (given.map Rule.id).Nodup

theorem compiled_nil_iff {detectors : List Detector} : Compiled [] detectors ↔ detectors = [] := by
  constructor
  · exact fun h => List.map_eq_nil_iff.1 h.rules
  · rintro rfl
    exact ⟨rfl, by simp, List.nodup_nil⟩

theorem compiled_cons_iff {rule : Rule} {rest : List Rule} {detectors : List Detector} :
    Compiled (rule :: rest) detectors ↔ ∃ pattern tail, detectors = ⟨rule, pattern⟩ :: tail ∧
      Pattern.read? rule.pattern.toList = some pattern ∧ Compiled rest tail ∧
        rule.id ∉ rest.map Rule.id := by
  constructor
  · intro h
    obtain ⟨d, tail, rfl, rfl, rfl⟩ := List.map_eq_cons_iff.1 h.rules
    have hpatterns := List.forall_mem_cons.1 h.patterns
    have hnames := List.nodup_cons.1 h.names
    exact ⟨d.pattern, tail, rfl, hpatterns.1, ⟨rfl, hpatterns.2, hnames.2⟩, hnames.1⟩
  · rintro ⟨pattern, tail, rfl, hread, htail, hname⟩
    exact ⟨by rw [List.map_cons, htail.rules], List.forall_mem_cons.2 ⟨hread, htail.patterns⟩,
      List.nodup_cons.2 ⟨hname, htail.names⟩⟩

theorem exists_compiled_iff {given : List Rule} : (∃ detectors, Compiled given detectors) ↔
    (given.map Rule.id).Nodup ∧
      ∀ rule ∈ given, ∃ pattern, Pattern.read? rule.pattern.toList = some pattern := by
  constructor
  · rintro ⟨detectors, h⟩
    refine ⟨h.names, fun rule hrule => ?_⟩
    rw [← h.rules] at hrule
    obtain ⟨d, hd, rfl⟩ := List.mem_map.1 hrule
    exact ⟨d.pattern, h.patterns d hd⟩
  · rintro ⟨hnames, hpatterns⟩
    induction given with
    | nil => exact ⟨[], compiled_nil_iff.2 rfl⟩
    | cons rule rest ih =>
      obtain ⟨hname, hnames⟩ := List.nodup_cons.1 hnames
      obtain ⟨⟨pattern, hread⟩, hpatterns⟩ := List.forall_mem_cons.1 hpatterns
      obtain ⟨tail, htail⟩ := ih hnames hpatterns
      exact ⟨_, compiled_cons_iff.2 ⟨pattern, tail, rfl, hread, htail, hname⟩⟩

namespace RuleSet

theorem compileFrom_cons_iff {seen : List String} {rule : Rule} {rest : List Rule}
    {detectors : List Detector} : compileFrom seen (rule :: rest) = .ok detectors ↔
      rule.id ∉ seen ∧ ∃ pattern tail, Pattern.read? rule.pattern.toList = some pattern ∧
        compileFrom (rule.id :: seen) rest = .ok tail ∧ detectors = ⟨rule, pattern⟩ :: tail := by
  rw [compileFrom]
  by_cases hseen : rule.id ∈ seen
  · simp [hseen]
  · cases hread : Pattern.read? rule.pattern.toList with
    | none => simp [hseen]
    | some pattern =>
      cases htail : compileFrom (rule.id :: seen) rest with
      | error e => simp [hseen]
      | ok tail => simp [hseen, eq_comm]

theorem compileFrom_eq_ok_iff {seen : List String} {given : List Rule}
    {detectors : List Detector} : compileFrom seen given = .ok detectors ↔
      Compiled given detectors ∧ ∀ name ∈ given.map Rule.id, name ∉ seen := by
  induction given generalizing seen detectors with
  | nil => simp [compileFrom, compiled_nil_iff, eq_comm]
  | cons rule rest ih =>
    rw [compileFrom_cons_iff, compiled_cons_iff]
    constructor
    · rintro ⟨hseen, pattern, tail, hread, htail, rfl⟩
      obtain ⟨htail, hfresh⟩ := ih.1 htail
      have hname : rule.id ∉ rest.map Rule.id := fun h => hfresh _ h List.mem_cons_self
      refine ⟨⟨pattern, tail, rfl, hread, htail, hname⟩, List.forall_mem_cons.2 ⟨hseen, ?_⟩⟩
      exact fun name h hold => hfresh name h (List.mem_cons_of_mem _ hold)
    · rintro ⟨⟨pattern, tail, rfl, hread, htail, hname⟩, hfresh⟩
      obtain ⟨hseen, hfresh⟩ := List.forall_mem_cons.1 hfresh
      refine ⟨hseen, pattern, tail, hread, ih.2 ⟨htail, fun name h => ?_⟩, rfl⟩
      exact List.not_mem_cons_of_ne_of_not_mem (fun heq => hname (heq ▸ h)) (hfresh name h)

theorem compile_eq_ok_iff {given : List Rule} {set : RuleSet} :
    compile given = .ok set ↔ Compiled given set.detectors := by
  have hfrom : compileFrom [] given = .ok set.detectors ↔ Compiled given set.detectors := by
    simp [compileFrom_eq_ok_iff]
  rw [← hfrom, compile]
  cases compileFrom [] given with
  | error e => simp [Except.map]
  | ok detectors =>
    simp only [Except.map, Except.ok.injEq]
    constructor
    · rintro rfl
      rfl
    · rintro rfl
      rfl

theorem exists_compile_iff {given : List Rule} :
    (∃ set, compile given = .ok set) ↔ ∃ detectors, Compiled given detectors := by
  simp only [compile_eq_ok_iff]
  exact ⟨fun ⟨set, h⟩ => ⟨set.detectors, h⟩, fun ⟨detectors, h⟩ => ⟨⟨detectors⟩, h⟩⟩

theorem read?_of_compile {given : List Rule} {set : RuleSet} (h : compile given = .ok set) :
    ∀ d ∈ set.detectors, Pattern.read? d.rule.pattern.toList = some d.pattern :=
  (compile_eq_ok_iff.1 h).patterns

/-- Whether rules compile to a set with a property can be computed. -/
instance decidableCompiles (given : List Rule) (P : RuleSet → Prop) [DecidablePred P] :
    Decidable (∃ set, compile given = .ok set ∧ P set) :=
  match compile given with
  | .ok set => decidable_of_iff (P set) (by simp)
  | .error _ => .isFalse (by simp)

theorem exists_secret_of_compile {given : List Rule} {set : RuleSet} (h : compile given = .ok set)
    {rule : Rule} (hrule : rule ∈ given) (hsecret : rule.category = .secret) :
    ∃ d ∈ set.secrets, d.rule = rule := by
  have hmem : rule ∈ set.secrets.map Detector.rule := by
    rw [secrets_of_compile h]
    exact List.mem_filter.2 ⟨hrule, by simp [hsecret]⟩
  exact List.mem_map.1 hmem

end RuleSet

inductive Refused (names : List String) (rule : Rule) : RuleError → Prop
  | duplicateId (h : rule.id ∈ names) : Refused names rule (.duplicateId rule.id)
  | unreadablePattern (hfresh : rule.id ∉ names)
      (hread : Pattern.read? rule.pattern.toList = none) :
      Refused names rule (.unreadablePattern rule.id)

theorem Refused.congr {names names' : List String} (hnames : ∀ name, name ∈ names ↔ name ∈ names')
    {rule : Rule} {e : RuleError} (h : Refused names rule e) : Refused names' rule e := by
  cases h with
  | duplicateId h => exact .duplicateId ((hnames _).1 h)
  | unreadablePattern hfresh hread => exact .unreadablePattern (mt (hnames _).2 hfresh) hread

namespace RuleSet

theorem compileFrom_cons_error_iff {seen : List String} {rule : Rule} {rest : List Rule}
    {e : RuleError} : compileFrom seen (rule :: rest) = .error e ↔
      Refused seen rule e ∨ rule.id ∉ seen ∧ (Pattern.read? rule.pattern.toList).isSome = true ∧
        compileFrom (rule.id :: seen) rest = .error e := by
  rw [compileFrom]
  by_cases hseen : rule.id ∈ seen
  · simp only [hseen, if_true, Except.error.injEq, not_true_eq_false, false_and, or_false]
    constructor
    · rintro rfl
      exact .duplicateId hseen
    · rintro (h | ⟨h, -⟩)
      · rfl
      · exact absurd hseen h
  · cases hread : Pattern.read? rule.pattern.toList with
    | none =>
      simp only [hseen, if_false, Except.error.injEq, Option.isSome_none, Bool.false_eq_true,
        false_and, and_false, or_false]
      constructor
      · rintro rfl
        exact .unreadablePattern hseen hread
      · rintro (h | h)
        · exact absurd h hseen
        · rfl
    | some pattern =>
      have hpasses : ¬ Refused seen rule e := by
        rintro (h | ⟨-, h⟩)
        · exact hseen h
        · exact Option.some_ne_none _ (hread.symm.trans h)
      cases htail : compileFrom (rule.id :: seen) rest with
      | error e' => simp [hseen, hpasses]
      | ok tail => simp [hseen, hpasses]

/-- Compiling fails at the first rule that is refused behind those that compile. -/
theorem compileFrom_eq_error_iff {seen : List String} {given : List Rule} {e : RuleError} :
    compileFrom seen given = .error e ↔ ∃ before rule after, given = before ++ rule :: after ∧
      (∃ detectors, compileFrom seen before = .ok detectors) ∧
        Refused (before.map Rule.id ++ seen) rule e := by
  induction given generalizing seen with
  | nil => simp [compileFrom]
  | cons rule rest ih =>
    -- it does not matter on which side the name of the first rule is counted
    have hnames (before : List Rule) (name : String) :
        name ∈ before.map Rule.id ++ rule.id :: seen ↔
          name ∈ (rule :: before).map Rule.id ++ seen := by
      simp [or_left_comm]
    rw [compileFrom_cons_error_iff]
    constructor
    · rintro (hrefused | ⟨hseen, hread, htail⟩)
      · exact ⟨[], rule, rest, rfl, ⟨[], rfl⟩, hrefused⟩
      · obtain ⟨pattern, hread⟩ := Option.isSome_iff_exists.1 hread
        obtain ⟨before, culprit, after, rfl, ⟨detectors, hbefore⟩, hrefused⟩ := ih.1 htail
        have hcompiles := compileFrom_cons_iff.2 ⟨hseen, pattern, detectors, hread, hbefore, rfl⟩
        exact ⟨rule :: before, culprit, after, rfl, ⟨_, hcompiles⟩,
          hrefused.congr (hnames before)⟩
    · rintro ⟨before, culprit, after, hgiven, ⟨detectors, hbefore⟩, hrefused⟩
      cases before with
      | nil =>
        obtain ⟨rfl, rfl⟩ := List.cons.inj hgiven
        exact .inl hrefused
      | cons first before =>
        obtain ⟨rfl, rfl⟩ := List.cons.inj hgiven
        obtain ⟨hseen, pattern, tail, hread, htail, -⟩ := compileFrom_cons_iff.1 hbefore
        refine .inr ⟨hseen, Option.isSome_iff_exists.2 ⟨pattern, hread⟩, ih.2 ?_⟩
        exact ⟨before, culprit, after, rfl, ⟨tail, htail⟩,
          hrefused.congr fun name => (hnames before name).symm⟩

theorem compile_eq_error_iff {given : List Rule} {e : RuleError} :
    compile given = .error e ↔ ∃ before rule after, given = before ++ rule :: after ∧
      (∃ detectors, Compiled before detectors) ∧ Refused (before.map Rule.id) rule e := by
  have hfrom : compile given = .error e ↔ compileFrom [] given = .error e := by
    rw [compile]
    cases compileFrom [] given <;> simp [Except.map]
  simp only [hfrom, compileFrom_eq_error_iff, compileFrom_eq_ok_iff, List.append_nil,
    List.not_mem_nil, not_false_eq_true, implies_true, and_true]

end RuleSet

theorem filter_key_of_sublist {α κ : Type} [DecidableEq κ] (key : α → κ) {part whole : List α}
    (h : part.Sublist whole) (hkeys : (whole.map key).Nodup) :
    whole.filter (fun x => key x ∈ part.map key) = part := by
  have hkept : part.Sublist (whole.filter (fun x => key x ∈ part.map key)) := by
    have hall : part.filter (fun x => key x ∈ part.map key) = part :=
      List.filter_eq_self.2 fun x hx => decide_eq_true (List.mem_map_of_mem hx)
    have hsub := h.filter (fun x => key x ∈ part.map key)
    rwa [hall] at hsub
  have hsubset : whole.filter (fun x => key x ∈ part.map key) ⊆ part := by
    intro x hx
    obtain ⟨hx, hkey⟩ := List.mem_filter.1 hx
    obtain ⟨y, hy, heq⟩ := List.mem_map.1 (of_decide_eq_true hkey)
    exact List.inj_on_of_nodup_map hkeys (h.subset hy) hx heq ▸ hy
  have hlength := (hkeys.of_map.filter _).subperm hsubset |>.length_le
  exact (hkept.eq_of_length_le hlength).symm

theorem Compiled.of_sublist {given chosen : List Rule} {detectors : List Detector}
    (h : Compiled given detectors) (hsub : chosen.Sublist given) :
    Compiled chosen (detectors.filter (fun d => d.rule.id ∈ chosen.map Rule.id)) := by
  rw [← h.rules, List.sublist_map_iff] at hsub
  obtain ⟨part, hpart, rfl⟩ := hsub
  have hnames (ds : List Detector) :
      (ds.map Detector.rule).map Rule.id = ds.map (fun d => d.rule.id) := List.map_map
  have hkeys : (detectors.map (fun d => d.rule.id)).Nodup := by
    rw [← hnames, h.rules]
    exact h.names
  have hfilter := filter_key_of_sublist (fun d : Detector => d.rule.id) hpart hkeys
  rw [hnames, hfilter]
  refine ⟨rfl, fun d hd => h.patterns d (hpart.subset hd), ?_⟩
  rw [hnames]
  exact (hpart.map _).nodup hkeys

end Appraisal.Scan
