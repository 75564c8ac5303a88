import Appraisal.Proofs.Scan.Compiled
import Appraisal.Proofs.Scan.Findings

set_option autoImplicit false

namespace Appraisal.Scan

def Finding.isOf (chosen : List Rule) (f : Finding) : Bool := f.ruleId ∈ chosen.map Rule.id

def RuleSet.restrict (rules : RuleSet) (chosen : List Rule) : RuleSet :=
  ⟨rules.detectors.filter (fun d => d.rule.id ∈ chosen.map Rule.id)⟩

theorem scan_cases (path : String) (content : ByteArray) (statedSize : Nat) (limits : Limits) :
    (∃ reason, ∀ rules, scan path content statedSize rules limits = .skipped reason) ∨
      ∃ text, ∀ rules, scan path content statedSize rules limits =
        .scanned (textFindings path rules limits text) := by
  rcases scan_results path content statedSize limits with
    ⟨-, hscan⟩ | ⟨-, reason, -, hscan⟩ | ⟨-, text, -, hscan⟩
  · exact .inl ⟨_, hscan⟩
  · exact .inl ⟨reason, hscan⟩
  · exact .inr ⟨text.toList, hscan⟩

theorem filter_flatMap_of_owner {α β : Type} {p : β → Bool} {q : α → Bool} {g : α → List β}
    (h : ∀ x, ∀ y ∈ g x, p y = q x) (l : List α) :
    (l.flatMap g).filter p = (l.filter q).flatMap g := by
  induction l with
  | nil => rfl
  | cons x l ih =>
    rw [List.flatMap_cons, List.filter_append, ih]
    cases hq : q x with
    | true =>
      have hall : (g x).filter p = g x := List.filter_eq_self.2 fun y hy => (h x y hy).trans hq
      rw [hall, List.filter_cons_of_pos hq, List.flatMap_cons]
    | false =>
      have hnone : (g x).filter p = [] := List.filter_eq_nil_iff.2 fun y hy => by simp [h x y hy, hq]
      rw [hnone, List.filter_cons_of_neg (by simp [hq]), List.nil_append]

section

variable {rules : RuleSet} {chosen : List Rule}

theorem storedLine_congr {other : RuleSet} (h : rules.secrets = other.secrets)
    (placeholder line : List Char) :
    storedLine rules placeholder line = storedLine other placeholder line := by
  simp only [storedLine, redact, earliestSecret?, h]

theorem findingOf_congr {other : RuleSet} (h : rules.secrets = other.secrets) (path : String)
    (limits : Limits) (numbered : List (List Char × Nat)) (line : List Char) (number : Nat)
    (d : Detector) : findingOf path rules limits numbered line number d =
      findingOf path other limits numbered line number d := by
  funext o
  simp only [findingOf, contextOf, storedLine_congr h]

theorem secrets_restrict (h : ∀ d ∈ rules.secrets, d.rule ∈ chosen) :
    (rules.restrict chosen).secrets = rules.secrets := by
  rw [RuleSet.secrets, RuleSet.restrict, List.filter_filter]
  refine List.filter_congr fun d hd => ?_
  cases hsecret : d.isSecret with
  | false => rfl
  | true =>
    have hkept := h d (List.mem_filter.2 ⟨hd, hsecret⟩)
    exact (Bool.true_and _).trans (decide_eq_true (List.mem_map_of_mem hkept))

variable (path : String) (limits : Limits)

theorem filter_lineFindings (numbered : List (List Char × Nat)) (line : List Char) (number : Nat) :
    (lineFindings path rules limits numbered line number).filter (Finding.isOf chosen) =
      (rules.restrict chosen).detectors.flatMap (fun d =>
        (d.pattern.occurrences line).map (findingOf path rules limits numbered line number d)) := by
  refine filter_flatMap_of_owner (fun d f hf => ?_) rules.detectors
  obtain ⟨o, -, rfl⟩ := List.mem_map.1 hf
  rfl

theorem lineFindings_restrict (h : ∀ d ∈ rules.secrets, d.rule ∈ chosen)
    (numbered : List (List Char × Nat)) (line : List Char) (number : Nat) :
    (lineFindings path rules limits numbered line number).filter (Finding.isOf chosen) =
      lineFindings path (rules.restrict chosen) limits numbered line number := by
  rw [filter_lineFindings, lineFindings]
  exact List.flatMap_congr fun d _ => by rw [findingOf_congr (secrets_restrict h)]

theorem sightings_of_restrict (text : List Char) :
    ((textFindings path rules limits text).filter (Finding.isOf chosen)).map Finding.sighting =
      (textFindings path (rules.restrict chosen) limits text).map Finding.sighting := by
  simp only [textFindings, List.filter_flatMap, List.map_flatMap, filter_lineFindings,
    map_sighting_lineFindings, List.map_map]
  rfl

theorem findings_of_restrict (h : ∀ d ∈ rules.secrets, d.rule ∈ chosen) (text : List Char) :
    (textFindings path rules limits text).filter (Finding.isOf chosen) =
      textFindings path (rules.restrict chosen) limits text := by
  simp only [textFindings, List.filter_flatMap, lineFindings_restrict path limits h]

end

/-- Some rules of a set, in their order, find what the set finds by these rules: each match of each
rule, in the same order. What is stored with a match is the same when no secret rule is left out. -/
theorem findings_of_chosen_rules {given chosen : List Rule} {rules : RuleSet}
    (hcompile : RuleSet.compile given = .ok rules) (hchosen : chosen.Sublist given) :
    ∃ some, RuleSet.compile chosen = .ok some ∧
      ∀ (path : String) (content : ByteArray) (statedSize : Nat) (limits : Limits),
        (scan path content statedSize some limits).skip? =
            (scan path content statedSize rules limits).skip? ∧
          ((scan path content statedSize rules limits).findings.filter
              (Finding.isOf chosen)).map Finding.sighting =
            (scan path content statedSize some limits).findings.map Finding.sighting ∧
          ((∀ rule ∈ given, rule.category = .secret → rule ∈ chosen) →
            (scan path content statedSize rules limits).findings.filter (Finding.isOf chosen) =
              (scan path content statedSize some limits).findings) := by
  have hcompiled := RuleSet.compile_eq_ok_iff.1 hcompile
  refine ⟨rules.restrict chosen, RuleSet.compile_eq_ok_iff.2 (hcompiled.of_sublist hchosen),
    fun path content statedSize limits => ?_⟩
  rcases scan_cases path content statedSize limits with ⟨reason, hskip⟩ | ⟨text, hscan⟩
  · simp only [hskip, FileScan.findings, List.filter_nil, implies_true, and_self]
  · simp only [hscan, FileScan.findings, FileScan.skip?, true_and]
    refine ⟨sightings_of_restrict path limits text, fun hsecrets => ?_⟩
    refine findings_of_restrict path limits (fun d hd => ?_) text
    obtain ⟨hmem, hsecret⟩ := List.mem_filter.1 hd
    have hgiven : d.rule ∈ given := hcompiled.rules ▸ List.mem_map_of_mem hmem
    exact hsecrets d.rule hgiven (of_decide_eq_true hsecret)

def callRule : Rule := ⟨"call", .suspicious, "(eval|exec)\\(", .high⟩

def mixedRules : List Rule :=
  [⟨"open", .suspicious, "open", .low⟩, ⟨"key", .secret, "key\\s*=", .high⟩, callRule]

def mixedContent : ByteArray := "open(f)\neval(x) # key = 1\nexec(y); eval(z)\n".toUTF8

/-- The rule for calls alone finds the same calls, but the key behind one of them is stored. -/
theorem findings_of_call_rule : ∃ rules, RuleSet.compile mixedRules = .ok rules ∧
    [callRule].Sublist mixedRules ∧ ∃ some, RuleSet.compile [callRule] = .ok some ∧
      ((scan "bot.py" mixedContent 0 rules .default).findings.filter
          (Finding.isOf [callRule])).map Finding.sighting =
        (scan "bot.py" mixedContent 0 some .default).findings.map Finding.sighting ∧
      ((scan "bot.py" mixedContent 0 rules .default).findings.filter
          (Finding.isOf [callRule])).map Finding.contextLine =
        ["eval(x) # [REDACTED]", "exec(y); eval(z)", "exec(y); eval(z)"] ∧
      (scan "bot.py" mixedContent 0 some .default).findings.map Finding.contextLine =
        ["eval(x) # key = 1", "exec(y); eval(z)", "exec(y); eval(z)"] := by
  obtain ⟨rules, hcompile, hlines⟩ : ∃ rules, RuleSet.compile mixedRules = .ok rules ∧
      ((scan "bot.py" mixedContent 0 rules .default).findings.filter
        (Finding.isOf [callRule])).map Finding.contextLine =
      ["eval(x) # [REDACTED]", "exec(y); eval(z)", "exec(y); eval(z)"] := by
    decide +kernel
  obtain ⟨same, hsame, hcalls⟩ : ∃ some, RuleSet.compile [callRule] = .ok some ∧
      (scan "bot.py" mixedContent 0 some .default).findings.map Finding.contextLine =
      ["eval(x) # key = 1", "exec(y); eval(z)", "exec(y); eval(z)"] := by
    decide +kernel
  have hchosen : [callRule].Sublist mixedRules := by decide
  obtain ⟨part, hpart, hfound⟩ := findings_of_chosen_rules hcompile hchosen
  obtain ⟨-, hsightings, -⟩ := hfound "bot.py" mixedContent 0 .default
  obtain rfl := Except.ok.inj (hpart.symm.trans hsame)
  exact ⟨rules, hcompile, hchosen, part, hpart, hsightings, hlines, hcalls⟩

end Appraisal.Scan
