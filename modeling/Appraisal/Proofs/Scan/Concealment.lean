import Appraisal.Proofs.Pattern.Letters
import Appraisal.Proofs.Scan.Findings
import Appraisal.Proofs.Scan.StoredLine
import Appraisal.Scan.Defaults

set_option autoImplicit false

/-!
# Stored texts hold no secret

A rule set conceals its secrets behind a placeholder when no secret pattern can match across the cut
of a line, in the placeholder, or in the quoted match of another rule. What is then stored of any
content is clear of secrets, and the default rules with the default placeholder are such a set.
-/
namespace Appraisal.Scan

def Clear (rules : RuleSet) (cs : List Char) : Prop := ∀ d ∈ rules.secrets, ¬ d.pattern.Occurs cs

theorem clear_iff (rules : RuleSet) (cs : List Char) :
    Clear rules cs ↔ ∀ d ∈ rules.secrets, d.pattern.find? cs = none :=
  forall₂_congr fun d _ => (Pattern.find?_eq_none_iff d.pattern cs).symm

/-- Seen from the patterns alone: a secret matches by its word, repels the placeholder, and needs
a letter that no quoted match has. -/
def RuleSet.conceals (rules : RuleSet) (placeholder : List Char) : Bool :=
  rules.secrets.all (fun d => d.pattern.isFloating && d.pattern.repels placeholder &&
    rules.detectors.all (fun e => e.isSecret || d.pattern.needsBeyond e.pattern.letters))

variable {rules : RuleSet} {placeholder : List Char}

theorem RuleSet.conceals_secret (h : rules.conceals placeholder = true) {d : Detector}
    (hd : d ∈ rules.secrets) : d.pattern.isFloating = true ∧ d.pattern.repels placeholder = true := by
  have hall := List.all_eq_true.1 h d hd
  simp only [Bool.and_eq_true] at hall
  exact hall.1

theorem RuleSet.conceals_quoted (h : rules.conceals placeholder = true) {d e : Detector}
    (hd : d ∈ rules.secrets) (he : e ∈ rules.detectors) (hopen : e.isSecret = false) :
    d.pattern.needsBeyond e.pattern.letters = true := by
  have hall := List.all_eq_true.1 h d hd
  simp only [Bool.and_eq_true] at hall
  have hpair := List.all_eq_true.1 hall.2 e he
  simpa [hopen] using hpair

theorem Clear.of_isInfix (h : rules.conceals placeholder = true) {piece cs : List Char}
    (hpiece : piece <:+: cs) (hclear : Clear rules cs) : Clear rules piece :=
  fun d hd hocc => hclear d hd (hocc.of_isInfix (RuleSet.conceals_secret h hd).1 hpiece)

theorem clear_append (h : rules.conceals placeholder = true) {cs : List Char}
    (hclear : Clear rules cs) : Clear rules (cs ++ placeholder) := by
  intro d hd
  obtain ⟨hfloat, hrepels⟩ := RuleSet.conceals_secret h hd
  exact Pattern.repels_append hfloat hrepels (hclear d hd)

theorem ne_nil_of_accepts (h : rules.conceals placeholder = true) {d : Detector}
    (hd : d ∈ rules.secrets) {w : List Char} (hw : d.pattern.Accepts w) : w ≠ [] := by
  obtain ⟨c, hc, -⟩ := Pattern.exists_not_mem_of_repels (RuleSet.conceals_secret h hd).2 hw
  exact List.ne_nil_of_mem hc

theorem clear_nil (h : rules.conceals placeholder = true) : Clear rules [] := by
  intro d hd hocc
  obtain ⟨w, hw, hacc⟩ := Pattern.exists_infix_of_occurs hocc
  exact ne_nil_of_accepts h hd hacc (List.infix_nil.1 hw)

/-- A match that lies before the first secret of a line would be a secret itself. -/
theorem clear_take (h : rules.conceals placeholder = true) {line : List Char} {i : Nat}
    (hi : FirstSecretAt rules line i) : Clear rules (line.take i) := by
  intro d hd ⟨j, hj⟩
  obtain ⟨before, w, after, hcs, rfl, hw⟩ := Pattern.exists_word_of_matchesAt hj
  have hline : line = before ++ w ++ (after ++ line.drop i) := by
    rw [← List.append_assoc, ← hcs, List.take_append_drop]
  have hmatch : d.pattern.MatchesAt line before.length := by
    rw [hline]
    exact Pattern.matchesAt_of_accepts (RuleSet.conceals_secret h hd).1 hw
  have hlen : before.length + w.length ≤ i := by
    have hle : (line.take i).length ≤ i := List.length_take_le i line
    rw [hcs] at hle
    simp only [List.length_append] at hle
    omega
  have hpos : 0 < w.length := List.length_pos_iff.2 (ne_nil_of_accepts h hd hw)
  exact hi.2 before.length (by omega) ⟨d, hd, hmatch⟩

theorem clear_redact (h : rules.conceals placeholder = true) (line : List Char) :
    Clear rules (redact rules placeholder line) := by
  cases hfirst : earliestSecret? rules line with
  | none =>
    rw [redact_of_none hfirst]
    intro d hd ⟨i, hi⟩
    exact (earliestSecret?_eq_none_iff rules line).1 hfirst i ⟨d, hd, hi⟩
  | some i =>
    rw [redact_of_some hfirst]
    exact clear_append h (clear_take h (firstSecretAt_of_earliestSecret? hfirst))

theorem clear_storedLine (h : rules.conceals placeholder = true) (line : List Char) :
    Clear rules (storedLine rules placeholder line) :=
  (clear_redact h line).of_isInfix h (storedLine_isInfix rules placeholder line)

theorem clear_placeholder (h : rules.conceals placeholder = true) : Clear rules placeholder := by
  simpa using clear_append h (clear_nil h)

theorem clear_quoted (h : rules.conceals placeholder = true) {e : Detector}
    (he : e ∈ rules.detectors) (hopen : e.isSecret = false) {line : List Char}
    {o : Pattern.Occurrence} (ho : o ∈ e.pattern.occurrences line) : Clear rules o.text := by
  intro d hd
  obtain ⟨p, q, -, hlead, -, -, htext⟩ := Pattern.leads_of_mem_occurrencesFrom ho
  obtain ⟨w, t, hw, hrest, rfl⟩ := hlead.exists_word
  have hword : o.text = w := by
    rw [htext, hrest, Cursor.past_offset, Nat.add_sub_cancel_left, List.take_left]
  rw [hword]
  exact Pattern.not_occurs_of_needsBeyond (RuleSet.conceals_quoted h hd he hopen) hw

theorem clear_storedTexts {path : String} {limits : Limits}
    (h : rules.conceals limits.placeholder.toList = true) {numbered : List (List Char × Nat)}
    {line : List Char} {number : Nat} {d : Detector} (hd : d ∈ rules.detectors)
    {o : Pattern.Occurrence} (ho : o ∈ d.pattern.occurrences line) :
    ∀ text ∈ (findingOf path rules limits numbered line number d o).storedTexts,
      Clear rules text.toList := by
  intro text htext
  simp only [Finding.storedTexts, findingOf, List.mem_cons, List.mem_map] at htext
  rcases htext with rfl | rfl | ⟨entry, hentry, rfl⟩
  · cases hopen : d.isSecret with
    | true => exact clear_placeholder h
    | false => simpa using clear_quoted h hd hopen ho
  · rw [String.toList_ofList]
    exact clear_storedLine h line
  · cases hopen : d.isSecret with
    | true => simp [hopen] at hentry
    | false =>
      simp only [hopen, contextOf, Bool.false_eq_true, if_false, List.mem_map] at hentry
      obtain ⟨e, -, rfl⟩ := hentry
      rw [String.toList_ofList]
      exact clear_storedLine h e.1

theorem clear_of_mem_scan {path : String} {content : ByteArray} {statedSize : Nat}
    {limits : Limits} (h : rules.conceals limits.placeholder.toList = true) {f : Finding}
    (hf : f ∈ (scan path content statedSize rules limits).findings) :
    ∀ text ∈ f.storedTexts, Clear rules text.toList := by
  obtain ⟨text, -, hfindings⟩ := exists_text_of_scanned (scanned_of_mem_findings hf)
  rw [hfindings, mem_textFindings] at hf
  obtain ⟨line, number, -, d, hd, o, ho, rfl⟩ := hf
  exact clear_storedTexts h hd ho

theorem defaultRules_conceal : (RuleSet.compile defaultRules).toOption.any
    (RuleSet.conceals · Limits.default.placeholder.toList) = true := by
  decide +kernel

/-- With the default rules and placeholder, none of the six secret rules matches anywhere in what
is stored of any content, within any limits. -/
theorem default_findings_clear : ∃ rules, RuleSet.compile defaultRules = .ok rules ∧
    rules.secrets.map Detector.rule = defaultSecretRules ∧
    ∀ (path : String) (content : ByteArray) (statedSize maxFileSize probeBytes contextLines : Nat),
      ∀ f ∈ (scan path content statedSize rules
        ⟨maxFileSize, probeBytes, contextLines, Limits.default.placeholder⟩).findings,
        ∀ text ∈ f.storedTexts, ∀ d ∈ rules.secrets, d.pattern.find? text.toList = none := by
  have hconceal := defaultRules_conceal
  cases hcompile : RuleSet.compile defaultRules with
  | error e => simp [hcompile, Except.toOption] at hconceal
  | ok rules =>
    simp only [hcompile, Except.toOption, Option.any_some] at hconceal
    refine ⟨rules, rfl, ?_, ?_⟩
    · rw [RuleSet.secrets_of_compile hcompile]
      rfl
    · intro path content statedSize maxFileSize probeBytes contextLines f hf text htext
      have hlimits : rules.conceals (Limits.mk maxFileSize probeBytes contextLines
          Limits.default.placeholder).placeholder.toList = true := hconceal
      exact (clear_iff rules text.toList).1 (clear_of_mem_scan hlimits hf text htext)

def passwordContent : ByteArray := "pwd = 'hunter2hunter2'  # eval(x)\neval(y)\n".toUTF8

theorem password_content_clear : ∃ rules, RuleSet.compile defaultRules = .ok rules ∧
    (scan "bot.py" passwordContent 0 rules .default).findings.map
      (fun f => (f.lineNumber, f.snippet, f.contextLine)) =
        [(1, "[REDACTED]", "[REDACTED]"), (1, "eval(", "[REDACTED]"), (2, "eval(", "eval(y)")] ∧
    ∀ f ∈ (scan "bot.py" passwordContent 0 rules .default).findings,
      ∀ text ∈ f.storedTexts, ∀ d ∈ rules.secrets, d.pattern.find? text.toList = none := by
  obtain ⟨rules, hcompile, -, hclear⟩ := default_findings_clear
  have hfindings : (RuleSet.compile defaultRules).toOption.map (fun rules =>
      (scan "bot.py" passwordContent 0 rules .default).findings.map
        (fun f => (f.lineNumber, f.snippet, f.contextLine))) =
      some [(1, "[REDACTED]", "[REDACTED]"), (1, "eval(", "[REDACTED]"),
        (2, "eval(", "eval(y)")] := by
    decide +kernel
  rw [hcompile] at hfindings
  exact ⟨rules, hcompile, Option.some.inj hfindings,
    hclear "bot.py" passwordContent 0 1048576 8000 2⟩

end Appraisal.Scan
