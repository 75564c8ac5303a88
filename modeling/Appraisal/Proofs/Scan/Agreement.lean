import Appraisal.Proofs.Pattern.Occurrences
import Appraisal.Proofs.Pattern.Openings
import Appraisal.Proofs.Scan.Compiled
import Appraisal.Proofs.Scan.Findings
import Appraisal.Proofs.Scan.StoredLine

set_option autoImplicit false

namespace Appraisal.Scan

/-- Some secret rule matches in the line, but whatever one matches there is empty. -/
def OnlyEmptySecrets (rules : RuleSet) (line : List Char) : Prop :=
  (∃ d ∈ rules.secrets, d.pattern.Occurs line) ∧ ∀ d ∈ rules.secrets, d.pattern.OnlyEmpty line

theorem earliestSecret?_isSome_iff (rules : RuleSet) (line : List Char) :
    (earliestSecret? rules line).isSome = true ↔ ∃ d ∈ rules.secrets, d.pattern.Occurs line := by
  rw [Option.isSome_iff_ne_none, Ne, earliestSecret?_eq_none_iff]
  simp only [SecretAt, Pattern.Occurs, not_forall, not_not]
  exact ⟨fun ⟨i, d, hd, hi⟩ => ⟨d, hd, i, hi⟩, fun ⟨d, hd, i, hi⟩ => ⟨i, d, hd, hi⟩⟩

variable {path : String} {content : ByteArray} {statedSize : Nat} {rules : RuleSet}
  {limits : Limits} {findings : List Finding} {line : List Char} {number : Nat}

theorem exists_secret_finding_iff
    (hscan : scan path content statedSize rules limits = .scanned findings)
    (hline : (line, number) ∈ (linesOf content).zipIdx 1) :
    (∃ f ∈ findings, f.lineNumber = number ∧ f.category = .secret) ↔
      ∃ d ∈ rules.secrets, d.pattern.occurrences line ≠ [] := by
  constructor
  · rintro ⟨f, hf, hnumber, hcategory⟩
    obtain ⟨d, hd, hsame, -, o, ho⟩ := exists_occurrence_of_finding hscan hline hf hnumber
    have hsecret : d.isSecret = true := by
      rw [Detector.isSecret, hsame, hcategory]
      rfl
    exact ⟨d, List.mem_filter.2 ⟨hd, hsecret⟩, List.ne_nil_of_mem ho⟩
  · rintro ⟨d, hd, hfound⟩
    obtain ⟨hmem, hsecret⟩ := List.mem_filter.1 hd
    obtain ⟨f, hf, hnumber, hcategory, -⟩ := exists_finding_of_occurrences hscan hline hmem hfound
    exact ⟨f, hf, hnumber, hcategory.trans (of_decide_eq_true hsecret)⟩

/-- On each line with a secret finding a secret is found by redaction too. The two disagree exactly
where secret rules match nothing but the empty text, so never when no secret rule accepts it. -/
theorem redaction_agrees_iff
    (hscan : scan path content statedSize rules limits = .scanned findings)
    (hline : (line, number) ∈ (linesOf content).zipIdx 1) :
    ((∃ f ∈ findings, f.lineNumber = number ∧ f.category = .secret) →
        (earliestSecret? rules line).isSome = true) ∧
      (((earliestSecret? rules line).isSome = true ↔
        ∃ f ∈ findings, f.lineNumber = number ∧ f.category = .secret) ↔
          ¬ OnlyEmptySecrets rules line) ∧
      ((∀ d ∈ rules.secrets, ¬ d.pattern.Accepts []) →
        ((earliestSecret? rules line).isSome = true ↔
          ∃ f ∈ findings, f.lineNumber = number ∧ f.category = .secret)) := by
  rw [exists_secret_finding_iff hscan hline, earliestSecret?_isSome_iff]
  have hcut : (∃ d ∈ rules.secrets, d.pattern.occurrences line ≠ []) →
      ∃ d ∈ rules.secrets, d.pattern.Occurs line := by
    rintro ⟨d, hd, hfound⟩
    obtain ⟨o, ho⟩ := List.exists_mem_of_ne_nil _ hfound
    exact ⟨d, hd, Pattern.occurs_of_mem_occurrences ho⟩
  refine ⟨hcut, ⟨fun h hempty => ?_, fun h => ⟨fun hocc => ?_, hcut⟩⟩,
    fun hwords => ⟨fun ⟨d, hd, hocc⟩ => ?_, hcut⟩⟩
  · obtain ⟨d, hd, hfound⟩ := h.1 hempty.1
    exact hfound ((Pattern.occurrences_eq_nil_iff d.pattern line).2 (hempty.2 d hd))
  · by_contra hnone
    refine h ⟨hocc, fun d hd => (Pattern.occurrences_eq_nil_iff d.pattern line).1 ?_⟩
    by_contra hfound
    exact hnone ⟨d, hd, hfound⟩
  · exact ⟨d, hd, Pattern.occurrences_ne_nil_of_occurs (hwords d hd) hocc⟩

def digitRules : List Rule :=
  [⟨"digits", .secret, "[0-9]*", .high⟩, ⟨"call", .suspicious, "eval\\(", .high⟩]

def callLine : List Char := "eval(x)".toList

def numberLine : List Char := "n = 12; eval(y)".toList

def digitContent : ByteArray := "eval(x)\nn = 12; eval(y)\n".toUTF8

def digitScan (rules : RuleSet) : FileScan := scan "bot.py" digitContent 0 rules .default

theorem mem_digitLines : (callLine, 1) ∈ (linesOf digitContent).zipIdx 1 ∧
    (numberLine, 2) ∈ (linesOf digitContent).zipIdx 1 := by
  decide +kernel

theorem exists_digitScan : ∃ rules, RuleSet.compile digitRules = .ok rules ∧
    digitScan rules = .scanned (digitScan rules).findings ∧
    earliestSecret? rules callLine = some 0 ∧ earliestSecret? rules numberLine = some 0 ∧
    (¬ ∃ f ∈ (digitScan rules).findings, f.lineNumber = 1 ∧ f.category = .secret) ∧
    ∃ f ∈ (digitScan rules).findings, f.lineNumber = 2 ∧ f.category = .secret := by
  decide +kernel

def namedContent : ByteArray := "eval(x)\nmy key=1\n".toUTF8

/-- A number on the line is enough for agreement, though redaction stops at the empty match before
it. For keys, whose words are not empty, nothing has to be known of the line. -/
theorem digits_only_empty_on_first_line :
    (∃ rules, RuleSet.compile digitRules = .ok rules ∧
      digitScan rules = .scanned (digitScan rules).findings ∧
      OnlyEmptySecrets rules callLine ∧ ¬ OnlyEmptySecrets rules numberLine) ∧
    ∃ f ∈ (scan "bot.py" namedContent 0 keyRules .default).findings,
      f.lineNumber = 2 ∧ f.category = .secret := by
  constructor
  · obtain ⟨rules, hcompile, hscan, hcall, hnumber, hnone, hfound⟩ := exists_digitScan
    obtain ⟨-, hfirst, -⟩ := redaction_agrees_iff hscan mem_digitLines.1
    obtain ⟨-, hsecond, -⟩ := redaction_agrees_iff hscan mem_digitLines.2
    refine ⟨rules, hcompile, hscan, ?_, ?_⟩
    · by_contra hempty
      exact hnone ((hfirst.2 hempty).1 (by rw [hcall]; rfl))
    · exact hsecond.1 (iff_of_true (by rw [hnumber]; rfl) hfound)
  · have hscan : scan "bot.py" namedContent 0 keyRules .default =
        .scanned (scan "bot.py" namedContent 0 keyRules .default).findings := by
      decide +kernel
    have hline : ("my key=1".toList, 2) ∈ (linesOf namedContent).zipIdx 1 := by decide +kernel
    have hwords : ∀ d ∈ keyRules.secrets, ¬ d.pattern.Accepts [] := by
      have hfirst : ∀ d ∈ keyRules.secrets, d.pattern.startsOutside [] = true := by decide
      exact fun d hd => Pattern.not_accepts_nil (hfirst d hd)
    obtain ⟨-, -, hagree⟩ := redaction_agrees_iff hscan hline
    exact (hagree hwords).1 (by decide +kernel)

theorem call_cut_without_secret : ∃ rules, RuleSet.compile digitRules = .ok rules ∧
    digitScan rules = .scanned (digitScan rules).findings ∧
    (callLine, 1) ∈ (linesOf digitContent).zipIdx 1 ∧
    redact rules Limits.default.placeholder.toList callLine = "[REDACTED]".toList ∧
    ¬ ((earliestSecret? rules callLine).isSome = true ↔
      ∃ f ∈ (digitScan rules).findings, f.lineNumber = 1 ∧ f.category = .secret) := by
  obtain ⟨rules, hcompile, hscan, hcall, -, hnone, -⟩ := exists_digitScan
  refine ⟨rules, hcompile, hscan, mem_digitLines.1, ?_, fun hagree => ?_⟩
  · rw [redact_of_some hcall]
    rfl
  · exact hnone (hagree.1 (by rw [hcall]; rfl))

end Appraisal.Scan
