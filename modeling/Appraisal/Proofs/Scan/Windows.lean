import Appraisal.Proofs.Scan.Findings
import Mathlib.Data.List.Sort

set_option autoImplicit false

namespace Appraisal.Scan

def saturatingAdd (a b : Nat) : Nat := min (a + b) (UInt64.size - 1)

/-- The places in reach of a place among `count` lines, counted from zero and without that place. -/
def windowPlaces (count place reach : Nat) : List Nat :=
  let stop := min (saturatingAdd (saturatingAdd place reach) 1) count
  (List.range' (place - reach) (stop - (place - reach))).filter (· ≠ place)

structure Finding.HasWindow (f : Finding) (content : ByteArray) (rules : RuleSet)
    (limits : Limits) : Prop where
  ascending : (f.context.map ContextLine.lineNumber).Pairwise (· < ·)
  mem_iff : ∀ n, n ∈ f.context.map ContextLine.lineNumber ↔
    max 1 (f.lineNumber - limits.contextLines) ≤ n ∧
      n ≤ min (linesOf content).length (f.lineNumber + limits.contextLines) ∧ n ≠ f.lineNumber
  texts : ∀ c ∈ f.context, ∃ line, (linesOf content)[c.lineNumber - 1]? = some line ∧
    c.text = String.ofList
      (Text.truncate 240 (Text.trim (redact rules limits.placeholder.toList line)))
  inWords : content.size < UInt64.size → f.context.map ContextLine.lineNumber =
    (windowPlaces (linesOf content).length (f.lineNumber - 1) limits.contextLines).map (· + 1)

theorem length_le_size_utf8Encode (cs : List Char) : cs.length ≤ cs.utf8Encode.size := by
  induction cs with
  | nil => exact Nat.zero_le _
  | cons c r ih =>
    have hc : 0 < [c].utf8Encode.size := by
      rw [List.utf8Encode_singleton, List.size_toByteArray]
      exact List.length_pos_of_ne_nil String.utf8EncodeChar_ne_nil
    rw [List.utf8Encode_cons, ByteArray.size_append, List.length_cons]
    omega

theorem length_linesOf_le (content : ByteArray) : (linesOf content).length ≤ content.size := by
  unfold linesOf
  cases htext : String.fromUTF8? content with
  | none => exact Nat.zero_le _
  | some text =>
    have hbytes : text.toList.utf8Encode = content := by
      rw [String.utf8Encode_toList]
      unfold String.fromUTF8? at htext
      split at htext
      · rw [← Option.some.inj htext]
        rfl
      · cases htext
    exact (Text.length_lines_le _).trans (hbytes ▸ length_le_size_utf8Encode text.toList)

theorem mem_windowPlaces {count place reach i : Nat} (hcount : count < UInt64.size) :
    i ∈ windowPlaces count place reach ↔
      place ≤ i + reach ∧ i ≤ place + reach ∧ i < count ∧ i ≠ place := by
  simp only [windowPlaces, saturatingAdd, List.mem_filter, List.mem_range'_1, decide_eq_true_eq]
  omega

theorem pairwise_windowPlaces (count place reach : Nat) :
    (windowPlaces count place reach).Pairwise (· < ·) :=
  List.Pairwise.filter _ List.pairwise_lt_range'

variable {rules : RuleSet} {limits : Limits}

theorem numbers_contextOf (rules : RuleSet) (limits : Limits) (lines : List (List Char))
    (number : Nat) :
    (contextOf rules limits (lines.zipIdx 1) number).map ContextLine.lineNumber =
      (List.range' 1 lines.length).filter (fun n => n != number &&
        number ≤ n + limits.contextLines && n ≤ number + limits.contextLines) := by
  rw [contextOf, List.map_map, ← List.zipIdx_map_snd, List.filter_map]
  rfl

theorem pairwise_numbers_contextOf (rules : RuleSet) (limits : Limits) (lines : List (List Char))
    (number : Nat) :
    ((contextOf rules limits (lines.zipIdx 1) number).map ContextLine.lineNumber).Pairwise
      (· < ·) := by
  rw [numbers_contextOf]
  exact List.Pairwise.filter _ List.pairwise_lt_range'

theorem mem_numbers_contextOf {lines : List (List Char)} {number n : Nat} :
    n ∈ (contextOf rules limits (lines.zipIdx 1) number).map ContextLine.lineNumber ↔
      max 1 (number - limits.contextLines) ≤ n ∧
        n ≤ min lines.length (number + limits.contextLines) ∧ n ≠ number := by
  simp only [numbers_contextOf, List.mem_filter, List.mem_range'_1, Bool.and_eq_true, bne_iff_ne,
    decide_eq_true_eq]
  omega

theorem numbers_contextOf_inWords {lines : List (List Char)} {number : Nat}
    (hnumber : 1 ≤ number) (hlines : lines.length < UInt64.size) :
    (contextOf rules limits (lines.zipIdx 1) number).map ContextLine.lineNumber =
      (windowPlaces lines.length (number - 1) limits.contextLines).map (· + 1) := by
  -- both lists ascend, so they are equal when they have the same members
  refine (pairwise_numbers_contextOf rules limits lines number).eq_of_mem_iff
    (List.pairwise_map.2 ((pairwise_windowPlaces _ _ _).imp Nat.succ_lt_succ)) fun n => ?_
  rw [mem_numbers_contextOf]
  simp only [List.mem_map, mem_windowPlaces hlines]
  constructor
  · intro h
    exact ⟨n - 1, by omega, by omega⟩
  · rintro ⟨i, hi, rfl⟩
    omega

theorem exists_line_of_mem_contextOf {lines : List (List Char)} {number : Nat} {c : ContextLine}
    (h : c ∈ contextOf rules limits (lines.zipIdx 1) number) :
    ∃ line, lines[c.lineNumber - 1]? = some line ∧
      c.text = String.ofList (storedLine rules limits.placeholder.toList line) := by
  obtain ⟨e, he, rfl⟩ := List.mem_map.1 h
  have hline := List.mem_zipIdx_iff_le_and_getElem?_sub.1 (List.mem_filter.1 he).1
  exact ⟨e.1, hline.2, rfl⟩

/-- A secret has no context, and the context of anything else is exactly the window around it. -/
theorem context_of_findings {path : String} {content : ByteArray} {statedSize : Nat}
    {findings : List Finding}
    (hscan : scan path content statedSize rules limits = .scanned findings) :
    ∀ f ∈ findings, (f.category = .secret → f.context = []) ∧
      (f.category = .suspicious → f.HasWindow content rules limits) := by
  intro f hf
  obtain ⟨text, htext, rfl⟩ := exists_text_of_scanned hscan
  obtain ⟨line, number, hline, d, -, o, -, rfl⟩ := mem_textFindings.1 hf
  have hlines : linesOf content = Text.lines text.toList := by rw [linesOf, htext]
  constructor
  · intro hcategory
    have hsecret : d.isSecret = true := beq_iff_eq.2 hcategory
    exact if_pos hsecret
  · intro hcategory
    have hsecret : ¬ d.isSecret = true := by
      rw [Detector.isSecret, show d.rule.category = .suspicious from hcategory]
      decide
    have hcontext : (findingOf path rules limits (numberedLines text.toList) line number d o).context
        = contextOf rules limits ((linesOf content).zipIdx 1) number := by
      rw [hlines]
      exact if_neg hsecret
    have hfirst : 1 ≤ number := (List.mem_zipIdx hline).1
    refine ⟨?_, fun n => ?_, fun c hc => ?_, fun hsize => ?_⟩
    · rw [hcontext]
      exact pairwise_numbers_contextOf rules limits _ number
    · rw [hcontext]
      exact mem_numbers_contextOf
    · rw [hcontext] at hc
      exact exists_line_of_mem_contextOf hc
    · rw [hcontext]
      exact numbers_contextOf_inWords hfirst (Nat.lt_of_le_of_lt (length_linesOf_le content) hsize)

def windowContent : ByteArray := "  first \nmy key=1\neval(x)\n\nlast".toUTF8

def windowScan (reach : Nat) : FileScan :=
  scan "bot.py" windowContent 0 keyRules { Limits.default with contextLines := reach }

theorem context_with_largest_reach :
    windowScan (UInt64.size - 1) = .scanned (windowScan (UInt64.size - 1)).findings ∧
      ((windowScan (UInt64.size - 1)).findings.map (fun f => (f.lineNumber, f.category)) =
        [(2, .secret), (3, .suspicious)]) ∧
      ((windowScan (UInt64.size - 1)).findings.flatMap Finding.context =
        [⟨1, "first"⟩, ⟨2, "my [REDACTED]"⟩, ⟨4, ""⟩, ⟨5, "last"⟩]) ∧
      ∀ f ∈ (windowScan (UInt64.size - 1)).findings, (f.category = .secret → f.context = []) ∧
        (f.category = .suspicious → f.HasWindow windowContent keyRules
          { Limits.default with contextLines := UInt64.size - 1 }) := by
  have hscan : windowScan (UInt64.size - 1) = .scanned (windowScan (UInt64.size - 1)).findings := by
    decide +kernel
  exact ⟨hscan, by decide +kernel, by decide +kernel, context_of_findings hscan⟩

end Appraisal.Scan
