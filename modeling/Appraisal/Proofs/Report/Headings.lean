import Appraisal.Proofs.Code.EntityTexts
import Appraisal.Proofs.Report.OneLine
import Appraisal.Report.Markdown

set_option autoImplicit false

/-!
# The headings of a report in Markdown

A section of a report starts with a line that begins with two number signs and a blank. Such a line
can come from elsewhere only where a text is written that holds a line feed with this mark behind
it.
-/
namespace Appraisal.Report

def headingMark : List Char := "## ".toList

def headings (text : List Char) : List (List Char) :=
  (Text.lines text).filter (fun line => headingMark.isPrefixOf line)

/-- A heading begins within the text. -/
def Forges (text : List Char) : Prop := '\n' :: headingMark <:+: text

instance (text : List Char) : Decidable (Forges text) :=
  inferInstanceAs (Decidable ('\n' :: headingMark <:+: text))

theorem headings_append (cs r : List Char) :
    headings (cs ++ '\n' :: r) = headings (cs ++ ['\n']) ++ headings r := by
  rw [headings, Text.lines_append, List.filter_append]
  rfl

def lineHeadings (line : List Char) : List (List Char) := headings (line ++ ['\n'])

theorem headings_textOf (lines : Lines) : headings (textOf lines) = lines.flatMap lineHeadings := by
  induction lines with
  | nil => rfl
  | cons line rest ih =>
    have hcons : textOf (line :: rest) = line ++ '\n' :: textOf rest := by simp [textOf]
    rw [hcons, headings_append, ih]
    rfl

theorem not_forges_of_notMem {text : List Char} (h : '\n' ∉ text) : ¬ Forges text :=
  fun hforges => h (hforges.mem List.mem_cons_self)

theorem forges_append_iff {a : List Char} (h : '\n' ∉ a) (b : List Char) :
    Forges (a ++ b) ↔ Forges b := by
  induction a with
  | nil => rfl
  | cons c a ih =>
    rw [List.mem_cons, not_or] at h
    rw [Forges, List.cons_append, List.infix_cons_iff, List.cons_prefix_cons]
    exact (or_iff_right fun hprefix => h.1 hprefix.1).trans (ih h.2)

theorem forges_append_cons_iff {c : Char} (h : c ∉ '\n' :: headingMark) (a b : List Char) :
    Forges (a ++ c :: b) ↔ Forges a ∨ Forges b := by
  constructor
  · exact Code.infix_of_infix_append_cons h
  · rintro (ha | hb)
    · exact List.IsInfix.trans ha (List.prefix_append a _).isInfix
    · exact List.IsInfix.trans hb ((List.suffix_cons c b).trans (List.suffix_append a _)).isInfix

/-- A line that begins otherwise gives a heading only where one begins within it. -/
theorem lineHeadings_eq_nil_iff {line : List Char} (h : line.head? ≠ some '#') :
    lineHeadings line = [] ↔ ¬ Forges line := by
  have hlines : lineHeadings line = [] ↔
      ¬ ∃ l ∈ Text.lines (line ++ ['\n']), headingMark <+: l := by
    rw [lineHeadings, headings, List.filter_eq_nil_iff]
    simp only [List.isPrefixOf_iff_prefix, not_exists, not_and]
  have hstart : ¬ headingMark <+: line ++ ['\n'] := by
    cases line with
    | nil => decide
    | cons c rest => exact fun hprefix => h (congrArg some (List.cons_prefix_cons.1 hprefix).1.symm)
  have hend : '\n' :: headingMark <:+: line ++ ['\n'] ↔ Forges line := by
    rw [List.infix_concat_iff, List.suffix_concat_iff]
    refine or_iff_right ?_
    rintro (hnil | ⟨t, ht, -⟩)
    · cases hnil
    · have hlast := congrArg List.getLast? ht
      rw [List.getLast?_concat] at hlast
      revert hlast
      decide
  rw [hlines, Text.begins_line_iff (by decide) (by decide) (by decide), List.infix_cons_iff,
    List.cons_prefix_cons, hend]
  exact not_congr (or_iff_right fun hprefix => hstart hprefix.2)

theorem lineHeadings_of_notMem {line : List Char} (hhead : line.head? ≠ some '#')
    (h : '\n' ∉ line) : lineHeadings line = [] :=
  (lineHeadings_eq_nil_iff hhead).2 (not_forges_of_notMem h)

theorem lineHeadings_labelled {label : String} {value : List Char} (hlabel : '\n' ∉ label.toList)
    (hvalue : '\n' ∉ value) : lineHeadings (labelled label value) = [] := by
  refine lineHeadings_of_notMem nofun ?_
  have hbullet := List.not_mem_append (by decide : '\n' ∉ "- **".toList) hlabel
  have hcolon : '\n' ∉ "**: ".toList := by decide
  exact List.not_mem_append (List.not_mem_append hbullet hcolon) hvalue

theorem newline_notMem_number (n : Nat) : '\n' ∉ number n := newline_notMem_digitsOf n

theorem newline_notMem_row {cells : Lines} (h : ∀ cell ∈ cells, '\n' ∉ cell) :
    '\n' ∉ row cells := by
  rw [row, List.mem_append, not_or]
  refine ⟨fun hmem => ?_, by decide⟩
  obtain ⟨cell, hcell, hmem⟩ := List.mem_flatMap.1 hmem
  simp only [List.mem_append] at hmem
  rcases hmem with (hmem | hmem) | hmem
  · exact absurd hmem (by decide)
  · exact h cell hcell hmem
  · exact absurd hmem (by decide)

theorem flatMap_section {heading : List Char} {rest : Lines}
    (hheading : lineHeadings heading = [heading]) (hrest : ∀ line ∈ rest, lineHeadings line = []) :
    (heading :: rest).flatMap lineHeadings = [heading] := by
  rw [List.flatMap_cons, hheading, List.flatMap_eq_nil_iff.2 hrest]
  rfl

structure Untitled (m : Score.Metadata) : Prop where
  fullName : m.fullName? = none
  url : m.url? = none
  description : m.description? = none
  language : m.language? = none
  license : m.license? = none

section Sections

variable {m : Score.Metadata} {r : Report}

theorem headings_titleLines (h : Untitled m) : (titleLines m).flatMap lineHeadings = [] := by
  have hdescription : visibleDescription? m = none := by
    rw [visibleDescription?, h.description]
    rfl
  rw [titleLines, hdescription, h.fullName]
  decide

theorem headings_repositoryLines (h : Untitled m) :
    (repositoryLines m).flatMap lineHeadings = ["## Repository Information".toList] := by
  have htime (time? : Option Instant) : '\n' ∉ orUnknown (time?.map Instant.plainText) := by
    cases time? with
    | none => decide
    | some t => exact newline_notMem_plainText t
  refine flatMap_section (by decide) ?_
  simp only [h.url, h.language, h.license, List.forall_mem_cons, List.not_mem_nil, false_implies,
    implies_true, and_true]
  refine ⟨by decide, by decide, by decide, by decide, ?_, ?_, by decide⟩
  · exact lineHeadings_labelled (by decide) (htime _)
  · exact lineHeadings_labelled (by decide) (htime _)

theorem headings_trustLines :
    r.trustLines.flatMap lineHeadings = ["## Trustworthiness Analysis".toList] := by
  have hlevel (l : Score.Level) : '\n' ∉ l.name.toList := by cases l <;> decide
  have hname (c : Score.Component) : '\n' ∉ c.name.toList := by cases c <;> decide
  have hraw (raw : Score.RawValue) : '\n' ∉ rawText raw := by
    cases raw with
    | missing => decide
    | count n => exact newline_notMem_number n
    | text s => exact newline_notMem_quote s
  have hrow (c : Score.ScoredComponent Float) : lineHeadings (componentRow c) = [] := by
    have hcells : ∀ cell ∈ [c.component.name.toList, rawText c.raw,
        (Decimal.fixed 3 c.normalized).toList, (Decimal.fixed 2 c.weight).toList],
        '\n' ∉ cell := by
      simp only [List.forall_mem_cons, List.not_mem_nil, false_implies, implies_true, and_true]
      exact ⟨hname _, hraw _, newline_notMem_fixed _ _, newline_notMem_fixed _ _⟩
    exact lineHeadings_of_notMem nofun (newline_notMem_row hcells)
  have hscore : '\n' ∉ scoreText r.score.overall r.score.level := by
    simp only [scoreText, List.mem_append, not_or]
    exact ⟨⟨⟨newline_notMem_fixed _ _, by decide⟩, hlevel _⟩, by decide⟩
  have hrows : (r.score.components.map componentRow).flatMap lineHeadings = [] := by
    rw [List.flatMap_map]
    exact List.flatMap_eq_nil_iff.2 fun c _ => hrow c
  rw [trustLines, List.flatMap_append, List.flatMap_append, hrows, List.append_nil]
  refine congrArg (· ++ _) (flatMap_section (by decide) ?_)
  simp only [List.forall_mem_cons, List.not_mem_nil, false_implies, implies_true, and_true]
  refine ⟨by decide, ?_, ?_, ?_, ?_, by decide, by decide, by decide⟩
  · exact lineHeadings_labelled (by decide) hscore
  · exact lineHeadings_labelled (by decide) (newline_notMem_number _)
  · exact lineHeadings_labelled (by decide) (newline_notMem_number _)
  · exact lineHeadings_labelled (by decide) (newline_notMem_number _)

theorem headings_securityLines :
    r.securityLines.flatMap lineHeadings = "## Security Scan Results".toList ::
      (r.secrets ++ r.suspicious).flatMap (fun f => lineHeadings (findingLine f)) := by
  have hend : (if r.issueCount = 0 then [] else [[]] : Lines).flatMap lineHeadings = [] := by
    split <;> decide
  rw [securityLines, List.flatMap_append, List.flatMap_append, hend, List.append_nil,
    List.flatMap_map]
  refine congrArg (· ++ _) (flatMap_section (by decide) ?_)
  simp only [List.forall_mem_cons, List.not_mem_nil, false_implies, implies_true, and_true]
  refine ⟨by decide, ?_, ?_, ?_, ?_, ?_, by decide⟩
  all_goals exact lineHeadings_labelled (by decide) (newline_notMem_number _)

theorem headings_codeLines : r.codeLines.flatMap lineHeadings = ["## Code Analysis".toList] := by
  refine flatMap_section (by decide) ?_
  simp only [List.forall_mem_cons, List.not_mem_nil, false_implies, implies_true, and_true]
  refine ⟨by decide, ?_, ?_, ?_, ?_, ?_, by decide⟩
  all_goals exact lineHeadings_labelled (by decide) (newline_notMem_number _)

theorem headings_cancelledLines : r.cancelledLines.flatMap lineHeadings = [] := by
  unfold cancelledLines
  split <;> decide

def entityHeadings (e : ListedEntity) : List (List Char) := (entityLines e).flatMap lineHeadings

theorem headings_entityListLines {title : String}
    (h : lineHeadings ("### ".toList ++ title.toList) = []) (entities : List ListedEntity) :
    (entityListLines title entities).flatMap lineHeadings = entities.flatMap entityHeadings := by
  unfold entityListLines
  split
  · next hempty => rw [List.isEmpty_iff.1 hempty]; rfl
  · have hblank : lineHeadings [] = [] := by decide
    have hopen : ["### ".toList ++ title.toList, []].flatMap lineHeadings = [] := by
      rw [List.flatMap_cons, h, List.flatMap_singleton, hblank]
      rfl
    rw [List.flatMap_append, List.flatMap_append, List.flatMap_assoc, hopen,
      List.flatMap_singleton, hblank, List.append_nil]
    rfl

/-- Besides those of its sections, a report has the headings that findings and entities bring. -/
theorem headings_markdown (h : Untitled r.metadata) : headings r.markdown =
    ["## Repository Information".toList, "## Trustworthiness Analysis".toList,
      "## Security Scan Results".toList] ++
    (r.secrets ++ r.suspicious).flatMap (fun f => lineHeadings (findingLine f)) ++
    "## Code Analysis".toList ::
      (r.strategies ++ r.indicators ++ r.riskManagement).flatMap entityHeadings := by
  have hstrategies := headings_entityListLines (by decide : lineHeadings
    ("### ".toList ++ "Strategies".toList) = []) r.strategies
  have hindicators := headings_entityListLines (by decide : lineHeadings
    ("### ".toList ++ "Indicators".toList) = []) r.indicators
  have hrisks := headings_entityListLines (by decide : lineHeadings
    ("### ".toList ++ "Risk Management".toList) = []) r.riskManagement
  rw [markdown, headings_textOf, markdownLines]
  simp only [List.flatMap_append, headings_titleLines h, headings_repositoryLines h,
    headings_trustLines, headings_securityLines, headings_codeLines, headings_cancelledLines,
    hstrategies, hindicators, hrisks, List.nil_append, List.append_nil, List.cons_append,
    List.append_assoc]

end Sections

end Appraisal.Report
