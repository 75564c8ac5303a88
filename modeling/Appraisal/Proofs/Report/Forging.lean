import Appraisal.Proofs.Analysis.Classified
import Appraisal.Proofs.Analysis.Sources
import Appraisal.Proofs.Report.Headings
import Appraisal.Report.Format

set_option autoImplicit false

/-!
# Headings that a source brings

The texts of a source that a report shows are on one line, but for signatures: a base or
a parameter that goes over several lines stands in its signature as it is written. The other texts
that can begin a heading come from the settings, as the names of rules and the placeholder.
-/
namespace Appraisal.Report

theorem forges_findingText_iff {front rule opening category middle snippet : List Char}
    (hfront : '\n' ∉ front) (hopening : opening = [' ', '(']) (hcategory : '\n' ∉ category)
    (hmiddle : '\n' ∉ middle) :
    Forges (front ++ rule ++ opening ++ category ++ middle ++ snippet ++ ['\x60']) ↔
      Forges (rule ++ [' ']) ∨ Forges snippet := by
  have hparts : front ++ rule ++ opening ++ category ++ middle ++ snippet ++ ['\x60'] =
      front ++ ((rule ++ [' ']) ++ '(' :: (category ++ (middle ++ (snippet ++ ['\x60'])))) := by
    rw [hopening]
    simp only [List.append_assoc, List.cons_append, List.nil_append]
  have hbracket : '(' ∉ '\n' :: headingMark := by decide
  have hquote : '\x60' ∉ '\n' :: headingMark := by decide
  have hnil : ¬ Forges [] := by decide
  rw [hparts, forges_append_iff hfront, forges_append_cons_iff hbracket,
    forges_append_iff hcategory, forges_append_iff hmiddle, forges_append_cons_iff hquote,
    or_iff_left hnil]

theorem headings_findingLine {f : Scan.Finding} (h : '\n' ∉ f.filePath.toList) :
    lineHeadings (findingLine f) = [] ↔
      ¬ Forges (f.ruleId.toList ++ [' ']) ∧ ¬ Forges f.snippet.toList := by
  have hfront : '\n' ∉ "- \x60".toList ++ f.filePath.toList ++ [':'] ++ number f.lineNumber ++
      "\x60 ".toList := by
    simp only [List.mem_append, not_or]
    exact ⟨⟨⟨⟨by decide, h⟩, by decide⟩, newline_notMem_number _⟩, by decide⟩
  have hcategory : '\n' ∉ f.category.name.toList := by
    cases f.category <;> decide
  have hstart : (findingLine f).head? ≠ some '#' := nofun
  rw [lineHeadings_eq_nil_iff hstart, ← not_or]
  exact not_congr (forges_findingText_iff hfront rfl hcategory (by decide))

theorem findingHeadings_eq_nil_iff {path : String} {rules : Scan.RuleSet} {limits : Scan.Limits}
    {text : List Char} {f : Scan.Finding} (hpath : '\n' ∉ path.toList)
    (h : f ∈ Scan.textFindings path rules limits text) : lineHeadings (findingLine f) = [] ↔
      ¬ Forges (f.ruleId.toList ++ [' ']) ∧
        (f.isSecret = true → ¬ Forges limits.placeholder.toList) := by
  have hfile : '\n' ∉ f.filePath.toList := by rwa [Scan.filePath_of_mem_textFindings h]
  rw [headings_findingLine hfile]
  refine and_congr_right fun _ => ?_
  rcases Scan.snippet_cases h with ⟨hsecret, hsnippet⟩ | ⟨hplain, hsnippet⟩
  · rw [hsnippet, hsecret, forall_prop_of_true rfl]
  · rw [hplain]
    exact iff_of_true (not_forges_of_notMem hsnippet) nofun

theorem forges_entityText_iff {bullet name middle signature : List Char} (hbullet : '\n' ∉ bullet)
    (hmiddle : middle = ['*', '*', ' ', '\x60']) :
    Forges (bullet ++ name ++ middle ++ signature ++ ['\x60']) ↔
      Forges name ∨ Forges signature := by
  have hparts : bullet ++ name ++ middle ++ signature ++ ['\x60'] =
      bullet ++ (name ++ '*' :: (['*', ' ', '\x60'] ++ (signature ++ ['\x60']))) := by
    rw [hmiddle]
    simp only [List.append_assoc, List.cons_append, List.nil_append]
  have hbetween : '\n' ∉ ['*', ' ', '\x60'] := by decide
  have hstar : '*' ∉ '\n' :: headingMark := by decide
  have hquote : '\x60' ∉ '\n' :: headingMark := by decide
  have hnil : ¬ Forges [] := by decide
  rw [hparts, forges_append_iff hbullet, forges_append_cons_iff hstar, forges_append_iff hbetween,
    forges_append_cons_iff hquote, or_iff_left hnil]

theorem entityHeadings_eq_nil_iff {e : ListedEntity} (hfile : '\n' ∉ e.file.toList)
    (hdescription : '\n' ∉ e.description.toList) :
    entityHeadings e = [] ↔ ¬ Forges e.name.toList ∧ ¬ Forges e.signature.toList := by
  have hdescribed : (if e.description.isEmpty then []
      else ["  - ".toList ++ e.description.toList] : Lines).flatMap lineHeadings = [] := by
    split
    · rfl
    · rw [List.flatMap_singleton]
      refine lineHeadings_of_notMem nofun ?_
      simp only [List.mem_append, not_or]
      exact ⟨by decide, hdescription⟩
  have hlocation : lineHeadings ("  - Location: \x60".toList ++ e.file.toList ++ [':'] ++
      number e.line ++ ['\x60']) = [] := by
    refine lineHeadings_of_notMem nofun ?_
    simp only [List.mem_append, not_or]
    exact ⟨⟨⟨⟨by decide, hfile⟩, by decide⟩, newline_notMem_number _⟩, by decide⟩
  have hstart : ("- **".toList ++ e.name.toList ++ "** \x60".toList ++ e.signature.toList ++
      ['\x60']).head? ≠ some '#' := nofun
  rw [entityHeadings, entityLines, List.flatMap_append, List.flatMap_append, hdescribed,
    List.append_nil, List.flatMap_singleton, List.flatMap_singleton, hlocation, List.append_nil,
    lineHeadings_eq_nil_iff hstart, ← not_or]
  exact not_congr (forges_entityText_iff (by decide) rfl)

theorem forges_signature_of_name {d : Code.Definition} (hform : d.form ≠ .moduleForm)
    (h : Forges d.name) : Forges d.signature := by
  obtain ⟨part, hpart, hname⟩ : ∃ part ∈ d.parts, d.name <:+: part := by
    cases hd : d.form with
    | moduleForm => exact absurd hd hform
    | classForm =>
      exact ⟨"class ".toList ++ d.name, by simp [Code.Definition.parts, hd],
        (List.suffix_append _ _).isInfix⟩
    | functionForm =>
      exact ⟨"def ".toList ++ d.name, by simp [Code.Definition.parts, hd],
        (List.suffix_append _ _).isInfix⟩
  exact List.IsInfix.trans h (hname.trans (Code.infix_signature_of_mem hpart))

theorem entityHeadings_entity (classifier : Code.Classifier) {path : String} {s : Code.Scoped}
    (hpath : '\n' ∉ path.toList) (hform : s.definition.form ≠ .moduleForm) :
    entityHeadings (.ofEntity (classifier.entity path s)) = [] ↔
      ¬ Forges (classifier.entity path s).signature.toList := by
  have hdescription :
      '\n' ∉ (ListedEntity.ofEntity (classifier.entity path s)).description.toList := by
    rw [ListedEntity.ofEntity, String.toList_ofList]
    exact Text.newline_notMem_firstLine _
  have hname : (classifier.entity path s).name.toList = s.definition.name := String.toList_ofList
  have hsignature : (classifier.entity path s).signature.toList = s.definition.signature :=
    String.toList_ofList
  rw [entityHeadings_eq_nil_iff hpath hdescription]
  change ¬ Forges (classifier.entity path s).name.toList ∧
    ¬ Forges (classifier.entity path s).signature.toList ↔ _
  rw [hname, hsignature]
  exact and_iff_right_of_imp fun hnone h => hnone (forges_signature_of_name hform h)

theorem forall_mem_listed {p : ListedEntity → Prop} (r : AnalysisResult) :
    (∀ e ∈ r.listed .strategy ++ r.listed .indicator ++ r.listed .riskManagement, p e) ↔
      ∀ e ∈ r.entities, e.kind.isDomain = true → p (.ofEntity e) := by
  have hlisted (kind : Code.EntityKind) : (∀ e ∈ r.listed kind, p e) ↔
      ∀ e ∈ r.entities, e.kind = kind → p (.ofEntity e) := by
    rw [AnalysisResult.listed, List.forall_mem_map]
    simp only [List.mem_filter, decide_eq_true_eq, and_imp]
  rw [List.forall_mem_append, List.forall_mem_append, hlisted, hlisted, hlisted, ← forall_and,
    ← forall_and]
  refine forall_congr' fun e => ?_
  cases e.kind <;> simp [Code.EntityKind.isDomain]

def sectionHeadings : List (List Char) :=
  ["## Repository Information".toList, "## Trustworthiness Analysis".toList,
    "## Security Scan Results".toList, "## Code Analysis".toList]

section Reports

variable {r : Report}

theorem sectionHeadings_sublist (h : Untitled r.metadata) :
    sectionHeadings.Sublist (headings r.markdown) := by
  have hparts : sectionHeadings = ["## Repository Information".toList,
      "## Trustworthiness Analysis".toList, "## Security Scan Results".toList] ++
      ["## Code Analysis".toList] := rfl
  rw [headings_markdown h, hparts]
  exact (List.sublist_append_left _ _).append (List.cons_sublist_cons.2 (List.nil_sublist _))

theorem headings_eq_sections_iff (h : Untitled r.metadata) :
    headings r.markdown = sectionHeadings ↔
      (∀ f ∈ r.secrets ++ r.suspicious, lineHeadings (findingLine f) = []) ∧
        ∀ e ∈ r.strategies ++ r.indicators ++ r.riskManagement, entityHeadings e = [] := by
  rw [headings_markdown h, ← List.flatMap_eq_nil_iff, ← List.flatMap_eq_nil_iff]
  generalize (r.secrets ++ r.suspicious).flatMap _ = found
  generalize List.flatMap entityHeadings _ = listed
  constructor
  · intro heq
    have hlength := congrArg List.length heq
    simp only [sectionHeadings, List.length_append, List.length_cons, List.length_nil] at hlength
    exact ⟨List.length_eq_zero_iff.1 (by omega), List.length_eq_zero_iff.1 (by omega)⟩
  · rintro ⟨rfl, rfl⟩
    rfl

end Reports

/-- A report on files whose paths are on one line has the headings of its sections, and no others
unless the rule of a finding, the placeholder of a secret or the signature of a listed entity
begins one. -/
theorem headings_of_analysis (a : Analyzer) (fs : FileSystem) (files : List SourceFile)
    (metadata : Score.Metadata) (c : Cancellation) {shown : Score.Metadata}
    (hpaths : ∀ file ∈ files, '\n' ∉ file.relativePath.toList) (hshown : Untitled shown) :
    sectionHeadings.Sublist (headings
      ((ofResult (a.analyze fs files metadata c) shown).render .markdown).toList) ∧
    (headings ((ofResult (a.analyze fs files metadata c) shown).render .markdown).toList =
        sectionHeadings ↔
      (∀ f ∈ (a.analyze fs files metadata c).findings,
        ¬ Forges (f.ruleId.toList ++ [' ']) ∧
          (f.isSecret = true → ¬ Forges a.settings.limits.placeholder.toList)) ∧
      ∀ e ∈ (a.analyze fs files metadata c).entities,
        e.kind.isDomain = true → ¬ Forges e.signature.toList) := by
  have htext (r : Report) : (r.render .markdown).toList = r.markdown := String.toList_ofList
  have hsplit : ∀ f, f ∈ (ofResult (a.analyze fs files metadata c) shown).secrets ++
      (ofResult (a.analyze fs files metadata c) shown).suspicious ↔
        f ∈ (a.analyze fs files metadata c).findings :=
    fun f => (List.filter_append_perm Scan.Finding.isSecret _).mem_iff
  rw [htext]
  refine ⟨sectionHeadings_sublist hshown, (headings_eq_sections_iff hshown).trans (and_congr ?_ ?_)⟩
  · refine forall_congr' fun f => ?_
    rw [hsplit]
    refine forall_congr' fun hf => ?_
    obtain ⟨file, hfile, text, hfound⟩ := Analyzer.exists_text_of_mem_findings hf
    exact findingHeadings_eq_nil_iff (hpaths file hfile) hfound
  · refine (forall_mem_listed (a.analyze fs files metadata c)).trans ?_
    refine forall_congr' fun e => forall_congr' fun he => imp_congr_right fun _ => ?_
    obtain ⟨file, hfile, s, hform, rfl⟩ := Analyzer.exists_scoped_of_mem_entities he
    exact entityHeadings_entity a.settings.classifier (hpaths file hfile) hform

def vocabularyAnalyzer : Analyzer :=
  { pythonAnalyzer with
    settings := { pythonAnalyzer.settings with classifier := .ofVocabulary .default 500 } }

def botSource : SourceFile := .ofPath (.ofString "repo") (.ofString "repo/bot.py")

def botFiles (text : String) : FileSystem := repoOf [("bot.py".toList, .file text.toUTF8)]

def botResult (text : String) : AnalysisResult :=
  vocabularyAnalyzer.analyze (botFiles text) [botSource] default .none

theorem oneLine_botSource : ∀ file ∈ [botSource], '\n' ∉ file.relativePath.toList := by decide

theorem untitled_default : Untitled default := ⟨rfl, rfl, rfl, rfl, rfl⟩

theorem mem_findings_botResult {text : String} {f : Scan.Finding}
    (h : f ∈ (botResult text).findings) :
    f ∈ (vocabularyAnalyzer.outcome (botFiles text) false botSource).findings := by
  have hmem := List.mem_mergeSort.1 h
  rwa [Analyzer.outcomes_none, List.map_singleton, List.flatMap_singleton] at hmem

def quietBot : String := "class TradeStrategy(\n    Base):\n    x = eval\n"

theorem quietBot_headings :
    (botResult quietBot).findings.length = 1 ∧
      (botResult quietBot).entities = [⟨.strategy, .classForm, "TradeStrategy", "bot.py", 1, none,
        "class TradeStrategy(Base)", none⟩] ∧
      headings ((ofResult (botResult quietBot) default).render .markdown).toList =
        sectionHeadings := by
  have hentities : (botResult quietBot).entities = [⟨.strategy, .classForm, "TradeStrategy",
      "bot.py", 1, none, "class TradeStrategy(Base)", none⟩] := by
    decide +kernel
  refine ⟨(List.length_mergeSort _).trans (by decide +kernel), hentities, ?_⟩
  have hheadings := (headings_of_analysis vocabularyAnalyzer (botFiles quietBot) [botSource]
    default .none oneLine_botSource untitled_default).2
  have hrules : ∀ f ∈ (vocabularyAnalyzer.outcome (botFiles quietBot) false botSource).findings,
      ¬ Forges (f.ruleId.toList ++ [' ']) ∧ (f.isSecret = true →
        ¬ Forges vocabularyAnalyzer.settings.limits.placeholder.toList) := by
    decide +kernel
  refine hheadings.2 ⟨fun f hf => hrules f (mem_findings_botResult hf), ?_⟩
  change ∀ e ∈ (botResult quietBot).entities, _
  rw [hentities]
  decide

def starredBot : String := "def check_risk(*\n## Forged\nargs):\n    pass\n"

/-- A comment between a star and its name begins a heading behind those of the sections. -/
theorem starredBot_headings :
    (∀ file ∈ [botSource], '\n' ∉ file.relativePath.toList) ∧ Untitled default ∧
      (botResult starredBot).entities = [⟨.riskManagement, .functionForm, "check_risk", "bot.py", 1,
        none, "def check_risk(*\n## Forged\nargs)", none⟩] ∧
      headings ((ofResult (botResult starredBot) default).render .markdown).toList =
        sectionHeadings ++ ["## Forged".toList] := by
  have hentities : (botResult starredBot).entities = [⟨.riskManagement, .functionForm,
      "check_risk", "bot.py", 1, none, "def check_risk(*\n## Forged\nargs)", none⟩] := by
    decide +kernel
  have houtcome : (vocabularyAnalyzer.outcome (botFiles starredBot) false botSource).findings =
      [] := by
    decide +kernel
  have hfindings : (botResult starredBot).findings = [] :=
    List.eq_nil_iff_forall_not_mem.2 fun f hf =>
      absurd (mem_findings_botResult hf) (houtcome ▸ List.not_mem_nil)
  have htext (r : Report) : (r.render .markdown).toList = r.markdown := String.toList_ofList
  refine ⟨oneLine_botSource, untitled_default, hentities, ?_⟩
  rw [htext, headings_markdown untitled_default]
  simp only [ofResult, AnalysisResult.listed, hfindings, hentities]
  decide +kernel

end Appraisal.Report
