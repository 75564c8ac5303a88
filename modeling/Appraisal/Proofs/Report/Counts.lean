import Appraisal.Index.Basic
import Appraisal.Proofs.Analysis.Conservation
import Appraisal.Proofs.Analysis.Sources
import Appraisal.Report.Document

set_option autoImplicit false

namespace Appraisal

def FileOutcome.scan? : FileOutcome → Option (List Scan.Finding)
  | .skipped _ => none
  | .scanned findings _ => some findings

theorem FileOutcome.isScanned_eq (o : FileOutcome) : o.isScanned = o.scan?.isSome := by
  cases o <;> rfl

theorem FileOutcome.findings_eq (o : FileOutcome) : o.findings = o.scan?.getD [] := by
  cases o <;> rfl

theorem flatten_filterMap {α β : Type} (f : α → Option (List β)) (l : List α) :
    (l.filterMap f).flatten = l.flatMap (fun x => (f x).getD []) := by
  induction l with
  | nil => rfl
  | cons x rest ih =>
    rw [List.filterMap_cons, List.flatMap_cons, ← ih]
    cases f x <;> rfl

namespace Analyzer

variable (a : Analyzer) (fs : FileSystem)

/-- A file is scanned with what is read of it, which is nothing when it is said to be too large. -/
def scanFile (file : SourceFile) : Except FileError Scan.FileScan := do
  let limit := a.settings.limits.maxFileSize
  let size ← fs.statedSize file.path
  let content ← if limit < size then pure .empty else fs.readAtMost file.path (limit + 1)
  return Scan.scan file.relativePath content size a.settings.rules a.settings.limits

def scanned? (file : SourceFile) : Option (List Scan.Finding) :=
  match a.scanFile fs file with
  | .ok (.scanned findings) => some findings
  | _ => none

def scans (c : Cancellation) (files : List SourceFile) : List (List Scan.Finding) :=
  (c.spared files).filterMap (a.scanned? fs)

theorem scan?_outcomeOf {file : SourceFile} {size : Nat} {content : ByteArray}
    (h : a.scanFile fs file = .ok (Scan.scan file.relativePath content size a.settings.rules
      a.settings.limits)) : (a.outcomeOf file size content).scan? = a.scanned? fs file := by
  rw [scanned?, h, outcomeOf]
  cases Scan.scan file.relativePath content size a.settings.rules a.settings.limits <;> rfl

theorem scan?_outcome (file : SourceFile) :
    (a.outcome fs false file).scan? = a.scanned? fs file := by
  have hexamine : a.outcome fs false file =
      a.examine file (fs.statedSize file.path) (fs.readAtMost file.path) := rfl
  rw [hexamine]
  unfold examine
  cases hstated : fs.statedSize file.path with
  | error e =>
    rw [scanned?, scanFile, hstated]
    rfl
  | ok size =>
    dsimp only
    split
    · next hlarge =>
      refine a.scan?_outcomeOf fs ?_
      rw [scanFile, hstated]
      simp only [bind, Except.bind, if_pos hlarge]
      rfl
    · next hlarge =>
      cases hread : fs.readAtMost file.path (a.settings.limits.maxFileSize + 1) with
      | error e =>
        rw [scanned?, scanFile, hstated]
        simp only [bind, Except.bind, if_neg hlarge, hread]
        rfl
      | ok content =>
        refine a.scan?_outcomeOf fs ?_
        rw [scanFile, hstated]
        simp only [bind, Except.bind, if_neg hlarge, hread]
        rfl

theorem filterMap_outcomes (c : Cancellation) (files : List SourceFile) :
    (a.outcomes fs c files).filterMap FileOutcome.scan? = a.scans fs c files := by
  rw [scans, Cancellation.spared, outcomes, List.filterMap_map, List.filterMap_map,
    List.filterMap_filter]
  refine List.filterMap_congr fun e _ => ?_
  change (a.outcome fs (c.seen e.2) e.1).scan? = _
  cases hseen : c.seen e.2 with
  | true => rfl
  | false => exact a.scan?_outcome fs e.1

variable (metadata : Score.Metadata) (c : Cancellation) (files : List SourceFile)

theorem filesScanned_eq_scans :
    (a.analyze fs files metadata c).filesScanned = (a.scans fs c files).length := by
  rw [← filterMap_outcomes, List.length_filterMap_eq_countP]
  exact List.countP_congr fun o _ => by rw [o.isScanned_eq]

theorem findings_perm_scans :
    (a.analyze fs files metadata c).findings.Perm (a.scans fs c files).flatten := by
  have hflat : (a.outcomes fs c files).flatMap FileOutcome.findings =
      (a.scans fs c files).flatten := by
    rw [← filterMap_outcomes, flatten_filterMap]
    exact List.flatMap_congr fun o _ => o.findings_eq
  exact hflat ▸ List.mergeSort_perm _ _

end Analyzer

structure Shows (entities : List Code.Entity) (kind : Code.EntityKind) (part : List Code.Entity)
    (listed : List ListedEntity) : Prop where
  sublist : part.Sublist entities
  mem_iff : ∀ e ∈ entities, e ∈ part ↔ e.kind = kind
  listed : listed = part.map ListedEntity.ofEntity

theorem Shows.disjoint {entities part part' : List Code.Entity} {kind kind' : Code.EntityKind}
    {listed listed' : List ListedEntity} (h : Shows entities kind part listed)
    (h' : Shows entities kind' part' listed') (hne : kind ≠ kind') : part.Disjoint part' := by
  intro e he he'
  have hkind := (h.mem_iff e (h.sublist.mem he)).1 he
  exact hne (hkind.symm.trans ((h'.mem_iff e (h.sublist.mem he)).1 he'))

namespace AnalysisResult

variable (r : AnalysisResult)

def ofKind (kind : Code.EntityKind) : List Code.Entity :=
  r.entities.filter (fun e => e.kind = kind)

def generic : List Code.Entity := r.entities.filter (fun e => !e.kind.isDomain)

theorem isDomain_of_mem_generic {e : Code.Entity} (h : e ∈ r.generic) :
    e.kind.isDomain = false := by
  simpa using (List.mem_filter.1 h).2

theorem shows_listed (kind : Code.EntityKind) :
    Shows r.entities kind (r.ofKind kind) (r.listed kind) where
  sublist := List.filter_sublist
  mem_iff := fun e he => by simp [ofKind, he]
  listed := rfl

/-- Every entity is in one of the three lists or of a generic kind, as often as it occurs. -/
theorem kinds_perm : (r.ofKind .strategy ++ r.ofKind .indicator ++ r.ofKind .riskManagement ++
    r.generic).Perm r.entities := by
  rw [List.perm_iff_count]
  intro e
  have hkind (kind : Code.EntityKind) : (r.ofKind kind).count e =
      if e.kind = kind then r.entities.count e else 0 := by
    rw [ofKind]
    split
    · next h => exact List.count_filter (by simpa using h)
    · next h => exact List.count_eq_zero.2 fun he => h (by simpa using (List.mem_filter.1 he).2)
  have hgeneric : r.generic.count e = if e.kind.isDomain then 0 else r.entities.count e := by
    rw [generic]
    split
    · next h =>
      exact List.count_eq_zero.2 fun he => by simpa [h] using (List.mem_filter.1 he).2
    · next h => exact List.count_filter (by simpa using h)
  simp only [List.count_append, hkind, hgeneric]
  cases e.kind <;> simp [Code.EntityKind.isDomain]

theorem forms_add (h : ∀ e ∈ r.entities, e.form ≠ .moduleForm) :
    r.entities.countP (fun e => e.form = .classForm) +
      r.entities.countP (fun e => e.form = .functionForm) = r.entities.length := by
  rw [List.length_eq_countP_add_countP (fun e => decide (e.form = .classForm)) (l := r.entities)]
  congr 1
  refine List.countP_congr fun e he => ?_
  cases hcase : e.form with
  | moduleForm => exact absurd hcase (h e he)
  | classForm => simp
  | functionForm => simp

theorem category_of_mem_secrets {f : Scan.Finding}
    (h : f ∈ r.findings.filter Scan.Finding.isSecret) : f.category = .secret := by
  simpa [Scan.Finding.isSecret] using (List.mem_filter.1 h).2

theorem category_of_mem_suspicious {f : Scan.Finding}
    (h : f ∈ r.findings.filter (fun f => !f.isSecret)) : f.category = .suspicious := by
  have hnot : f.category ≠ .secret := by simpa [Scan.Finding.isSecret] using (List.mem_filter.1 h).2
  cases hcategory : f.category with
  | secret => exact absurd hcategory hnot
  | suspicious => rfl

theorem categories_perm : (r.findings.filter Scan.Finding.isSecret ++
    r.findings.filter (fun f => !f.isSecret)).Perm r.findings :=
  List.filter_append_perm _ _

end AnalysisResult

def Datum.follow? : List String → Datum → Option Datum
  | [], d => some d
  | key :: keys, .map r => (Record.get? r key).bind (follow? keys)
  | _ :: _, _ => none

structure Report.Tallies (report : Report) (r : AnalysisResult)
    (scans : List (List Scan.Finding)) : Prop where
  secrets : report.secrets.Sublist r.findings ∧ ∀ f ∈ report.secrets, f.category = .secret
  suspicious : report.suspicious.Sublist r.findings ∧
    ∀ f ∈ report.suspicious, f.category = .suspicious
  split : (report.secrets ++ report.suspicious).Perm r.findings
  issues : report.secrets.length + report.suspicious.length = report.issueCount
  found : report.issueCount = (scans.map List.length).sum
  filesScanned : report.filesScanned = scans.length
  kinds : ∃ strategies indicators risks others : List Code.Entity,
    Shows r.entities .strategy strategies report.strategies ∧
    Shows r.entities .indicator indicators report.indicators ∧
    Shows r.entities .riskManagement risks report.riskManagement ∧
    strategies.Disjoint indicators ∧ strategies.Disjoint risks ∧ indicators.Disjoint risks ∧
    (strategies ++ indicators ++ risks ++ others).Perm r.entities ∧
    ∀ e ∈ others, e.kind.isDomain = false
  forms : report.classCount + report.functionCount = r.entities.length
  securityDocument : report.toDatum.follow? ["security", "total_issues"] =
      some (.ofNat report.issueCount) ∧
    report.toDatum.follow? ["security", "secrets_found"] = some (.ofNat report.secrets.length) ∧
    report.toDatum.follow? ["security", "suspicious_code_found"] =
      some (.ofNat report.suspicious.length)
  codeDocument : report.toDatum.follow? ["code_analysis", "summary"] = some (.map [
    ("total_strategies", .ofNat report.strategies.length),
    ("total_indicators", .ofNat report.indicators.length),
    ("total_risk_functions", .ofNat report.riskManagement.length),
    ("total_classes", .ofNat report.classCount),
    ("total_functions", .ofNat report.functionCount)])
  entry : ∀ name path now, IndexEntry.ofReport name report path now =
    ⟨name, report.metadata.url?, r.score.overall, r.score.level, report.issueCount,
      report.strategies.length, report.indicators.length, report.riskManagement.length, path, now⟩

theorem report_tallies (a : Analyzer) (fs : FileSystem) (files : List SourceFile)
    (metadata shown : Score.Metadata) (c : Cancellation) :
    (Report.ofResult (a.analyze fs files metadata c) shown).Tallies
      (a.analyze fs files metadata c) (a.scans fs c files) := by
  have hforms : ∀ e ∈ (a.analyze fs files metadata c).entities, e.form ≠ .moduleForm := by
    intro e he
    obtain ⟨file, -, s, hform, rfl⟩ := Analyzer.exists_scoped_of_mem_entities he
    exact hform
  have hperm := a.findings_perm_scans fs metadata c files
  have hscanned := a.filesScanned_eq_scans fs metadata c files
  generalize a.analyze fs files metadata c = r at hforms hperm hscanned ⊢
  have hstrategies := r.shows_listed .strategy
  have hindicators := r.shows_listed .indicator
  have hrisks := r.shows_listed .riskManagement
  exact {
    secrets := ⟨List.filter_sublist, fun f hf => r.category_of_mem_secrets hf⟩
    suspicious := ⟨List.filter_sublist, fun f hf => r.category_of_mem_suspicious hf⟩
    split := r.categories_perm
    issues := by rw [← List.length_append]; exact r.categories_perm.length_eq
    found := hperm.length_eq.trans List.length_flatten
    filesScanned := hscanned
    kinds := ⟨_, _, _, r.generic, hstrategies, hindicators, hrisks,
      hstrategies.disjoint hindicators nofun, hstrategies.disjoint hrisks nofun,
      hindicators.disjoint hrisks nofun, r.kinds_perm, fun e he => r.isDomain_of_mem_generic he⟩
    forms := r.forms_add hforms
    securityDocument := ⟨rfl, rfl, rfl⟩
    codeDocument := rfl
    entry := fun _ _ _ => rfl }

end Appraisal
