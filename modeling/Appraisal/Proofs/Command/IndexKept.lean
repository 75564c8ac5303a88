import Appraisal.Proofs.Command.Atomicity
import Appraisal.Proofs.Index.Registrations

set_option autoImplicit false

namespace Appraisal

namespace Command

variable {s : Surroundings} {args : AnalyzeArgs} {fs fs' : FileSystem} {p : Path}
  {report : Report} {o : Outcome} {i : ReportIndex}

/-- The score of a report is read from a document as some score, and the rest of what its entry says
is read back. -/
structure Recordable (s : Surroundings) (report : Report) : Prop where
  score : Json.Legible report.score.overall
  now : s.now.ReadsBack
  issues : report.issueCount < Datum.wordLimit
  strategies : report.strategies.length < Datum.wordLimit
  indicators : report.indicators.length < Datum.wordLimit
  risks : report.riskManagement.length < Datum.wordLimit

theorem Recordable.legible (h : Recordable s report) (args : AnalyzeArgs) (fs : FileSystem)
    (p : Path) : (entryFor s args fs p report).Legible where
  score := h.score
  addedAt := h.now
  issues := h.issues
  strategies := h.strategies
  indicators := h.indicators
  risks := h.risks

theorem Reported.entryFor_eq (h : Reported s args fs p report fs') :
    entryFor s args fs' p report = entryFor s args fs p report := by
  obtain ⟨place, hplace, rfl⟩ := FileSystem.store_eq_ok_iff.1 h.store
  have htakes := FileSystem.takesFile_of_target? hplace
  rw [entryFor, entryFor, repositoryName, repositoryName,
    FileSystem.canonicalName?_withFile htakes h.made.of_directory.1]

def KeepsIndex (s : Surroundings) (args : AnalyzeArgs) (fs : FileSystem) (i : ReportIndex)
    (r : Path) (fs' : FileSystem) : Prop :=
  ∃ after, fs'.loadIndex r = .ok after ∧ ∀ e ∈ i.entries,
    (∀ m, args.metadata s fs = .ok m → e.name ≠ repositoryName fs args.path m) → e ∈ after.entries

theorem keepsIndex_of_loadIndex {r : Path} (h : fs'.loadIndex r = .ok i) :
    KeepsIndex s args fs i r fs' :=
  ⟨i, h, fun _ he _ => he⟩

theorem Reported.loadIndex_beside (h : Reported s args fs p report fs')
    (hload : fs.loadIndex (ReportIndex.pathBeside p) = .ok i)
    (hne : fs.target? (ReportIndex.pathBeside p) ≠ fs.target? p) :
    fs'.loadIndex (ReportIndex.pathBeside p) = .ok i := by
  obtain ⟨bytes, hbytes, hindex⟩ := FileSystem.exists_bytes_of_loadIndex hload
  exact (FileSystem.loadIndex_of_readBytes (h.readBytes_beside h.path hne hbytes) i).2 hindex

theorem Reported.keepsIndex_of_register (h : Reported s args fs p report fs')
    (hload : fs'.loadIndex (ReportIndex.pathBeside p) = .ok i) {i' : ReportIndex}
    {fs'' : FileSystem} (hcreated : i.createdAt.ReadsBack) (hback : ∀ e ∈ i.entries, e.ReadsBack)
    (hlength : i.entries.length + 1 < Datum.wordLimit) (hreport : Recordable s report)
    (hregister : fs'.registerEntry (ReportIndex.pathBeside p) (entryFor s args fs' p report) s.now =
      .ok (i', fs'')) : KeepsIndex s args fs i (ReportIndex.pathBeside p) fs'' := by
  obtain ⟨i₀, q, hstart, rfl, hq, rfl⟩ := FileSystem.registerEntry_eq_ok_iff.1 hregister
  obtain ⟨bytes, hbytes, hindex⟩ := FileSystem.exists_bytes_of_loadIndex hload
  obtain rfl : i = i₀ := by
    rw [FileSystem.loadIndexOrNew, FileSystem.pathExists_of_readBytes hbytes, if_pos rfl,
      hload] at hstart
    exact Except.ok.inj hstart
  have hlegible : (i.upsert (entryFor s args fs' p report) s.now).Legible := by
    refine ReportIndex.legible_upsert hcreated (fun e he => ?_) (hreport.legible args fs' p)
      hreport.now (Nat.lt_of_le_of_lt (ReportIndex.length_put_bounds _ _).2 hlength)
    exact ((ReportIndex.of_ofBytes? hindex).2 e he (hback e he)).legible
  refine ⟨_, (FileSystem.loadIndex_of_readBytes (FileSystem.readBytes_withFile_self hq) _).2
    hlegible.ofBytes?_encode, fun e he hother => ?_⟩
  have hkept : e ∈ ReportIndex.put (entryFor s args fs' p report) i.entries := by
    refine ReportIndex.mem_put_of_ne he ?_
    rw [h.entryFor_eq]
    exact hother report.metadata h.made.of_directory.2
  exact List.mem_map.2 ⟨e, hkept, (hback e he).reread_eq⟩

/-- An index to whose place no report is written is there after the run, with all entries of other
repositories as they were. -/
theorem index_survives (s : Surroundings) (args : AnalyzeArgs) (fs : FileSystem) {p : Path}
    {i : ReportIndex} (hp : args.outputFile? = some p)
    (hload : fs.loadIndex (ReportIndex.pathBeside p) = .ok i)
    (hne : fs.target? (ReportIndex.pathBeside p) ≠ fs.target? p)
    (hcreated : i.createdAt.ReadsBack) (hback : ∀ e ∈ i.entries, e.ReadsBack)
    (hlength : i.entries.length + 1 < Datum.wordLimit)
    (hmade : ∀ report, Makes s args fs report → Recordable s report) :
    KeepsIndex s args fs i (ReportIndex.pathBeside p) ((Task.analyze args).run s fs).files := by
  cases analyze_end s args fs with
  | stopped _ _ htrace =>
    rw [(Outcome.of_trace htrace).1]
    exact keepsIndex_of_loadIndex hload
  | printed hprinted _ =>
    rw [hp] at hprinted
    cases hprinted
  | reported hreport _ htrace =>
    obtain rfl := Option.some.inj (hreport.path.symm.trans hp)
    rw [(Outcome.of_trace htrace).1]
    exact keepsIndex_of_loadIndex (hreport.loadIndex_beside hload hne)
  | unindexed hreport _ _ htrace =>
    obtain rfl := Option.some.inj (hreport.path.symm.trans hp)
    rw [(Outcome.of_trace htrace).1]
    exact keepsIndex_of_loadIndex (hreport.loadIndex_beside hload hne)
  | indexed hreport _ hregister htrace =>
    obtain rfl := Option.some.inj (hreport.path.symm.trans hp)
    rw [(Outcome.of_trace htrace).1]
    exact hreport.keepsIndex_of_register (hreport.loadIndex_beside hload hne) hcreated hback hlength
      (hmade _ hreport.made) hregister

theorem decode?_markdown (report : Report) :
    ReportIndex.decode? (report.render .markdown) = none := by
  have hread : Json.read? (report.render .markdown) = none := by
    obtain ⟨rest, hrest⟩ : ∃ rest, (report.render .markdown).toList = '#' :: rest := by
      rw [Report.render, String.toList_ofList]
      exact ⟨_, rfl⟩
    rw [Json.read?, hrest]
    rfl
  rw [ReportIndex.decode?, hread]
  rfl

/-- A report in Markdown whose path leads to the place of the index leaves no index there, also
when the index is to be left alone. -/
theorem Reported.index_lost (h : Reported s args fs p report fs')
    (hformat : args.format = .markdown)
    (hsame : fs.target? (ReportIndex.pathBeside p) = fs.target? p) (i : ReportIndex) :
    ((Task.analyze args).run s fs).files.loadIndex (ReportIndex.pathBeside p) ≠ .ok i := by
  have written : ∀ {report fs'}, Reported s args fs p report fs' →
      fs'.readBytes (ReportIndex.pathBeside p) = .ok (report.render .markdown).toUTF8 := by
    intro report fs' hreport
    obtain ⟨q, hq, rfl⟩ := FileSystem.store_eq_ok_iff.1 hreport.store
    rw [hformat]
    exact FileSystem.readBytes_withFile_self (hsame.trans hq)
  have none_of : ∀ report : Report,
      ReportIndex.ofBytes? (report.render .markdown).toUTF8 = none := fun report => by
    rw [ReportIndex.ofBytes?, Text.fromUTF8?_toUTF8, Option.bind_some, decode?_markdown]
  have lost : ∀ {report fs'}, Reported s args fs p report fs' →
      fs'.loadIndex (ReportIndex.pathBeside p) ≠ .ok i := fun hreport hload => by
    have hindex := (FileSystem.loadIndex_of_readBytes (written hreport) i).1 hload
    rw [none_of] at hindex
    cases hindex
  -- however the run goes on, it finds the report where the index should be
  cases analyze_end s args fs with
  | stopped _ hnot _ => exact absurd h (hnot p report fs')
  | printed hprinted _ =>
    rw [h.path] at hprinted
    cases hprinted
  | reported hreport _ htrace =>
    obtain rfl := Option.some.inj (hreport.path.symm.trans h.path)
    rw [(Outcome.of_trace htrace).1]
    exact lost hreport
  | unindexed hreport _ _ htrace =>
    obtain rfl := Option.some.inj (hreport.path.symm.trans h.path)
    rw [(Outcome.of_trace htrace).1]
    exact lost hreport
  | indexed hreport _ hregister _ =>
    obtain rfl := Option.some.inj (hreport.path.symm.trans h.path)
    obtain ⟨fault, hrefused⟩ := FileSystem.registerEntry_refused (written hreport) (none_of _)
    rw [hrefused] at hregister
    cases hregister

def keptIndex : ReportIndex :=
  ReportIndex.recomputed ⟨"1.0", .epoch, .epoch, [FileSystem.sampleEntry "other/kept" 1],
    ⟨0, 0, 0, 0, 0⟩⟩

theorem storable_keptIndex : keptIndex.Storable where
  createdAt := FileSystem.readsBack_epoch
  updatedAt := FileSystem.readsBack_epoch
  entries := fun e he => by
    obtain rfl := List.mem_singleton.1 he
    exact FileSystem.storable_sampleEntry _ (by decide)
  length := by decide
  totals := rfl

def library : FileSystem where
  top := .directory [("repo".toList, .directory []),
    ("out".toList, .directory [("index.json".toList, .file keptIndex.encode.toUTF8)])]
  here := []

theorem loadIndex_library : library.loadIndex (.ofString "out/index.json") = .ok keptIndex := by
  have hbytes : library.readBytes (.ofString "out/index.json") = .ok keptIndex.encode.toUTF8 := rfl
  exact (FileSystem.loadIndex_of_readBytes hbytes _).2
    (ReportIndex.ofBytes?_encode storable_keptIndex)

def markdownArgs (report : String) : AnalyzeArgs where
  path := .ofString "repo"
  metadata? := none
  config? := none
  format := .markdown
  outputFile? := some (.ofString report)
  workers? := none
  noIndex := false

theorem exists_report (path : String) :
    ∃ report, Makes ⟨.epoch, 4⟩ (markdownArgs path) library report ∧
      Recordable ⟨.epoch, 4⟩ report := by
  have hmakes : ((makeReport ⟨.epoch, 4⟩ (markdownArgs path)).result
      (Step.start library)).1.toOption.any (fun r => r.score.overall = 0.0 ∧ r.issueCount = 0 ∧
        r.strategies = [] ∧ r.indicators = [] ∧ r.riskManagement = []) = true := by
    have hany : makeReport ⟨.epoch, 4⟩ (markdownArgs path) =
        makeReport ⟨.epoch, 4⟩ (markdownArgs "") := rfl
    rw [hany]
    decide +kernel
  have hzero : Json.ReadsBack 0.0 := by decide +kernel
  rcases hresult : ((makeReport ⟨.epoch, 4⟩ (markdownArgs path)).result
    (Step.start library)).1 with f | report
  · rw [hresult] at hmakes
    cases hmakes
  · rw [hresult] at hmakes
    obtain ⟨hscore, hissues, hstrategies, hindicators, hrisks⟩ := of_decide_eq_true hmakes
    exact ⟨report, hresult, hscore ▸ hzero.legible, FileSystem.readsBack_epoch,
      by simp [hissues, Datum.wordLimit], by simp [hstrategies, Datum.wordLimit],
      by simp [hindicators, Datum.wordLimit], by simp [hrisks, Datum.wordLimit]⟩

theorem index_survives_report_beside :
    KeepsIndex ⟨.epoch, 4⟩ (markdownArgs "out/r.md") library keptIndex (.ofString "out/index.json")
      ((Task.analyze (markdownArgs "out/r.md")).run ⟨.epoch, 4⟩ library).files := by
  have hpath : ReportIndex.pathBeside (.ofString "out/r.md") = .ofString "out/index.json" := by
    decide +kernel
  have hload : library.loadIndex (ReportIndex.pathBeside (.ofString "out/r.md")) =
      .ok keptIndex := by
    rw [hpath, loadIndex_library]
  have hsurvives := index_survives ⟨.epoch, 4⟩ (markdownArgs "out/r.md") library
    (p := .ofString "out/r.md") rfl hload (by decide +kernel) FileSystem.readsBack_epoch
    (fun e he => (storable_keptIndex.entries e he).toReadsBack) (by decide)
    (fun report hmade => by
      obtain ⟨report', hmade', hrecordable⟩ := exists_report "out/r.md"
      obtain rfl : report = report' := Except.ok.inj (hmade.symm.trans hmade')
      exact hrecordable)
  rwa [hpath] at hsurvives

/-- The report is written over the index, which then cannot be loaded. -/
theorem index_lost_at_its_own_path :
    library.loadIndex (.ofString "out/index.json") = .ok keptIndex ∧ keptIndex.entries.length = 1 ∧
      ∀ i, ((Task.analyze (markdownArgs "out/index.json")).run ⟨.epoch, 4⟩ library).files.loadIndex
        (.ofString "out/index.json") ≠ .ok i := by
  have hpath : ReportIndex.pathBeside (.ofString "out/index.json") =
      .ofString "out/index.json" := by
    decide +kernel
  obtain ⟨report, hmade, -⟩ := exists_report "out/index.json"
  have htarget : library.target? (.ofString "out/index.json") =
      some ["out".toList, "index.json".toList] := by
    decide +kernel
  have hlost := Reported.index_lost ⟨rfl, hmade, FileSystem.store_eq_ok_iff.2 ⟨_, htarget, rfl⟩⟩ rfl
    (by rw [hpath])
  rw [hpath] at hlost
  exact ⟨loadIndex_library, rfl, hlost⟩

end Command

end Appraisal
