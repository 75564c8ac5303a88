import Appraisal.Proofs.Command.Writes
import Appraisal.Proofs.Index.Files

set_option autoImplicit false

namespace Appraisal

structure FileSystem.SameBut (place : List (List Char)) (fs fs' : FileSystem) : Prop where
  here : fs'.here = fs.here
  nodes : ∀ other, other ≠ place → fs'.top.nodeAt? other = fs.top.nodeAt? other

theorem FileSystem.sameBut_of_store {fs fs' : FileSystem} {p : Path} {text : String}
    (h : fs.store p text = .ok fs') :
    ∃ place, fs.target? p = some place ∧ fs.SameBut place fs' := by
  obtain ⟨place, hplace, rfl⟩ := store_eq_ok_iff.1 h
  refine ⟨place, hplace, rfl, fun other hne => ?_⟩
  rw [nodeAt?_withFile hplace, if_neg hne]

theorem FileSystem.readBytes_of_store {fs fs' : FileSystem} {p r : Path} {text : String}
    {bytes : ByteArray} (h : fs.store p text = .ok fs') (hr : directoryPath? r = none)
    (hne : fs.target? r ≠ fs.target? p) :
    fs'.readBytes r = .ok bytes ↔ fs.readBytes r = .ok bytes := by
  obtain ⟨place, hplace, rfl⟩ := store_eq_ok_iff.1 h
  exact readBytes_withFile_of_ne (takesFile_of_target? hplace) hr (hplace ▸ hne)

namespace Command

variable {s : Surroundings} {args : AnalyzeArgs} {fs fs' : FileSystem} {p : Path}
  {report : Report} {o : Outcome}

structure AnalyzeAtomic (args : AnalyzeArgs) (fs : FileSystem) (o : Outcome) : Prop where
  unwritten : ∀ f, o.failure? = some f → ¬ f.OfIndex → o.files = fs ∧ o.written = []
  unindexed : ∀ f, o.failure? = some f → f.OfIndex → ∃ p text place,
    args.outputFile? = some p ∧ o.written = [(p, text)] ∧ fs.store p text = .ok o.files ∧
      fs.target? p = some place ∧ fs.SameBut place o.files
  /-- What lies beside the report and holds no index stays as it is, and the run does not pass
  over it. The two paths are told apart by the places they lead to, so a report path that is a link
  to the index file is left out, as is one that names it. -/
  beside : ∀ p bytes, args.outputFile? = some p →
    fs.target? (ReportIndex.pathBeside p) ≠ fs.target? p →
    fs.readBytes (ReportIndex.pathBeside p) = .ok bytes → ReportIndex.ofBytes? bytes = none →
    o.files.readBytes (ReportIndex.pathBeside p) = .ok bytes ∧
      (args.noIndex = false → o.failure? ≠ none)

theorem Reported.readBytes_beside (h : Reported s args fs p report fs') {p' : Path}
    {bytes : ByteArray} (hp' : args.outputFile? = some p')
    (hne : fs.target? (ReportIndex.pathBeside p') ≠ fs.target? p')
    (hbytes : fs.readBytes (ReportIndex.pathBeside p') = .ok bytes) :
    fs'.readBytes (ReportIndex.pathBeside p') = .ok bytes := by
  obtain rfl : p = p' := Option.some.inj (h.path.symm.trans hp')
  exact (FileSystem.readBytes_of_store h.store (directoryPath?_pathBeside p) hne).2 hbytes

theorem AnalyzeEnd.unwritten (h : AnalyzeEnd s args fs o) {f : Failure}
    (hf : o.failure? = some f) (hindex : ¬ f.OfIndex) : o.files = fs ∧ o.written = [] := by
  cases h with
  | stopped _ _ htrace =>
    obtain ⟨hfiles, hwritten, -⟩ := Outcome.of_trace htrace
    exact ⟨hfiles, hwritten⟩
  | printed _ htrace =>
    obtain ⟨hfiles, hwritten, -⟩ := Outcome.of_trace htrace
    exact ⟨hfiles, hwritten⟩
  | reported _ _ htrace => cases Outcome.failure_of_trace htrace hf
  | unindexed _ _ _ htrace =>
    obtain rfl := Option.some.inj (Outcome.failure_of_trace htrace hf)
    exact absurd trivial hindex
  | indexed _ _ _ htrace => cases Outcome.failure_of_trace htrace hf

theorem AnalyzeEnd.of_index (h : AnalyzeEnd s args fs o) {f : Failure}
    (hf : o.failure? = some f) (hindex : f.OfIndex) :
    ∃ p report, Reported s args fs p report o.files ∧
      o.written = [(p, report.render args.format)] := by
  cases h with
  | stopped hnot _ htrace =>
    obtain rfl := Option.some.inj (Outcome.failure_of_trace htrace hf)
    exact absurd hindex hnot
  | printed _ htrace => cases Outcome.failure_of_trace htrace hf
  | reported _ _ htrace => cases Outcome.failure_of_trace htrace hf
  | unindexed hreport _ _ htrace =>
    obtain ⟨rfl, hwritten, -⟩ := Outcome.of_trace htrace
    exact ⟨_, _, hreport, hwritten⟩
  | indexed _ _ _ htrace => cases Outcome.failure_of_trace htrace hf

theorem AnalyzeEnd.beside (h : AnalyzeEnd s args fs o) {p : Path} {bytes : ByteArray}
    (hp : args.outputFile? = some p)
    (hne : fs.target? (ReportIndex.pathBeside p) ≠ fs.target? p)
    (hbytes : fs.readBytes (ReportIndex.pathBeside p) = .ok bytes)
    (hnone : ReportIndex.ofBytes? bytes = none) :
    o.files.readBytes (ReportIndex.pathBeside p) = .ok bytes ∧
      (args.noIndex = false → o.failure? ≠ none) := by
  cases h with
  | stopped _ _ htrace =>
    obtain ⟨rfl, -, hfailure⟩ := Outcome.of_trace htrace
    exact ⟨hbytes, fun _ => by simp [hfailure]⟩
  | printed hprinted _ =>
    rw [hp] at hprinted
    cases hprinted
  | reported hreport hindex htrace =>
    obtain ⟨rfl, -, -⟩ := Outcome.of_trace htrace
    exact ⟨hreport.readBytes_beside hp hne hbytes, fun hindexed => by simp [hindex] at hindexed⟩
  | unindexed hreport _ _ htrace =>
    obtain ⟨rfl, -, hfailure⟩ := Outcome.of_trace htrace
    exact ⟨hreport.readBytes_beside hp hne hbytes, fun _ => by simp [hfailure]⟩
  | indexed hreport _ hregister _ =>
    obtain rfl := Option.some.inj (hreport.path.symm.trans hp)
    obtain ⟨fault, hrefused⟩ :=
      FileSystem.registerEntry_refused (hreport.readBytes_beside hp hne hbytes) hnone
    rw [hrefused] at hregister
    cases hregister

theorem AnalyzeEnd.atomic (h : AnalyzeEnd s args fs o) : AnalyzeAtomic args fs o where
  unwritten := fun _ hf hindex => h.unwritten hf hindex
  unindexed := fun _ hf hindex => by
    obtain ⟨p, report, hreport, hwritten⟩ := h.of_index hf hindex
    obtain ⟨place, hplace, hsame⟩ := FileSystem.sameBut_of_store hreport.store
    exact ⟨p, _, place, hreport.path, hwritten, hreport.store, hplace, hsame⟩
  beside := fun _ _ hp hne hbytes hnone => h.beside hp hne hbytes hnone

theorem files_of_quiet {step : Step Unit} (h : step.Quiet) (fs : FileSystem) :
    (step.run fs).files = fs := by
  have htrace := h.trace (Step.start fs)
  rcases hresult : step.result (Step.start fs) with ⟨f | a, o⟩
  · rw [hresult] at htrace
    rw [Step.run_of_error hresult]
    exact (Outcome.of_trace htrace).1
  · rw [hresult] at htrace
    rw [Step.run_of_ok hresult]
    exact (Outcome.of_trace htrace).1

theorem files_of_refused {words : List String} {e : UsageError}
    (h : CommandLine.read words = .error e) (s : Surroundings) (fs : FileSystem) :
    (program words s fs).files = fs := by
  rw [program, h]
  cases e <;> rfl

/-- A run that fails leaves the files as they were, but for a report that was written before the
index was refused. Other commands never change them. -/
theorem failures_leave_files (s : Surroundings) (fs : FileSystem) :
    (∀ args, AnalyzeAtomic args fs ((Task.analyze args).run s fs)) ∧
      (∀ args, ((Task.score args).run s fs).files = fs) ∧
      (∀ p, ((Task.stats p).run s fs).files = fs) ∧
      (∀ args, ((Task.list args).run s fs).files = fs) ∧
      ∀ words e, CommandLine.read words = .error e → (program words s fs).files = fs :=
  ⟨fun args => (analyze_end s args fs).atomic,
    fun args => files_of_quiet (quiet_score s args) fs,
    fun p => files_of_quiet (quiet_stats p) fs,
    fun args => files_of_quiet (quiet_list args) fs,
    fun _ _ h => files_of_refused h s fs⟩

def besideNoIndex : FileSystem where
  top := .directory [("repo".toList, .directory []),
    ("index.json".toList, .file "\x7b not json".toUTF8)]
  here := []

def reportArgs : AnalyzeArgs where
  path := .ofString "repo"
  metadata? := none
  config? := none
  format := .json
  outputFile? := some (.ofString "r.json")
  workers? := none
  noIndex := false

theorem no_index_written_over :
    ((Task.analyze reportArgs).run ⟨.epoch, 4⟩ besideNoIndex).written.length = 1 ∧
      ((Task.analyze reportArgs).run ⟨.epoch, 4⟩ besideNoIndex).failure? ≠ none ∧
      ((Task.analyze reportArgs).run ⟨.epoch, 4⟩ besideNoIndex).files.readBytes
        (.ofString "index.json") = .ok "\x7b not json".toUTF8 := by
  have hbeside := ((failures_leave_files ⟨.epoch, 4⟩ besideNoIndex).1 reportArgs).beside
    (.ofString "r.json") "\x7b not json".toUTF8 rfl (by decide +kernel) rfl rfl
  exact ⟨by decide +kernel, hbeside.2 rfl, hbeside.1⟩

end Command

end Appraisal
