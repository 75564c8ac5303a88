import Appraisal.Proofs.Command.Steps

set_option autoImplicit false

/-!
# What commands write

A run on a repository ends before anything is written, or it has written the report, and then the
index beside it unless that fails or is not wanted. Told once here, with all that is known then.
-/
namespace Appraisal.Command

open Step

variable {s : Surroundings} {args : AnalyzeArgs}

theorem not_ofIndex_of_stampedMetadata {fs : FileSystem} {now : Instant} {p : Path} {f : Failure}
    (h : stampedMetadata fs now p = .error f) : ¬ f.OfIndex := by
  unfold stampedMetadata at h
  split at h
  · cases h
  · cases h
    exact id

theorem not_ofIndex_of_metadata {fs : FileSystem} {f : Failure}
    (h : args.metadata s fs = .error f) : ¬ f.OfIndex := by
  unfold AnalyzeArgs.metadata at h
  split at h
  · exact not_ofIndex_of_stampedMetadata h
  · cases h

theorem quiet_makeReport (s : Surroundings) (args : AnalyzeArgs) : (makeReport s args).Quiet :=
  quiet_files.bind fun _ => (quiet_checkArguments _).bind fun _ =>
    (quiet_loadConfig s args.config?).bind fun _ => (quiet_orFail _ fun _ _ => id).bind fun _ =>
      quiet_files.bind fun _ => (quiet_orFail _ fun _ => not_ofIndex_of_metadata).bind fun _ =>
        quiet_files.bind fun _ => (quiet_orFail _ fun _ _ => id).bind fun _ =>
          (quiet_checkMinimum _ _).bind fun _ => quiet_pure _

theorem quiet_loadMetadata (s : Surroundings) (p : Path) : (loadMetadata s p).Quiet :=
  quiet_files.bind fun _ => quiet_orFail _ fun _ => not_ofIndex_of_stampedMetadata

theorem quiet_score (s : Surroundings) (args : ScoreArgs) : (score s args).Quiet :=
  quiet_files.bind fun _ => (quiet_checkArguments _).bind fun _ =>
    (quiet_loadConfig s args.config?).bind fun _ => (quiet_orFail _ fun _ _ => id).bind fun _ =>
      (quiet_loadMetadata s args.metadata).bind fun _ => (quiet_checkMinimum _ _).bind fun _ =>
        quiet_printLine _

theorem quiet_stats (p : Path) : (stats p).Quiet :=
  (quiet_loadIndex p).bind fun _ => quiet_printLines _

theorem quiet_list (args : ListArgs) : (list args).Quiet :=
  (quiet_checkArguments _).bind fun _ => (quiet_loadIndex _).bind fun _ =>
    (quiet_printLine _).bind fun _ => quiet_printLines _

theorem isDirectory_of_error?_eq_none {fs : FileSystem} (h : args.error? fs = none) :
    fs.isDirectory args.path = true := by
  have hdirectory : directoryError? fs args.path = none := (Option.or_eq_none_iff.1 h).1
  unfold directoryError? at hdirectory
  split at hdirectory
  · cases hdirectory
  · split at hdirectory
    · cases hdirectory
    · rename_i hnot
      simpa using hnot

theorem makeReport_ok {o o' : Outcome} {report : Report}
    (h : (makeReport s args).result o = (.ok report, o')) :
    o.files.isDirectory args.path = true ∧ args.metadata s o.files = .ok report.metadata := by
  obtain ⟨_, _, hfiles, hchecked⟩ := exists_of_bind_ok h
  cases hfiles
  obtain ⟨_, o₁, hcheck, hloading⟩ := exists_of_bind_ok hchecked
  have hroot : o.files.isDirectory args.path = true := by
    refine isDirectory_of_error?_eq_none ?_
    cases herror : args.error? o.files with
    | none => rfl
    | some e =>
      rw [herror] at hcheck
      cases hcheck
  obtain ⟨config, o₂, hconfig, hvalid⟩ := exists_of_bind_ok hloading
  have hfiles₂ : o₂.files = o.files :=
    ((quiet_loadConfig s args.config?).files_eq hconfig).trans
      ((quiet_checkArguments _).files_eq hcheck)
  obtain ⟨settings, o₃, hsettings, hknown⟩ := exists_of_bind_ok hvalid
  obtain ⟨_, _, hfiles, hasked⟩ := exists_of_bind_ok hknown
  cases hfiles
  obtain ⟨metadata, o₄, hmetadata, hanalyzing⟩ := exists_of_bind_ok hasked
  have hgiven : args.metadata s o.files = .ok metadata := by
    rw [← hfiles₂, ← (orFail_ok hsettings).2]
    exact (orFail_ok hmetadata).1
  obtain ⟨_, _, hfiles, hanalyzed⟩ := exists_of_bind_ok hanalyzing
  cases hfiles
  obtain ⟨result, o₅, -, hscored⟩ := exists_of_bind_ok hanalyzed
  obtain ⟨_, o₆, -, hreport⟩ := exists_of_bind_ok hscored
  cases hreport
  exact ⟨hroot, hgiven⟩

/-- The report that a run makes before it writes anything. -/
def Makes (s : Surroundings) (args : AnalyzeArgs) (fs : FileSystem) (report : Report) : Prop :=
  ((makeReport s args).result (start fs)).1 = .ok report

theorem Makes.of_directory {fs : FileSystem} {report : Report} (h : Makes s args fs report) :
    fs.isDirectory args.path = true ∧ args.metadata s fs = .ok report.metadata :=
  makeReport_ok (Prod.ext h rfl)

structure Reported (s : Surroundings) (args : AnalyzeArgs) (fs : FileSystem) (p : Path)
    (report : Report) (fs' : FileSystem) : Prop where
  path : args.outputFile? = some p
  made : Makes s args fs report
  store : fs.store p (report.render args.format) = .ok fs'

def entryFor (s : Surroundings) (args : AnalyzeArgs) (fs : FileSystem) (p : Path)
    (report : Report) : IndexEntry :=
  .ofReport (repositoryName fs args.path report.metadata) report p.toString s.now

inductive AnalyzeEnd (s : Surroundings) (args : AnalyzeArgs) (fs : FileSystem) : Outcome → Prop
  | stopped {o : Outcome} {f : Failure} (hf : ¬ f.OfIndex)
    (hnot : ∀ p report fs', ¬ Reported s args fs p report fs') (h : o.trace = (fs, [], some f)) :
    AnalyzeEnd s args fs o
  | printed {o : Outcome} (hp : args.outputFile? = none) (h : o.trace = (fs, [], none)) :
    AnalyzeEnd s args fs o
  | reported {o : Outcome} {p : Path} {report : Report} {fs' : FileSystem}
    (hreport : Reported s args fs p report fs') (hindex : args.noIndex = true)
    (h : o.trace = (fs', [(p, report.render args.format)], none)) : AnalyzeEnd s args fs o
  | unindexed {o : Outcome} {p : Path} {report : Report} {fs' : FileSystem} {fault : FileFault}
    (hreport : Reported s args fs p report fs') (hindex : args.noIndex = false)
    (hregister : fs'.registerEntry (ReportIndex.pathBeside p) (entryFor s args fs' p report) s.now =
      .error fault)
    (h : o.trace = (fs', [(p, report.render args.format)],
      some (.indexNotUpdated (ReportIndex.pathBeside p).toString fault))) : AnalyzeEnd s args fs o
  | indexed {o : Outcome} {p : Path} {report : Report} {fs' fs'' : FileSystem} {i : ReportIndex}
    (hreport : Reported s args fs p report fs') (hindex : args.noIndex = false)
    (hregister : fs'.registerEntry (ReportIndex.pathBeside p) (entryFor s args fs' p report) s.now =
      .ok (i, fs''))
    (h : o.trace = (fs'', [(p, report.render args.format), (ReportIndex.pathBeside p, i.encode)],
      none)) : AnalyzeEnd s args fs o

theorem emit_stored {o : Outcome} {p : Path} {text : String} {fs' : FileSystem}
    (h : o.files.store p text = .ok fs') :
    ∃ o', (emit text (some p)).result o = (.ok (), o') ∧
      o'.trace = (fs', o.written ++ [(p, text)], o.failure?) := by
  refine ⟨{ o with files := fs', written := o.written ++ [(p, text)] }, ?_, rfl⟩
  rw [emit, result_bind_of_ok (result_files o), h]
  rfl

theorem emit_refused {o : Outcome} {p : Path} {text : String} {fault : FileFault}
    (h : o.files.store p text = .error fault) :
    (emit text (some p)).result o = (.error (.outputUnwritten fault), o) := by
  rw [emit, result_bind_of_ok (result_files o), h]
  rfl

section Entering

variable {o : Outcome} {p : Path} {report : Report}

theorem enterReport_refused {fault : FileFault}
    (h : o.files.registerEntry (ReportIndex.pathBeside p) (entryFor s args o.files p report) s.now =
      .error fault) :
    (enterReport s args.path report p).result o =
      (.error (.indexNotUpdated (ReportIndex.pathBeside p).toString fault), o) := by
  rw [enterReport, result_bind_of_ok (result_files o)]
  refine result_bind_of_error ?_
  rw [result_orFail]
  exact congrArg (fun r => (Except.mapError _ r, o)) h

theorem enterReport_entered {i : ReportIndex} {fs' : FileSystem}
    (h : o.files.registerEntry (ReportIndex.pathBeside p) (entryFor s args o.files p report) s.now =
      .ok (i, fs')) :
    ∃ o', (enterReport s args.path report p).result o = (.ok (), o') ∧
      o'.trace = (fs', o.written ++ [(ReportIndex.pathBeside p, i.encode)], o.failure?) := by
  refine ⟨{ o with files := fs', written := o.written ++ [(ReportIndex.pathBeside p, i.encode)] },
    ?_, rfl⟩
  rw [enterReport, result_bind_of_ok (result_files o)]
  have hregister : (orFail (.indexNotUpdated (ReportIndex.pathBeside p).toString)
      (o.files.registerEntry (ReportIndex.pathBeside p) (entryFor s args o.files p report)
        s.now)).result o = (.ok (i, fs'), o) := by
    rw [h]
    rfl
  exact (result_bind_of_ok hregister).trans rfl

end Entering

/-- How a run ends when the rest of it has been answered with `r`. -/
def AnalyzeEnds (s : Surroundings) (args : AnalyzeArgs) (fs : FileSystem) :
    Except Failure Unit × Outcome → Prop
  | (.ok (), o) => AnalyzeEnd s args fs o
  | (.error f, o) => AnalyzeEnd s args fs { o with failure? := some f }

theorem stored_ends {o : Outcome} {p : Path} {report : Report} {fs fs' : FileSystem}
    (hreport : Reported s args fs p report fs')
    (htrace : o.trace = (fs', [(p, report.render args.format)], none)) :
    AnalyzeEnds s args fs
      ((if !args.noIndex then enterReport s args.path report p else pure ()).result o) := by
  obtain ⟨hfiles, hwritten, hnone⟩ := Outcome.of_trace htrace
  cases hindex : args.noIndex with
  | true =>
    rw [if_neg (by simp), result_pure]
    exact .reported hreport hindex htrace
  | false =>
    rw [if_pos (by simp)]
    cases hregister : o.files.registerEntry (ReportIndex.pathBeside p)
        (entryFor s args o.files p report) s.now with
    | error fault =>
      rw [enterReport_refused hregister]
      rw [hfiles] at hregister
      refine .unindexed hreport hindex hregister ?_
      rw [Outcome.trace, hfiles, hwritten]
    | ok r =>
      obtain ⟨o', hresult, htrace'⟩ := enterReport_entered hregister
      rw [hresult]
      rw [hfiles] at hregister
      refine .indexed hreport hindex hregister ?_
      rw [htrace', hwritten, hnone]
      rfl

theorem deliver_ends {fs : FileSystem} {o : Outcome} {report : Report}
    (htrace : o.trace = (fs, [], none)) (hmade : Makes s args fs report) :
    AnalyzeEnds s args fs ((deliver s args report).result o) := by
  obtain ⟨hfiles, hwritten, hnone⟩ := Outcome.of_trace htrace
  unfold deliver
  cases hp : args.outputFile? with
  | none => exact .printed hp htrace
  | some p =>
    cases hstore : fs.store p (report.render args.format) with
    | error fault =>
      rw [result_bind_of_error (emit_refused (hfiles ▸ hstore))]
      have hnot : ∀ p' report' fs', ¬ Reported s args fs p' report' fs' := by
        intro p' report' fs' hreport
        obtain rfl : p' = p := Option.some.inj (hreport.path.symm.trans hp)
        obtain rfl : report' = report := Except.ok.inj (hreport.made.symm.trans hmade)
        cases hreport.store.symm.trans hstore
      refine .stopped (f := .outputUnwritten fault) id hnot ?_
      rw [Outcome.trace, hfiles, hwritten]
    | ok fs' =>
      obtain ⟨o', hemit, htrace'⟩ := emit_stored (hfiles ▸ hstore)
      rw [result_bind_of_ok hemit]
      refine stored_ends ⟨hp, hmade, hstore⟩ ?_
      rw [htrace', hwritten, hnone]
      rfl

theorem analyze_end (s : Surroundings) (args : AnalyzeArgs) (fs : FileSystem) :
    AnalyzeEnd s args fs ((Task.analyze args).run s fs) := by
  have hstart := (quiet_makeReport s args).trace (start fs)
  have hfailure := (quiet_makeReport s args).failure (start fs)
  rcases hmake : (makeReport s args).result (start fs) with ⟨_ | report, o₁⟩
  · rename_i f
    rw [hmake] at hstart hfailure
    have hrun : (Task.analyze args).run s fs = { o₁ with failure? := some f } :=
      run_of_error (result_bind_of_error hmake)
    rw [hrun]
    obtain ⟨hfiles, hwritten, -⟩ := Outcome.of_trace hstart
    refine .stopped (hfailure f rfl) (fun p report fs' hreport => ?_) ?_
    · have hmade := hreport.made
      rw [Makes, hmake] at hmade
      cases hmade
    rw [Outcome.trace, hfiles, hwritten]
    rfl
  · rw [hmake] at hstart
    have hends : AnalyzeEnds s args fs ((deliver s args report).result o₁) :=
      deliver_ends hstart (congrArg Prod.fst hmake)
    rcases hdeliver : (deliver s args report).result o₁ with ⟨_ | _, o₂⟩
    · rename_i f
      rw [hdeliver] at hends
      have hrun : (Task.analyze args).run s fs = { o₂ with failure? := some f } :=
        run_of_error ((result_bind_of_ok hmake).trans hdeliver)
      rw [hrun]
      exact hends
    · rw [hdeliver] at hends
      have hrun : (Task.analyze args).run s fs = o₂ :=
        run_of_ok ((result_bind_of_ok hmake).trans hdeliver)
      rw [hrun]
      exact hends

end Appraisal.Command
