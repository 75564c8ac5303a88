import Appraisal.Command.Run

set_option autoImplicit false

namespace Appraisal.Command

def Failure.OfIndex : Failure → Prop
  | .indexNotUpdated _ _ => True
  | _ => False

def Outcome.trace (o : Outcome) : FileSystem × List (Path × String) × Option Failure :=
  (o.files, o.written, o.failure?)

theorem Outcome.of_trace {o : Outcome} {fs : FileSystem} {written : List (Path × String)}
    {failure? : Option Failure} (h : o.trace = (fs, written, failure?)) :
    o.files = fs ∧ o.written = written ∧ o.failure? = failure? := by
  obtain ⟨hfiles, hrest⟩ := Prod.mk.inj h
  exact ⟨hfiles, Prod.mk.inj hrest⟩

theorem Outcome.failure_of_trace {o : Outcome} {fs : FileSystem} {written : List (Path × String)}
    {failure? : Option Failure} {f : Failure} (h : o.trace = (fs, written, failure?))
    (hf : o.failure? = some f) : failure? = some f :=
  (of_trace h).2.2.symm.trans hf

namespace Step

variable {α β : Type}

/-- What a step answers when so much has been done, and what has been done after it. -/
def result (step : Step α) (o : Outcome) : Except Failure α × Outcome :=
  StateT.run (ExceptT.run step) o

theorem result_pure (a : α) (o : Outcome) : (pure a : Step α).result o = (.ok a, o) := rfl

theorem result_bind (step : Step α) (f : α → Step β) (o : Outcome) :
    (step >>= f).result o =
      match step.result o with
      | (.ok a, o') => (f a).result o'
      | (.error e, o') => (.error e, o') := by
  change (ExceptT.bindCont f (step.result o).1).run (step.result o).2 = _
  rcases step.result o with ⟨_ | _, _⟩ <;> rfl

theorem result_files (o : Outcome) : files.result o = (.ok o.files, o) := rfl

theorem result_orFail {ε : Type} (failure : ε → Failure) (r : Except ε α) (o : Outcome) :
    (orFail failure r).result o = (r.mapError failure, o) := by
  cases r <;> rfl

theorem result_bind_of_ok {step : Step α} {f : α → Step β} {o o' : Outcome} {a : α}
    (h : step.result o = (.ok a, o')) : (step >>= f).result o = (f a).result o' := by
  rw [result_bind, h]

theorem result_bind_of_error {step : Step α} {f : α → Step β} {o o' : Outcome} {e : Failure}
    (h : step.result o = (.error e, o')) : (step >>= f).result o = (.error e, o') := by
  rw [result_bind, h]

theorem exists_of_bind_ok {step : Step α} {f : α → Step β} {o o' : Outcome} {b : β}
    (h : (step >>= f).result o = (.ok b, o')) :
    ∃ a o₁, step.result o = (.ok a, o₁) ∧ (f a).result o₁ = (.ok b, o') := by
  rw [result_bind] at h
  split at h
  · rename_i a o₁ hstep
    exact ⟨a, o₁, hstep, h⟩
  · cases h

def start (fs : FileSystem) : Outcome := ⟨fs, [], "", false, none⟩

theorem run_of_ok {step : Step α} {fs : FileSystem} {o : Outcome} {a : α}
    (h : step.result (start fs) = (.ok a, o)) : step.run fs = o := by
  change (match step.result (start fs) with
    | (.ok _, o) => o
    | (.error f, o) => { o with failure? := some f }) = o
  rw [h]

theorem run_of_error {step : Step α} {fs : FileSystem} {o : Outcome} {f : Failure}
    (h : step.result (start fs) = (.error f, o)) :
    step.run fs = { o with failure? := some f } := by
  change (match step.result (start fs) with
    | (.ok _, o) => o
    | (.error f, o) => { o with failure? := some f }) = _
  rw [h]

/-- A step that writes nothing, and that fails for other reasons than the index. -/
structure Quiet (step : Step α) : Prop where
  trace : ∀ o, (step.result o).2.trace = o.trace
  failure : ∀ o e, (step.result o).1 = .error e → ¬ e.OfIndex

theorem quiet_pure (a : α) : (pure a : Step α).Quiet := ⟨fun _ => rfl, fun _ _ h => nomatch h⟩

theorem Quiet.bind {step : Step α} {f : α → Step β} (hstep : step.Quiet)
    (hf : ∀ a, (f a).Quiet) : (step >>= f).Quiet := by
  constructor
  · intro o
    have htrace := hstep.trace o
    rw [result_bind]
    split
    · rename_i a o' hresult
      rw [hresult] at htrace
      exact ((hf a).trace o').trans htrace
    · rename_i e o' hresult
      rwa [hresult] at htrace
  · intro o e h
    rw [result_bind] at h
    split at h
    · rename_i a o' _
      exact (hf a).failure o' e h
    · rename_i e' o' hresult
      obtain rfl : e' = e := Except.error.inj h
      exact hstep.failure o e' (by rw [hresult])

theorem quiet_throw {e : Failure} (h : ¬ e.OfIndex) : (throw e : Step α).Quiet :=
  ⟨fun _ => rfl, fun _ _ he => Except.error.inj he ▸ h⟩

theorem quiet_orFail {ε : Type} {failure : ε → Failure} (r : Except ε α)
    (h : ∀ e, r = .error e → ¬ (failure e).OfIndex) : (orFail failure r).Quiet := by
  cases r with
  | ok a => exact quiet_pure a
  | error e => exact quiet_throw (h e rfl)

theorem Quiet.files_eq {step : Step α} (h : step.Quiet) {o o' : Outcome} {a : α}
    (hresult : step.result o = (.ok a, o')) : o'.files = o.files := by
  have htrace := h.trace o
  rw [hresult] at htrace
  exact congrArg Prod.fst htrace

theorem orFail_ok {ε : Type} {failure : ε → Failure} {r : Except ε α} {o o' : Outcome} {a : α}
    (h : (orFail failure r).result o = (.ok a, o')) : r = .ok a ∧ o' = o := by
  rw [result_orFail] at h
  obtain ⟨hr, ho⟩ := Prod.mk.inj h
  cases r with
  | ok b => exact ⟨congrArg Except.ok (Except.ok.inj hr), ho.symm⟩
  | error e => cases hr

theorem quiet_files : files.Quiet := ⟨fun _ => rfl, fun _ _ h => nomatch h⟩

theorem quiet_modify {f : Outcome → Outcome} (h : ∀ o, (f o).trace = o.trace) :
    (modify f : Step Unit).Quiet := ⟨h, fun _ _ h => nomatch h⟩

theorem quiet_printLine (text : String) : (printLine text).Quiet :=
  quiet_modify fun _ => rfl

theorem quiet_printLines (lines : List String) : (lines.forM printLine).Quiet := by
  induction lines with
  | nil => exact quiet_pure ()
  | cons line lines ih => exact (quiet_printLine line).bind fun _ => ih

theorem quiet_checkArguments (error? : Option ArgumentError) : (checkArguments error?).Quiet := by
  cases error? with
  | none => exact quiet_pure ()
  | some e => exact quiet_throw id

theorem quiet_checkMinimum (score : Score.TrustScore Float) (settings : Settings) :
    (checkMinimum score settings).Quiet := by
  unfold checkMinimum
  split
  · exact quiet_modify fun _ => rfl
  · exact quiet_pure ()

theorem quiet_loadConfig (s : Surroundings) (config? : Option Path) :
    (loadConfig s config?).Quiet := by
  cases config? with
  | none => exact quiet_pure _
  | some p => exact quiet_files.bind fun fs => quiet_orFail _ fun _ _ => id

theorem quiet_loadIndex (p : Path) : (loadIndex p).Quiet :=
  quiet_files.bind fun _ => quiet_orFail _ fun _ _ => id

end Step

end Appraisal.Command
