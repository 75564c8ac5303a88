import Appraisal.Proofs.Index.Registrations
import Mathlib.Data.Bool.Count
import Mathlib.Data.Fintype.Card

set_option autoImplicit false

/-!
# Interleaved registrations

Several processes enter one report each into the same file. Each of them loads the index and later
saves what it made of it, and nothing keeps the others from loading or saving in between. Whose
entries the file has in the end is told by the schedule alone: it is the trail of those that saved
what the next one loaded.
-/
namespace Appraisal

inductive Stage (α : Type) where
  | waiting
  /-- It has loaded the index and holds it with its own entry put in. -/
  | holding (found : α)
  | finished
  deriving DecidableEq

namespace Stage

variable {α β ι : Type} [DecidableEq ι]

def progress : Stage α → Nat
  | .waiting => 0
  | .holding _ => 1
  | .finished => 2

theorem progress_le (a : Stage α) : a.progress ≤ 2 := by
  cases a <;> simp [progress]

inductive Matches (R : α → β → Prop) : Stage α → Stage β → Prop
  | waiting : Matches R .waiting .waiting
  | holding {a : α} {b : β} (held : R a b) : Matches R (.holding a) (.holding b)
  | finished : Matches R .finished .finished

theorem Matches.update {R : α → β → Prop} {f : ι → Stage α} {g : ι → Stage β}
    (h : ∀ v, Matches R (f v) (g v)) (w : ι) {a : Stage α} {b : Stage β} (hw : Matches R a b)
    (v : ι) : Matches R (Function.update f w a v) (Function.update g w b v) := by
  by_cases hv : v = w
  · subst hv
    rwa [Function.update_self, Function.update_self]
  · rw [Function.update_of_ne hv, Function.update_of_ne hv]
    exact h v

theorem Matches.eq_finished {R : α → β → Prop} {a : Stage α} (h : Matches R a .finished) :
    a = .finished := by
  cases h
  rfl

end Stage

structure Registrars (ι : Type) where
  files : FileSystem
  stage : ι → Stage ReportIndex

namespace Registrars

variable {ι : Type} [DecidableEq ι]

def start (fs : FileSystem) : Registrars ι := ⟨fs, fun _ => .waiting⟩

def step (p : Path) (reports : ι → IndexEntry × Instant) (s : Registrars ι) (w : ι) :
    Except FileFault (Registrars ι) :=
  match s.stage w with
  | .waiting => do
    let i ← s.files.loadIndexOrNew p (reports w).2
    let found := i.upsert (reports w).1 (reports w).2
    return { s with stage := Function.update s.stage w (.holding found) }
  | .holding found => do
    let fs ← s.files.saveIndex p found
    return ⟨fs, Function.update s.stage w .finished⟩
  | .finished => .ok s

def run (p : Path) (reports : ι → IndexEntry × Instant) (s : Registrars ι) :
    List ι → Except FileFault (Registrars ι)
  | [] => .ok s
  | w :: rest => do (← s.step p reports w).run p reports rest

section Steps

variable {p : Path} {reports : ι → IndexEntry × Instant} {s : Registrars ι} {w : ι}

theorem run_append (s : Registrars ι) (before after : List ι) :
    s.run p reports (before ++ after) =
      (s.run p reports before).bind fun s => s.run p reports after := by
  induction before generalizing s with
  | nil => rfl
  | cons w rest ih =>
    rw [List.cons_append, run, run]
    cases s.step p reports w with
    | error fault => rfl
    | ok s => exact ih s

theorem step_waiting (hw : s.stage w = .waiting) : s.step p reports w =
    (s.files.loadIndexOrNew p (reports w).2).map fun i =>
      ⟨s.files, Function.update s.stage w
        (.holding (i.upsert (reports w).1 (reports w).2))⟩ := by
  rw [step, hw]
  cases s.files.loadIndexOrNew p (reports w).2 <;> rfl

theorem step_holding {found : ReportIndex} (hw : s.stage w = .holding found) :
    s.step p reports w = (s.files.saveIndex p found).map fun fs =>
      ⟨fs, Function.update s.stage w .finished⟩ := by
  rw [step, hw]
  cases hsave : s.files.saveIndex p found <;> simp only [hsave] <;> rfl

theorem step_finished (hw : s.stage w = .finished) : s.step p reports w = .ok s := by
  rw [step, hw]

theorem run_twice (hw : s.stage w = .waiting) : s.run p reports [w, w] =
    (s.files.registerEntry p (reports w).1 (reports w).2).map fun entered =>
      ⟨entered.2, Function.update s.stage w .finished⟩ := by
  rw [run, step_waiting hw, FileSystem.registerEntry]
  cases s.files.loadIndexOrNew p (reports w).2 with
  | error fault => rfl
  | ok i =>
    change run p reports ⟨s.files, Function.update s.stage w _⟩ [w] = _
    rw [run, step_holding (Function.update_self ..), Function.update_idem]
    cases hsave : s.files.saveIndex p (i.upsert (reports w).1 (reports w).2) <;>
      simp only [bind, Except.bind, hsave] <;> rfl

/-- Processes of which each has saved before the next one loads enter their reports as one process
does that enters them in turn. -/
theorem run_serial {ws : List ι} (hws : ws.Nodup) (h : ∀ w ∈ ws, s.stage w = .waiting) :
    (s.run p reports (ws.flatMap fun w => [w, w])).map files =
      s.files.registerAll p (ws.map reports) := by
  induction ws generalizing s with
  | nil => rfl
  | cons w rest ih =>
    obtain ⟨hw, hrest⟩ := List.nodup_cons.1 hws
    rw [List.flatMap_cons, run_append, run_twice (h w List.mem_cons_self), List.map_cons,
      FileSystem.registerAll]
    cases s.files.registerEntry p (reports w).1 (reports w).2 with
    | error fault => rfl
    | ok entered =>
      refine ih hrest fun v hv => ?_
      have hne : v ≠ w := fun heq => hw (heq ▸ hv)
      exact (Function.update_of_ne hne _ _).trans (h v (List.mem_cons_of_mem _ hv))

end Steps

end Registrars

/-- Which processes entered what stands in the file, and what each process holds. -/
structure Trail (ι : Type) where
  saved : List ι
  stage : ι → Stage (List ι)

namespace Trail

variable {ι : Type} [DecidableEq ι] {t : Trail ι} {w : ι}

def start : Trail ι := ⟨[], fun _ => .waiting⟩

def step (t : Trail ι) (w : ι) : Trail ι :=
  match t.stage w with
  | .waiting => { t with stage := Function.update t.stage w (.holding (t.saved ++ [w])) }
  | .holding found => ⟨found, Function.update t.stage w .finished⟩
  | .finished => t

def run (t : Trail ι) (schedule : List ι) : Trail ι := schedule.foldl step t

theorem step_waiting (hw : t.stage w = .waiting) : t.step w =
    ⟨t.saved, Function.update t.stage w (.holding (t.saved ++ [w]))⟩ := by
  rw [step, hw]

theorem step_holding {found : List ι} (hw : t.stage w = .holding found) :
    t.step w = ⟨found, Function.update t.stage w .finished⟩ := by
  rw [step, hw]

theorem step_finished (hw : t.stage w = .finished) : t.step w = t := by
  rw [step, hw]

theorem progress_step (t : Trail ι) (w v : ι) :
    ((t.step w).stage v).progress =
      min 2 ((t.stage v).progress + if w = v then 1 else 0) := by
  by_cases hv : w = v
  · subst hv
    cases hw : t.stage w <;> simp [step, hw, Stage.progress]
  · have hbound := (t.stage v).progress_le
    rw [if_neg hv, step]
    cases t.stage w <;> simp [Function.update_of_ne (Ne.symm hv), hbound]

theorem progress_run (t : Trail ι) (schedule : List ι) (v : ι) :
    ((t.run schedule).stage v).progress =
      min 2 ((t.stage v).progress + schedule.count v) := by
  induction schedule generalizing t with
  | nil => exact (Nat.min_eq_right (t.stage v).progress_le).symm
  | cons w rest ih =>
    change (((t.step w).run rest).stage v).progress = _
    rw [ih, progress_step, List.count_cons]
    by_cases hv : w = v
    · simp only [hv, if_true, beq_self_eq_true]
      omega
    · simp only [hv, if_false, beq_iff_eq]
      omega

theorem finished_of_count {schedule : List ι} (h : schedule.count w = 2) :
    (start.run schedule).stage w = .finished := by
  have hprogress := progress_run start schedule w
  rw [h] at hprogress
  cases hstage : (start.run schedule).stage w with
  | waiting =>
    rw [hstage] at hprogress
    cases hprogress
  | holding found =>
    rw [hstage] at hprogress
    cases hprogress
  | finished => rfl

structure Sound (t : Trail ι) : Prop where
  nodup : t.saved.Nodup
  saved : ∀ v ∈ t.saved, t.stage v = .finished
  held : ∀ w found, t.stage w = .holding found → ∃ before, found = before ++ [w] ∧
    before.Nodup ∧ ∀ v ∈ before, t.stage v = .finished

omit [DecidableEq ι] in
theorem nodup_append_of_finished {before : List ι} (hnodup : before.Nodup)
    (hfinished : ∀ v ∈ before, t.stage v = .finished) (hw : t.stage w ≠ .finished) :
    (before ++ [w]).Nodup := by
  rw [List.nodup_append]
  refine ⟨hnodup, List.nodup_singleton w, fun v hv u hu heq => hw ?_⟩
  rw [← List.mem_singleton.1 hu, ← heq, hfinished v hv]

omit [DecidableEq ι] in
theorem sound_start : (start : Trail ι).Sound where
  nodup := List.nodup_nil
  saved := fun _ h => absurd h List.not_mem_nil
  held := fun _ _ h => nomatch h

theorem finished_step {v : ι} (h : t.stage v = .finished) : (t.step w).stage v = .finished := by
  by_cases hv : v = w
  · subst hv
    rw [step_finished h, h]
  · rw [step]
    cases t.stage w <;> simp [Function.update_of_ne hv, h]

theorem Sound.step (h : t.Sound) (w : ι) : (t.step w).Sound := by
  have hkept : ∀ before : List ι, (∀ v ∈ before, t.stage v = .finished) →
      ∀ v ∈ before, (t.step w).stage v = .finished :=
    fun before hbefore v hv => finished_step (hbefore v hv)
  cases hw : t.stage w with
  | waiting =>
    rw [step_waiting hw] at hkept ⊢
    refine ⟨h.nodup, hkept _ h.saved, fun v found hv => ?_⟩
    by_cases heq : v = w
    · subst heq
      simp only [Function.update_self] at hv
      cases hv
      exact ⟨t.saved, rfl, h.nodup, hkept _ h.saved⟩
    · simp only [Function.update_of_ne heq] at hv
      obtain ⟨before, rfl, hnodup, hbefore⟩ := h.held v found hv
      exact ⟨before, rfl, hnodup, hkept _ hbefore⟩
  | holding found =>
    -- the process is put behind those that it found, all of them finished
    obtain ⟨before, rfl, hnodup, hbefore⟩ := h.held w found hw
    rw [step_holding hw] at hkept ⊢
    refine ⟨nodup_append_of_finished hnodup hbefore (hw ▸ nofun), ?_, fun v other hv => ?_⟩
    · intro v hv
      rcases List.mem_append.1 hv with hv | hv
      · exact hkept _ hbefore v hv
      · rw [List.mem_singleton.1 hv]
        exact Function.update_self ..
    · by_cases heq : v = w
      · subst heq
        simp only [Function.update_self] at hv
        cases hv
      · simp only [Function.update_of_ne heq] at hv
        obtain ⟨before, rfl, hnodup, hbefore⟩ := h.held v other hv
        exact ⟨before, rfl, hnodup, hkept _ hbefore⟩
  | finished =>
    rwa [step_finished hw]

theorem Sound.run (h : t.Sound) (schedule : List ι) : (t.run schedule).Sound := by
  induction schedule generalizing t with
  | nil => exact h
  | cons w rest ih => exact ih (h.step w)

end Trail

def entriesAfter {ι : Type} (reports : ι → IndexEntry × Instant) (base : List IndexEntry)
    (trail : List ι) : List IndexEntry :=
  trail.foldl (fun entries w => ReportIndex.put (reports w).1 entries) base

section Entries

variable {ι : Type} {reports : ι → IndexEntry × Instant} {base : List IndexEntry}

theorem entriesAfter_append (trail : List ι) (w : ι) :
    entriesAfter reports base (trail ++ [w]) =
      ReportIndex.put (reports w).1 (entriesAfter reports base trail) := by
  simp [entriesAfter]

theorem entriesAfter_ne_nil {trail : List ι} (h : trail ≠ []) :
    entriesAfter reports base trail ≠ [] := by
  rw [← List.dropLast_append_getLast h, entriesAfter_append]
  exact List.ne_nil_of_mem (ReportIndex.mem_put_self _ _)

theorem length_entriesAfter_le (trail : List ι) :
    (entriesAfter reports base trail).length ≤ base.length + trail.length := by
  induction trail using List.reverseRecOn with
  | nil => exact Nat.le_refl _
  | append_singleton trail w ih =>
    have hput := (ReportIndex.length_put_bounds (reports w).1
      (entriesAfter reports base trail)).2
    rw [entriesAfter_append, List.length_append, List.length_singleton]
    omega

end Entries

namespace FileSystem

/-- Whoever loads the index at a path, or starts one there, finds these entries. -/
def Offers (fs : FileSystem) (p : Path) (entries : List IndexEntry) : Prop :=
  ∀ now : Instant, now.ReadsBack → ∃ i, fs.loadIndexOrNew p now = .ok i ∧ i.createdAt.ReadsBack ∧
    i.entries = entries ∧ ∀ e ∈ entries, e.Storable

variable {fs : FileSystem} {p : Path} {i : ReportIndex}

theorem offers_of_absent (h : fs.pathExists p = false) : fs.Offers p [] := by
  intro now hnow
  refine ⟨.empty now, ?_, hnow, rfl, fun _ h => absurd h List.not_mem_nil⟩
  rw [loadIndexOrNew, h]
  rfl

theorem offers_of_loadIndex (h : fs.loadIndex p = .ok i) (hcreated : i.createdAt.ReadsBack)
    (hback : ∀ e ∈ i.entries, e.ReadsBack) : fs.Offers p i.entries := by
  intro now _
  obtain ⟨bytes, hread, hbytes⟩ := exists_bytes_of_loadIndex h
  refine ⟨i, ?_, hcreated, rfl,
    fun e he => (ReportIndex.of_ofBytes? hbytes).2 e he (hback e he)⟩
  rw [loadIndexOrNew, pathExists_of_readBytes hread, if_pos rfl, h]

theorem Keeps.offers (h : fs.Keeps p i) : fs.Offers p i.entries :=
  fun now _ => ⟨i, h.loadIndexOrNew now, h.storable.createdAt, rfl, h.storable.entries⟩

end FileSystem

namespace Registrars

variable {ι : Type} [DecidableEq ι] {p : Path} {q : List (List Char)}
  {reports : ι → IndexEntry × Instant} {base : List IndexEntry} {s : Registrars ι} {t : Trail ι}

structure Follows (p : Path) (q : List (List Char)) (reports : ι → IndexEntry × Instant)
    (base : List IndexEntry) (s : Registrars ι) (t : Trail ι) : Prop where
  target : s.files.target? p = some q
  offers : s.files.Offers p (entriesAfter reports base t.saved)
  stage : ∀ w, Stage.Matches
    (fun i trail => i.Storable ∧ i.entries = entriesAfter reports base trail)
    (s.stage w) (t.stage w)

theorem Follows.step [Fintype ι] (h : s.Follows p q reports base t) (hsound : t.Sound)
    (hreports : ∀ w, (reports w).1.Storable ∧ (reports w).2.ReadsBack)
    (hlength : base.length + Fintype.card ι < Datum.wordLimit) (w : ι) :
    ∃ s', s.step p reports w = .ok s' ∧ s'.Follows p q reports base (t.step w) := by
  have hmatch := h.stage w
  generalize hs : s.stage w = mine, ht : t.stage w = trail at hmatch
  cases hmatch with
  | waiting =>
    -- it loads what the file offers, and its own entry is put in
    obtain ⟨i, hload, hcreated, hentries, hstorable⟩ := h.offers _ (hreports w).2
    rw [← hentries] at hstorable
    have hput : (i.upsert (reports w).1 (reports w).2).entries =
        entriesAfter reports base (t.saved ++ [w]) := by
      rw [entriesAfter_append, ← hentries]
      rfl
    have hshort : (i.upsert (reports w).1 (reports w).2).entries.length < Datum.wordLimit := by
      have hnew : (t.saved ++ [w]).Nodup :=
        Trail.nodup_append_of_finished hsound.nodup hsound.saved (by rw [ht]; nofun)
      rw [hput]
      exact Nat.lt_of_le_of_lt ((length_entriesAfter_le _).trans
        (Nat.add_le_add_left hnew.length_le_card _)) hlength
    have hfound := ReportIndex.storable_upsert hcreated hstorable (hreports w).1 (hreports w).2
      hshort
    refine ⟨⟨s.files, _⟩, by rw [step_waiting hs, hload]; rfl, ?_⟩
    rw [Trail.step_waiting ht]
    exact ⟨h.target, h.offers, Stage.Matches.update h.stage w (.holding ⟨hfound, hput⟩)⟩
  | @holding found trail held =>
    -- it saves what it holds over whatever the file has by now
    have hsave : s.files.saveIndex p found = .ok _ :=
      FileSystem.store_eq_ok_iff.2 ⟨q, h.target, rfl⟩
    refine ⟨⟨_, _⟩, by rw [step_holding hs, hsave]; rfl, ?_⟩
    rw [Trail.step_holding ht]
    refine ⟨?_, ?_, Stage.Matches.update h.stage w .finished⟩
    · rw [FileSystem.target?_withFile (FileSystem.takesFile_of_target? h.target), h.target]
    · have hkeeps : FileSystem.Keeps _ p found :=
        ⟨held.1, FileSystem.readBytes_withFile_self h.target⟩
      exact held.2 ▸ hkeeps.offers
  | finished =>
    refine ⟨s, step_finished hs, ?_⟩
    rwa [Trail.step_finished ht]

theorem Follows.run [Fintype ι] (h : s.Follows p q reports base t) (hsound : t.Sound)
    (hreports : ∀ w, (reports w).1.Storable ∧ (reports w).2.ReadsBack)
    (hlength : base.length + Fintype.card ι < Datum.wordLimit) (schedule : List ι) :
    ∃ s', s.run p reports schedule = .ok s' ∧ s'.Follows p q reports base (t.run schedule) := by
  induction schedule generalizing s t with
  | nil => exact ⟨s, rfl, h⟩
  | cons w rest ih =>
    obtain ⟨between, hstep, hbetween⟩ := h.step hsound hreports hlength w
    obtain ⟨s', hrun, hs'⟩ := ih hbetween (hsound.step w)
    refine ⟨s', ?_, hs'⟩
    rw [Registrars.run, hstep]
    exact hrun

/-- Every schedule can be run to its end, and what the file then holds is told by the trail of the
schedule. -/
theorem exists_run [Fintype ι] {fs : FileSystem} (hq : fs.target? p = some q)
    (hstart : fs.pathExists p = false ∧ base = [] ∨ ∃ i, fs.loadIndex p = .ok i ∧
      i.entries = base ∧ i.createdAt.ReadsBack ∧ ∀ e ∈ base, e.ReadsBack)
    (hreports : ∀ w, (reports w).1.Storable ∧ (reports w).2.ReadsBack)
    (hlength : base.length + Fintype.card ι < Datum.wordLimit) (schedule : List ι) :
    ∃ s, (start fs).run p reports schedule = .ok s ∧
      s.Follows p q reports base (Trail.start.run schedule) := by
  have hoffers : fs.Offers p base := by
    rcases hstart with ⟨habsent, rfl⟩ | ⟨i, hload, rfl, hcreated, hback⟩
    · exact FileSystem.offers_of_absent habsent
    · exact FileSystem.offers_of_loadIndex hload hcreated hback
  have hfollows : (start fs).Follows p q reports base Trail.start :=
    ⟨hq, hoffers, fun _ => .waiting⟩
  exact hfollows.run Trail.sound_start hreports hlength schedule

omit [DecidableEq ι] in
theorem Follows.exists_loadIndex (h : s.Follows p q reports base t) (hsaved : t.saved ≠ []) :
    ∃ after, s.files.loadIndex p = .ok after ∧
      after.entries = entriesAfter reports base t.saved := by
  obtain ⟨after, hload, -, hentries, -⟩ := h.offers .epoch FileSystem.readsBack_epoch
  refine ⟨after, ?_, hentries⟩
  rw [FileSystem.loadIndexOrNew] at hload
  split at hload
  · exact hload
  · cases hload
    exact absurd hentries.symm (entriesAfter_ne_nil hsaved)

end Registrars

namespace Registrars

/-- One of two processes has saved its index before the other one loads. -/
def Apart (schedule : List Bool) : Prop := ∃ w, schedule = [w, w, !w, !w]

instance (schedule : List Bool) : Decidable (Apart schedule) :=
  inferInstanceAs (Decidable (∃ w, schedule = [w, w, !w, !w]))

theorem exists_four {schedule : List Bool} (h : ∀ w, schedule.count w = 2) :
    ∃ a b c d, schedule = [a, b, c, d] := by
  have hlength : schedule.length = 4 := by
    rw [← List.count_true_add_count_false, h true, h false]
  exact List.length_eq_four.1 hlength

theorem saved_of_two {schedule : List Bool} (h : ∀ w, schedule.count w = 2) :
    ∃ last, schedule.getLast? = some last ∧ (Trail.start.run schedule).saved =
      if Apart schedule then [!last, last] else [last] := by
  obtain ⟨a, b, c, d, rfl⟩ := exists_four h
  revert a b c d
  decide

/-- Two processes that enter entries of different names both succeed, in whatever order they load
and save. The file has the entry that was saved last, and that of the other process when one of
them had saved before the other loaded. Otherwise the other entry is lost: what was in the file at
first has only the last entry put in. -/
theorem index_after_two {p : Path} {q : List (List Char)} {fs : FileSystem}
    {reports : Bool → IndexEntry × Instant} {base : List IndexEntry} {schedule : List Bool}
    (hq : fs.target? p = some q)
    (hstart : fs.pathExists p = false ∧ base = [] ∨ ∃ i, fs.loadIndex p = .ok i ∧
      i.entries = base ∧ i.createdAt.ReadsBack ∧ ∀ e ∈ base, e.ReadsBack)
    (hreports : ∀ w, (reports w).1.Storable ∧ (reports w).2.ReadsBack)
    (hlength : base.length + 2 < Datum.wordLimit)
    (hnames : (reports false).1.name ≠ (reports true).1.name)
    (hschedule : ∀ w, schedule.count w = 2) :
    ∃ s after last, (start fs).run p reports schedule = .ok s ∧ (∀ w, s.stage w = .finished) ∧
      s.files.loadIndex p = .ok after ∧ schedule.getLast? = some last ∧
      (reports last).1 ∈ after.entries ∧
      (Apart schedule → (reports (!last)).1 ∈ after.entries) ∧
      (¬ Apart schedule → after.entries = ReportIndex.put (reports last).1 base ∧
        ((reports (!last)).1 ∈ after.entries ↔ (reports (!last)).1 ∈ base)) := by
  have hother : ∀ w, (reports (!w)).1.name ≠ (reports w).1.name :=
    Bool.forall_bool.2 ⟨hnames.symm, hnames⟩
  obtain ⟨last, hlast, hsaved⟩ := saved_of_two hschedule
  obtain ⟨s, hrun, hfollows⟩ := exists_run hq hstart hreports hlength schedule
  have hne : (Trail.start.run schedule).saved ≠ [] := by
    rw [hsaved]
    split <;> exact List.cons_ne_nil _ _
  obtain ⟨after, hload, hentries⟩ := hfollows.exists_loadIndex hne
  rw [hsaved] at hentries
  refine ⟨s, after, last, hrun, fun w => ?_, hload, hlast, ?_, fun hapart => ?_, fun hoverlap => ?_⟩
  · have hmatch := hfollows.stage w
    rw [Trail.finished_of_count (hschedule w)] at hmatch
    exact hmatch.eq_finished
  · rw [hentries]
    split <;> exact ReportIndex.mem_put_self _ _
  · rw [hentries, if_pos hapart]
    exact ReportIndex.mem_put_of_ne (ReportIndex.mem_put_self _ _) (hother last)
  · have hput : after.entries = ReportIndex.put (reports last).1 base := by
      rw [hentries, if_neg hoverlap]
      rfl
    refine ⟨hput, ?_⟩
    rw [hput]
    constructor
    · intro hmem
      rcases ReportIndex.mem_put hmem with heq | hmem
      · exact absurd (congrArg IndexEntry.name heq) (hother last)
      · exact hmem
    · intro hmem
      exact ReportIndex.mem_put_of_ne hmem (hother last)

def twoReports (w : Bool) : IndexEntry × Instant :=
  (FileSystem.sampleEntry (if w then "c" else "a") 7, .epoch)

theorem recordable_twoReports (w : Bool) :
    (twoReports w).1.Storable ∧ (twoReports w).2.ReadsBack :=
  ⟨FileSystem.storable_sampleEntry _ (by decide), FileSystem.readsBack_epoch⟩

theorem shelf_after_two : ∃ s after,
    (start FileSystem.shelf).run FileSystem.shelfPath twoReports [false, true, true, false] =
        .ok s ∧
      s.files.loadIndex FileSystem.shelfPath = .ok after ∧
      after.entries = [FileSystem.sampleEntry "a" 7, FileSystem.sampleEntry "b" 1] := by
  have hq : FileSystem.shelf.target? FileSystem.shelfPath = some ["index.json".toList] := by
    decide +kernel
  have hschedule : ∀ w, [false, true, true, false].count w = 2 := by decide
  obtain ⟨s, after, last, hrun, -, hload, hlast, -, -, hoverlap⟩ := index_after_two hq
    (.inr ⟨_, FileSystem.loadIndex_shelf, rfl, FileSystem.readsBack_epoch,
      fun e he => (FileSystem.storable_staleIndex e he).toReadsBack⟩)
    recordable_twoReports (by decide) (by decide) hschedule
  obtain rfl : false = last := Option.some.inj hlast
  exact ⟨s, after, hrun, hload, (hoverlap (by decide)).1⟩

def bare : FileSystem := ⟨.directory [], []⟩

theorem target?_bare : bare.target? FileSystem.shelfPath = some ["index.json".toList] := by
  decide +kernel

theorem entry_lost_in_overlap : ∃ s after,
    (start bare).run FileSystem.shelfPath twoReports [false, true, false, true] = .ok s ∧
      s.files.loadIndex FileSystem.shelfPath = .ok after ∧
      (twoReports false).1 ∉ after.entries := by
  obtain ⟨s, hrun, hfollows⟩ := exists_run target?_bare (.inl ⟨by decide +kernel, rfl⟩)
    recordable_twoReports (by decide) [false, true, false, true]
  obtain ⟨after, hload, hentries⟩ := hfollows.exists_loadIndex (by decide)
  refine ⟨s, after, hrun, hload, ?_⟩
  rw [hentries]
  decide +kernel

def scoredEntry (score : Float) : IndexEntry := { FileSystem.sampleEntry "a" 1 with score := score }

/-- The score of the first entry is written as `0.9452706955539223` and read as its neighbour. -/
def scoredReports (w : Bool) : IndexEntry × Instant :=
  if w then twoReports true else (scoredEntry 0.9452706955539223, .epoch)

theorem ofBytes?_scored :
    ReportIndex.ofBytes?
      ((ReportIndex.empty .epoch).upsert (scoredEntry 0.9452706955539223) .epoch).encode.toUTF8 =
        some ((ReportIndex.empty .epoch).upsert (scoredEntry 0.9452706955539224) .epoch) := by
  -- the text is opened here as characters, since bytes are slow to evaluate
  rw [ReportIndex.ofBytes?, Text.fromUTF8?_toUTF8, Option.bind_some, ReportIndex.decode?,
    ReportIndex.encode, Json.read?, Json.pretty, String.toList_ofList]
  decide +kernel

theorem storable_scoredEntry : (scoredEntry 0.9452706955539224).Storable where
  score := (by decide +kernel : Json.ReadsBack 0.9452706955539224)
  addedAt := FileSystem.readsBack_epoch
  issues := (by decide : 1 < Datum.wordLimit)
  strategies := (by decide : 2 < Datum.wordLimit)
  indicators := (by decide : 3 < Datum.wordLimit)
  risks := (by decide : 4 < Datum.wordLimit)

theorem registerAll_reread {fs : FileSystem} {p : Path} {q : List (List Char)}
    {i i' : ReportIndex} {entry entry' : IndexEntry} {now now' : Instant}
    (hq : fs.target? p = some q) (hload : fs.loadIndexOrNew p now = .ok i)
    (hread : ReportIndex.ofBytes? (i.upsert entry now).encode.toUTF8 = some i')
    (h : (i'.upsert entry' now').Storable) :
    ∃ fs', fs.registerAll p [(entry, now), (entry', now')] = .ok fs' ∧
      fs'.Keeps p (i'.upsert entry' now') := by
  have hfirst : fs.registerEntry p entry now = .ok (_, _) :=
    FileSystem.registerEntry_eq_ok_iff.2 ⟨i, q, hload, rfl, hq, rfl⟩
  have hbytes : (fs.withFile q (i.upsert entry now).encode.toUTF8).readBytes p = .ok _ :=
    FileSystem.readBytes_withFile_self hq
  have hagain : (fs.withFile q (i.upsert entry now).encode.toUTF8).target? p = some q := by
    rw [FileSystem.target?_withFile (FileSystem.takesFile_of_target? hq), hq]
  have hloaded : (fs.withFile q (i.upsert entry now).encode.toUTF8).loadIndexOrNew p now' =
      .ok i' := by
    rw [FileSystem.loadIndexOrNew, FileSystem.pathExists_of_readBytes hbytes, if_pos rfl]
    exact (FileSystem.loadIndex_of_readBytes hbytes i').2 hread
  obtain ⟨fs', hsecond, -, hkeeps⟩ := FileSystem.registerEntry_keeps hagain hloaded h
  refine ⟨fs', ?_, hkeeps⟩
  simp only [FileSystem.registerAll, hfirst, bind, Except.bind, hsecond]

theorem entry_altered_when_apart : ∃ s after,
    (start bare).run FileSystem.shelfPath scoredReports [false, false, true, true] = .ok s ∧
      s.files.loadIndex FileSystem.shelfPath = .ok after ∧
      (scoredReports false).1 ∉ after.entries := by
  have hstart : bare.loadIndexOrNew FileSystem.shelfPath .epoch = .ok (.empty .epoch) := by
    rw [FileSystem.loadIndexOrNew, if_neg (by decide +kernel)]
  have hstorable : (((ReportIndex.empty .epoch).upsert (scoredEntry 0.9452706955539224)
      .epoch).upsert (twoReports true).1 .epoch).Storable :=
    ReportIndex.storable_upsert FileSystem.readsBack_epoch
      (List.forall_mem_singleton.2 storable_scoredEntry) (recordable_twoReports true).1
      FileSystem.readsBack_epoch (by decide +kernel)
  obtain ⟨fs', hall, hkeeps⟩ := registerAll_reread target?_bare hstart ofBytes?_scored hstorable
  have hdistinct : [false, true].Nodup := by decide
  have hserial : ((start bare).run FileSystem.shelfPath scoredReports
      [false, false, true, true]).map files = .ok fs' :=
    (run_serial hdistinct fun _ _ => rfl).trans hall
  cases hrun : (start bare).run FileSystem.shelfPath scoredReports [false, false, true, true] with
  | error fault =>
    rw [hrun] at hserial
    cases hserial
  | ok s =>
    rw [hrun] at hserial
    cases hserial
    exact ⟨s, _, rfl, hkeeps.loadIndex, by decide +kernel⟩

/-- The first entry is lost when both processes load before one saves. It is altered by a process
that loads later when its score is not read back. -/
theorem updates_lost :
    (∃ s after,
      (start bare).run FileSystem.shelfPath twoReports [false, true, false, true] = .ok s ∧
      s.files.loadIndex FileSystem.shelfPath = .ok after ∧
      (twoReports false).1 ∉ after.entries) ∧
    ∃ s after,
      (start bare).run FileSystem.shelfPath scoredReports [false, false, true, true] = .ok s ∧
      s.files.loadIndex FileSystem.shelfPath = .ok after ∧
      (scoredReports false).1 ∉ after.entries :=
  ⟨entry_lost_in_overlap, entry_altered_when_apart⟩

end Registrars

end Appraisal
