import Appraisal.Proofs.Index.Entering

set_option autoImplicit false

namespace Appraisal

namespace ReportIndex

theorem storable_upsert {i : ReportIndex} {entry : IndexEntry} {now : Instant}
    (hcreated : i.createdAt.ReadsBack) (hentries : ∀ e ∈ i.entries, e.Storable)
    (hentry : entry.Storable) (hnow : now.ReadsBack)
    (hlength : (put entry i.entries).length < Datum.wordLimit) : (i.upsert entry now).Storable where
  createdAt := hcreated
  updatedAt := hnow
  entries := fun _ he => (mem_put he).elim (fun h => h ▸ hentry) (hentries _)
  length := hlength
  totals := rfl

theorem legible_upsert {i : ReportIndex} {entry : IndexEntry} {now : Instant}
    (hcreated : i.createdAt.ReadsBack) (hentries : ∀ e ∈ i.entries, e.Legible)
    (hentry : entry.Legible) (hnow : now.ReadsBack)
    (hlength : (put entry i.entries).length < Datum.wordLimit) : (i.upsert entry now).Legible where
  createdAt := hcreated
  updatedAt := hnow
  entries := fun _ he => (mem_put he).elim (fun h => h ▸ hentry) (hentries _)
  length := hlength
  totals := fits_totalsOf hlength

theorem length_le_enterAll (i : ReportIndex) (run : List (IndexEntry × Instant)) :
    i.entries.length ≤ (i.enterAll run).entries.length := by
  induction run generalizing i with
  | nil => exact Nat.le_refl _
  | cons step rest ih => exact (length_put_bounds _ _).1.trans (ih (i.upsert step.1 step.2))

end ReportIndex

namespace FileSystem

variable {fs : FileSystem} {p : Path} {q : List (List Char)} {i : ReportIndex}
  {entry : IndexEntry} {now : Instant}

def registerAll (fs : FileSystem) (p : Path) :
    List (IndexEntry × Instant) → Except FileFault FileSystem
  | [] => .ok fs
  | (entry, now) :: rest => do
    let (_, fs) ← fs.registerEntry p entry now
    fs.registerAll p rest

structure Keeps (fs : FileSystem) (p : Path) (i : ReportIndex) : Prop where
  storable : i.Storable
  bytes : fs.readBytes p = .ok i.encode.toUTF8

theorem Keeps.loadIndex (h : fs.Keeps p i) : fs.loadIndex p = .ok i :=
  (loadIndex_of_readBytes h.bytes i).2 (ReportIndex.ofBytes?_encode h.storable)

theorem Keeps.loadIndexOrNew (h : fs.Keeps p i) (now : Instant) :
    fs.loadIndexOrNew p now = .ok i := by
  rw [FileSystem.loadIndexOrNew, pathExists_of_readBytes h.bytes, if_pos rfl, h.loadIndex]

theorem registerEntry_keeps (hq : fs.target? p = some q) (hload : fs.loadIndexOrNew p now = .ok i)
    (h : (i.upsert entry now).Storable) :
    ∃ fs', fs.registerEntry p entry now = .ok (i.upsert entry now, fs') ∧
      fs'.target? p = some q ∧ fs'.Keeps p (i.upsert entry now) := by
  refine ⟨_, registerEntry_eq_ok_iff.2 ⟨i, q, hload, rfl, hq, rfl⟩, ?_, h,
    readBytes_withFile_self hq⟩
  rw [target?_withFile (takesFile_of_target? hq), hq]

theorem registerAll_keeps (hq : fs.target? p = some q) {rest : List (IndexEntry × Instant)}
    (hload : fs.loadIndexOrNew p now = .ok i) (hcreated : i.createdAt.ReadsBack)
    (hentries : ∀ e ∈ i.entries, e.Storable)
    (hrun : ∀ r ∈ (entry, now) :: rest, r.1.Storable ∧ r.2.ReadsBack)
    (hlength : (i.enterAll ((entry, now) :: rest)).entries.length < Datum.wordLimit) :
    ∃ fs', fs.registerAll p ((entry, now) :: rest) = .ok fs' ∧
      fs'.Keeps p (i.enterAll ((entry, now) :: rest)) := by
  -- what one report saved is what the next one loads, so only the first can find stale totals
  induction rest generalizing fs i entry now with
  | nil =>
    have hfirst := hrun (entry, now) List.mem_cons_self
    have hstorable := ReportIndex.storable_upsert hcreated hentries hfirst.1 hfirst.2 hlength
    obtain ⟨fs', hregister, -, hkeeps⟩ := registerEntry_keeps hq hload hstorable
    refine ⟨fs', ?_, hkeeps⟩
    rw [registerAll, hregister]
    rfl
  | cons next rest ih =>
    obtain ⟨nextEntry, nextNow⟩ := next
    have hfirst := hrun (entry, now) List.mem_cons_self
    have hshort : (ReportIndex.put entry i.entries).length < Datum.wordLimit :=
      Nat.lt_of_le_of_lt
        (ReportIndex.length_le_enterAll (i.upsert entry now) ((nextEntry, nextNow) :: rest)) hlength
    have hstorable := ReportIndex.storable_upsert hcreated hentries hfirst.1 hfirst.2 hshort
    obtain ⟨between, hregister, hbetween, hkeeps⟩ := registerEntry_keeps hq hload hstorable
    obtain ⟨fs', hrest, hlast⟩ := ih hbetween (hkeeps.loadIndexOrNew nextNow) hcreated
      hstorable.entries (fun r hr => hrun r (List.mem_cons_of_mem _ hr)) hlength
    refine ⟨fs', ?_, hlast⟩
    rw [registerAll, hregister]
    exact hrest

/-- Where an index can be started or loaded and the file takes a text, a run of reports succeeds
and the file then loads. Its entries keep their order, new names follow in order of their first
entry, each name has the entry that came last, and the totals stand in the file itself. -/
theorem index_after_run (hq : fs.target? p = some q) {rest : List (IndexEntry × Instant)}
    (hstart : fs.pathExists p = false ∧ i = .empty now ∨ fs.loadIndex p = .ok i)
    (hdistinct : (i.entries.map IndexEntry.name).Nodup)
    (hcreated : i.createdAt.ReadsBack) (hback : ∀ e ∈ i.entries, e.ReadsBack)
    (hrun : ∀ r ∈ (entry, now) :: rest, r.1.Storable ∧ r.2.ReadsBack)
    (hlength : i.entries.length + (i.newNames ((entry, now) :: rest)).length < Datum.wordLimit) :
    ∃ fs' after, fs.registerAll p ((entry, now) :: rest) = .ok fs' ∧
      fs'.loadIndex p = .ok after ∧ i.Entered ((entry, now) :: rest) after ∧
      ∃ text : String, fs'.readBytes p = .ok text.toUTF8 ∧
        (Json.read? text).bind ReportIndex.ofDatum? = some after := by
  have hload : fs.loadIndexOrNew p now = .ok i := by
    rw [FileSystem.loadIndexOrNew]
    rcases hstart with ⟨habsent, rfl⟩ | hload
    · rw [habsent]
      rfl
    · obtain ⟨bytes, hbytes, -⟩ := exists_bytes_of_loadIndex hload
      rw [pathExists_of_readBytes hbytes, if_pos rfl, hload]
  have hentries : ∀ e ∈ i.entries, e.Storable := by
    intro e he
    rcases hstart with ⟨-, rfl⟩ | hload
    · cases he
    · obtain ⟨bytes, -, hbytes⟩ := exists_bytes_of_loadIndex hload
      exact (ReportIndex.of_ofBytes? hbytes).2 e he (hback e he)
  have hfinal : (i.enterAll ((entry, now) :: rest)).entries.length < Datum.wordLimit := by
    have hnames := congrArg List.length
      (ReportIndex.namesOf_enterAll hdistinct ((entry, now) :: rest))
    rw [List.length_append, ReportIndex.namesOf, ReportIndex.namesOf, List.length_map,
      List.length_map] at hnames
    omega
  obtain ⟨fs', hregister, hkeeps⟩ := registerAll_keeps hq hload hcreated hentries hrun hfinal
  exact ⟨fs', _, hregister, hkeeps.loadIndex,
    ReportIndex.entered_enterAll hdistinct (List.cons_ne_nil _ _), _, hkeeps.bytes,
    ReportIndex.read?_encode hkeeps.storable⟩

def sampleEntry (name : String) (issues : Nat) : IndexEntry where
  name := name
  url? := none
  score := 0.5
  level := .low
  issueCount := issues
  strategyCount := 2
  indicatorCount := 3
  riskCount := 4
  reportPath := name
  addedAt := .epoch

theorem readsBack_half : Json.ReadsBack 0.5 := by decide +kernel

theorem readsBack_epoch : Instant.epoch.ReadsBack := by
  rw [Instant.ReadsBack]
  decide +kernel

theorem storable_sampleEntry (name : String) {issues : Nat} (h : issues < Datum.wordLimit) :
    (sampleEntry name issues).Storable where
  score := readsBack_half
  addedAt := readsBack_epoch
  issues := h
  strategies := (by decide : 2 < Datum.wordLimit)
  indicators := (by decide : 3 < Datum.wordLimit)
  risks := (by decide : 4 < Datum.wordLimit)

/-- An index whose totals are those of no list of two entries. -/
def staleIndex : ReportIndex :=
  ⟨"1.0", .epoch, .epoch, [sampleEntry "a" 1, sampleEntry "b" 1], ⟨9, 9, 9, 9, 9⟩⟩

def shelfPath : Path := .ofString "index.json"

def shelf : FileSystem where
  top := .directory [("index.json".toList, .file staleIndex.encode.toUTF8)]
  here := []

theorem storable_staleIndex : ∀ e ∈ staleIndex.entries, e.Storable := by
  simp only [staleIndex, List.forall_mem_cons, List.not_mem_nil, false_implies, implies_true,
    and_true]
  exact ⟨storable_sampleEntry "a" (by decide), storable_sampleEntry "b" (by decide)⟩

theorem encodable_staleIndex : staleIndex.Encodable where
  createdAt := readsBack_epoch
  updatedAt := readsBack_epoch
  entries := storable_staleIndex
  length := by decide
  totals := by constructor <;> decide

theorem loadIndex_shelf : shelf.loadIndex shelfPath = .ok staleIndex.recomputed := by
  have hbytes : shelf.readBytes shelfPath = .ok staleIndex.encode.toUTF8 := rfl
  exact (loadIndex_of_readBytes hbytes _).2 encodable_staleIndex.ofBytes?_encode

def laterRun : List (IndexEntry × Instant) :=
  [(sampleEntry "c" 5, .epoch), (sampleEntry "a" 6, .epoch), (sampleEntry "c" 7, .epoch)]

theorem index_after_three_reports :
    ∃ fs' after, shelf.registerAll shelfPath laterRun = .ok fs' ∧
      fs'.loadIndex shelfPath = .ok after ∧ staleIndex.recomputed.Entered laterRun after ∧
      ∃ text : String, fs'.readBytes shelfPath = .ok text.toUTF8 ∧
        (Json.read? text).bind ReportIndex.ofDatum? = some after := by
  have hq : shelf.target? shelfPath = some ["index.json".toList] := by decide +kernel
  refine index_after_run hq (.inr loadIndex_shelf) (by decide +kernel) readsBack_epoch
    (fun e he => (storable_staleIndex e he).toReadsBack) ?_ (by decide +kernel)
  simp only [List.forall_mem_cons, List.not_mem_nil, false_implies, implies_true, and_true]
  exact ⟨⟨storable_sampleEntry "c" (by decide), readsBack_epoch⟩,
    ⟨storable_sampleEntry "a" (by decide), readsBack_epoch⟩,
    ⟨storable_sampleEntry "c" (by decide), readsBack_epoch⟩⟩

end FileSystem

end Appraisal
