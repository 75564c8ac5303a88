import Appraisal.Index.File
import Appraisal.Proofs.Files.Writing

set_option autoImplicit false

namespace Appraisal

/-- The index that bytes hold, if they are a text and this text is an index. -/
def ReportIndex.ofBytes? (bytes : ByteArray) : Option ReportIndex :=
  (String.fromUTF8? bytes).bind ReportIndex.decode?

namespace FileSystem

variable {fs : FileSystem} {p : Path} {bytes : ByteArray}

theorem pathExists_of_readBytes (h : fs.readBytes p = .ok bytes) : fs.pathExists p = true := by
  unfold readBytes at h
  unfold pathExists
  cases hentry : fs.entry p with
  | ok e => rfl
  | error e =>
    rw [hentry] at h
    cases h

theorem load_of_readBytes (h : fs.readBytes p = .ok bytes) :
    fs.load p = match String.fromUTF8? bytes with
      | some text => .ok text
      | none => .error (.unreadable p.toString .notText) := by
  have hread : fs.readText p = match String.fromUTF8? bytes with
      | some text => .ok text
      | none => .error .notText := by
    rw [readText, h]
    rfl
  rw [load, pathExists_of_readBytes h, if_pos rfl, hread]
  cases String.fromUTF8? bytes <;> rfl

theorem loadIndex_of_readBytes (h : fs.readBytes p = .ok bytes) (i : ReportIndex) :
    fs.loadIndex p = .ok i ↔ ReportIndex.ofBytes? bytes = some i := by
  rw [loadIndex, load_of_readBytes h, ReportIndex.ofBytes?]
  cases String.fromUTF8? bytes with
  | none => simp [bind, Except.bind]
  | some text => cases hdecode : ReportIndex.decode? text <;> simp [bind, Except.bind, hdecode]

theorem exists_bytes_of_loadIndex {i : ReportIndex} (h : fs.loadIndex p = .ok i) :
    ∃ bytes, fs.readBytes p = .ok bytes ∧ ReportIndex.ofBytes? bytes = some i := by
  cases hbytes : fs.readBytes p with
  | ok bytes => exact ⟨bytes, rfl, (loadIndex_of_readBytes hbytes i).1 h⟩
  | error e =>
    have hload : ∃ fault, fs.load p = .error fault := by
      rw [load, readText, hbytes]
      split <;> exact ⟨_, rfl⟩
    obtain ⟨fault, hload⟩ := hload
    rw [loadIndex, hload] at h
    cases h

theorem registerEntry_refused {entry : IndexEntry} {now : Instant}
    (h : fs.readBytes p = .ok bytes) (hbytes : ReportIndex.ofBytes? bytes = none) :
    ∃ fault, fs.registerEntry p entry now = .error fault := by
  have hload : ∃ fault, fs.loadIndex p = .error fault := by
    cases hload : fs.loadIndex p with
    | error fault => exact ⟨fault, rfl⟩
    | ok i =>
      rw [(loadIndex_of_readBytes h i).1 hload] at hbytes
      cases hbytes
  obtain ⟨fault, hload⟩ := hload
  refine ⟨fault, ?_⟩
  rw [registerEntry, loadIndexOrNew, pathExists_of_readBytes h, if_pos rfl, hload]
  rfl

theorem registerEntry_eq_ok_iff {entry : IndexEntry} {now : Instant} {i : ReportIndex}
    {fs' : FileSystem} :
    fs.registerEntry p entry now = .ok (i, fs') ↔
      ∃ i₀ q, fs.loadIndexOrNew p now = .ok i₀ ∧ i = i₀.upsert entry now ∧
        fs.target? p = some q ∧ fs' = fs.withFile q i.encode.toUTF8 := by
  constructor
  · intro h
    unfold registerEntry at h
    cases hload : fs.loadIndexOrNew p now with
    | error fault =>
      rw [hload] at h
      cases h
    | ok i₀ =>
      cases hsave : fs.saveIndex p (i₀.upsert entry now) with
      | error fault =>
        simp only [hload, hsave, bind, Except.bind] at h
        cases h
      | ok saved =>
        obtain ⟨q, hq, hsaved⟩ := store_eq_ok_iff.1 hsave
        simp only [hload, hsave, bind, Except.bind] at h
        cases h
        exact ⟨i₀, q, rfl, rfl, hq, hsaved⟩
  · rintro ⟨i₀, q, hload, rfl, hq, rfl⟩
    have hsave : fs.saveIndex p (i₀.upsert entry now) =
        .ok (fs.withFile q (i₀.upsert entry now).encode.toUTF8) :=
      store_eq_ok_iff.2 ⟨q, hq, rfl⟩
    simp only [registerEntry, hload, hsave, bind, Except.bind]
    rfl

end FileSystem

theorem getLast?_join (directory : Path) {entry : Path} (h : entry.text ≠ []) :
    (directory.join entry).text.getLast? = entry.text.getLast? := by
  unfold Path.join
  split
  · rfl
  · split
    · simp [List.getLast?_append, List.getLast?_eq_some_getLast h]
    · simp [List.getLast?_append, List.getLast?_cons, List.getLast?_eq_some_getLast h]

theorem directoryPath?_pathBeside (report : Path) :
    FileSystem.directoryPath? (ReportIndex.pathBeside report) = none := by
  have hlast : (ReportIndex.pathBeside report).text.getLast? = some 'n' :=
    getLast?_join _ (by decide)
  rw [FileSystem.directoryPath?, hlast]
  rfl

end Appraisal
