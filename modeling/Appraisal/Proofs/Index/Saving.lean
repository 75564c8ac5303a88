import Appraisal.Proofs.Index.Registrations

set_option autoImplicit false

namespace Appraisal

theorem ReportIndex.Encodable.encode_recomputed_iff {i : ReportIndex} (h : i.Encodable) :
    i.recomputed.encode = i.encode ↔ i.totals = totalsOf i.entries := by
  constructor
  · intro htext
    have hsame : i.recomputed = i := h.recomputed.encodable.eq_of_encode h htext
    exact (congrArg ReportIndex.totals hsame).symm
  · intro htotals
    rw [recomputed_of_totals htotals]

namespace FileSystem

variable {fs fs' : FileSystem} {p : Path} {i : ReportIndex}

theorem readBytes_of_saveIndex (h : fs.saveIndex p i = .ok fs') :
    fs'.readBytes p = .ok i.encode.toUTF8 := by
  obtain ⟨q, hq, rfl⟩ := store_eq_ok_iff.1 h
  exact readBytes_withFile_self hq

theorem exists_saveIndex (h : fs.saveIndex p i = .ok fs') (j : ReportIndex) :
    ∃ fs'', fs'.saveIndex p j = .ok fs'' := by
  obtain ⟨q, hq, rfl⟩ := store_eq_ok_iff.1 h
  have hagain : (fs.withFile q i.encode.toUTF8).target? p = some q := by
    rw [target?_withFile (takesFile_of_target? hq), hq]
  exact ⟨_, store_eq_ok_iff.2 ⟨q, hagain, rfl⟩⟩

/-- A saved index is loaded with the version, the times and the entries that it has, in their order,
and with the totals of the entries. When this index is saved in turn, the bytes of the file stay as
they are exactly when the totals that were saved first were those of the entries. -/
theorem loadIndex_after_saveIndex (h : i.Encodable) (hsave : fs.saveIndex p i = .ok fs') :
    fs'.loadIndex p =
        .ok ⟨i.version, i.createdAt, i.updatedAt, i.entries, ReportIndex.totalsOf i.entries⟩ ∧
      (∀ now, fs'.loadIndexOrNew p now = fs'.loadIndex p) ∧
      ∃ fs'', (fs'.loadIndex p >>= fs'.saveIndex p) = .ok fs'' ∧
        (fs''.readBytes p = fs'.readBytes p ↔ i.totals = ReportIndex.totalsOf i.entries) := by
  have hbytes := readBytes_of_saveIndex hsave
  have hload : fs'.loadIndex p = .ok i.recomputed :=
    (loadIndex_of_readBytes hbytes _).2 h.ofBytes?_encode
  obtain ⟨fs'', hagain⟩ := exists_saveIndex hsave i.recomputed
  refine ⟨hload, fun now => ?_, fs'', ?_, ?_⟩
  · rw [loadIndexOrNew, pathExists_of_readBytes hbytes, if_pos rfl]
  · rw [hload]
    exact hagain
  · rw [readBytes_of_saveIndex hagain, hbytes, ← h.encode_recomputed_iff, Except.ok.injEq,
      String.toUTF8_eq_toByteArray, String.toUTF8_eq_toByteArray, String.toByteArray_inj]

def oddIndex : ReportIndex where
  version := "\\\"\n"
  createdAt := .epoch
  updatedAt := .epoch
  entries := [{ sampleEntry "\"quoted\" \\ name" 1 with url? := some "git@h:\t\"é\"\\\x01\x7f" },
    { sampleEntry "" 2 with reportPath := "out\\\"報告\"\n\r.json" }]
  totals := ⟨2, 4, 6, 8, 4⟩

theorem encodable_oddIndex : oddIndex.Encodable where
  createdAt := readsBack_epoch
  updatedAt := readsBack_epoch
  entries := by
    have h₁ := storable_sampleEntry "" (show 1 < Datum.wordLimit by decide)
    have h₂ := storable_sampleEntry "" (show 2 < Datum.wordLimit by decide)
    simp only [oddIndex, List.forall_mem_cons, List.not_mem_nil, false_implies, implies_true,
      and_true]
    exact ⟨⟨⟨h₁.score, h₁.addedAt⟩, h₁.issues, h₁.strategies, h₁.indicators, h₁.risks⟩,
      ⟨⟨h₂.score, h₂.addedAt⟩, h₂.issues, h₂.strategies, h₂.indicators, h₂.risks⟩⟩
  length := by decide
  totals := by constructor <;> decide

/-- The totals claim one issue too many, so the second saving changes the file. -/
theorem oddIndex_loaded_after_saving :
    ∃ fs', shelf.saveIndex shelfPath oddIndex = .ok fs' ∧
      fs'.loadIndex shelfPath = .ok { oddIndex with totals := ⟨2, 4, 6, 8, 3⟩ } ∧
      ∃ fs'', (fs'.loadIndex shelfPath >>= fs'.saveIndex shelfPath) = .ok fs'' ∧
        fs''.readBytes shelfPath ≠ fs'.readBytes shelfPath := by
  have hq : shelf.target? shelfPath = some ["index.json".toList] := by decide +kernel
  have hsave : shelf.saveIndex shelfPath oddIndex = .ok _ := store_eq_ok_iff.2 ⟨_, hq, rfl⟩
  obtain ⟨hload, -, fs'', hagain, hbytes⟩ := loadIndex_after_saveIndex encodable_oddIndex hsave
  exact ⟨_, hsave, hload, fs'', hagain, fun h => absurd (hbytes.1 h) (by decide)⟩

end FileSystem

end Appraisal
