import Appraisal.Proofs.Data.JsonDocuments
import Appraisal.Proofs.Data.Records
import Appraisal.Proofs.Index.Files
import Appraisal.Proofs.Score.Levels
import Appraisal.Proofs.Text.Lines

set_option autoImplicit false

namespace Appraisal

def Instant.ReadsBack (t : Instant) : Prop := Instant.read? t.text = some t

/-- The score and the time of an entry are read from their texts. -/
structure IndexEntry.ReadsBack (e : IndexEntry) : Prop where
  score : Json.ReadsBack e.score
  addedAt : e.addedAt.ReadsBack

structure IndexEntry.Storable (e : IndexEntry) : Prop extends e.ReadsBack where
  issues : e.issueCount < Datum.wordLimit
  strategies : e.strategyCount < Datum.wordLimit
  indicators : e.indicatorCount < Datum.wordLimit
  risks : e.riskCount < Datum.wordLimit

structure IndexEntry.Fits (e : IndexEntry) : Prop where
  addedAt : e.addedAt.ReadsBack
  issues : e.issueCount < Datum.wordLimit
  strategies : e.strategyCount < Datum.wordLimit
  indicators : e.indicatorCount < Datum.wordLimit
  risks : e.riskCount < Datum.wordLimit

/-- An entry whose score is read too, if not as the same double. -/
structure IndexEntry.Legible (e : IndexEntry) : Prop extends e.Fits where
  score : Json.Legible e.score

theorem IndexEntry.Storable.legible {e : IndexEntry} (h : e.Storable) : e.Legible where
  score := h.score.legible
  addedAt := h.addedAt
  issues := h.issues
  strategies := h.strategies
  indicators := h.indicators
  risks := h.risks

def IndexEntry.reread (e : IndexEntry) : IndexEntry := { e with score := Json.asRead e.score }

theorem IndexEntry.ReadsBack.reread_eq {e : IndexEntry} (h : e.ReadsBack) : e.reread = e := by
  rw [reread, h.score.asRead_eq]

theorem IndexEntry.Fits.reread {e : IndexEntry} (h : e.Fits) : e.reread.Fits :=
  ⟨h.addedAt, h.issues, h.strategies, h.indicators, h.risks⟩

structure IndexTotals.Fits (t : IndexTotals) : Prop where
  repositories : t.repositories < Datum.wordLimit
  strategies : t.strategies < Datum.wordLimit
  indicators : t.indicators < Datum.wordLimit
  risks : t.risks < Datum.wordLimit
  issues : t.issues < Datum.wordLimit

structure ReportIndex.Legible (i : ReportIndex) : Prop where
  createdAt : i.createdAt.ReadsBack
  updatedAt : i.updatedAt.ReadsBack
  entries : ∀ e ∈ i.entries, e.Legible
  length : i.entries.length < Datum.wordLimit
  totals : i.totals.Fits

def ReportIndex.reread (i : ReportIndex) : ReportIndex :=
  { i with entries := i.entries.map IndexEntry.reread }

/-- An index of which every part is read back, with whatever totals. -/
structure ReportIndex.Encodable (i : ReportIndex) : Prop where
  createdAt : i.createdAt.ReadsBack
  updatedAt : i.updatedAt.ReadsBack
  entries : ∀ e ∈ i.entries, e.Storable
  length : i.entries.length < Datum.wordLimit
  totals : i.totals.Fits

structure ReportIndex.Storable (i : ReportIndex) : Prop where
  createdAt : i.createdAt.ReadsBack
  updatedAt : i.updatedAt.ReadsBack
  entries : ∀ e ∈ i.entries, e.Storable
  length : i.entries.length < Datum.wordLimit
  totals : i.totals = ReportIndex.totalsOf i.entries

namespace Datum

theorem lt_wordLimit_of_nat? {d : Datum} {n : Nat} (h : nat? d = some n) : n < wordLimit := by
  unfold nat? at h
  split at h
  · split at h
    · cases h
      omega
    · cases h
  · exact of_decide_eq_true (Option.filter_eq_some_iff.1 h).2
  · cases h

end Datum

theorem Instant.ofDatum?_toDatum {t : Instant} (h : t.ReadsBack) :
    Instant.ofDatum? t.toDatum = some t := by
  rw [Instant.ReadsBack] at h
  rw [Instant.ofDatum?, Instant.toDatum, Datum.text?, Option.bind_some, h]

theorem IndexEntry.get?_toDatum (e : IndexEntry) : ∃ r : Datum.Record,
    e.toDatum.recordOrList? IndexEntry.fields = some r ∧
    r.get? "name" = some (.text e.name) ∧
    r.get? "url" = e.url?.map .text ∧
    r.get? "trustworthiness_score" = some (.float e.score) ∧
    r.get? "trustworthiness_level" = some (.text e.level.name) ∧
    r.get? "security_issues" = some (.ofNat e.issueCount) ∧
    r.get? "strategies_count" = some (.ofNat e.strategyCount) ∧
    r.get? "indicators_count" = some (.ofNat e.indicatorCount) ∧
    r.get? "risk_functions_count" = some (.ofNat e.riskCount) ∧
    r.get? "report_path" = some (.text e.reportPath) ∧
    r.get? "added_at" = some e.addedAt.toDatum := by
  obtain ⟨r, hr⟩ : ∃ r, e.toDatum = .map r := ⟨_, rfl⟩
  refine ⟨r, ?_⟩
  rw [hr]
  cases hr
  cases hurl : e.url? <;>
  · refine ⟨?_, rfl, rfl, rfl, rfl, rfl, rfl, rfl, rfl, rfl, rfl⟩
    simp [Datum.recordOrList?, Datum.record?, Datum.occursTwice, IndexEntry.fields, Datum.optional]

theorem IndexEntry.ofDatum?_toDatum {e : IndexEntry} (h : e.Fits) :
    IndexEntry.ofDatum? e.toDatum = some e := by
  obtain ⟨r, hrecord, hname, hurl, hscore, hlevel, hissues, hstrategies, hindicators, hrisks,
    hpath, htime⟩ := e.get?_toDatum
  have hurl : r.optional? "url" Datum.text? = some e.url? := by
    rw [Datum.Record.optional?, Datum.Record.orElse?, hurl]
    cases e.url? <;> rfl
  replace hname := Datum.Record.required?_of_get? hname (show Datum.text? _ = some _ from rfl)
  replace hscore := Datum.Record.required?_of_get? hscore (show Datum.float? _ = some _ from rfl)
  replace hlevel := Datum.Record.required?_of_get? hlevel (Score.Level.ofDatum?_name e.level)
  replace hissues := Datum.Record.required?_of_get? hissues (Datum.nat?_ofNat h.issues)
  replace hstrategies := Datum.Record.required?_of_get? hstrategies (Datum.nat?_ofNat h.strategies)
  replace hindicators := Datum.Record.required?_of_get? hindicators (Datum.nat?_ofNat h.indicators)
  replace hrisks := Datum.Record.required?_of_get? hrisks (Datum.nat?_ofNat h.risks)
  replace hpath := Datum.Record.required?_of_get? hpath (show Datum.text? _ = some _ from rfl)
  replace htime := Datum.Record.required?_of_get? htime (Instant.ofDatum?_toDatum h.addedAt)
  rw [IndexEntry.ofDatum?, hrecord]
  simp only [Option.bind_eq_bind, Option.bind_some, hname, hurl, hscore,
    hlevel, hissues, hstrategies, hindicators, hrisks, hpath, htime]
  rfl

theorem ReportIndex.totalOf_lt (count : IndexEntry → Nat) (entries : List IndexEntry) :
    totalOf count entries < Datum.wordLimit :=
  Nat.mod_lt _ (by decide)

theorem ReportIndex.fits_totalsOf {entries : List IndexEntry}
    (h : entries.length < Datum.wordLimit) : (totalsOf entries).Fits where
  repositories := h
  strategies := totalOf_lt _ _
  indicators := totalOf_lt _ _
  risks := totalOf_lt _ _
  issues := totalOf_lt _ _

theorem ReportIndex.Storable.encodable {i : ReportIndex} (h : i.Storable) : i.Encodable where
  createdAt := h.createdAt
  updatedAt := h.updatedAt
  entries := h.entries
  length := h.length
  totals := h.totals ▸ fits_totalsOf h.length

theorem ReportIndex.Encodable.legible {i : ReportIndex} (h : i.Encodable) : i.Legible where
  createdAt := h.createdAt
  updatedAt := h.updatedAt
  entries := fun e he => (h.entries e he).legible
  length := h.length
  totals := h.totals

theorem ReportIndex.Encodable.reread_eq {i : ReportIndex} (h : i.Encodable) : i.reread = i := by
  have hentries : i.entries.map IndexEntry.reread = i.entries.map id :=
    List.map_congr_left fun e he => (h.entries e he).toReadsBack.reread_eq
  rw [reread, hentries, List.map_id]

theorem ReportIndex.Encodable.recomputed {i : ReportIndex} (h : i.Encodable) :
    i.recomputed.Storable where
  createdAt := h.createdAt
  updatedAt := h.updatedAt
  entries := h.entries
  length := h.length
  totals := rfl

theorem IndexTotals.ofDatum?_toDatum {t : IndexTotals} (h : t.Fits) :
    IndexTotals.ofDatum? t.toDatum = some t := by
  obtain ⟨r, hr⟩ : ∃ r : Datum.Record, t.toDatum = .map r := ⟨_, rfl⟩
  have hrecord : t.toDatum.recordOrList? IndexTotals.fields = some r := by
    rw [hr]
    cases hr
    simp [Datum.recordOrList?, Datum.record?, Datum.occursTwice, IndexTotals.fields]
  have hfields : r.get? "total_repositories" = some (.ofNat t.repositories) ∧
      r.get? "total_strategies" = some (.ofNat t.strategies) ∧
      r.get? "total_indicators" = some (.ofNat t.indicators) ∧
      r.get? "total_risk_functions" = some (.ofNat t.risks) ∧
      r.get? "total_security_issues" = some (.ofNat t.issues) := by
    cases hr
    exact ⟨rfl, rfl, rfl, rfl, rfl⟩
  obtain ⟨hrepositories, hstrategies, hindicators, hrisks, hissues⟩ := hfields
  replace hrepositories := Datum.Record.required?_of_get? hrepositories
    (Datum.nat?_ofNat h.repositories)
  replace hstrategies := Datum.Record.required?_of_get? hstrategies (Datum.nat?_ofNat h.strategies)
  replace hindicators := Datum.Record.required?_of_get? hindicators (Datum.nat?_ofNat h.indicators)
  replace hrisks := Datum.Record.required?_of_get? hrisks (Datum.nat?_ofNat h.risks)
  replace hissues := Datum.Record.required?_of_get? hissues (Datum.nat?_ofNat h.issues)
  rw [IndexTotals.ofDatum?, hrecord]
  simp only [Option.bind_eq_bind, Option.bind_some, hrepositories, hstrategies, hindicators, hrisks,
    hissues]
  rfl

theorem ReportIndex.mapM_ofDatum?_toDatum {entries : List IndexEntry}
    (h : ∀ e ∈ entries, e.Fits) :
    (entries.map IndexEntry.toDatum).mapM IndexEntry.ofDatum? = some entries :=
  Datum.mapM_map_of_read? fun e he => IndexEntry.ofDatum?_toDatum (h e he)

theorem ReportIndex.ofDatum?_toDatum {i : ReportIndex} (hcreated : i.createdAt.ReadsBack)
    (hupdated : i.updatedAt.ReadsBack) (hentries : ∀ e ∈ i.entries, e.Fits)
    (htotals : i.totals.Fits) : ReportIndex.ofDatum? i.toDatum = some i := by
  obtain ⟨r, hr⟩ : ∃ r : Datum.Record, i.toDatum = .map r := ⟨_, rfl⟩
  have hrecord : i.toDatum.recordOrList? ReportIndex.fields = some r := by
    rw [hr]
    cases hr
    simp [Datum.recordOrList?, Datum.record?, Datum.occursTwice, ReportIndex.fields]
  have hfields : r.get? "version" = some (.text i.version) ∧
      r.get? "created_at" = some i.createdAt.toDatum ∧
      r.get? "updated_at" = some i.updatedAt.toDatum ∧
      r.get? "repositories" = some (.list (i.entries.map IndexEntry.toDatum)) ∧
      r.get? "stats" = some i.totals.toDatum := by
    cases hr
    exact ⟨rfl, rfl, rfl, rfl, rfl⟩
  obtain ⟨hversion, hcreation, hupdate, hrepositories, hstats⟩ := hfields
  replace hversion := Datum.Record.required?_of_get? hversion
    (show Datum.text? _ = some _ from rfl)
  replace hcreation := Datum.Record.required?_of_get? hcreation
    (Instant.ofDatum?_toDatum hcreated)
  replace hupdate := Datum.Record.required?_of_get? hupdate
    (Instant.ofDatum?_toDatum hupdated)
  replace hrepositories := Datum.Record.required?_of_get? hrepositories
    (show Datum.list? _ _ = some _ from mapM_ofDatum?_toDatum hentries)
  replace hstats : r.orElse? "stats" ⟨0, 0, 0, 0, 0⟩ IndexTotals.ofDatum? = some i.totals := by
    rw [Datum.Record.orElse?, hstats]
    exact IndexTotals.ofDatum?_toDatum htotals
  rw [ReportIndex.ofDatum?, hrecord]
  simp only [Option.bind_eq_bind, Option.bind_some, hversion, hcreation, hupdate, hrepositories,
    hstats]
  rfl

theorem Json.restorable_ofNat {n : Nat} (h : n < Datum.wordLimit) (depth : Nat) :
    Json.Restorable depth (.ofNat n) :=
  .int depth (by omega) (by unfold Datum.wordLimit at h; omega)

theorem IndexEntry.restorable_toDatum {e : IndexEntry} (h : e.Legible) (depth : Nat) :
    Json.Restorable (depth + 2) e.toDatum := by
  refine .map ?_
  cases e.url? <;>
  · simp only [Datum.optional, Option.map_none, Option.map_some, List.cons_append, List.nil_append,
      List.forall_mem_cons, List.not_mem_nil, false_implies, implies_true, and_true]
    simp only [Json.Restorable.text, Json.Restorable.float _ h.score, Json.restorable_ofNat,
      h.issues, h.strategies, h.indicators, h.risks, Instant.toDatum, and_self]

theorem IndexTotals.restorable_toDatum {t : IndexTotals} (h : t.Fits) (depth : Nat) :
    Json.Restorable (depth + 2) t.toDatum := by
  refine .map ?_
  simp only [List.forall_mem_cons, List.not_mem_nil, false_implies, implies_true,
    Json.restorable_ofNat, h.repositories, h.strategies, h.indicators, h.risks, h.issues, and_self]

theorem ReportIndex.restorable_toDatum {i : ReportIndex} (h : i.Legible) :
    Json.Restorable Json.nestingLimit i.toDatum := by
  refine Json.Restorable.map ?_
  have hentries : Json.Restorable (Json.nestingLimit - 1)
      (.list (i.entries.map IndexEntry.toDatum)) := by
    refine Json.Restorable.list fun d hd => ?_
    obtain ⟨e, he, rfl⟩ := List.mem_map.1 hd
    exact IndexEntry.restorable_toDatum (h.entries e he) _
  simp only [List.forall_mem_cons, List.not_mem_nil, false_implies, implies_true,
    Json.Restorable.text, Instant.toDatum, and_true, true_and]
  exact ⟨hentries, IndexTotals.restorable_toDatum h.totals _⟩

theorem IndexEntry.dataRead_toDatum (e : IndexEntry) :
    Json.dataRead e.toDatum = e.reread.toDatum := by
  cases e with
  | mk name url? =>
    cases url? <;> rfl

theorem ReportIndex.dataRead_toDatum (i : ReportIndex) :
    Json.dataRead i.toDatum = i.reread.toDatum := by
  have hentries : Json.itemsRead (i.entries.map IndexEntry.toDatum) =
      (i.entries.map IndexEntry.reread).map IndexEntry.toDatum := by
    rw [Json.itemsRead_eq, List.map_map, List.map_map]
    exact List.map_congr_left fun e _ => e.dataRead_toDatum
  change Json.dataRead (.map _) = Datum.map _
  simp only [Json.dataRead, Json.entriesRead, hentries]
  rfl

theorem ReportIndex.Legible.read?_encode {i : ReportIndex} (h : i.Legible) :
    (Json.read? i.encode).bind ReportIndex.ofDatum? = some i.reread := by
  have hentries : ∀ e ∈ i.reread.entries, e.Fits := by
    intro e he
    obtain ⟨written, hwritten, rfl⟩ := List.mem_map.1 he
    exact (h.entries written hwritten).toFits.reread
  rw [encode, Json.read?_pretty (restorable_toDatum h), Option.bind_some, dataRead_toDatum,
    ofDatum?_toDatum (i := i.reread) h.createdAt h.updatedAt hentries h.totals]

theorem ReportIndex.Encodable.read?_encode {i : ReportIndex} (h : i.Encodable) :
    (Json.read? i.encode).bind ReportIndex.ofDatum? = some i := by
  rw [h.legible.read?_encode, h.reread_eq]

theorem ReportIndex.Encodable.decode?_encode {i : ReportIndex} (h : i.Encodable) :
    ReportIndex.decode? i.encode = some i.recomputed := by
  rw [decode?, h.read?_encode, Option.map_some]

theorem ReportIndex.Encodable.eq_of_encode {i j : ReportIndex} (hi : i.Encodable)
    (hj : j.Encodable) (h : i.encode = j.encode) : i = j := by
  have hread := hi.read?_encode
  rw [h, hj.read?_encode] at hread
  exact (Option.some.inj hread).symm

/-- The text of an index holds the index with its totals, and is read as the index. -/
theorem ReportIndex.read?_encode {i : ReportIndex} (h : i.Storable) :
    (Json.read? i.encode).bind ReportIndex.ofDatum? = some i :=
  h.encodable.read?_encode

theorem ReportIndex.recomputed_of_totals {i : ReportIndex} (h : i.totals = totalsOf i.entries) :
    i.recomputed = i := by
  rw [recomputed, ← h]

theorem ReportIndex.Legible.ofBytes?_encode {i : ReportIndex} (h : i.Legible) :
    ReportIndex.ofBytes? i.encode.toUTF8 = some i.reread.recomputed := by
  rw [ofBytes?, Text.fromUTF8?_toUTF8, Option.bind_some, decode?, h.read?_encode, Option.map_some]

theorem ReportIndex.Encodable.ofBytes?_encode {i : ReportIndex} (h : i.Encodable) :
    ReportIndex.ofBytes? i.encode.toUTF8 = some i.recomputed := by
  rw [ofBytes?, Text.fromUTF8?_toUTF8, Option.bind_some, h.decode?_encode]

theorem ReportIndex.ofBytes?_encode {i : ReportIndex} (h : i.Storable) :
    ReportIndex.ofBytes? i.encode.toUTF8 = some i := by
  rw [h.encodable.ofBytes?_encode, recomputed_of_totals h.totals]

theorem IndexEntry.storable_of_ofDatum? {d : Datum} {e : IndexEntry}
    (h : IndexEntry.ofDatum? d = some e) (back : e.ReadsBack) : e.Storable := by
  simp only [IndexEntry.ofDatum?, Option.bind_eq_bind, Option.bind_eq_some_iff] at h
  obtain ⟨r, -, name, -, url, -, score, -, level, -, issues, hissues, strategies, hstrategies,
    indicators, hindicators, risks, hrisks, path, -, time, -, h⟩ := h
  cases h
  have count : ∀ {field : String} {n : Nat}, r.required? field Datum.nat? = some n →
      n < Datum.wordLimit := fun h => by
    obtain ⟨d, -, hd⟩ := Option.bind_eq_some_iff.1 h
    exact Datum.lt_wordLimit_of_nat? hd
  exact ⟨back, count hissues, count hstrategies, count hindicators, count hrisks⟩

theorem exists_of_mem_mapM {α β : Type} {f : α → Option β} {as : List α} {bs : List β}
    (h : as.mapM f = some bs) {b : β} (hb : b ∈ bs) : ∃ a, f a = some b := by
  induction as generalizing bs with
  | nil =>
    cases h
    cases hb
  | cons a as ih =>
    rw [List.mapM_cons] at h
    obtain ⟨b₀, hb₀, h⟩ := Option.bind_eq_some_iff.1 h
    obtain ⟨rest, hrest, h⟩ := Option.bind_eq_some_iff.1 h
    cases h
    rcases List.mem_cons.1 hb with rfl | hb
    · exact ⟨a, hb₀⟩
    · exact ih hrest hb

theorem ReportIndex.of_ofBytes? {bytes : ByteArray} {i : ReportIndex}
    (h : ReportIndex.ofBytes? bytes = some i) :
    i.totals = totalsOf i.entries ∧ ∀ e ∈ i.entries, e.ReadsBack → e.Storable := by
  obtain ⟨text, -, hdecode⟩ := Option.bind_eq_some_iff.1 h
  obtain ⟨stored, hstored, rfl⟩ := Option.map_eq_some_iff.1 hdecode
  obtain ⟨d, -, hdatum⟩ := Option.bind_eq_some_iff.1 hstored
  refine ⟨rfl, fun e he back => ?_⟩
  simp only [ReportIndex.ofDatum?, Option.bind_eq_bind, Option.bind_eq_some_iff] at hdatum
  obtain ⟨r, -, version, -, created, -, updated, -, entries, hentries, totals, -, hpure⟩ := hdatum
  cases hpure
  obtain ⟨d, -, hd⟩ := Option.bind_eq_some_iff.1 hentries
  change e ∈ entries at he
  unfold Datum.list? at hd
  split at hd
  · obtain ⟨item, hitem⟩ := exists_of_mem_mapM hd he
    exact IndexEntry.storable_of_ofDatum? hitem back
  · obtain ⟨item, hitem⟩ := exists_of_mem_mapM hd he
    exact IndexEntry.storable_of_ofDatum? hitem back
  · cases hd
    cases he
  · cases hd

end Appraisal
