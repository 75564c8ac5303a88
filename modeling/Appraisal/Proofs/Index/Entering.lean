import Appraisal.Proofs.Index.Documents
import Mathlib.Algebra.GroupWithZero.Nat

set_option autoImplicit false

namespace Appraisal.ReportIndex

def namesOf (entries : List IndexEntry) : List String := entries.map IndexEntry.name

def lastNamed? (entries : List IndexEntry) (name : String) : Option IndexEntry :=
  entries.reverse.find? (fun e => e.name = name)

theorem lastNamed?_cons (e : IndexEntry) (rest : List IndexEntry) (name : String) :
    lastNamed? (e :: rest) name =
      (lastNamed? rest name).or (if e.name = name then some e else none) := by
  simp [lastNamed?, List.find?_append, List.find?_singleton]

theorem lastNamed?_append (as bs : List IndexEntry) (name : String) :
    lastNamed? (as ++ bs) name = (lastNamed? bs name).or (lastNamed? as name) := by
  simp [lastNamed?, List.find?_append]

theorem lastNamed?_eq_none_iff {entries : List IndexEntry} {name : String} :
    lastNamed? entries name = none ↔ name ∉ namesOf entries := by
  simp [lastNamed?, namesOf]

theorem mem_of_lastNamed? {entries : List IndexEntry} {name : String} {e : IndexEntry}
    (h : lastNamed? entries name = some e) : e ∈ entries := by
  simpa using List.mem_of_find?_eq_some h

theorem lastNamed?_of_mem {entries : List IndexEntry} (h : (namesOf entries).Nodup) {e : IndexEntry}
    (he : e ∈ entries) : lastNamed? entries e.name = some e := by
  induction entries with
  | nil => cases he
  | cons x rest ih =>
    obtain ⟨hx, hrest⟩ := List.nodup_cons.1 h
    rw [lastNamed?_cons]
    rcases List.mem_cons.1 he with rfl | he
    · rw [lastNamed?_eq_none_iff.2 hx, Option.none_or, if_pos rfl]
    · rw [ih hrest he, Option.some_or]

theorem mem_put {entry e : IndexEntry} {entries : List IndexEntry} (h : e ∈ put entry entries) :
    e = entry ∨ e ∈ entries := by
  induction entries with
  | nil => exact .inl (List.mem_singleton.1 h)
  | cons x rest ih =>
    rw [put] at h
    split at h
    · rcases List.mem_cons.1 h with rfl | h
      · exact .inl rfl
      · exact .inr (List.mem_cons_of_mem _ h)
    · rcases List.mem_cons.1 h with rfl | h
      · exact .inr List.mem_cons_self
      · exact (ih h).imp_right (List.mem_cons_of_mem _)

theorem mem_put_self (entry : IndexEntry) (entries : List IndexEntry) :
    entry ∈ put entry entries := by
  induction entries with
  | nil => exact List.mem_singleton_self entry
  | cons x rest ih =>
    rw [put]
    split
    · exact List.mem_cons_self
    · exact List.mem_cons_of_mem _ ih

theorem mem_put_of_ne {entry e : IndexEntry} {entries : List IndexEntry} (he : e ∈ entries)
    (hne : e.name ≠ entry.name) : e ∈ put entry entries := by
  induction entries with
  | nil => cases he
  | cons x rest ih =>
    rw [put]
    split
    · next hx =>
      rcases List.mem_cons.1 he with rfl | he
      · exact absurd hx hne
      · exact List.mem_cons_of_mem _ he
    · rcases List.mem_cons.1 he with rfl | he
      · exact List.mem_cons_self
      · exact List.mem_cons_of_mem _ (ih he)

theorem namesOf_put (entry : IndexEntry) (entries : List IndexEntry) :
    namesOf (put entry entries) =
      if entry.name ∈ namesOf entries then namesOf entries
      else namesOf entries ++ [entry.name] := by
  induction entries with
  | nil => rfl
  | cons x rest ih =>
    rw [put]
    by_cases hx : x.name = entry.name
    · simp [hx, namesOf]
    · have hiff : entry.name ∈ namesOf (x :: rest) ↔ entry.name ∈ namesOf rest := by
        simp [namesOf, Ne.symm hx]
      rw [if_neg hx]
      change x.name :: namesOf (put entry rest) = _
      rw [ih]
      by_cases hmem : entry.name ∈ namesOf rest
      · rw [if_pos hmem, if_pos (hiff.2 hmem)]
        rfl
      · rw [if_neg hmem, if_neg (mt hiff.1 hmem)]
        rfl

theorem length_put_bounds (entry : IndexEntry) (entries : List IndexEntry) :
    entries.length ≤ (put entry entries).length ∧
      (put entry entries).length ≤ entries.length + 1 := by
  have hnames := congrArg List.length (namesOf_put entry entries)
  split at hnames
  · simp only [namesOf, List.length_map] at hnames
    omega
  · simp only [namesOf, List.length_map, List.length_append, List.length_singleton] at hnames
    omega

theorem nodup_put {entry : IndexEntry} {entries : List IndexEntry}
    (h : (namesOf entries).Nodup) : (namesOf (put entry entries)).Nodup := by
  rw [namesOf_put]
  split
  · exact h
  · next hnot => simpa [List.nodup_append] using ⟨h, fun a ha heq => hnot (heq ▸ ha)⟩

theorem lastNamed?_put {entry : IndexEntry} {entries : List IndexEntry}
    (h : (namesOf entries).Nodup) (name : String) :
    lastNamed? (put entry entries) name =
      if entry.name = name then some entry else lastNamed? entries name := by
  induction entries with
  | nil => simp [put, lastNamed?]
  | cons x rest ih =>
    obtain ⟨hx, hrest⟩ := List.nodup_cons.1 h
    rw [put]
    by_cases hname : x.name = entry.name
    · rw [if_pos hname, lastNamed?_cons, lastNamed?_cons]
      by_cases heq : entry.name = name
      · subst heq
        rw [hname] at hx
        rw [lastNamed?_eq_none_iff.2 hx, if_pos rfl, Option.none_or, if_pos rfl]
      · rw [if_neg heq, if_neg heq, if_neg (hname ▸ heq)]
    · rw [if_neg hname, lastNamed?_cons, lastNamed?_cons, ih hrest]
      by_cases heq : entry.name = name <;> simp [heq]

/-- Two lists have the same names in order of first occurrence, and the same last entry under
each name. -/
structure SameByName (as bs : List IndexEntry) : Prop where
  names : (namesOf as).eraseDups = (namesOf bs).eraseDups
  last : ∀ name, lastNamed? as name = lastNamed? bs name

/-- It does not matter whether an entry is in the list or is the next one to be put in. -/
theorem sameByName_put {entry : IndexEntry} {entries : List IndexEntry}
    (h : (namesOf entries).Nodup) (waiting : List IndexEntry) :
    SameByName (put entry entries ++ waiting) (entries ++ entry :: waiting) := by
  constructor
  · have happend : ∀ as bs : List IndexEntry, namesOf (as ++ bs) = namesOf as ++ namesOf bs :=
      fun as bs => List.map_append
    rw [happend, happend, namesOf_put]
    change _ = (namesOf entries ++ entry.name :: namesOf waiting).eraseDups
    split
    · next hmem =>
      rw [List.eraseDups_append, List.eraseDups_append]
      simp [List.removeAll, hmem]
    · rw [List.append_assoc]
      rfl
  · intro name
    rw [lastNamed?_append, lastNamed?_append, lastNamed?_cons, lastNamed?_put h]
    cases lastNamed? waiting name with
    | some e => rfl
    | none => by_cases heq : entry.name = name <;> simp [heq]

theorem SameByName.trans {as bs cs : List IndexEntry} (h : SameByName as bs)
    (h' : SameByName bs cs) : SameByName as cs :=
  ⟨h.names.trans h'.names, fun name => (h.last name).trans (h'.last name)⟩

def enterAll (i : ReportIndex) : List (IndexEntry × Instant) → ReportIndex
  | [] => i
  | (entry, now) :: rest => enterAll (i.upsert entry now) rest

theorem nodup_enterAll {i : ReportIndex} (h : (namesOf i.entries).Nodup)
    (run : List (IndexEntry × Instant)) : (namesOf (i.enterAll run).entries).Nodup := by
  induction run generalizing i with
  | nil => exact h
  | cons step rest ih => exact ih (nodup_put h)

theorem sameByName_enterAll {i : ReportIndex} (h : (namesOf i.entries).Nodup)
    (run : List (IndexEntry × Instant)) :
    SameByName (i.enterAll run).entries (i.entries ++ run.map Prod.fst) := by
  induction run generalizing i with
  | nil =>
    rw [List.map_nil, List.append_nil]
    exact ⟨rfl, fun _ => rfl⟩
  | cons step rest ih =>
    have hrest := ih (i := i.upsert step.1 step.2) (nodup_put h)
    exact hrest.trans (sameByName_put h (rest.map Prod.fst))

def newNames (i : ReportIndex) (run : List (IndexEntry × Instant)) : List String :=
  ((run.map (fun r => r.1.name)).filter (fun name => name ∉ namesOf i.entries)).eraseDups

theorem eraseDups_of_nodup {names : List String} (h : names.Nodup) : names.eraseDups = names := by
  induction names with
  | nil => rfl
  | cons name rest ih =>
    obtain ⟨hname, hrest⟩ := List.nodup_cons.1 h
    have hfilter : rest.filter (fun b => !b == name) = rest := by
      rw [List.filter_eq_self]
      intro b hb
      simpa using fun heq : b = name => hname (heq ▸ hb)
    rw [List.eraseDups_cons, hfilter, ih hrest]

theorem namesOf_enterAll {i : ReportIndex} (h : (namesOf i.entries).Nodup)
    (run : List (IndexEntry × Instant)) :
    namesOf (i.enterAll run).entries = namesOf i.entries ++ i.newNames run := by
  have hremove : (namesOf (run.map Prod.fst)).removeAll (namesOf i.entries) =
      (run.map (fun r => r.1.name)).filter (fun name => name ∉ namesOf i.entries) := by
    have hnames : namesOf (run.map Prod.fst) = run.map (fun r => r.1.name) := List.map_map
    rw [hnames, List.removeAll]
    congr 1
    funext name
    simp
  calc namesOf (i.enterAll run).entries
      = (namesOf (i.enterAll run).entries).eraseDups :=
        (eraseDups_of_nodup (nodup_enterAll h run)).symm
    _ = (namesOf (i.entries ++ run.map Prod.fst)).eraseDups := (sameByName_enterAll h run).names
    _ = (namesOf i.entries ++ namesOf (run.map Prod.fst)).eraseDups := by
        rw [namesOf, List.map_append]
        rfl
    _ = namesOf i.entries ++ i.newNames run := by
        rw [List.eraseDups_append, eraseDups_of_nodup h, hremove, newNames]

/-- Each entry is the one entered last under its name, or was there before any of its name. -/
theorem latest_of_mem_enterAll {i : ReportIndex} (h : (namesOf i.entries).Nodup)
    {run : List (IndexEntry × Instant)} {e : IndexEntry} (he : e ∈ (i.enterAll run).entries) :
    lastNamed? (run.map Prod.fst) e.name = some e ∨
      lastNamed? (run.map Prod.fst) e.name = none ∧ e ∈ i.entries := by
  have hlast := lastNamed?_of_mem (nodup_enterAll h run) he
  rw [(sameByName_enterAll h run).last, lastNamed?_append] at hlast
  cases hrun : lastNamed? (run.map Prod.fst) e.name with
  | some entered =>
    rw [hrun, Option.some_or] at hlast
    exact .inl hlast
  | none =>
    rw [hrun, Option.none_or] at hlast
    exact .inr ⟨rfl, mem_of_lastNamed? hlast⟩

theorem createdAt_enterAll (i : ReportIndex) (run : List (IndexEntry × Instant)) :
    (i.enterAll run).createdAt = i.createdAt := by
  induction run generalizing i with
  | nil => rfl
  | cons step rest ih => exact ih (i.upsert step.1 step.2)

theorem version_enterAll (i : ReportIndex) (run : List (IndexEntry × Instant)) :
    (i.enterAll run).version = i.version := by
  induction run generalizing i with
  | nil => rfl
  | cons step rest ih => exact ih (i.upsert step.1 step.2)

theorem updatedAt_enterAll (i : ReportIndex) (run : List (IndexEntry × Instant)) :
    (i.enterAll run).updatedAt = ((run.map Prod.snd).getLast?).getD i.updatedAt := by
  induction run generalizing i with
  | nil => rfl
  | cons step rest ih =>
    change ((i.upsert step.1 step.2).enterAll rest).updatedAt = _
    rw [ih, List.map_cons, List.getLast?_cons, Option.getD_some]
    rfl

theorem totals_enterAll {i : ReportIndex} {run : List (IndexEntry × Instant)} (h : run ≠ []) :
    (i.enterAll run).totals = totalsOf (i.enterAll run).entries := by
  induction run generalizing i with
  | nil => exact absurd rfl h
  | cons step rest ih =>
    cases rest with
    | nil => rfl
    | cons next rest => exact ih (List.cons_ne_nil _ _)

theorem sumOf_eq_sum (count : IndexEntry → Nat) (entries : List IndexEntry) :
    sumOf count entries = (entries.map count).sum := by
  induction entries with
  | nil => rfl
  | cons e rest ih => rw [sumOf, List.map_cons, List.sum_cons, ih]

/-- A total is the sum of a counter over the entries when the sum fits 64 bits. -/
def ExactTotal (entries : List IndexEntry) (count : IndexEntry → Nat) (total : Nat) : Prop :=
  (entries.map count).sum < Datum.wordLimit → total = (entries.map count).sum

theorem exactTotal_totalOf (entries : List IndexEntry) (count : IndexEntry → Nat) :
    ExactTotal entries count (totalOf count entries) := by
  intro h
  rw [totalOf, sumOf_eq_sum]
  exact Nat.mod_eq_of_lt h

structure Entered (before : ReportIndex) (run : List (IndexEntry × Instant))
    (after : ReportIndex) : Prop where
  names : namesOf after.entries = namesOf before.entries ++ before.newNames run
  distinct : (namesOf after.entries).Nodup
  latest : ∀ e ∈ after.entries, lastNamed? (run.map Prod.fst) e.name = some e ∨
    lastNamed? (run.map Prod.fst) e.name = none ∧ e ∈ before.entries
  version : after.version = before.version
  createdAt : after.createdAt = before.createdAt
  updatedAt : (run.map Prod.snd).getLast? = some after.updatedAt
  repositories : after.totals.repositories = after.entries.length
  strategies : ExactTotal after.entries IndexEntry.strategyCount after.totals.strategies
  indicators : ExactTotal after.entries IndexEntry.indicatorCount after.totals.indicators
  risks : ExactTotal after.entries IndexEntry.riskCount after.totals.risks
  issues : ExactTotal after.entries IndexEntry.issueCount after.totals.issues

theorem entered_enterAll {i : ReportIndex} (h : (namesOf i.entries).Nodup)
    {run : List (IndexEntry × Instant)} (hrun : run ≠ []) : i.Entered run (i.enterAll run) where
  names := namesOf_enterAll h run
  distinct := nodup_enterAll h run
  latest := fun _ he => latest_of_mem_enterAll h he
  version := version_enterAll i run
  createdAt := createdAt_enterAll i run
  updatedAt := by
    have hlast : (run.map Prod.snd).getLast? ≠ none := by simpa using hrun
    obtain ⟨now, hnow⟩ := Option.ne_none_iff_exists'.1 hlast
    rw [updatedAt_enterAll, hnow, Option.getD_some]
  repositories := by rw [totals_enterAll hrun]; rfl
  strategies := by rw [totals_enterAll hrun]; exact exactTotal_totalOf _ _
  indicators := by rw [totals_enterAll hrun]; exact exactTotal_totalOf _ _
  risks := by rw [totals_enterAll hrun]; exact exactTotal_totalOf _ _
  issues := by rw [totals_enterAll hrun]; exact exactTotal_totalOf _ _

end Appraisal.ReportIndex
