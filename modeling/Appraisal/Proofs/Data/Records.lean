import Appraisal.Data.Field
import Mathlib.Data.List.Basic
import Mathlib.Data.List.Nodup

set_option autoImplicit false

/-!
# Records up to the order of their entries

A reader of records looks for its fields by their names. Where no key occurs twice, it finds the
same under each of them in whatever order the entries stand, and entries that are no fields of its
own do not matter. This holds at every level of a document that is made of records.
-/
namespace Appraisal.Datum

theorem nat?_ofNat {n : Nat} (h : n < wordLimit) : nat? (ofNat n) = some n := by
  rw [ofNat, nat?, if_pos (by omega), Int.toNat_natCast]

section Lists

variable {α : Type} {read? : Datum → Option α}

theorem mapM_of_forall₂ {R : Datum → α → Prop} {items : List Datum} {l : List α}
    (h : List.Forall₂ R items l) (hread : ∀ d ∈ items, ∀ a, R d a → read? d = some a) :
    items.mapM read? = some l := by
  induction h with
  | nil => rfl
  | cons hhead _ ih =>
    rw [List.forall_mem_cons] at hread
    rw [List.mapM_cons, hread.1 _ hhead, ih hread.2]
    rfl

theorem mapM_map_of_read? {write : α → Datum} {l : List α}
    (h : ∀ a ∈ l, read? (write a) = some a) : (l.map write).mapM read? = some l :=
  mapM_of_forall₂ (R := fun d a => read? d = some a)
    (List.forall₂_map_left_iff.2 (List.forall₂_same.2 h)) fun _ _ _ => id

end Lists

namespace Record

variable {r r' : Record} {name : String} {d : Datum}

def HasDistinctKeys (r : Record) : Prop := (r.map Prod.fst).Nodup

theorem mem_of_get? (h : r.get? name = some d) : (name, d) ∈ r := by
  obtain ⟨e, he, rfl⟩ := Option.map_eq_some_iff.1 h
  have hname := List.find?_some he
  obtain rfl : e.1 = name := beq_iff_eq.1 hname
  exact List.mem_of_find?_eq_some he

theorem get?_eq_some_iff (hr : r.HasDistinctKeys) : r.get? name = some d ↔ (name, d) ∈ r := by
  refine ⟨mem_of_get?, fun h => ?_⟩
  induction r with
  | nil => cases h
  | cons e rest ih =>
    obtain ⟨hfresh, hrest⟩ := List.nodup_cons.1 hr
    rcases List.mem_cons.1 h with rfl | hmem
    · simp [get?]
    · have hne : e.1 ≠ name := by
        rintro rfl
        exact hfresh (List.mem_map.2 ⟨_, hmem, rfl⟩)
      simpa [get?, hne] using ih hrest hmem

theorem HasDistinctKeys.perm (hr : r.HasDistinctKeys) (h : r.Perm r') : r'.HasDistinctKeys :=
  (h.map Prod.fst).nodup_iff.1 hr

theorem get?_perm (hr : r.HasDistinctKeys) (h : r.Perm r') (name : String) :
    r'.get? name = r.get? name := by
  ext d
  rw [get?_eq_some_iff hr, get?_eq_some_iff (hr.perm h), h.mem_iff]

theorem HasDistinctKeys.occursTwice (hr : r.HasDistinctKeys) (name : String) :
    occursTwice r name = false := by
  have hcount : (r.filter (fun e => e.1 == name)).length = (r.map Prod.fst).count name := by
    rw [List.count, List.countP_map, ← List.countP_eq_length_filter]
    rfl
  have hle := List.nodup_iff_count_le_one.1 hr name
  exact decide_eq_false (by omega)

theorem HasDistinctKeys.record? (hr : r.HasDistinctKeys) (fields : List String) :
    record? fields (.map r) = some r :=
  if_neg fun h => by
    obtain ⟨name, -, htwice⟩ := List.any_eq_true.1 h
    rw [hr.occursTwice] at htwice
    cases htwice

theorem HasDistinctKeys.recordOrList? (hr : r.HasDistinctKeys) (fields : List String) :
    recordOrList? fields (.map r) = some r :=
  hr.record? fields

theorem required?_of_get? {α : Type} {read? : Datum → Option α} {a : α}
    (h : r.get? name = some d) (hread : read? d = some a) : r.required? name read? = some a := by
  rw [required?, h, Option.bind_some, hread]

theorem map_fst_others (r : Record) (own : List String) :
    (r.others own).map Prod.fst = (r.filter (fun e => !(e.1 ∈ own))).map Prod.fst := by
  rw [others, List.map_map]
  rfl

theorem HasDistinctKeys.others (hr : r.HasDistinctKeys) (own : List String) :
    (r.others own).HasDistinctKeys := by
  rw [HasDistinctKeys, map_fst_others]
  exact hr.sublist (List.filter_sublist.map _)

theorem get?_others {own : List String} (hname : name ∉ own) :
    (r.others own).get? name = (r.get? name).map settled := by
  have hpred : (fun e : String × Datum =>
      decide ((!decide (e.1 ∈ own)) = true ∧ (e.1 == name) = true)) = fun e => e.1 == name := by
    funext e
    by_cases he : e.1 = name
    · simp [he, hname]
    · simp [he]
  simp only [others, get?, List.find?_map, List.find?_filter, Function.comp_def, Option.map_map,
    hpred]

end Record

/-- What is read of a document: a value as it is, the items of a list or the fields of a record. -/
inductive Shape where
  | value
  | list (item : Shape)
  | record (fields : List (String × Shape))

def at? : List String → Datum → Option Datum
  | [], d => some d
  | key :: rest, d => (d.get? key).bind (at? rest)

def recordAt (d : Datum) (path : List String) : Record :=
  match d.at? path with
  | some (.map r) => r
  | _ => []

def Shape.at? : List String → Shape → Option Shape
  | [], s => some s
  | key :: rest, .record fields => (fields.lookup key).bind (Shape.at? rest)
  | _ :: _, _ => none

/-- Documents of a shape, with distinct keys in each record that is read. -/
inductive Tidy : Shape → Datum → Prop
  | value (d : Datum) : Tidy .value d
  | list {item : Shape} {l : List Datum} (h : ∀ d ∈ l, Tidy item d) : Tidy (.list item) (.list l)
  | record {fields : List (String × Shape)} {r : Record} (hkeys : r.HasDistinctKeys)
      (h : ∀ {name s d}, fields.lookup name = some s → r.get? name = some d → Tidy s d) :
      Tidy (.record fields) (.map r)

/-- The entries of records stand in another order, at any level, or entries that are no fields are
added or left out. -/
inductive Rearranged : Shape → Datum → Datum → Prop
  | refl (s : Shape) (d : Datum) : Rearranged s d d
  | symm {s : Shape} {d d' : Datum} (h : Rearranged s d d') : Rearranged s d' d
  | trans {s : Shape} {d d' d'' : Datum} (h : Rearranged s d d') (h' : Rearranged s d' d'') :
      Rearranged s d d''
  | order {fields : List (String × Shape)} {r r' : Record} (h : r.Perm r') :
      Rearranged (.record fields) (.map r) (.map r')
  | unknown {fields : List (String × Shape)} {key : String} (d : Datum) {r : Record}
      (hfield : fields.lookup key = none) (hkey : key ∉ r.map Prod.fst) :
      Rearranged (.record fields) (.map r) (.map ((key, d) :: r))
  | field {fields : List (String × Shape)} {name : String} {s : Shape} {d d' : Datum}
      (hfield : fields.lookup name = some s) (h : Rearranged s d d') (before after : Record) :
      Rearranged (.record fields) (.map (before ++ (name, d) :: after))
        (.map (before ++ (name, d') :: after))
  | item {item : Shape} {d d' : Datum} (h : Rearranged item d d') (before after : List Datum) :
      Rearranged (.list item) (.list (before ++ d :: after)) (.list (before ++ d' :: after))

namespace Rearranged

variable {s t : Shape} {d d' : Datum}

theorem eq_of_value (h : Rearranged .value d d') : d = d' := by
  generalize hs : Shape.value = s at h
  induction h with
  | refl => rfl
  | symm _ ih => exact (ih hs).symm
  | trans _ _ ih ih' => exact (ih hs).trans (ih' hs)
  | order | unknown | field | item => cases hs

theorem items_trans {l l' l'' : List Datum} (h : List.Forall₂ (Rearranged s) l l')
    (h' : List.Forall₂ (Rearranged s) l' l'') : List.Forall₂ (Rearranged s) l l'' := by
  induction h generalizing l'' with
  | nil => exact h'
  | cons hhead _ ih =>
    cases h' with
    | cons hhead' hrest' => exact .cons (hhead.trans hhead') (ih hrest')

theorem items_refl (s : Shape) (l : List Datum) : List.Forall₂ (Rearranged s) l l :=
  List.forall₂_same.2 fun d _ => .refl s d

theorem forall_mem_of_items {l l' : List Datum} {P : Datum → Prop}
    (hrel : List.Forall₂ (Rearranged s) l l') (h : ∀ d ∈ l, ∀ d', Rearranged s d d' → P d') :
    ∀ d' ∈ l', P d' := by
  induction hrel with
  | nil => exact List.forall_mem_nil P
  | cons hhead _ ih =>
    rw [List.forall_mem_cons] at h ⊢
    exact ⟨h.1 _ hhead, ih h.2⟩

theorem forall₂_of_items {α : Type} {P : Datum → α → Prop} {l l' : List Datum} {values : List α}
    (hrel : List.Forall₂ (Rearranged s) l l') (hvalues : List.Forall₂ P l values)
    (h : ∀ d ∈ l, ∀ d' a, Rearranged s d d' → P d a → P d' a) : List.Forall₂ P l' values := by
  induction hrel generalizing values with
  | nil =>
    cases hvalues
    exact .nil
  | cons hhead _ ih =>
    rw [List.forall_mem_cons] at h
    cases hvalues with
    | cons hvalue hrest => exact .cons (h.1 _ _ hhead hvalue) (ih hrest h.2)

def KeepsItems (s : Shape) (d d' : Datum) : Prop :=
  ∀ l, d = .list l → ∃ l', d' = .list l' ∧ List.Forall₂ (Rearranged s) l l'

theorem keepsItems_item (h : Rearranged s d d') (before after : List Datum) :
    KeepsItems s (.list (before ++ d :: after)) (.list (before ++ d' :: after)) := by
  intro l hl
  obtain rfl := Datum.list.inj hl
  exact ⟨_, rfl, List.rel_append (items_refl s before) (.cons h (items_refl s after))⟩

theorem KeepsItems.trans {d'' : Datum} (h : KeepsItems s d d') (h' : KeepsItems s d' d'') :
    KeepsItems s d d'' := by
  intro l hl
  obtain ⟨l', hl', hrel⟩ := h l hl
  obtain ⟨l'', hl'', hrel'⟩ := h' l' hl'
  exact ⟨l'', hl'', items_trans hrel hrel'⟩

theorem keepsItems (h : Rearranged (.list s) d d') : KeepsItems s d d' ∧ KeepsItems s d' d := by
  generalize ht : Shape.list s = t at h
  induction h with
  | refl _ d => exact ⟨fun l hl => ⟨l, hl, items_refl s l⟩, fun l hl => ⟨l, hl, items_refl s l⟩⟩
  | symm _ ih => exact (ih ht).symm
  | trans _ _ ih ih' => exact ⟨(ih ht).1.trans (ih' ht).1, (ih' ht).2.trans (ih ht).2⟩
  | item h before after =>
    cases ht
    exact ⟨keepsItems_item h before after, keepsItems_item h.symm before after⟩
  | order | unknown | field => cases ht

def KeepsFields (fields : List (String × Shape)) (d d' : Datum) : Prop :=
  ∀ r : Record, d = .map r → r.HasDistinctKeys → ∃ r' : Record, d' = .map r' ∧
    r'.HasDistinctKeys ∧ ∀ name s e, fields.lookup name = some s → r.get? name = some e →
      ∃ e', r'.get? name = some e' ∧ Rearranged s e e'

section Fields

variable {fields : List (String × Shape)} {r r' : Record} {name key : String}

theorem KeepsFields.trans {d'' : Datum} (h : KeepsFields fields d d')
    (h' : KeepsFields fields d' d'') : KeepsFields fields d d'' := by
  intro r hd hr
  obtain ⟨r', hd', hr', hkept⟩ := h r hd hr
  obtain ⟨r'', hd'', hr'', hkept'⟩ := h' r' hd' hr'
  refine ⟨r'', hd'', hr'', fun name s e hs he => ?_⟩
  obtain ⟨e', he', hrel⟩ := hkept name s e hs he
  obtain ⟨e'', he'', hrel'⟩ := hkept' name s e' hs he'
  exact ⟨e'', he'', hrel.trans hrel'⟩

theorem keepsFields_of_get? (hkeys : r.HasDistinctKeys → r'.HasDistinctKeys)
    (hget : r.HasDistinctKeys → ∀ name s e, fields.lookup name = some s → r.get? name = some e →
      ∃ e', r'.get? name = some e' ∧ Rearranged s e e') :
    KeepsFields fields (.map r) (.map r') := by
  intro r₀ hd hr
  obtain rfl := Datum.map.inj hd
  exact ⟨r', rfl, hkeys hr, hget hr⟩

theorem keepsFields_refl (fields : List (String × Shape)) (d : Datum) :
    KeepsFields fields d d :=
  fun r hd hr => ⟨r, hd, hr, fun _ s e _ he => ⟨e, he, .refl s e⟩⟩

theorem keepsFields_order (h : r.Perm r') : KeepsFields fields (.map r) (.map r') :=
  keepsFields_of_get? (fun hr => hr.perm h) fun hr name s e _ he =>
    ⟨e, (Record.get?_perm hr h name).trans he, .refl s e⟩

theorem get?_cons_of_ne (hne : key ≠ name) (d : Datum) (r : Record) :
    Record.get? ((key, d) :: r) name = r.get? name := by
  simp [Record.get?, hne]

theorem keepsFields_unknown (d : Datum) (hfield : fields.lookup key = none)
    (hkey : key ∉ r.map Prod.fst) :
    KeepsFields fields (.map r) (.map ((key, d) :: r)) ∧
      KeepsFields fields (.map ((key, d) :: r)) (.map r) := by
  have hget {name : String} {s : Shape} (hs : fields.lookup name = some s) :
      Record.get? ((key, d) :: r) name = r.get? name := by
    refine get?_cons_of_ne ?_ d r
    rintro rfl
    rw [hfield] at hs
    cases hs
  constructor
  · exact keepsFields_of_get? (fun hr => List.nodup_cons.2 ⟨hkey, hr⟩)
      fun _ _ s e hs he => ⟨e, (hget hs).trans he, .refl s e⟩
  · exact keepsFields_of_get? (fun hr => (List.nodup_cons.1 hr).2)
      fun _ _ s e hs he => ⟨e, (hget hs).symm.trans he, .refl s e⟩

theorem keepsFields_field (hfield : fields.lookup name = some s) (h : Rearranged s d d')
    (before after : Record) :
    KeepsFields fields (.map (before ++ (name, d) :: after))
      (.map (before ++ (name, d') :: after)) := by
  have hkeys : ((before ++ (name, d') :: after).map Prod.fst) =
      (before ++ (name, d) :: after).map Prod.fst := by
    simp
  have hdistinct (hr : Record.HasDistinctKeys (before ++ (name, d) :: after)) :
      Record.HasDistinctKeys (before ++ (name, d') :: after) := by
    rwa [Record.HasDistinctKeys, hkeys]
  refine keepsFields_of_get? hdistinct fun hr key t e ht he => ?_
  have hmem := Record.mem_of_get? he
  simp only [List.mem_append, List.mem_cons] at hmem
  rcases hmem with hmem | heq | hmem
  · exact ⟨e, (Record.get?_eq_some_iff (hdistinct hr)).2 (by simp [hmem]), .refl t e⟩
  · cases heq
    obtain rfl := Option.some.inj (hfield.symm.trans ht)
    exact ⟨d', (Record.get?_eq_some_iff (hdistinct hr)).2 (by simp), h⟩
  · exact ⟨e, (Record.get?_eq_some_iff (hdistinct hr)).2 (by simp [hmem]), .refl t e⟩

theorem keepsFields (h : Rearranged (.record fields) d d') :
    KeepsFields fields d d' ∧ KeepsFields fields d' d := by
  generalize ht : Shape.record fields = t at h
  induction h with
  | refl _ d => exact ⟨keepsFields_refl fields d, keepsFields_refl fields d⟩
  | symm _ ih => exact (ih ht).symm
  | trans _ _ ih ih' => exact ⟨(ih ht).1.trans (ih' ht).1, (ih' ht).2.trans (ih ht).2⟩
  | order h => exact ⟨keepsFields_order h, keepsFields_order h.symm⟩
  | unknown d hfield hkey =>
    cases ht
    exact keepsFields_unknown d hfield hkey
  | field hfield h before after =>
    cases ht
    exact ⟨keepsFields_field hfield h before after, keepsFields_field hfield h.symm before after⟩
  | item => cases ht

end Fields

end Rearranged

section Kept

variable {s t : Shape} {d d' e : Datum}

theorem Tidy.of_mem {fields : List (String × Shape)} {r : Record} (hkeys : r.HasDistinctKeys)
    (h : ∀ e ∈ r, ∀ s, fields.lookup e.1 = some s → Tidy s e.2) :
    Tidy (.record fields) (.map r) :=
  .record hkeys fun hs he => h _ (Record.mem_of_get? he) _ hs

theorem Tidy.rearranged (hd : Tidy s d) (h : Rearranged s d d') : Tidy s d' := by
  induction hd generalizing d' with
  | value => exact .value d'
  | @list item l _ ih =>
    obtain ⟨l', rfl, hrel⟩ := h.keepsItems.1 l rfl
    exact .list (Rearranged.forall_mem_of_items hrel fun d hmem _ h => ih d hmem h)
  | @record fields r hkeys _ ih =>
    obtain ⟨r', rfl, hkeys', -⟩ := h.keepsFields.1 r rfl hkeys
    obtain ⟨r₀, hr₀, -, hkept⟩ := h.keepsFields.2 r' rfl hkeys'
    obtain rfl := Datum.map.inj hr₀
    refine .record hkeys' fun hs he' => ?_
    obtain ⟨e, he, hrel⟩ := hkept _ _ _ hs he'
    exact ih hs he hrel.symm

theorem Tidy.at? {path : List String} (hd : Tidy s d) (hs : s.at? path = some t)
    (he : d.at? path = some e) : Tidy t e := by
  induction path generalizing s d with
  | nil =>
    cases hs
    cases he
    exact hd
  | cons key rest ih =>
    cases hd with
    | value | list => cases hs
    | record _ htidy =>
      obtain ⟨u, hu, hs⟩ := Option.bind_eq_some_iff.1 hs
      obtain ⟨inner, hinner, he⟩ := Option.bind_eq_some_iff.1 he
      exact ih (htidy hu hinner) hs he

theorem Rearranged.at? {path : List String} (h : Rearranged s d d') (hd : Tidy s d)
    (hs : s.at? path = some t) (he : d.at? path = some e) :
    ∃ e', d'.at? path = some e' ∧ Rearranged t e e' := by
  induction path generalizing s d d' with
  | nil =>
    cases hs
    cases he
    exact ⟨d', rfl, h⟩
  | cons key rest ih =>
    cases hd with
    | value | list => cases hs
    | record hkeys htidy =>
      obtain ⟨u, hu, hs⟩ := Option.bind_eq_some_iff.1 hs
      obtain ⟨inner, hinner, he⟩ := Option.bind_eq_some_iff.1 he
      obtain ⟨r', rfl, -, hkept⟩ := h.keepsFields.1 _ rfl hkeys
      obtain ⟨inner', hinner', hrel⟩ := hkept key u inner hu hinner
      obtain ⟨e', he', hrel'⟩ := ih hrel (htidy hu hinner) hs he
      exact ⟨e', Option.bind_eq_some_iff.2 ⟨inner', hinner', he'⟩, hrel'⟩

theorem Rearranged.at?_eq {path : List String} (h : Rearranged s d d') (hd : Tidy s d)
    (hs : s.at? path = some .value) : d'.at? path = d.at? path := by
  ext e
  constructor
  · intro he
    obtain ⟨e', he', hrel⟩ := h.symm.at? (hd.rearranged h) hs he
    rwa [hrel.eq_of_value]
  · intro he
    obtain ⟨e', he', hrel⟩ := h.at? hd hs he
    rwa [hrel.eq_of_value]

theorem Rearranged.get?_eq {fields : List (String × Shape)} {name : String}
    (h : Rearranged (.record fields) d d') (hd : Tidy (.record fields) d)
    (hname : fields.lookup name = some .value) : d'.get? name = d.get? name := by
  have hat (d : Datum) : d.at? [name] = d.get? name := Option.bind_fun_some _
  rw [← hat, ← hat]
  refine h.at?_eq hd ?_
  rw [Shape.at?, hname]
  rfl

theorem at?_append (before after : List String) (d : Datum) :
    d.at? (before ++ after) = (d.at? before).bind (Datum.at? after) := by
  induction before generalizing d with
  | nil => rfl
  | cons key rest ih =>
    rw [List.cons_append, Datum.at?, Datum.at?, Option.bind_assoc]
    exact Option.bind_congr fun e _ => ih e

theorem get?_recordAt (d : Datum) (path : List String) (name : String) :
    (d.recordAt path).get? name = d.at? (path ++ [name]) := by
  rw [at?_append, recordAt]
  cases d.at? path with
  | none => rfl
  | some e =>
    cases e with
    | map r => exact (Option.bind_fun_some _).symm
    | _ => rfl

theorem Tidy.recordAt {path : List String} {fields : List (String × Shape)} (hd : Tidy s d)
    (hs : s.at? path = some (.record fields)) : (d.recordAt path).HasDistinctKeys := by
  rw [Datum.recordAt]
  cases he : d.at? path with
  | none => exact List.nodup_nil
  | some e =>
    cases hd.at? hs he with
    | record hkeys => exact hkeys

/-- A record that is left out is read as one without entries. -/
theorem Tidy.orElse?_recordAt {α : Type} {fields : List (String × Shape)}
    {read? : Datum → Option α} {default a : α} (hd : Tidy s d) (path : List String)
    (name : String) (hs : s.at? (path ++ [name]) = some (.record fields))
    (hdefault : read? (.map []) = some default)
    (hread : read? (.map (d.recordAt (path ++ [name]))) = some a) :
    (d.recordAt path).orElse? name default read? = some a := by
  rw [Record.orElse?, get?_recordAt]
  rw [Datum.recordAt] at hread
  cases he : d.at? (path ++ [name]) with
  | none =>
    rw [he] at hread
    exact hdefault.symm.trans hread
  | some e =>
    rw [he] at hread
    cases hd.at? hs he with
    | record => exact hread

end Kept

end Appraisal.Datum
