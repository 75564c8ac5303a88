import Appraisal.Proofs.Data.Records
import Appraisal.Proofs.Score.Levels
import Appraisal.Settings.Document

set_option autoImplicit false

namespace Appraisal

namespace Settings

open Datum (Shape)

def ruleShape : Shape :=
  .record [("id", .value), ("category", .value), ("pattern", .value), ("severity", .value)]

def thresholdShape : Shape := .record [("below", .value), ("level", .value)]

inductive Kind where
  | flag
  | count
  | number
  | text
  | texts
  | rules
  | thresholds

namespace Kind

abbrev Value : Kind → Type
  | .flag => Bool
  | .count => Nat
  | .number => Float
  | .text => String
  | .texts => List String
  | .rules => List Scan.Rule
  | .thresholds => List (Score.Threshold Float)

def shape : Kind → Shape
  | .rules => .list ruleShape
  | .thresholds => .list thresholdShape
  | _ => .value

def read? : (k : Kind) → Datum → Option k.Value
  | .flag => Datum.bool?
  | .count => Datum.nat?
  | .number => Datum.float?
  | .text => Datum.text?
  | .texts => Datum.list? Datum.text?
  | .rules => Datum.list? Scan.Rule.ofDatum?
  | .thresholds => Datum.list? Score.Threshold.ofDatum?

end Kind

/-- A double, or a whole number of 64 bits in the place of one. -/
inductive DenotesNumber : Datum → Float → Prop
  | float (x : Float) : DenotesNumber (.float x) x
  | int {n : Int} (hlow : -2 ^ 63 ≤ n) (hhigh : n < 2 ^ 64) :
      DenotesNumber (.int n) (Datum.floatOfInt n)

structure DenotesRule (d : Datum) (rule : Scan.Rule) : Prop where
  id : d.get? "id" = some (.text rule.id)
  category : d.get? "category" = some (.text rule.category.name)
  pattern : d.get? "pattern" = some (.text rule.pattern)
  severity : d.get? "severity" = some (.text rule.severity.name) ∨
    d.get? "severity" = none ∧ rule.severity = .medium

structure DenotesThreshold (d : Datum) (t : Score.Threshold Float) : Prop where
  below : ∃ e, d.get? "below" = some e ∧ DenotesNumber e t.below
  level : d.get? "level" = some (.text t.level.name)

def Denotes : (k : Kind) → Datum → k.Value → Prop
  | .flag, d, b => d = .bool b
  | .count, d, n => d = .int n ∧ n < 2 ^ 64
  | .number, d, x => DenotesNumber d x
  | .text, d, s => d = .text s
  | .texts, d, l => d = .list (l.map .text)
  | .rules, d, l => ∃ items, d = .list items ∧ List.Forall₂ DenotesRule items l
  | .thresholds, d, l => ∃ items, d = .list items ∧ List.Forall₂ DenotesThreshold items l

section Reading

theorem DenotesNumber.read? {d : Datum} {x : Float} (h : DenotesNumber d x) :
    d.float? = some x := by
  cases h with
  | float => rfl
  | int hlow hhigh => exact if_pos ⟨hlow, hhigh⟩

theorem Rule.ofDatum?_of_denotes {d : Datum} {rule : Scan.Rule}
    (hd : d.Tidy ruleShape) (h : DenotesRule d rule) : Scan.Rule.ofDatum? d = some rule := by
  cases hd with
  | @record _ r hr =>
    have hid : r.required? "id" Datum.text? = some rule.id :=
      Datum.Record.required?_of_get? h.id rfl
    have hcategory : r.required? "category" Scan.Category.ofDatum? = some rule.category :=
      Datum.Record.required?_of_get? h.category (by cases rule.category <;> rfl)
    have hpattern : r.required? "pattern" Datum.text? = some rule.pattern :=
      Datum.Record.required?_of_get? h.pattern rfl
    have hseverity : r.orElse? "severity" .medium Scan.Severity.ofDatum? = some rule.severity := by
      unfold Datum.Record.orElse?
      rcases h.severity with hget | ⟨hget, hmedium⟩
      · rw [show r.get? "severity" = _ from hget]
        cases rule.severity <;> rfl
      · rw [show r.get? "severity" = none from hget, hmedium]
    rw [Scan.Rule.ofDatum?, hr.recordOrList?]
    simp only [Option.bind_eq_bind, Option.bind_some, hid, hcategory, hpattern, hseverity]
    rfl

theorem Threshold.ofDatum?_of_denotes {d : Datum} {t : Score.Threshold Float}
    (hd : d.Tidy thresholdShape) (h : DenotesThreshold d t) :
    Score.Threshold.ofDatum? d = some t := by
  cases hd with
  | @record _ r hr =>
    obtain ⟨e, he, hnumber⟩ := h.below
    have hbelow : r.required? "below" Datum.float? = some t.below :=
      Datum.Record.required?_of_get? he hnumber.read?
    have hlevel : r.required? "level" Score.Level.ofDatum? = some t.level :=
      Datum.Record.required?_of_get? h.level (Score.Level.ofDatum?_name t.level)
    rw [Score.Threshold.ofDatum?, hr.recordOrList?]
    simp only [Option.bind_eq_bind, Option.bind_some, hbelow, hlevel]
    rfl

theorem settledItems_texts (l : List String) :
    Datum.settledItems (l.map .text) = l.map .text := by
  induction l with
  | nil => rfl
  | cons s rest ih => simp only [List.map_cons, Datum.settledItems, Datum.settled, ih]

theorem wordLimit_eq : Datum.wordLimit = 2 ^ 64 := by decide

theorem Kind.read?_of_denotes {k : Kind} {d : Datum} {v : k.Value} (hd : d.Tidy k.shape)
    (h : Denotes k d v) : k.read? d = some v := by
  cases k with
  | flag =>
    obtain rfl := h
    rfl
  | count =>
    obtain ⟨rfl, hlt⟩ := h
    rw [← wordLimit_eq] at hlt
    change Datum.nat? (Datum.ofNat v) = some v
    exact Datum.nat?_ofNat hlt
  | number => exact h.read?
  | text =>
    obtain rfl := h
    rfl
  | texts =>
    obtain rfl := h
    exact Datum.mapM_map_of_read? fun _ _ => rfl
  | rules =>
    obtain ⟨items, rfl, hitems⟩ := h
    cases hd with
    | list htidy =>
      exact Datum.mapM_of_forall₂ hitems fun d hd _ => Rule.ofDatum?_of_denotes (htidy d hd)
  | thresholds =>
    obtain ⟨items, rfl, hitems⟩ := h
    cases hd with
    | list htidy =>
      exact Datum.mapM_of_forall₂ hitems fun d hd _ => Threshold.ofDatum?_of_denotes (htidy d hd)

/-- Values that are neither rules nor thresholds say in every place what they say. -/
theorem settled_of_denotes {k : Kind} {d : Datum} {v : k.Value} (hk : k.shape = .value)
    (h : Denotes k d v) : d.settled = d := by
  cases k with
  | flag | text =>
    obtain rfl := h
    rfl
  | count =>
    obtain ⟨rfl, -⟩ := h
    rfl
  | number => cases h <;> rfl
  | texts =>
    obtain rfl := h
    rw [Datum.settled, settledItems_texts]
  | rules | thresholds => cases hk

end Reading

section Rearranged

variable {d d' : Datum}

theorem DenotesRule.rearranged {rule : Scan.Rule} (h : DenotesRule d rule)
    (hd : d.Tidy ruleShape) (hrel : d.Rearranged ruleShape d') : DenotesRule d' rule where
  id := (hrel.get?_eq hd rfl).trans h.id
  category := (hrel.get?_eq hd rfl).trans h.category
  pattern := (hrel.get?_eq hd rfl).trans h.pattern
  severity := by
    rw [hrel.get?_eq hd rfl]
    exact h.severity

theorem DenotesThreshold.rearranged {t : Score.Threshold Float} (h : DenotesThreshold d t)
    (hd : d.Tidy thresholdShape) (hrel : d.Rearranged thresholdShape d') :
    DenotesThreshold d' t where
  below := by
    rw [hrel.get?_eq hd rfl]
    exact h.below
  level := (hrel.get?_eq hd rfl).trans h.level

theorem Denotes.rearranged {k : Kind} {v : k.Value} (h : Denotes k d v) (hd : d.Tidy k.shape)
    (hrel : d.Rearranged k.shape d') : Denotes k d' v := by
  cases k with
  | flag | count | number | text | texts => exact hrel.eq_of_value ▸ h
  | rules =>
    obtain ⟨items, rfl, hitems⟩ := h
    obtain ⟨items', rfl, hrelated⟩ := hrel.keepsItems.1 items rfl
    cases hd with
    | list htidy =>
      exact ⟨items', rfl, Datum.Rearranged.forall₂_of_items hrelated hitems fun d hd _ _ hrel h =>
        h.rearranged (htidy d hd) hrel⟩
  | thresholds =>
    obtain ⟨items, rfl, hitems⟩ := h
    obtain ⟨items', rfl, hrelated⟩ := hrel.keepsItems.1 items rfl
    cases hd with
    | list htidy =>
      exact ⟨items', rfl, Datum.Rearranged.forall₂_of_items hrelated hitems fun d hd _ _ hrel h =>
        h.rearranged (htidy d hd) hrel⟩

end Rearranged

end Settings

end Appraisal
