import Appraisal.Proofs.Data.JsonTokens

set_option autoImplicit false

namespace Appraisal.Json

/-- The text of the double is read as the double. Some doubles of seventeen digits are read as their
neighbour, since the digits are rounded before they are scaled. -/
def ReadsBack (x : Float) : Prop := number? (scalar (.float x)) = some (.float x, [])

instance (x : Float) : Decidable (ReadsBack x) :=
  decidable_of_iff ((number? (scalar (.float x))).any (fun
    | (.float y, []) => y = x
    | _ => false) = true) (by
      rw [ReadsBack]
      rcases number? (scalar (.float x)) with _ | ⟨d, r⟩
      · simp
      · cases d <;> cases r <;> simp)

example : ¬ ReadsBack 0.9452706955539223 := by decide +kernel

def asRead (x : Float) : Float :=
  match number? (scalar (.float x)) with
  | some (.float y, []) => y
  | _ => x

/-- The text of the double is read as a double, if not as the same one. -/
def Legible (x : Float) : Prop := number? (scalar (.float x)) = some (.float (asRead x), [])

theorem ReadsBack.asRead_eq {x : Float} (h : ReadsBack x) : asRead x = x := by
  rw [asRead, h]

theorem ReadsBack.legible {x : Float} (h : ReadsBack x) : Legible x := by
  rw [Legible, h.asRead_eq, h]

mutual

def dataRead : Datum → Datum
  | .float x => .float (asRead x)
  | .list items => .list (itemsRead items)
  | .map entries => .map (entriesRead entries)
  | d => d

def itemsRead : List Datum → List Datum
  | [] => []
  | item :: rest => dataRead item :: itemsRead rest

def entriesRead : List (String × Datum) → List (String × Datum)
  | [] => []
  | (key, value) :: rest => (key, dataRead value) :: entriesRead rest

end

theorem itemsRead_eq (items : List Datum) : itemsRead items = items.map dataRead := by
  induction items with
  | nil => rw [itemsRead]; rfl
  | cons item rest ih => rw [itemsRead, ih]; rfl

/-- Data that can be read back with `depth` levels left to nest in. -/
inductive Restorable : Nat → Datum → Prop
  | null (depth : Nat) : Restorable depth .null
  | bool (depth : Nat) (b : Bool) : Restorable depth (.bool b)
  | int (depth : Nat) {n : Int} (low : -((UInt64.size / 2 : Nat) : Int) ≤ n)
      (high : n < (UInt64.size : Int)) : Restorable depth (.int n)
  | float (depth : Nat) {x : Float} (legible : Legible x) : Restorable depth (.float x)
  | text (depth : Nat) (s : String) : Restorable depth (.text s)
  | list {depth : Nat} {items : List Datum} (each : ∀ d ∈ items, Restorable (depth + 1) d) :
      Restorable (depth + 2) (.list items)
  | map {depth : Nat} {entries : List (String × Datum)}
      (each : ∀ e ∈ entries, Restorable (depth + 1) e.2) : Restorable (depth + 2) (.map entries)

theorem skipSpace_of_head {c : Char} (h : isSpace c = false) (cs : List Char) :
    skipSpace (c :: cs) = c :: cs := by
  simp [skipSpace, h]

theorem skipSpace_skipSpace (cs : List Char) : skipSpace (skipSpace cs) = skipSpace cs := by
  induction cs with
  | nil => rfl
  | cons c cs ih =>
    cases h : isSpace c with
    | false => rw [skipSpace_of_head h, skipSpace_of_head h]
    | true => simpa [skipSpace, h] using ih

theorem skipSpace_indent (depth : Nat) (cs : List Char) :
    skipSpace ('\n' :: (indent depth ++ cs)) = skipSpace cs := by
  change skipSpace (indent depth ++ cs) = skipSpace cs
  rw [indent]
  induction 2 * depth with
  | zero => rfl
  | succ n ih => exact ih

theorem value?_skipSpace (fuel depth : Nat) (cs : List Char) :
    value? fuel depth (skipSpace cs) = value? fuel depth cs := by
  cases fuel with
  | zero => rfl
  | succ fuel => rw [value?, value?, skipSpace_skipSpace]

theorem items?_skipSpace (fuel depth : Nat) (done : List Datum) (cs : List Char) :
    items? fuel depth done (skipSpace cs) = items? fuel depth done cs := by
  cases fuel with
  | zero => rfl
  | succ fuel => rw [items?, items?, value?_skipSpace]

theorem entries?_skipSpace (fuel depth : Nat) (done : List (String × Datum)) (cs : List Char) :
    entries? fuel depth done (skipSpace cs) = entries? fuel depth done cs := by
  cases fuel with
  | zero => rfl
  | succ fuel => rw [entries?, entries?, skipSpace_skipSpace]

theorem head_of_number? {cs r : List Char} {d : Datum} (h : number? cs = some (d, r)) :
    ∃ c t, cs = c :: t ∧ (c == '-' || isDigit c) = true := by
  cases cs with
  | nil => cases h
  | cons c t =>
    refine ⟨c, t, rfl, ?_⟩
    by_cases hminus : c = '-'
    · simp [hminus]
    · cases hdigit : isDigit c with
      | true => simp
      | false =>
        rw [number?] at h
        · simp [magnitude?, takeDigits_cons, hdigit] at h
        · intro t' heq
          cases heq
          exact hminus rfl

theorem not_special_of_number {c : Char} (h : (c == '-' || isDigit c) = true) :
    isSpace c = false ∧ c ≠ ']' ∧ c ≠ '"' ∧ c ≠ '[' ∧ c ≠ '\x7b' := by
  refine ⟨?_, ?_, ?_, ?_, ?_⟩
  · cases hspace : isSpace c with
    | false => rfl
    | true =>
      simp only [isSpace, Bool.or_eq_true, beq_iff_eq] at hspace
      rcases hspace with ((rfl | rfl) | rfl) | rfl <;> cases h
  all_goals
    rintro rfl
    cases h

theorem value?_number {fuel depth : Nat} {cs r : List Char} {d : Datum}
    (h : number? cs = some (d, [])) (hr : EndsNumber r) :
    value? (fuel + 1) depth (cs ++ r) = some (d, r) := by
  have hread := number?_append hr h
  obtain ⟨c, t, rfl, hc⟩ := head_of_number? h
  obtain ⟨hspace, -, hquote, hlist, hmap⟩ := not_special_of_number hc
  rw [List.cons_append] at hread ⊢
  rw [value?, skipSpace_of_head hspace]
  split
  · next heq => cases heq; exact absurd rfl hquote
  · next heq => cases heq; exact absurd rfl hlist
  · next heq => cases heq; exact absurd rfl hmap
  · next heq =>
    cases heq
    rw [if_pos hc, hread]
  · next heq => cases heq

theorem value?_quote (fuel depth : Nat) (s : String) (r : List Char) :
    value? (fuel + 1) depth (quote s ++ r) = some (.text s, r) := by
  rw [quote_append, value?, skipSpace_of_head rfl]
  change (stringRest? [] _).map _ = _
  rw [stringRest?_quoted]
  rfl

theorem head_prettyChars {depth : Nat} {d : Datum} (h : Restorable depth d) (k : Nat) :
    ∃ c t, prettyChars k d = c :: t ∧ isSpace c = false ∧ c ≠ ']' := by
  cases h with
  | null => exact ⟨_, _, rfl, rfl, by decide⟩
  | bool _ b => cases b <;> exact ⟨_, _, rfl, rfl, by decide⟩
  | int _ low high =>
    obtain ⟨c, t, hcs, hc⟩ := head_of_number? (number?_scalar_int low high)
    exact ⟨c, t, hcs, (not_special_of_number hc).1, (not_special_of_number hc).2.1⟩
  | float _ legible =>
    obtain ⟨c, t, hcs, hc⟩ := head_of_number? legible
    exact ⟨c, t, hcs, (not_special_of_number hc).1, (not_special_of_number hc).2.1⟩
  | text _ s => exact ⟨_, _, rfl, rfl, by decide⟩
  | @list _ items _ => cases items <;> exact ⟨_, _, rfl, rfl, by decide⟩
  | @map _ entries _ => cases entries <;> exact ⟨_, _, rfl, rfl, by decide⟩

/-- The data are read from their text, whatever ends it. -/
def Read (depth : Nat) (d : Datum) : Prop :=
  ∀ (k fuel : Nat) (r : List Char), (prettyChars k d).length < fuel → EndsNumber r →
    value? fuel depth (prettyChars k d ++ r) = some (dataRead d, r)

theorem items?_prettyItems {depth k : Nat} {item : Datum} {rest : List Datum}
    (each : ∀ d ∈ item :: rest, Read depth d) {done : List Datum} {fuel : Nat} {tail : List Char}
    (hfuel : (prettyChars (k + 1) item ++ prettyItems k rest).length + 1 < fuel) :
    items? fuel depth done (prettyChars (k + 1) item ++ (prettyItems k rest ++
      '\n' :: (indent k ++ ']' :: tail))) =
        some (.list (done.reverse ++ itemsRead (item :: rest)), tail) := by
  -- each turn costs one step, and the text that is left is longer than the steps it will take
  induction rest generalizing item done fuel with
  | nil =>
    cases fuel with
    | zero => omega
    | succ fuel =>
      rw [prettyItems, List.append_nil] at hfuel
      have hitem := each item List.mem_cons_self (k + 1) fuel
        ('\n' :: (indent k ++ ']' :: tail)) (by omega) (endsNumber_cons (by decide) _)
      rw [items?, prettyItems, List.nil_append, hitem]
      dsimp only
      rw [skipSpace_indent, skipSpace_of_head rfl]
      simp [itemsRead]
  | cons next rest ih =>
    cases fuel with
    | zero => omega
    | succ fuel =>
      simp only [prettyItems, List.length_append, List.length_cons] at hfuel
      simp only [prettyItems, List.cons_append, List.append_assoc]
      have hitem := each item List.mem_cons_self (k + 1) fuel
        (',' :: '\n' :: (indent (k + 1) ++ (prettyChars (k + 1) next ++ (prettyItems k rest ++
          '\n' :: (indent k ++ ']' :: tail))))) (by omega) (endsNumber_cons (by decide) _)
      rw [items?, hitem]
      change items? fuel depth (dataRead item :: done) ('\n' :: (indent (k + 1) ++ _)) = _
      rw [← items?_skipSpace, skipSpace_indent, items?_skipSpace,
        ih (fun d hd => each d (List.mem_cons_of_mem _ hd))
          (by simp only [List.length_append]; omega)]
      simp [itemsRead]

section Entries

variable {fuel depth : Nat} {key : String} {value : Datum} {cs r t : List Char}
  (done : List (String × Datum))

theorem entries?_next (hvalue : value? fuel depth cs = some (value, r))
    (hr : skipSpace r = ',' :: t) :
    entries? (fuel + 1) depth done (quote key ++ ':' :: cs) =
      entries? fuel depth ((key, value) :: done) t := by
  have hcolon : skipSpace (':' :: cs) = ':' :: cs := skipSpace_of_head rfl cs
  rw [quote_append, entries?, skipSpace_of_head rfl]
  simp only [stringRest?_quoted, hcolon, hvalue, hr]

theorem entries?_last (hvalue : value? fuel depth cs = some (value, r))
    (hr : skipSpace r = '\x7d' :: t) :
    entries? (fuel + 1) depth done (quote key ++ ':' :: cs) =
      some (.map (done.reverse ++ [(key, value)]), t) := by
  have hcolon : skipSpace (':' :: cs) = ':' :: cs := skipSpace_of_head rfl cs
  rw [quote_append, entries?, skipSpace_of_head rfl]
  simp only [stringRest?_quoted, hcolon, hvalue, hr, List.reverse_cons]

end Entries

theorem Read.behindSpace {depth fuel k : Nat} {d : Datum} (h : Read depth d) {r : List Char}
    (hfuel : (prettyChars k d).length < fuel) (hr : EndsNumber r) :
    value? fuel depth (' ' :: (prettyChars k d ++ r)) = some (dataRead d, r) := by
  have hskip : skipSpace (' ' :: (prettyChars k d ++ r)) = skipSpace (prettyChars k d ++ r) := rfl
  rw [← value?_skipSpace, hskip, value?_skipSpace]
  exact h k fuel r hfuel hr

theorem entries?_prettyEntries {depth k : Nat} {key : String} {value : Datum}
    {rest : List (String × Datum)} (each : ∀ e ∈ (key, value) :: rest, Read depth e.2)
    {done : List (String × Datum)} {fuel : Nat} {tail : List Char}
    (hfuel : (prettyChars (k + 1) value ++ prettyEntries k rest).length + 2 < fuel) :
    entries? fuel depth done (quote key ++ ':' :: ' ' :: (prettyChars (k + 1) value ++
      (prettyEntries k rest ++ '\n' :: (indent k ++ '\x7d' :: tail)))) =
        some (.map (done.reverse ++ entriesRead ((key, value) :: rest)), tail) := by
  have hvalue : Read depth value := each (key, value) List.mem_cons_self
  induction rest generalizing key value done fuel with
  | nil =>
    cases fuel with
    | zero => omega
    | succ fuel =>
      rw [prettyEntries, List.append_nil] at hfuel
      have hread : value? fuel depth (' ' :: (prettyChars (k + 1) value ++
          '\n' :: (indent k ++ '\x7d' :: tail))) = some (dataRead value, _) :=
        hvalue.behindSpace (by omega) (endsNumber_cons (by decide) _)
      rw [prettyEntries, List.nil_append, entriesRead, entriesRead]
      refine entries?_last done hread ?_
      rw [skipSpace_indent, skipSpace_of_head rfl]
  | cons next rest ih =>
    cases fuel with
    | zero => omega
    | succ fuel =>
      obtain ⟨nextKey, nextValue⟩ := next
      simp only [prettyEntries, List.length_append, List.length_cons] at hfuel
      simp only [prettyEntries, List.cons_append, List.append_assoc]
      rw [entries?_next done (hvalue.behindSpace (by omega) (endsNumber_cons (by decide) _))
        (skipSpace_of_head rfl _), ← entries?_skipSpace, skipSpace_indent, entries?_skipSpace,
        ih (fun e he => each e (List.mem_cons_of_mem _ he))
          (by simp only [List.length_append]; omega) (each (nextKey, nextValue) (by simp))]
      simp [entriesRead]

theorem value?_list {fuel depth : Nat} {r t : List Char} {c : Char} (hr : skipSpace r = c :: t)
    (hc : c ≠ ']') :
    value? (fuel + 1) (depth + 2) ('[' :: r) = items? fuel (depth + 1) [] (c :: t) := by
  rw [value?, skipSpace_of_head rfl]
  simp only [hr]
  rw [if_neg (by omega)]
  split
  · next heq =>
    cases heq
    exact absurd rfl hc
  · rfl

theorem value?_map {fuel depth : Nat} {r t : List Char} (hr : skipSpace r = '"' :: t) :
    value? (fuel + 1) (depth + 2) ('\x7b' :: r) = entries? fuel (depth + 1) [] ('"' :: t) := by
  rw [value?, skipSpace_of_head rfl]
  simp only [hr]
  rw [if_neg (by omega)]
  rfl

theorem read_of_succ {depth : Nat} {d : Datum}
    (h : ∀ (k fuel : Nat) (r : List Char), (prettyChars k d).length ≤ fuel → EndsNumber r →
      value? (fuel + 1) depth (prettyChars k d ++ r) = some (dataRead d, r)) : Read depth d := by
  intro k fuel r hfuel hr
  cases fuel with
  | zero => omega
  | succ fuel => exact h k fuel r (by omega) hr

theorem read_of_restorable {depth : Nat} {d : Datum} (h : Restorable depth d) : Read depth d := by
  -- a list or a map costs one step and one level, and all in it is read with what is left of both
  induction h with
  | null depth => exact read_of_succ fun _ _ _ _ _ => rfl
  | bool depth b =>
    refine read_of_succ fun _ _ _ _ _ => ?_
    cases b <;> rfl
  | int depth low high =>
    exact read_of_succ fun _ _ _ _ hr => value?_number (number?_scalar_int low high) hr
  | float depth legible => exact read_of_succ fun _ _ _ _ hr => value?_number legible hr
  | text depth s => exact read_of_succ fun _ fuel r _ _ => value?_quote fuel depth s r
  | @list depth items each ih =>
    refine read_of_succ fun k fuel r hfuel hr => ?_
    cases items with
    | nil => rfl
    | cons item rest =>
      obtain ⟨c, t, hcs, hspace, hclose⟩ := head_prettyChars (each item List.mem_cons_self) (k + 1)
      simp only [prettyChars, List.length_cons, List.length_append] at hfuel
      simp only [prettyChars, List.cons_append, List.append_assoc, List.nil_append]
      rw [value?_list ?_ hclose, ← List.cons_append, ← hcs]
      · exact items?_prettyItems ih (by simp only [List.length_append]; omega)
      · rw [skipSpace_indent, hcs, List.cons_append, skipSpace_of_head hspace]
  | @map depth entries each ih =>
    refine read_of_succ fun k fuel r hfuel hr => ?_
    cases entries with
    | nil => rfl
    | cons entry rest =>
      obtain ⟨key, value⟩ := entry
      simp only [prettyChars, List.length_cons, List.length_append] at hfuel
      simp only [prettyChars, List.cons_append, List.append_assoc, List.nil_append]
      rw [quote_append, value?_map ?_, ← quote_append]
      · exact entries?_prettyEntries (k := k) ih (by simp only [List.length_append]; omega)
      · rw [skipSpace_indent, skipSpace_of_head rfl]

theorem read?_pretty {d : Datum} (h : Restorable nestingLimit d) :
    read? (pretty d) = some (dataRead d) := by
  have hread := read_of_restorable h 0 ((prettyChars 0 d).length + 1) [] (by omega) endsNumber_nil
  rw [List.append_nil] at hread
  rw [read?, pretty, String.toList_ofList, hread]
  rfl

end Appraisal.Json
