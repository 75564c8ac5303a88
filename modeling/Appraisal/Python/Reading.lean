import Appraisal.Python.Cursor

set_option autoImplicit false

/-!
# Reading steps

A reading step takes the state at a place of the source and either gives a value and a state at
the same place or a later one, or fails with the reason. That it never goes back, and that it is
fresh behind a line end only, is part of its type.
-/
namespace Appraisal.Python

structure State where
  cursor : Cursor
  indents : List Nat
  /-- Nothing but a line end has been read since the last statement. -/
  fresh : Bool
  /-- Inside a string literal that holds expressions. -/
  formatting : Bool

inductive Fault where
  | unexpected
  | invalid (place : Cursor)
  | missing (place : Cursor) (token : String)
  | unclosed (place : Cursor) (opening : List Char)

/-- `t` is `s` or comes after it, and is fresh only as `s` is or behind a line end. -/
structure State.Leads (s t : State) : Prop where
  reaches : s.cursor.Reaches t.cursor
  fresh : t.fresh = true → s.fresh = true ∨ s.cursor.Passes t.cursor

namespace State.Leads

theorem refl (s : State) : s.Leads s := ⟨.refl _, .inl⟩

theorem trans {s t u : State} (first : s.Leads t) (second : t.Leads u) : s.Leads u where
  reaches := first.reaches.trans second.reaches
  fresh h :=
    match second.fresh h with
    | .inl ht => (first.fresh ht).imp_right (·.trans_reaches second.reaches)
    | .inr hpasses => .inr (first.reaches.trans_passes hpasses)

end State.Leads

structure Step (s : State) (α : Type) where
  value : α
  state : State
  leads : s.Leads state

def Reading (α : Type) := (s : State) → Except Fault (Step s α)

namespace Reading

variable {α β : Type}

instance : Monad Reading where
  pure a := fun s => .ok ⟨a, s, .refl _⟩
  bind p f := fun s =>
    match p s with
    | .error e => .error e
    | .ok r =>
      match f r.value r.state with
      | .error e => .error e
      | .ok q => .ok ⟨q.value, q.state, r.leads.trans q.leads⟩

def fail (e : Fault) : Reading α := fun _ => .error e

def state : Reading State := fun s => .ok ⟨s, s, .refl _⟩

def place : Reading Cursor := fun s => .ok ⟨s.cursor, s, .refl _⟩

def consume (n : Nat) : Reading Unit := fun s =>
  .ok ⟨(), { s with cursor := s.cursor.advanceBy n, fresh := n = 0 && s.fresh },
    Cursor.reaches_advanceBy n s.cursor, fun h => .inl (Bool.and_eq_true _ _ ▸ h).2⟩

def consumeLine (n : Nat) : Reading Unit := fun s =>
  let after := s.cursor.advanceBy n
  .ok ⟨(), { s with cursor := after, fresh := s.fresh || s.cursor.Passes after },
    Cursor.reaches_advanceBy n s.cursor,
    fun h => (Bool.or_eq_true _ _ ▸ h).imp_right of_decide_eq_true⟩

def setIndents (indents : List Nat) : Reading Unit := fun s =>
  .ok ⟨(), { s with indents := indents }, .refl _, .inl⟩

def setFormatting (formatting : Bool) : Reading Unit := fun s =>
  .ok ⟨(), { s with formatting := formatting }, .refl _, .inl⟩

def orElse (p q : Reading α) : Reading α := fun s =>
  match p s with
  | .ok r => .ok r
  | .error _ => q s

def withText (p : Reading α) : Reading (α × List Char) := do
  let start ← place
  let a ← p
  return (a, start.textTo (← place))

def iterate (step : α → Reading (α ⊕ β)) : Nat → α → Reading β
  | 0, _ => fail .unexpected
  | fuel + 1, a => do
    match ← step a with
    | .inl a => iterate step fuel a
    | .inr b => return b

end Reading

end Appraisal.Python
