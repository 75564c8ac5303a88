import Appraisal.Proofs.Python.LineEnds

set_option autoImplicit false

namespace Appraisal.Python.Reading

variable {α β : Type} {p : Reading α} {f : α → Reading β} {s t : State} {a : α} {b : β}

/-- From `s` the step gives `a` and comes to `t`. -/
def Yields (p : Reading α) (s : State) (a : α) (t : State) : Prop :=
  ∃ r, p s = .ok r ∧ r.value = a ∧ r.state = t

theorem Yields.leads (h : p.Yields s a t) : s.Leads t := by
  obtain ⟨r, -, -, rfl⟩ := h
  exact r.leads

theorem Yields.reaches (h : p.Yields s a t) : s.cursor.Reaches t.cursor := h.leads.reaches

@[simp] theorem yields_pure {c : α} : (pure c : Reading α).Yields s a t ↔ c = a ∧ s = t := by
  constructor
  · rintro ⟨r, hr, rfl, rfl⟩
    cases hr
    exact ⟨rfl, rfl⟩
  · rintro ⟨rfl, rfl⟩
    exact ⟨_, rfl, rfl, rfl⟩

theorem bind_of_error {e : Fault} (h : p s = .error e) : (p >>= f) s = .error e := by
  simp only [Bind.bind, h]

theorem bind_of_error_behind {r : Step s α} {e : Fault} (h : p s = .ok r)
    (hf : f r.value r.state = .error e) : (p >>= f) s = .error e := by
  simp only [Bind.bind, h, hf]

theorem bind_of_ok {r : Step s α} {q : Step r.state β} (h : p s = .ok r)
    (hf : f r.value r.state = .ok q) :
    (p >>= f) s = .ok ⟨q.value, q.state, r.leads.trans q.leads⟩ := by
  simp only [Bind.bind, h, hf]

@[simp] theorem yields_bind : (p >>= f).Yields s b t ↔
    ∃ a u, p.Yields s a u ∧ (f a).Yields u b t := by
  constructor
  · rintro ⟨r, hr, rfl, rfl⟩
    cases hp : p s with
    | error e => cases hr.symm.trans (bind_of_error hp)
    | ok q =>
      cases hf : f q.value q.state with
      | error e => cases hr.symm.trans (bind_of_error_behind hp hf)
      | ok q' =>
        obtain rfl := Except.ok.inj (hr.symm.trans (bind_of_ok hp hf))
        exact ⟨_, _, ⟨q, hp, rfl, rfl⟩, q', hf, rfl, rfl⟩
  · rintro ⟨_, _, ⟨q, hp, rfl, rfl⟩, q', hf, rfl, rfl⟩
    exact ⟨_, bind_of_ok hp hf, rfl, rfl⟩

@[simp] theorem yields_fail {e : Fault} : ¬ (fail e : Reading α).Yields s a t := by
  rintro ⟨r, hr, -⟩
  cases hr

@[simp] theorem yields_state {u : State} : state.Yields s u t ↔ s = u ∧ s = t := by
  simp [Yields, state]

@[simp] theorem yields_place {c : Cursor} : place.Yields s c t ↔ s.cursor = c ∧ s = t := by
  simp [Yields, place]

theorem yields_place_bind {f : Cursor → Reading β} :
    (place >>= f).Yields s b t ↔ (f s.cursor).Yields s b t := by
  simp

theorem Yields.of_orElse {q : Reading α} (h : (p.orElse q).Yields s a t) :
    p.Yields s a t ∨ q.Yields s a t := by
  obtain ⟨r, hr, rfl, rfl⟩ := h
  unfold orElse at hr
  cases hp : p s with
  | error e =>
    rw [hp] at hr
    exact .inr ⟨r, hr, rfl, rfl⟩
  | ok q =>
    rw [hp] at hr
    exact .inl ⟨q, hp, Except.ok.inj hr ▸ rfl, Except.ok.inj hr ▸ rfl⟩

/-- What holds at the start of a repetition and is kept by each round holds of the result. -/
theorem Yields.iterate {step : α → Reading (α ⊕ β)} {I : α → State → Prop} {P : β → State → Prop}
    (hstep : ∀ a s x t, I a s → (step a).Yields s x t → x.elim (I · t) (P · t)) {fuel : Nat}
    (h : (Reading.iterate step fuel a).Yields s b t) (ha : I a s) : P b t := by
  induction fuel generalizing a s with
  | zero => exact absurd h yields_fail
  | succ fuel ih =>
    obtain ⟨x, u, hx, h⟩ := yields_bind.1 h
    have hround := hstep a s x u ha hx
    cases x with
    | inl a => exact ih h hround
    | inr c =>
      obtain ⟨rfl, rfl⟩ := yields_pure.1 h
      exact hround

def Gives (P : α → Prop) (p : Reading α) : Prop :=
  ∀ ⦃s a t⦄, p.Yields s a t → P a

namespace Gives

variable {P : β → Prop}

theorem pure {b : β} (h : P b) : Gives P (pure b) := by
  intro s a t hyields
  exact (yields_pure.1 hyields).1 ▸ h

theorem bind {p : Reading α} {f : α → Reading β} (h : ∀ a, Gives P (f a)) :
    Gives P (p >>= f) := by
  intro s b t hyields
  obtain ⟨a, u, -, hf⟩ := yields_bind.1 hyields
  exact h a hf

theorem bind_of {Q : α → Prop} {p : Reading α} {f : α → Reading β} (hp : Gives Q p)
    (h : ∀ a, Q a → Gives P (f a)) : Gives P (p >>= f) := by
  intro s b t hyields
  obtain ⟨a, u, hyields, hf⟩ := yields_bind.1 hyields
  exact h a (hp hyields) hf

theorem fail {e : Fault} : Gives P (fail e) := fun _ _ _ h => absurd h yields_fail

theorem orElse {p q : Reading β} (hp : Gives P p) (hq : Gives P q) : Gives P (p.orElse q) := by
  intro s b t hyields
  exact hyields.of_orElse.elim (fun h => hp h) fun h => hq h

theorem iterate {I : α → Prop} {step : α → Reading (α ⊕ β)}
    (hstep : ∀ a, I a → Gives (fun x => x.elim I P) (step a)) {fuel : Nat} {a : α} (ha : I a) :
    Gives P (Reading.iterate step fuel a) := by
  intro s b t hyields
  exact Yields.iterate (I := fun a _ => I a) (P := fun b _ => P b)
    (fun a s x t ha hx => hstep a ha hx) hyields ha

end Gives

section Tokens

variable {follow : Follow} {token : Token} {w : String}

@[simp] theorem yields_peek :
    (peek follow).Yields s token t ↔ (s.lex follow).token = token ∧ s = t := by
  simp [peek, and_comm]

theorem yields_peek_bind {f : Token → Reading β} :
    (peek follow >>= f).Yields s b t ↔ (f (s.lex follow).token).Yields s b t := by
  simp

theorem yields_consume {n : Nat} {u : Unit} : (consume n).Yields s u t ↔
    { s with cursor := s.cursor.advanceBy n, fresh := n = 0 && s.fresh } = t := by
  simp [Yields, consume]

theorem yields_consumeLine {n : Nat} {u : Unit} : (consumeLine n).Yields s u t ↔
    { s with cursor := s.cursor.advanceBy n,
             fresh := s.fresh || s.cursor.Passes (s.cursor.advanceBy n) } = t := by
  simp [Yields, consumeLine]

theorem Yields.state_of_approach {extras : List Extra}
    (h : (approach follow).Yields s extras t) :
    { s with cursor := s.cursor.advanceBy (s.lex follow).ahead,
             fresh := (s.lex follow).ahead = 0 && s.fresh } = t := by
  obtain ⟨_, _, hstate, h⟩ := yields_bind.1 h
  obtain ⟨rfl, rfl⟩ := yields_state.1 hstate
  obtain ⟨_, _, hconsume, h⟩ := yields_bind.1 h
  obtain ⟨-, rfl⟩ := yields_pure.1 h
  exact yields_consume.1 hconsume

theorem Yields.of_approach {extras : List Extra} (h : (approach follow).Yields s extras t) :
    t.cursor = s.cursor.advanceBy (s.lex follow).ahead ∧ (s.fresh = false → t.fresh = false) := by
  obtain rfl := h.state_of_approach
  refine ⟨rfl, fun hs => ?_⟩
  dsimp only
  rw [hs, Bool.and_false]

theorem Yields.state_of_next {text : List Char} (h : (next follow).Yields s token t)
    (hlex : (s.lex follow).token = .symbol text) :
    { s with cursor := s.cursor.advanceBy ((s.lex follow).ahead + (s.lex follow).length),
             fresh := false } = t := by
  have hlength := length_pos_of_symbol hlex
  simp only [next, yields_bind, yields_state] at h
  obtain ⟨_, _, ⟨rfl, rfl⟩, h⟩ := h
  rw [hlex] at h
  obtain ⟨_, _, hconsume, h⟩ := yields_bind.1 h
  obtain rfl := yields_consume.1 hconsume
  obtain ⟨-, rfl⟩ := yields_pure.1 h
  have hmoves : decide ((s.lex follow).ahead + (s.lex follow).length = 0) = false :=
    decide_eq_false (by omega)
  rw [hmoves, Bool.false_and]

theorem eq_of_isSymbol (h : isSymbol w token = true) : token = .symbol w.toList := by
  cases token with
  | symbol text => exact congrArg Token.symbol (beq_iff_eq.1 h)
  | _ => cases h

theorem Yields.of_trySymbol (h : (trySymbol follow w).Yields s true t) :
    (s.lex follow).token = .symbol w.toList ∧
      { s with cursor := s.cursor.advanceBy ((s.lex follow).ahead + (s.lex follow).length),
               fresh := false } = t := by
  rw [trySymbol, yields_peek_bind] at h
  split at h
  case isFalse => cases (yields_pure.1 h).1
  case isTrue hsymbol =>
    obtain ⟨_, _, hnext, h⟩ := yields_bind.1 h
    obtain ⟨-, rfl⟩ := yields_pure.1 h
    have hlex := eq_of_isSymbol hsymbol
    exact ⟨hlex, hnext.state_of_next hlex⟩

theorem Yields.state_of_trySymbol (h : (trySymbol follow w).Yields s false t) : s = t := by
  rw [trySymbol, yields_peek_bind] at h
  split at h
  · obtain ⟨_, _, -, h⟩ := yields_bind.1 h
    cases (yields_pure.1 h).1
  · exact (yields_pure.1 h).2

theorem Yields.passes_of_next {u : State} (h : (next .lineEnd).Yields u token t)
    (hlex : (u.lex .lineEnd).token = .lineEnd) (hleads : s.Leads u) (hs : s.fresh = false) :
    s.cursor.Passes t.cursor := by
  cases hu : u.fresh with
  | true =>
    -- the line end has been passed before
    have hpassed := (hleads.fresh hu).resolve_left (by simp [hs])
    exact hpassed.trans_reaches h.reaches
  | false =>
    let there : State :=
      { u with cursor := u.cursor.advanceBy (u.lex .lineEnd).ahead, fresh := false }
    obtain ⟨g, -, hlength, hpasses⟩ := gap_of_lex_lineEnd (t := there) hu hlex rfl rfl
    simp only [next, yields_bind, yields_state] at h
    obtain ⟨_, _, ⟨rfl, rfl⟩, h⟩ := h
    rw [hlex] at h
    obtain ⟨_, _, hconsume, h⟩ := yields_bind.1 h
    obtain rfl := yields_consumeLine.1 hconsume
    obtain ⟨-, rfl⟩ := yields_pure.1 h
    rw [← hlength, ← Cursor.advanceBy_add] at hpasses
    exact hleads.reaches.trans_passes ((Cursor.reaches_advanceBy _ _).trans_passes hpasses)

theorem Yields.rest_of_tryWord {found : Bool} (h : (tryWord follow w).Yields s found t)
    (hfound : found = true) : s.cursor.rest ≠ [] := by
  obtain ⟨token, _, hpeek, h⟩ := yields_bind.1 h
  obtain ⟨hlex, rfl⟩ := yields_peek.1 hpeek
  split at h
  case isTrue hword =>
    cases token with
    | word text => exact rest_ne_nil_of_word hlex
    | _ => cases hword
  case isFalse =>
    obtain ⟨rfl, -⟩ := yields_pure.1 h
    cases hfound

theorem Yields.fresh_of_symbol {u : Unit} (h : (symbol w).Yields s u t) : t.fresh = false := by
  obtain ⟨found, _, htry, h⟩ := yields_bind.1 h
  cases found with
  | false => exact absurd h yields_fail
  | true =>
    obtain ⟨-, rfl⟩ := yields_pure.1 h
    obtain ⟨-, rfl⟩ := htry.of_trySymbol
    rfl

theorem Yields.rest_of_word {u : Unit} (h : (word w).Yields s u t) : s.cursor.rest ≠ [] := by
  obtain ⟨found, _, htry, h⟩ := yields_bind.1 h
  cases found with
  | false => exact absurd h yields_fail
  | true => exact htry.rest_of_tryWord rfl

end Tokens

end Appraisal.Python.Reading
