import Appraisal.Proofs.Python.Gaps
import Appraisal.Proofs.Text.Quoted

set_option autoImplicit false

namespace Appraisal.Python

open Reading

/-- No filler stands first. -/
structure StartsToken (text : List Char) : Prop where
  head : ∀ c ∈ text.head?, isSpace c = false ∧ c ≠ '#'
  joint : jointLength text = 0

theorem StartsToken.head_textTo {a b : Cursor} (h : StartsToken a.rest) (hreaches : a.Reaches b) :
    ∀ c ∈ (a.textTo b).head?, isSpace c = false ∧ c ≠ '#' := by
  obtain ⟨n, rfl⟩ := hreaches.exists_advanceBy
  intro c hc
  rw [Cursor.textTo_advanceBy, List.head?_take] at hc
  split at hc
  · cases hc
  · exact h.head c hc

theorem startsToken_of_head {text : List Char} (h : ∀ c ∈ text.head?, isSpace c = false ∧ c ≠ '#')
    (hjoint : text.head? ≠ some '\\') : StartsToken text where
  head := h
  joint := by
    unfold jointLength
    split <;> simp at hjoint ⊢

theorem startsToken_of_mark {c : Char} {r : List Char}
    (h : c.toLower ∈ ['f', 't', 'r', 'b', 'u'] ∨ c ∈ ['\'', '"', '\x60']) :
    StartsToken (c :: r) := by
  have hplain : isSpace c = false ∧ c ≠ '#' ∧ c ≠ '\\' := by
    simp only [List.mem_cons, List.not_mem_nil, or_false] at h
    rcases h with (h | h | h | h | h) | h | h | h
    · rcases Text.eq_or_eq_of_toLower 'F' rfl h with rfl | rfl <;> decide
    · rcases Text.eq_or_eq_of_toLower 'T' rfl h with rfl | rfl <;> decide
    · rcases Text.eq_or_eq_of_toLower 'R' rfl h with rfl | rfl <;> decide
    · rcases Text.eq_or_eq_of_toLower 'B' rfl h with rfl | rfl <;> decide
    · rcases Text.eq_or_eq_of_toLower 'U' rfl h with rfl | rfl <;> decide
    all_goals subst h; decide
  refine startsToken_of_head ?_ ?_
  · simpa using ⟨hplain.1, hplain.2.1⟩
  · simpa using hplain.2.2

theorem startsToken_of_opening? {text : List Char} {found : Quoting × Nat}
    (h : opening? text = some found) : StartsToken text := by
  cases text with
  | nil => simp [opening?] at h
  | cons c r =>
    apply startsToken_of_mark
    by_cases hmark : c.toLower ∈ ['f', 't', 'r', 'b', 'u']
    · exact .inl hmark
    · refine .inr ?_
      unfold opening? at h
      simp only [List.takeWhile_cons, hmark, decide_false, Bool.false_eq_true, if_false,
        List.map_nil, List.length_nil, List.drop_zero] at h
      simp only [List.mem_cons, List.not_mem_nil, or_false, ← or_assoc]
      split_ifs at h with hquote _ hgrave
      · exact .inl hquote
      · exact .inl hquote
      · exact .inr hgrave

def State.past (s : State) (n : Nat) : State :=
  { s with cursor := s.cursor.advanceBy n, fresh := n = 0 && s.fresh }

/-- So many characters ahead a token starts, or a block ends. -/
def State.Begins (follow : Follow) (s : State) (n : Nat) : Prop :=
  StartsToken (s.cursor.rest.drop n) ∨
    ∃ length, (s.past n).structural? follow = some (.dedent, 0, length)

theorem State.Begins.of_passed {follow : Follow} {s : State} {n k m : Nat} (hk : 0 < k)
    (h : Begins follow { s with cursor := (s.cursor.advanceBy n).advanceBy k, fresh := false } m) :
    s.Begins follow (n + k + m) := by
  have hmoves : decide (n + k + m = 0) = false := decide_eq_false (by omega)
  simp only [Begins, past, hmoves, Bool.and_false, Bool.false_and, ← Cursor.advanceBy_add,
    Cursor.rest_advanceBy, List.drop_drop] at h ⊢
  exact h

theorem Cursor.length_rest_passed {c : Cursor} {n k : Nat} (hrest : (c.advanceBy n).rest ≠ [])
    (hk : 0 < k) : ((c.advanceBy n).advanceBy k).rest.length < c.rest.length := by
  have hlength := List.length_pos_iff.2 hrest
  simp only [rest_advanceBy, List.length_drop] at hlength ⊢
  omega

/-- The next token is looked for where it starts, unless a block ends before it. -/
theorem begins_of_lexFrom {follow : Follow} (hfollow : follow ≠ .lineEnd) {fuel : List Char}
    {s : State} (hfuel : s.cursor.rest.length < fuel.length) (done : Nat) (extras : List Extra) :
    ∃ n, (lexFrom follow fuel s done extras).ahead = done + n ∧ s.Begins follow n := by
  fun_induction lexFrom follow fuel s done extras with
  | case1 => exact absurd hfuel (Nat.not_lt_zero _)
  | case2 _ _ _ _ _ _ ahead _ h =>
    obtain ⟨rfl, rfl⟩ | ⟨q, g, overComments, rfl, hgap, rfl, hopening⟩ | ⟨-, -, rfl, -⟩ :=
      structural?_cases h
    · exact ⟨0, rfl, .inr ⟨_, h⟩⟩
    · refine ⟨g.length, rfl, .inl ?_⟩
      obtain ⟨n, hlength, -, hrest⟩ := Gap.passes_of_scan hgap
      rw [Nat.zero_add] at hlength
      rw [hlength, ← hrest]
      exact startsToken_of_opening? hopening
    · exact absurd rfl hfollow
  | case3 _ _ s _ _ _ blanks here _ hsign text ih =>
    have hne : here.rest ≠ [] := fun hnil => by
      rw [hnil] at hsign
      cases hsign
    have hpos : 0 < text.length := by
      obtain ⟨r, hr⟩ := List.head?_eq_some_iff.1 hsign
      simp [text, hr]
    have hpassed := Cursor.length_rest_passed hne hpos
    obtain ⟨n, hahead, hbegins⟩ := ih (Nat.lt_of_lt_of_le hpassed (Nat.le_of_lt_succ hfuel))
    exact ⟨blanks + text.length + n, by omega, hbegins.of_passed hpos⟩
  | case4 _ _ s _ _ _ blanks here _ _ joint hjoint ih =>
    have hne : here.rest ≠ [] := fun hnil => by
      simp [joint, hnil, jointLength] at hjoint
    have hpassed := Cursor.length_rest_passed hne hjoint
    obtain ⟨n, hahead, hbegins⟩ := ih (Nat.lt_of_lt_of_le hpassed (Nat.le_of_lt_succ hfuel))
    exact ⟨blanks + joint + n, by omega, hbegins.of_passed hjoint⟩
  | case5 _ _ s _ _ _ blanks here hsign joint hjoint =>
    refine ⟨blanks, rfl, .inl ?_⟩
    have hrest : here.rest = s.cursor.rest.drop blanks := Cursor.rest_advanceBy _ _
    rw [← hrest]
    refine ⟨fun c hc => ⟨?_, ?_⟩, Nat.eq_zero_of_not_pos hjoint⟩
    · rw [hrest, drop_takeWhile] at hc
      have hhead := List.head?_dropWhile_not isSpace s.cursor.rest
      rw [Option.mem_def.1 hc] at hhead
      simpa using hhead
    · rintro rfl
      exact hsign hc

theorem begins_of_lex (s : State) (follow : Follow) (hfollow : follow ≠ .lineEnd) :
    s.Begins follow (s.lex follow).ahead := by
  have hfuel : s.cursor.rest.length < ('\n' :: s.cursor.rest).length := Nat.lt_succ_self _
  obtain ⟨n, hahead, hbegins⟩ := begins_of_lexFrom hfollow hfuel 0 []
  rw [Nat.zero_add] at hahead
  rw [State.lex, hahead]
  exact hbegins

theorem token_of_dedent {s : State} {follow : Follow} {length : Nat}
    (h : s.structural? follow = some (.dedent, 0, length)) : (s.lex follow).token = .dedent := by
  simp only [State.lex, lexFrom, h]

theorem structural?_closer_ne {s : State} {length : Nat} :
    s.structural? .closer ≠ some (.dedent, 0, length) := by
  intro h
  unfold State.structural? at h
  split at h
  · cases h
  · simp at h

/-- A token starts where the reader has gone to look for it, unless a block ends there. -/
theorem Reading.Yields.startsToken_of_approach {follow : Follow} {s t : State}
    {extras : List Extra} (h : (approach follow).Yields s extras t)
    (hfollow : follow = .closer ∨ follow = .neither) (htoken : (t.lex .neither).token ≠ .dedent) :
    StartsToken t.cursor.rest := by
  have hstate : s.past (s.lex follow).ahead = t := h.state_of_approach
  subst hstate
  rcases hfollow with rfl | rfl
  · obtain hstarts | ⟨length, hdedent⟩ := begins_of_lex s .closer nofun
    · rwa [← Cursor.rest_advanceBy] at hstarts
    · exact absurd hdedent structural?_closer_ne
  · obtain hstarts | ⟨length, hdedent⟩ := begins_of_lex s .neither nofun
    · rwa [← Cursor.rest_advanceBy] at hstarts
    · exact absurd (token_of_dedent hdedent) htoken

theorem ahead_of_word {s : State} {w : List Char} (hstarts : StartsToken s.cursor.rest)
    (h : (s.lex .neither).token = .word w) : (s.lex .neither).ahead = 0 := by
  have hblanks : s.cursor.rest.takeWhile isSpace = [] := by
    cases hrest : s.cursor.rest with
    | nil => rfl
    | cons c r => exact List.takeWhile_cons_of_neg (by simp [(hstarts.head c (by simp [hrest])).1])
  have hsign : s.cursor.rest.head? ≠ some '#' := fun hhead => (hstarts.head '#' hhead).2 rfl
  unfold State.lex lexFrom at h ⊢
  cases hfound : s.structural? .neither with
  | some found =>
    simp only [hfound] at h
    obtain ⟨token, ahead, length⟩ := found
    obtain rfl : token = .word w := h
    obtain ⟨h, -⟩ | ⟨_, _, _, h, -⟩ | ⟨h, -⟩ := structural?_cases hfound <;> cases h
  | none => simp [hblanks, Cursor.advanceBy, hsign, hstarts.joint]

theorem word_of_tokenAt {text w : List Char} {length : Nat}
    (h : tokenAt text = (.word w, length)) :
    text.take length = w ∧ ∀ c ∈ w, isWordPart c = true := by
  cases text with
  | nil => cases h
  | cons c r =>
    unfold tokenAt at h
    dsimp only at h
    split_ifs at h
    · cases h
      exact ⟨(List.prefix_iff_eq_take.1 (List.takeWhile_prefix isWordPart)).symm,
        fun c hc => List.mem_takeWhile_imp hc⟩
    · cases h
    · split at h <;> cases h

theorem Reading.Yields.cursor_of_next {follow : Follow} {s t : State} {token : Token}
    (h : (next follow).Yields s token t) :
    t.cursor = s.cursor.advanceBy ((s.lex follow).ahead + (s.lex follow).length) := by
  obtain ⟨_, _, hstate, h⟩ := yields_bind.1 h
  obtain ⟨rfl, rfl⟩ := yields_state.1 hstate
  dsimp only at h
  split at h
  · obtain ⟨_, _, hconsume, h⟩ := yields_bind.1 h
    obtain ⟨-, rfl⟩ := yields_pure.1 h
    obtain rfl := yields_consumeLine.1 hconsume
    rfl
  · obtain ⟨_, _, hconsume, h⟩ := yields_bind.1 h
    obtain ⟨-, rfl⟩ := yields_pure.1 h
    obtain rfl := yields_consume.1 hconsume
    rfl

theorem text_of_word {s t : State} {token : Token} {w : List Char}
    (hstarts : StartsToken s.cursor.rest) (hword : (s.lex .neither).token = .word w)
    (h : (next .neither).Yields s token t) :
    ∀ c ∈ s.cursor.textTo t.cursor, isWordPart c = true := by
  have hahead := ahead_of_word hstarts hword
  have htoken := tokenAt_of_lex hword (.inl ⟨w, rfl⟩)
  rw [hahead] at htoken
  obtain ⟨htext, hparts⟩ := word_of_tokenAt htoken
  rw [h.cursor_of_next, hahead, Nat.zero_add, Cursor.textTo_advanceBy]
  exact htext ▸ hparts

/-- A dot or an opening bracket is in the text. -/
def IsCompound (text : List Char) : Prop := ∃ c ∈ text, c ∈ ['.', '[', '(']

theorem IsCompound.of_next {follow : Follow} {s t : State} {token : Token} {mark : Char}
    (hmark : mark ∈ ['.', '[', '(']) (hsymbol : (s.lex follow).token = .symbol [mark])
    (h : (next follow).Yields s token t) : IsCompound (s.cursor.textTo t.cursor) := by
  have htext := take_of_tokenAt (tokenAt_of_lex hsymbol (.inr ⟨_, rfl⟩))
  rw [Cursor.rest_advanceBy] at htext
  rw [h.cursor_of_next, Cursor.textTo_advanceBy, List.take_add, htext]
  exact ⟨mark, List.mem_append_right _ List.mem_cons_self, hmark⟩

theorem IsCompound.widen {a b c d : Cursor} (hab : a.Reaches b) (hbc : b.Reaches c)
    (hcd : c.Reaches d) (h : IsCompound (b.textTo c)) : IsCompound (a.textTo d) := by
  obtain ⟨mark, hmem, hmark⟩ := h
  rw [← Cursor.textTo_append hab (hbc.trans hcd), ← Cursor.textTo_append hbc hcd]
  exact ⟨mark, List.mem_append_right _ (List.mem_append_left _ hmem), hmark⟩

/-- What the shape of an operand tells of its text. -/
def Shape.Tells : Shape → List Char → Prop
  | .name, text => ∀ c ∈ text, isWordPart c = true
  | .access, text | .pattern, text => IsCompound text
  | .literal, _ | .other, _ => True

namespace Expression

variable {g : Nested} {follow : Follow} {s t : State} {p q : Phrase}

theorem gives_bracketed (g : Nested) (closer : String) :
    Gives (fun p => p.shape = .pattern ∨ p.shape = .other) (bracketed g closer) := by
  refine .bind fun _ => .bind fun closed => ?_
  cases closed with
  | true => exact .pure (.inl rfl)
  | false =>
    refine .bind fun first => .bind fun token => ?_
    split
    · exact .bind fun _ => .bind fun _ => .pure (.inr rfl)
    · refine .bind fun all => .pure ?_
      split
      · exact .inl rfl
      · exact .inr rfl

theorem tells_of_bracketed {closer : String} {mark : Char} {token : Token} {u : State}
    (hmark : mark ∈ ['.', '[', '(']) (hsymbol : (s.lex .neither).token = .symbol [mark])
    (hnext : (next .neither).Yields s token u) (h : (bracketed g closer).Yields u p t) :
    p.shape.Tells (s.cursor.textTo t.cursor) := by
  rcases gives_bracketed g closer h with hshape | hshape <;> rw [hshape]
  · exact (IsCompound.of_next hmark hsymbol hnext).widen (.refl _) hnext.reaches h.reaches
  · trivial

theorem gives_braced (g : Nested) : Gives (fun p => p.shape = .other) (braced g) := by
  refine .bind fun _ => .bind fun token => ?_
  split_ifs
  · exact .bind fun _ => .pure rfl
  · exact .bind fun _ => .bind fun _ => .bind fun _ => .pure rfl
  · exact .bind fun _ => .bind fun _ => .pure rfl
  · exact .bind fun _ => .pure rfl
  · refine .bind fun _ => .bind fun found => ?_
    split
    · refine .bind fun _ => .bind fun token => ?_
      split
      · exact .bind fun _ => .bind fun _ => .pure rfl
      · exact .bind fun _ => .pure rfl
    · refine .bind fun token => ?_
      split
      · exact .bind fun _ => .bind fun _ => .pure rfl
      · exact .bind fun _ => .pure rfl

theorem tells_of_atom (hstarts : (s.lex .neither).token ≠ .dedent → StartsToken s.cursor.rest)
    (h : (atom g follow).Yields s p t) : p.shape.Tells (s.cursor.textTo t.cursor) := by
  rw [atom, yields_peek_bind] at h
  -- by the token that comes next: a word, a number, a literal, a symbol, or none that starts an atom
  split at h
  case _ w hword =>
    obtain ⟨_, u, hnext, h⟩ := yields_bind.1 h
    split_ifs at h
    · obtain ⟨rfl, -⟩ := yields_pure.1 h
      trivial
    · exact absurd h yields_fail
    · obtain ⟨rfl, rfl⟩ := yields_pure.1 h
      exact text_of_word (hstarts (by simp [hword])) hword hnext
  case _ =>
    obtain ⟨_, u, hnext, h⟩ := yields_bind.1 h
    obtain ⟨rfl, -⟩ := yields_pure.1 h
    trivial
  case _ =>
    obtain ⟨_, u, -, h⟩ := yields_bind.1 h
    refine Yields.iterate (I := fun p _ => p.shape = .literal ∨ p.shape = .other)
      (P := fun p v => p.shape.Tells (s.cursor.textTo v.cursor)) ?_ h (.inl rfl)
    intro p u x v hp hround
    rw [yields_peek_bind] at hround
    split at hround
    · obtain ⟨_, _, -, hround⟩ := yields_bind.1 hround
      obtain ⟨rfl, -⟩ := yields_pure.1 hround
      exact .inr rfl
    · obtain ⟨rfl, -⟩ := yields_pure.1 hround
      dsimp only [Sum.elim_inr]
      rcases hp with hp | hp <;> rw [hp] <;> trivial
  case _ w hsymbol =>
    split_ifs at h with hround hsquare hcurly hdot
    · obtain ⟨_, u, hnext, h⟩ := yields_bind.1 h
      obtain rfl := beq_iff_eq.1 hround
      exact tells_of_bracketed (by decide) hsymbol hnext h
    · obtain ⟨_, u, hnext, h⟩ := yields_bind.1 h
      obtain rfl := beq_iff_eq.1 hsquare
      exact tells_of_bracketed (by decide) hsymbol hnext h
    · obtain ⟨_, u, hnext, h⟩ := yields_bind.1 h
      rw [gives_braced g h]
      trivial
    · obtain ⟨_, u, -, h⟩ := yields_bind.1 h
      rw [yields_place_bind] at h
      split at h
      · obtain ⟨_, _, -, h⟩ := yields_bind.1 h
        obtain ⟨rfl, -⟩ := yields_pure.1 h
        trivial
      · exact absurd h yields_fail
    · exact absurd h yields_fail
  case _ => exact absurd h yields_fail

theorem tells_of_applied {start : Cursor} (hstart : start.Reaches s.cursor)
    (hp : p.shape.Tells (start.textTo s.cursor)) (h : (applied g follow p).Yields s q t) :
    q.shape.Tells (start.textTo t.cursor) := by
  refine Yields.iterate
    (I := fun p u => start.Reaches u.cursor ∧ p.shape.Tells (start.textTo u.cursor))
    (P := fun p u => p.shape.Tells (start.textTo u.cursor)) ?_ h ⟨hstart, hp⟩
  rintro p u x v ⟨hu, hp⟩ hround
  rw [yields_peek_bind] at hround
  split_ifs at hround with hdot hsquare
  · obtain ⟨_, w, hnext, hround⟩ := yields_bind.1 hround
    obtain ⟨_, _, hname, hround⟩ := yields_bind.1 hround
    obtain ⟨rfl, rfl⟩ := yields_pure.1 hround
    have hmark := IsCompound.of_next (by decide) (eq_of_isSymbol hdot) hnext
    exact ⟨hu.trans (hnext.reaches.trans hname.reaches), hmark.widen hu hnext.reaches hname.reaches⟩
  · obtain ⟨_, w, hnext, hround⟩ := yields_bind.1 hround
    obtain ⟨_, _, hrest, hround⟩ := yields_bind.1 hround
    obtain ⟨rfl, rfl⟩ := yields_pure.1 hround
    have hmark := IsCompound.of_next (by decide) (eq_of_isSymbol hsquare) hnext
    exact ⟨hu.trans (hnext.reaches.trans hrest.reaches), hmark.widen hu hnext.reaches hrest.reaches⟩
  · obtain ⟨_, w, hnext, hround⟩ := yields_bind.1 hround
    obtain ⟨_, _, harguments, hround⟩ := yields_bind.1 hround
    obtain ⟨rfl, rfl⟩ := yields_pure.1 hround
    exact ⟨hu.trans (hnext.reaches.trans harguments.reaches), trivial⟩
  · obtain ⟨rfl, rfl⟩ := yields_pure.1 hround
    exact hp

/-- One word; or else no filler stands first, and there is a dot or a bracket. -/
def IsTarget (text : List Char) : Prop :=
  (∀ c ∈ text, isWordPart c = true) ∨
    (∀ c ∈ text.head?, isSpace c = false ∧ c ≠ '#') ∧ IsCompound text

/-- The target of a parameter is such a text, wherever it is looked for. -/
def ReadsTargets (g : Nested) : Prop :=
  ∀ starred s u t, (parameterTarget g starred).Yields s u t →
    ((s.lex .neither).token ≠ .dedent → StartsToken s.cursor.rest) →
      IsTarget (s.cursor.textTo t.cursor)

theorem readsTargets_readNested (fuel depth : Nat) : ReadsTargets ⟨fuel, readNested depth⟩ := by
  intro starred s u t h hstarts
  obtain ⟨p, v, hread, hend⟩ := yields_bind.1 (yields_place_bind.1 h)
  cases depth with
  | zero => exact absurd hread yields_fail
  | succ depth =>
    change (primary _ .neither).Yields s p v at hread
    obtain ⟨first, w, hatom, happlied⟩ := yields_bind.1 hread
    have htoken : (s.lex .neither).token ≠ .dedent := fun hdedent => by
      rw [atom, yields_peek_bind, hdedent] at hatom
      exact absurd hatom yields_fail
    have htells := tells_of_applied hatom.reaches (tells_of_atom hstarts hatom) happlied
    have hhead := (hstarts htoken).head_textTo hread.reaches
    dsimp only at hend
    generalize hfits : (if starred = true then p.shape == .name || p.shape == .access
      else p.shape == .name || (p.shape == .pattern && s.cursor.rest.head? == some '(')) = fits
      at hend
    cases fits with
    | true =>
      obtain ⟨-, rfl⟩ := yields_pure.1 hend
      generalize p.shape = shape at htells hfits
      cases shape with
      | name => exact .inl htells
      | access | pattern => exact .inr ⟨hhead, htells⟩
      | literal | other => simp at hfits
    | false => exact absurd hend yields_fail

end Expression

end Appraisal.Python
