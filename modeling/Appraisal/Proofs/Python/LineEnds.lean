import Appraisal.Proofs.Text.Lines
import Appraisal.Python.Token

set_option autoImplicit false

namespace Appraisal.Python

namespace Cursor

theorem rest_advance (c : Cursor) : c.advance.rest = c.rest.tail := by
  unfold advance
  cases hrest : c.rest with
  | nil => exact hrest
  | cons ch r =>
    dsimp only
    split <;> rfl

theorem advanceBy_add (m n : Nat) (c : Cursor) :
    c.advanceBy (m + n) = (c.advanceBy m).advanceBy n := by
  induction m generalizing c with
  | zero => rw [Nat.zero_add]; rfl
  | succ m ih => rw [Nat.succ_add, advanceBy, ih]; rfl

/-- So many characters hold a line end, or are all there are. -/
def EndsLine (text : List Char) (n : Nat) : Prop := '\n' ∈ text.take n ∨ text.length ≤ n

theorem passes_advanceBy {c : Cursor} {n : Nat} (h : EndsLine c.rest n) :
    c.Passes (c.advanceBy n) := by
  induction n generalizing c with
  | zero =>
    rcases h with h | h
    · simp at h
    · exact .inr (List.eq_nil_of_length_eq_zero (Nat.le_zero.1 h))
  | succ n ih =>
    cases hrest : c.rest with
    | nil => exact .inr ((reaches_advanceBy _ c).rest_eq_nil hrest)
    | cons ch r =>
      by_cases hch : ch = '\n'
      · have hrow : c.advance.row = c.row + 1 := by simp [advance, hrest, hch]
        have hlater := (reaches_advanceBy n c.advance).row_le
        exact .inl (by rw [advanceBy]; omega)
      · have hends : EndsLine c.advance.rest n := by
          rw [rest_advance, hrest]
          simpa [EndsLine, hrest, Ne.symm hch] using h
        exact (Reaches.step c _ (.refl _)).trans_passes (ih hends)

theorem row_add_lines_advance_le (c : Cursor) :
    c.advance.row + (Text.lines c.advance.rest).length ≤ c.row + (Text.lines c.rest).length := by
  rw [rest_advance]
  unfold advance
  cases c.rest with
  | nil => exact Nat.le_refl _
  | cons ch r =>
    dsimp only
    by_cases hch : ch = '\n'
    · rw [if_pos hch, hch, Text.lines_newline, List.length_cons, List.tail_cons]
      dsimp only
      omega
    · have hlines : (Text.lines r).length ≤ (Text.lines (ch :: r)).length := by
        by_cases hreturn : ch = '\r' ∧ r.head? = some '\n'
        · rw [hreturn.1, Text.lines_of_carriageReturn hreturn.2]
        · rw [Text.lines_cons_eq hch hreturn, List.length_cons, List.length_tail]
          omega
      rw [if_neg hch, List.tail_cons]
      dsimp only
      omega

theorem row_lt_lines {text : List Char} {c : Cursor} (h : (start text).Reaches c)
    (hrest : c.rest ≠ []) : c.row < (Text.lines text).length := by
  have hrows {a b : Cursor} (hab : a.Reaches b) :
      b.row + (Text.lines b.rest).length ≤ a.row + (Text.lines a.rest).length := by
    induction hab with
    | refl => exact Nat.le_refl _
    | step a b _ ih => exact ih.trans (row_add_lines_advance_le a)
  have hlines := List.length_pos_iff.2 (Text.lines_ne_nil hrest)
  have hstart : c.row + (Text.lines c.rest).length ≤ 0 + (Text.lines text).length := hrows h
  omega

end Cursor

structure Gap.Ends (text : List Char) (g : Gap) : Prop where
  lineEnd : ∀ n, g.lineEnd? = some n → Cursor.EndsLine text n
  broken : g.broken = true → g.lineEnd?.isSome = true

/-- What has been found of a gap at the start of a text, with `left` to go. -/
structure Gap.Open (text : List Char) (g : Gap) (left : List Char) : Prop where
  left : text.drop g.length = left
  ends : g.Ends text

namespace Gap

variable {text left : List Char} {g : Gap} {c : Char}

theorem Open.left_tail (h : g.Open text (c :: left)) : text.drop (g.length + 1) = left := by
  have htail := congrArg List.tail h.left
  rwa [List.tail_drop] at htail

theorem Open.past (h : g.Open text (c :: left)) (indent : Nat) : (g.past indent).Open text left :=
  ⟨h.left_tail, h.ends.lineEnd, h.ends.broken⟩

theorem Ends.or_lineEnd (h : g.Ends text) {n : Nat} (hn : Cursor.EndsLine text n) {m : Nat}
    (hm : g.lineEnd?.or (some n) = some m) : Cursor.EndsLine text m := by
  cases hold : g.lineEnd? with
  | none =>
    rw [hold] at hm
    exact Option.some.inj hm ▸ hn
  | some k =>
    rw [hold] at hm
    exact Option.some.inj hm ▸ h.lineEnd k hold

theorem isSome_or_lineEnd (n : Nat) : (g.lineEnd?.or (some n)).isSome = true := by
  cases g.lineEnd? <;> rfl

theorem Open.pastLineEnd (h : g.Open text ('\n' :: left)) : g.pastLineEnd.Open text left := by
  have hhere : Cursor.EndsLine text (g.length + 1) := by
    refine .inl ?_
    rw [List.take_add, h.left]
    exact List.mem_append_right _ List.mem_cons_self
  exact ⟨h.left_tail, fun _ => h.ends.or_lineEnd hhere, fun _ => isSome_or_lineEnd _⟩

theorem ends_of_scan {overComments : Bool} {mode : GapMode} {found : Gap}
    (h : g.Open text left) (hscan : scan overComments mode g left = some found) :
    found.Ends text := by
  fun_induction scan overComments mode g left with
  | case1 _ g =>
    obtain rfl := Option.some.inj hscan
    have hall : Cursor.EndsLine text g.length := .inr (List.drop_eq_nil_iff.1 h.left)
    exact ⟨fun _ => h.ends.or_lineEnd hall, fun _ => isSome_or_lineEnd _⟩
  | case2 _ _ ih | case9 _ _ ih => exact ih h.pastLineEnd hscan
  | case14 _ _ _ _ _ _ _ _ _ _ ih =>
    exact ih ⟨h.left_tail, h.ends.lineEnd, h.ends.broken⟩ hscan
  | case16 =>
    obtain rfl := Option.some.inj hscan
    exact ⟨h.ends.lineEnd, h.ends.broken⟩
  | case6 | case8 | case15 => cases hscan
  | case3 | case4 | case5 | case7 | case10 | case11 | case12 | case13 =>
    rename_i ih
    exact ih (h.past _) hscan

end Gap

theorem ends_of_gap? {s : State} (hs : s.fresh = false) {overComments : Bool} {g : Gap}
    (h : s.gap? overComments = some g) : g.Ends s.cursor.rest := by
  rw [State.gap?, hs] at h
  exact Gap.ends_of_scan ⟨rfl, by simp, by simp⟩ h

theorem structural?_cases {s : State} {follow : Follow} {token : Token} {ahead length : Nat}
    (h : s.structural? follow = some (token, ahead, length)) :
    (token = .dedent ∧ ahead = 0) ∨
      (∃ q g overComments, token = .opening q ∧ s.gap? overComments = some g ∧
        ahead = g.length ∧ opening? g.rest = some (q, length)) ∨
      token = .lineEnd ∧ ahead = 0 ∧ follow = .lineEnd ∧ ∃ g, s.gap? true = some g ∧
        g.broken = true ∧ length = g.lineEnd?.getD 0 := by
  unfold State.structural? at h
  cases hgap : s.gap? (follow == .lineEnd || follow == .statement) with
  | none => simp [hgap] at h
  | some g =>
    simp only [hgap] at h
    have hliteral : ∀ found, (if g.comment?.isNone then opening? g.rest else none) = some found →
        opening? g.rest = some found := fun found hfound => by
      split at hfound
      · exact hfound
      · cases hfound
    generalize (if g.comment?.isNone then opening? g.rest else none) = literal? at h hliteral
    split_ifs at h with hdedents
    · cases h
      exact .inl ⟨rfl, rfl⟩
    · split at h
      case _ _ _ hbroken =>
        cases h
        exact .inr (.inr ⟨rfl, rfl, rfl, g, hgap, hbroken, rfl⟩)
      · obtain ⟨⟨q, n⟩, hfound, hq⟩ := Option.map_eq_some_iff.1 h
        cases hq
        exact .inr (.inl ⟨q, g, _, rfl, hgap, rfl, hliteral _ hfound⟩)

/-- Where a token was found: in the gap or behind the blanks at a place that is ahead. -/
inductive Lexed.Found (follow : Follow) (s : State) (done : Nat) (l : Lexed) : Prop
  | structural {u : State} {n ahead : Nat} (hcursor : u.cursor = s.cursor.advanceBy n)
      (hfresh : s.fresh = false → u.fresh = false) (hahead : l.ahead = done + n + ahead)
      (h : u.structural? follow = some (l.token, ahead, l.length)) : Found follow s done l
  | plain {n : Nat} (hahead : l.ahead = done + n)
      (h : tokenAt (s.cursor.advanceBy n).rest = (l.token, l.length)) : Found follow s done l
  | unknown (h : l.token = .unknown) : Found follow s done l

theorem Lexed.Found.of_ahead {follow : Follow} {s u : State} {done n m : Nat} {l : Lexed}
    (hcursor : u.cursor = s.cursor.advanceBy n) (hfresh : u.fresh = false) (hm : m = done + n)
    (h : l.Found follow u m) : l.Found follow s done := by
  cases h with
  | structural hv hvfresh hahead h =>
    rw [hcursor, ← Cursor.advanceBy_add] at hv
    exact .structural hv (fun _ => hvfresh hfresh) (by omega) h
  | plain hahead h =>
    rw [hcursor, ← Cursor.advanceBy_add] at h
    exact .plain (by omega) h
  | unknown h => exact .unknown h

theorem found_lexFrom (follow : Follow) (fuel : List Char) (s : State) (done : Nat)
    (extras : List Extra) : (lexFrom follow fuel s done extras).Found follow s done := by
  fun_induction lexFrom follow fuel s done extras with
  | case1 => exact .unknown rfl
  | case2 _ _ _ _ _ _ _ _ h => exact .structural (n := 0) rfl id (by simp) h
  | case3 _ _ s _ _ _ blanks _ _ _ text ih =>
    have hcursor := (Cursor.advanceBy_add blanks text.length s.cursor).symm
    exact ih.of_ahead hcursor rfl (Nat.add_assoc _ _ _)
  | case4 _ _ s _ _ _ blanks _ _ _ joint _ ih =>
    have hcursor := (Cursor.advanceBy_add blanks joint s.cursor).symm
    exact ih.of_ahead hcursor rfl (Nat.add_assoc _ _ _)
  | case5 _ _ _ _ _ _ _ _ _ _ _ _ _ h => exact .plain rfl h

theorem found_lex (follow : Follow) (s : State) : (s.lex follow).Found follow s 0 :=
  found_lexFrom _ _ _ _ _

theorem tokenAt_cases {text : List Char} {token : Token} {length : Nat}
    (h : tokenAt text = (token, length)) :
    (∃ w, token = .word w) ∨ (∃ w, token = .symbol w ∧ 0 < length) ∨
      token = .endOfText ∨ token = .number ∨ token = .unknown := by
  cases text with
  | nil =>
    cases h
    exact .inr (.inr (.inl rfl))
  | cons c r =>
    unfold tokenAt at h
    dsimp only at h
    split_ifs at h
    · cases h
      exact .inl ⟨_, rfl⟩
    · cases h
      exact .inr (.inr (.inr (.inl rfl)))
    · split at h
      case _ w hw =>
        cases h
        have hlength : ∀ w ∈ symbols, 0 < w.length := by decide +kernel
        exact .inr (.inl ⟨w, rfl, hlength w (List.mem_of_find?_eq_some hw)⟩)
      · cases h
        exact .inr (.inr (.inr (.inr rfl)))

theorem gap_of_lex_lineEnd {s t : State} (hs : s.fresh = false)
    (h : (s.lex .lineEnd).token = .lineEnd)
    (hcursor : t.cursor = s.cursor.advanceBy (s.lex .lineEnd).ahead) (ht : t.fresh = false) :
    ∃ g, t.gap? true = some g ∧ (s.lex .lineEnd).length = g.lineEnd?.getD 0 ∧
      t.cursor.Passes (t.cursor.advanceBy (g.lineEnd?.getD 0)) := by
  cases found_lex .lineEnd s with
  | @structural u n ahead hu hfresh hahead hfound =>
    rw [h] at hfound
    obtain ⟨hd, -⟩ | ⟨q, -, -, hq, -⟩ | ⟨-, rfl, -, g, hgap, hbroken, hlength⟩ :=
      structural?_cases hfound
    · cases hd
    · cases hq
    · have hufresh := hfresh hs
      have hsame : t.cursor = u.cursor := by
        rw [hcursor, hu, hahead]
        congr 1
        omega
      have hends := ends_of_gap? hufresh hgap
      obtain ⟨k, hk⟩ := Option.isSome_iff_exists.1 (hends.broken hbroken)
      refine ⟨g, ?_, hlength, ?_⟩
      · rw [← hgap, State.gap?, State.gap?, ht, hufresh, hsame]
      · rw [hk, hsame]
        exact Cursor.passes_advanceBy (hends.lineEnd k hk)
  | plain _ hplain =>
    rw [h] at hplain
    rcases tokenAt_cases hplain with ⟨w, hw⟩ | ⟨w, hw, -⟩ | hw | hw | hw <;> cases hw
  | unknown hunknown => cases h.symm.trans hunknown

theorem tokenAt_of_lex {s : State} {follow : Follow} {token : Token}
    (h : (s.lex follow).token = token)
    (htoken : (∃ w, token = .word w) ∨ ∃ w, token = .symbol w) :
    tokenAt (s.cursor.advanceBy (s.lex follow).ahead).rest = (token, (s.lex follow).length) := by
  cases found_lex follow s with
  | structural _ _ _ hfound =>
    rw [h] at hfound
    obtain ⟨rfl, -⟩ | ⟨q, -, -, rfl, -⟩ | ⟨rfl, -⟩ := structural?_cases hfound <;>
      simp at htoken
  | plain hahead hplain => rw [hahead, Nat.zero_add, hplain, h]
  | unknown hunknown =>
    rw [← h, hunknown] at htoken
    simp at htoken

theorem rest_ne_nil_of_word {s : State} {follow : Follow} {w : List Char}
    (h : (s.lex follow).token = .word w) : s.cursor.rest ≠ [] := by
  have htoken := tokenAt_of_lex h (.inl ⟨w, rfl⟩)
  intro hrest
  have hbehind := (Cursor.reaches_advanceBy (s.lex follow).ahead s.cursor).rest_eq_nil hrest
  rw [hbehind] at htoken
  cases htoken

theorem length_pos_of_symbol {s : State} {follow : Follow} {w : List Char}
    (h : (s.lex follow).token = .symbol w) : 0 < (s.lex follow).length := by
  rcases tokenAt_cases (tokenAt_of_lex h (.inr ⟨w, rfl⟩)) with ⟨_, hw⟩ | ⟨_, -, hlength⟩ | hw | hw | hw
  · cases hw
  · exact hlength
  all_goals cases hw

end Appraisal.Python
