import Appraisal.Proofs.Python.Comments
import Mathlib.Data.List.TakeWhile

set_option autoImplicit false

namespace Appraisal.Python

namespace Cursor

theorem rest_advanceBy (n : Nat) (c : Cursor) : (c.advanceBy n).rest = c.rest.drop n := by
  induction n generalizing c with
  | zero => rfl
  | succ n ih => rw [advanceBy, ih, rest_advance, List.drop_tail]

theorem offset_advanceBy (n : Nat) (c : Cursor) :
    (c.advanceBy n).offset = c.offset + min n c.rest.length := by
  induction n generalizing c with
  | zero => simp [advanceBy]
  | succ n ih =>
    rw [advanceBy, ih, rest_advance, List.length_tail]
    unfold advance
    cases c.rest with
    | nil => simp
    | cons ch r =>
      have hoffset : (if ch = '\n' then (⟨r, c.offset + 1, c.row + 1, 0⟩ : Cursor)
          else ⟨r, c.offset + 1, c.row, c.column + ch.utf8Size⟩).offset = c.offset + 1 := by
        split <;> rfl
      dsimp only
      rw [hoffset, List.length_cons]
      omega

theorem textTo_advanceBy (n : Nat) (c : Cursor) : c.textTo (c.advanceBy n) = c.rest.take n := by
  rw [textTo, offset_advanceBy, Nat.add_sub_cancel_left, List.take_eq_take_iff, Nat.min_assoc,
    Nat.min_self]

theorem Reaches.exists_advanceBy {a b : Cursor} (h : a.Reaches b) : ∃ n, a.advanceBy n = b := by
  induction h with
  | refl => exact ⟨0, rfl⟩
  | step a b _ ih =>
    obtain ⟨n, hn⟩ := ih
    exact ⟨n + 1, hn⟩

theorem textTo_append {a b c : Cursor} (hab : a.Reaches b) (hbc : b.Reaches c) :
    a.textTo b ++ b.textTo c = a.textTo c := by
  obtain ⟨n, rfl⟩ := hab.exists_advanceBy
  obtain ⟨m, rfl⟩ := hbc.exists_advanceBy
  rw [textTo_advanceBy, textTo_advanceBy, rest_advanceBy, ← advanceBy_add, textTo_advanceBy,
    List.take_add]

end Cursor

/-- Blanks, backslashes before line ends, and comments, each up to the end of its line. -/
inductive IsFiller : List Char → Prop
  | nil : IsFiller []
  | blank {c : Char} {rest : List Char} (h : isSpace c = true) (hrest : IsFiller rest) :
      IsFiller (c :: rest)
  | joint {rest : List Char} (h : ∀ c ∈ rest.head?, c = '\n' ∨ c = '\r')
      (hrest : IsFiller rest) : IsFiller ('\\' :: rest)
  | comment {text rest : List Char} (h : IsComment text) (hend : ∀ c ∈ rest.head?, c = '\n')
      (hrest : IsFiller rest) : IsFiller (text ++ rest)

theorem IsFiller.blanks {front rest : List Char} (hfront : ∀ c ∈ front, isSpace c = true)
    (hrest : IsFiller rest) : IsFiller (front ++ rest) := by
  induction front with
  | nil => exact hrest
  | cons c front ih =>
    rw [List.forall_mem_cons] at hfront
    exact .blank hfront.1 (ih hfront.2)

def GapMode.Fills : GapMode → List Char → Prop
  | .blank, passed => IsFiller passed
  | .comment, passed => ∀ text, IsComment text → IsFiller (text ++ passed)
  | .escape, passed => IsFiller ('\\' :: passed)
  | .escapeReturn, passed => IsFiller passed

theorem GapMode.fills_nil (mode : GapMode) : mode.Fills [] := by
  cases mode with
  | blank | escapeReturn => exact .nil
  | comment => exact fun text h => .comment h nofun .nil
  | escape => exact .joint nofun .nil

namespace Gap

/-- From `g` on, the scan of `left` ends with this gap, and fills what it passes. -/
def Passes (mode : GapMode) (g : Gap) (left : List Char) (found : Gap) : Prop :=
  ∃ n, found.length = g.length + n ∧ mode.Fills (left.take n) ∧ found.rest = left.drop n

theorem Passes.stay {mode : GapMode} {g found : Gap} {left : List Char}
    (hlength : found.length = g.length) (hrest : found.rest = left) : Passes mode g left found :=
  ⟨0, hlength, mode.fills_nil, hrest⟩

theorem Passes.cons {mode mode' : GapMode} {g g' found : Gap} {c : Char} {left : List Char}
    (h : Passes mode' g' left found) (hlength : g'.length = g.length + 1)
    (hfills : ∀ passed, mode'.Fills passed → mode.Fills (c :: passed)) :
    Passes mode g (c :: left) found := by
  obtain ⟨n, hn, hpassed, hrest⟩ := h
  exact ⟨n + 1, by omega, hfills _ hpassed, hrest⟩

theorem passes_of_scan {overComments : Bool} {mode : GapMode} {g found : Gap} {left : List Char}
    (h : scan overComments mode g left = some found) : Passes mode g left found := by
  fun_induction scan overComments mode g left with
  | case1 => exact .stay (Option.some.inj h ▸ rfl) (Option.some.inj h ▸ rfl)
  | case2 g r ih => exact (ih h).cons rfl fun _ hr text ht => .comment ht (by simp) (.blank rfl hr)
  | case3 g c r hc ih =>
    refine (ih h).cons rfl fun passed hr text ht => ?_
    have htext : IsComment (text ++ [c]) :=
      ⟨by rw [List.head?_append, ht.head]; rfl, by simp [ht.oneLine, Ne.symm hc]⟩
    rw [List.append_cons]
    exact hr _ htext
  | case4 g r ih => exact (ih h).cons rfl fun _ hr => .joint (by simp) (.blank rfl hr)
  | case5 g r _ ih => exact (ih h).cons rfl fun _ hr => .joint (by simp) (.blank rfl hr)
  | case7 g r ih | case9 g r ih => exact (ih h).cons rfl fun _ hr => .blank rfl hr
  | case10 g r _ ih | case11 g r _ _ ih => exact (ih h).cons rfl fun _ hr => .blank rfl hr
  | case12 g c r _ _ _ hc ih =>
    exact (ih h).cons rfl fun _ hr => .blank (by rcases hc with rfl | rfl <;> rfl) hr
  | case13 g r _ _ _ _ ih => exact (ih h).cons rfl fun _ hr => hr
  | case14 g c r _ _ _ _ _ hc _ ih =>
    obtain ⟨rfl, -⟩ := hc
    exact (ih h).cons rfl fun _ hr => hr ['#'] ⟨rfl, by simp⟩
  | case16 => exact .stay (Option.some.inj h ▸ rfl) (Option.some.inj h ▸ rfl)
  | case6 | case8 | case15 => cases h

end Gap

theorem filler_of_structural? {s : State} {follow : Follow} {token : Token} {ahead length : Nat}
    (h : s.structural? follow = some (token, ahead, length)) :
    IsFiller (s.cursor.rest.take ahead) := by
  obtain ⟨-, rfl⟩ | ⟨-, g, overComments, -, hgap, rfl, -⟩ | ⟨-, rfl, -⟩ := structural?_cases h
  · exact .nil
  · obtain ⟨n, hlength, hfills, -⟩ := Gap.passes_of_scan hgap
    rw [hlength, Nat.zero_add]
    exact hfills
  · exact .nil

theorem drop_takeWhile (p : Char → Bool) (text : List Char) :
    text.drop (text.takeWhile p).length = text.dropWhile p := by
  have hsplit : text.takeWhile p ++ text.dropWhile p = text := List.takeWhile_append_dropWhile
  have hdrop : (text.takeWhile p ++ text.dropWhile p).drop (text.takeWhile p).length =
      text.dropWhile p := List.drop_left
  rwa [hsplit] at hdrop

theorem filler_take_blanks {text : List Char} {n : Nat}
    (h : IsFiller ((text.drop (text.takeWhile isSpace).length).take n)) :
    IsFiller (text.take ((text.takeWhile isSpace).length + n)) := by
  have hfront : text.take (text.takeWhile isSpace).length = text.takeWhile isSpace :=
    (List.prefix_iff_eq_take.1 (List.takeWhile_prefix isSpace)).symm
  rw [List.take_add, hfront]
  exact .blanks (fun _ => List.mem_takeWhile_imp) h

theorem filler_take_comment {text : List Char} (hsign : text.head? = some '#') {n : Nat}
    (h : IsFiller ((text.drop (text.takeWhile (· ≠ '\n')).length).take n)) :
    IsFiller (text.take ((text.takeWhile (· ≠ '\n')).length + n)) := by
  have hfront := List.prefix_iff_eq_take.1 (List.takeWhile_prefix (l := text) (· ≠ '\n'))
  rw [List.take_add, ← hfront]
  refine .comment (isComment_takeWhile hsign) (fun c hc => ?_) h
  rw [drop_takeWhile, List.head?_take] at hc
  split at hc
  · cases hc
  · have hhead := List.head?_dropWhile_not (fun c => decide (c ≠ '\n')) text
    rw [Option.mem_def.1 hc] at hhead
    simpa using hhead

theorem filler_take_joint {text : List Char} (hjoint : 0 < jointLength text) {n : Nat}
    (h : IsFiller ((text.drop (jointLength text)).take n)) :
    IsFiller (text.take (jointLength text + n)) := by
  unfold jointLength at hjoint h ⊢
  split at hjoint
  · rw [Nat.add_comm]
    exact .joint (by simp) (.blank rfl (.blank rfl h))
  · rw [Nat.add_comm]
    exact .joint (by simp) (.blank rfl h)
  · rw [Nat.add_comm]
    exact .joint (by simp) h
  · exact absurd hjoint (Nat.lt_irrefl 0)

theorem filler_of_lexFrom (follow : Follow) (fuel : List Char) (s : State) (done : Nat)
    (extras : List Extra) : ∃ n, (lexFrom follow fuel s done extras).ahead = done + n ∧
      IsFiller (s.cursor.rest.take n) := by
  fun_induction lexFrom follow fuel s done extras with
  | case1 => exact ⟨0, rfl, .nil⟩
  | case2 _ _ _ _ _ _ ahead _ h => exact ⟨ahead, rfl, filler_of_structural? h⟩
  | case3 _ _ s _ _ _ blanks here _ hsign text ih =>
    obtain ⟨n, hahead, hfiller⟩ := ih
    have hrest : here.rest = s.cursor.rest.drop blanks := Cursor.rest_advanceBy _ _
    refine ⟨blanks + (text.length + n), by omega, filler_take_blanks ?_⟩
    rw [← hrest]
    rw [Cursor.rest_advanceBy] at hfiller
    exact filler_take_comment hsign hfiller
  | case4 _ _ s _ _ _ blanks here _ _ joint hjoint ih =>
    obtain ⟨n, hahead, hfiller⟩ := ih
    have hrest : here.rest = s.cursor.rest.drop blanks := Cursor.rest_advanceBy _ _
    refine ⟨blanks + (joint + n), by omega, filler_take_blanks ?_⟩
    rw [← hrest]
    rw [Cursor.rest_advanceBy] at hfiller
    exact filler_take_joint hjoint hfiller
  | case5 => exact ⟨_, rfl, filler_take_blanks (n := 0) .nil⟩

theorem filler_of_lex (s : State) (follow : Follow) :
    IsFiller (s.cursor.rest.take (s.lex follow).ahead) := by
  obtain ⟨n, hahead, hfiller⟩ := filler_of_lexFrom follow ('\n' :: s.cursor.rest) s 0 []
  rw [Nat.zero_add] at hahead
  rw [State.lex, hahead]
  exact hfiller

theorem take_of_tokenAt {text w : List Char} {length : Nat}
    (h : tokenAt text = (.symbol w, length)) : text.take length = w := by
  cases text with
  | nil => cases h
  | cons c r =>
    unfold tokenAt at h
    dsimp only at h
    split_ifs at h
    · cases h
    · cases h
    · split at h
      case _ found hfound =>
        cases h
        have hstart := List.find?_some hfound
        exact (List.prefix_iff_eq_take.1 (List.isPrefixOf_iff_prefix.1 hstart)).symm
      case _ => cases h

namespace Reading

variable {follow : Follow} {s t : State}

theorem Yields.filler_of_approach {extras : List Extra}
    (h : (approach follow).Yields s extras t) : IsFiller (s.cursor.textTo t.cursor) := by
  rw [h.of_approach.1, Cursor.textTo_advanceBy]
  exact filler_of_lex s follow

theorem Yields.text_of_trySymbol {w : String} (h : (trySymbol follow w).Yields s true t) :
    ∃ start, s.cursor.Reaches start ∧ start.Reaches t.cursor ∧
      start.textTo t.cursor = w.toList := by
  obtain ⟨hlex, rfl⟩ := h.of_trySymbol
  have htext := take_of_tokenAt (tokenAt_of_lex hlex (.inr ⟨_, rfl⟩))
  refine ⟨_, Cursor.reaches_advanceBy (s.lex follow).ahead _, ?_, ?_⟩
  · rw [Cursor.advanceBy_add]
    exact Cursor.reaches_advanceBy _ _
  · rw [Cursor.advanceBy_add, Cursor.textTo_advanceBy, htext]

end Reading

end Appraisal.Python
