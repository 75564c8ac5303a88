import Appraisal.Proofs.Text.Blank
import Appraisal.Text.Quoted
import Mathlib.Data.List.Infix

set_option autoImplicit false

namespace Appraisal.Text

theorem isQuotedBy_iff {quote body : List Char} :
    isQuotedBy quote body = true ↔ ∃ content, body = quote ++ content ++ quote := by
  simp only [isQuotedBy, Bool.and_eq_true, decide_eq_true_eq, List.isPrefixOf_iff_prefix,
    List.isSuffixOf_iff_suffix, and_assoc]
  constructor
  · rintro ⟨hlength, ⟨rest, rfl⟩, hsuffix⟩
    have hle : quote.length ≤ rest.length := by
      rw [List.length_append] at hlength
      omega
    obtain ⟨content, rfl⟩ :=
      List.suffix_of_suffix_length_le hsuffix (List.suffix_append quote rest) hle
    exact ⟨content, by rw [List.append_assoc]⟩
  · rintro ⟨content, rfl⟩
    refine ⟨?_, ⟨content ++ quote, by rw [List.append_assoc]⟩, List.suffix_append _ _⟩
    simp only [List.length_append]
    omega

def triple (mark : Char) : List Char := [mark, mark, mark]

def IsMark (mark : Char) : Prop := mark = '"' ∨ mark = '\''

theorem quotes_eq : quotes = [triple '"', triple '\'', ['"'], ['\'']] := rfl

theorem mem_quotes_iff {quote : List Char} :
    quote ∈ quotes ↔ ∃ mark, IsMark mark ∧ (quote = triple mark ∨ quote = [mark]) := by
  simp only [quotes_eq, IsMark, List.mem_cons, List.not_mem_nil, or_false]
  constructor
  · rintro (rfl | rfl | rfl | rfl)
    · exact ⟨'"', .inl rfl, .inl rfl⟩
    · exact ⟨'\'', .inr rfl, .inl rfl⟩
    · exact ⟨'"', .inl rfl, .inr rfl⟩
    · exact ⟨'\'', .inr rfl, .inr rfl⟩
  · rintro ⟨_, rfl | rfl, rfl | rfl⟩ <;> simp

/-- A quote of one character stands with its content as three of it would around something else. -/
def LooksTriple (quote content : List Char) : Prop :=
  quote.length = 1 ∧ ∃ inner, quote ++ content ++ quote =
    (quote ++ quote ++ quote) ++ inner ++ (quote ++ quote ++ quote)

theorem looksTriple_iff {mark : Char} {content : List Char} : LooksTriple [mark] content ↔
    isQuotedBy (triple mark) ([mark] ++ content ++ [mark]) = true := by
  rw [isQuotedBy_iff]
  exact ⟨And.right, fun h => ⟨rfl, h⟩⟩

theorem not_looksTriple_triple (mark : Char) (content : List Char) :
    ¬ LooksTriple (triple mark) content := by
  rintro ⟨hlength, -⟩
  cases hlength

theorem length_lt_of_triple {mark : Char} {content inner : List Char}
    (h : [mark] ++ content ++ [mark] = triple mark ++ inner ++ triple mark) :
    inner.length < content.length := by
  have hlength := congrArg List.length h
  simp only [triple, List.length_append, List.length_cons, List.length_nil] at hlength
  omega

theorem not_isQuotedBy_of_head {quote body : List Char} {mark c : Char}
    (hbody : body.head? = some mark) (hquote : quote.head? = some c) (hne : c ≠ mark) :
    isQuotedBy quote body = false := by
  refine Bool.eq_false_iff.2 fun h => ?_
  obtain ⟨content, rfl⟩ := isQuotedBy_iff.1 h
  rw [List.append_assoc, List.head?_append, hquote] at hbody
  exact hne (Option.some.inj hbody)

theorem find?_quotes {mark : Char} (hmark : IsMark mark) {body : List Char}
    (hbody : body.head? = some mark) (h : isQuotedBy [mark] body = true) :
    quotes.find? (isQuotedBy · body) =
      some (if isQuotedBy (triple mark) body then triple mark else [mark]) := by
  rcases hmark with rfl | rfl
  · have hother : isQuotedBy (triple '\'') body = false :=
      not_isQuotedBy_of_head hbody rfl (by decide)
    by_cases hthree : isQuotedBy (triple '"') body = true
    · simp [quotes_eq, hthree]
    · simp [quotes_eq, hthree, hother, h]
  · have hother : isQuotedBy (triple '"') body = false :=
      not_isQuotedBy_of_head hbody rfl (by decide)
    have hsingle : isQuotedBy ['"'] body = false :=
      not_isQuotedBy_of_head hbody rfl (by decide)
    by_cases hthree : isQuotedBy (triple '\'') body = true
    · simp [quotes_eq, hother, hthree]
    · simp [quotes_eq, hother, hthree, hsingle, h]

theorem eq_or_eq_of_toLower {c lower : Char} (upper : Char)
    (hcase : upper.val + 32 = lower.val) (h : c.toLower = lower) : c = lower ∨ c = upper := by
  unfold Char.toLower at h
  split at h
  · have hval : c.val + 32 = upper.val + 32 := (congrArg Char.val h).trans hcase.symm
    exact .inr (Char.ext ((UInt32.add_left_inj 32).1 hval))
  · exact .inl h

theorem isLiteralPrefix_iff {c : Char} :
    isLiteralPrefix c = true ↔ c.toLower ∈ ['r', 'b', 'u', 'f'] := by
  simp only [isLiteralPrefix, decide_eq_true_eq, List.mem_cons, List.not_mem_nil, or_false]
  constructor
  · rintro (rfl | rfl | rfl | rfl | rfl | rfl | rfl | rfl) <;> decide
  · rintro (h | h | h | h)
    · rcases eq_or_eq_of_toLower 'R' rfl h with rfl | rfl <;> simp
    · rcases eq_or_eq_of_toLower 'B' rfl h with rfl | rfl <;> simp
    · rcases eq_or_eq_of_toLower 'U' rfl h with rfl | rfl <;> simp
    · rcases eq_or_eq_of_toLower 'F' rfl h with rfl | rfl <;> simp

theorem isBlank_of_isLiteralPrefix {c : Char} (h : isLiteralPrefix c = true) :
    isBlank c = false := by
  simp only [isLiteralPrefix, decide_eq_true_eq, List.mem_cons, List.not_mem_nil, or_false] at h
  rcases h with rfl | rfl | rfl | rfl | rfl | rfl | rfl | rfl <;> decide

theorem IsMark.isBlank {mark : Char} (h : IsMark mark) : isBlank mark = false := by
  rcases h with rfl | rfl <;> decide

theorem IsMark.isLiteralPrefix {mark : Char} (h : IsMark mark) :
    isLiteralPrefix mark = false := by
  rcases h with rfl | rfl <;> decide

section Surrounded

variable {before letters after : List Char} (hbefore : allBlank before = true)
  (hletters : ∀ c ∈ letters, isLiteralPrefix c = true) (hafter : allBlank after = true)
include hbefore hletters hafter

theorem unquote_surrounded {body : List Char} (htrimmed : Trimmed (letters ++ body))
    (hbody : ∀ c ∈ body.head?, isLiteralPrefix c = false) :
    unquote (before ++ (letters ++ body) ++ after) =
      (quotes.find? (isQuotedBy · body)).elim (letters ++ body) (stripQuote · body) := by
  unfold unquote
  rw [trim_surrounded hbefore htrimmed hafter]
  dsimp only
  rw [dropWhile_append_of_head hletters hbody]
  cases quotes.find? (isQuotedBy · body) <;> rfl

omit hbefore hafter in
theorem trimmed_literal {mark : Char} (hmark : IsMark mark) (inside : List Char) :
    Trimmed (letters ++ ([mark] ++ inside ++ [mark])) := by
  have hlast : (letters ++ ([mark] ++ inside ++ [mark])).getLast? = some mark := by
    rw [← List.append_assoc, List.getLast?_concat]
  cases letters with
  | nil => exact trimmed_of_ends rfl hlast hmark.isBlank hmark.isBlank
  | cons first rest =>
    have hfirst := isBlank_of_isLiteralPrefix (hletters first List.mem_cons_self)
    exact trimmed_of_ends rfl hlast hfirst hmark.isBlank

/-- A text that starts and ends with a mark is taken for a literal in triple quotes where it can. -/
theorem unquote_marked {mark : Char} (hmark : IsMark mark) (inside : List Char) :
    unquote (before ++ (letters ++ ([mark] ++ inside ++ [mark])) ++ after) =
      if isQuotedBy (triple mark) ([mark] ++ inside ++ [mark]) then
        stripQuote (triple mark) ([mark] ++ inside ++ [mark])
      else inside := by
  have hbody : ∀ c ∈ ([mark] ++ inside ++ [mark]).head?, isLiteralPrefix c = false := by
    intro c hc
    obtain rfl : mark = c := Option.some.inj hc
    exact hmark.isLiteralPrefix
  have hsingle : isQuotedBy [mark] ([mark] ++ inside ++ [mark]) = true :=
    isQuotedBy_iff.2 ⟨inside, rfl⟩
  rw [unquote_surrounded hbefore hletters hafter (trimmed_literal hletters hmark inside) hbody,
    find?_quotes hmark rfl hsingle]
  split
  · rfl
  · exact stripQuote_append [mark] inside

theorem unquote_triple {mark : Char} (hmark : IsMark mark) (content : List Char) :
    unquote (before ++ (letters ++ (triple mark ++ content ++ triple mark)) ++ after) =
      content := by
  have hmarked : triple mark ++ content ++ triple mark =
      [mark] ++ ([mark, mark] ++ content ++ [mark, mark]) ++ [mark] := by simp [triple]
  have hthree : isQuotedBy (triple mark) (triple mark ++ content ++ triple mark) = true :=
    isQuotedBy_iff.2 ⟨content, rfl⟩
  rw [hmarked, unquote_marked hbefore hletters hafter hmark, ← hmarked, if_pos hthree,
    stripQuote_append]

theorem unquote_single_iff {mark : Char} (hmark : IsMark mark) (content : List Char) :
    unquote (before ++ (letters ++ ([mark] ++ content ++ [mark])) ++ after) = content ↔
      ¬ LooksTriple [mark] content := by
  rw [unquote_marked hbefore hletters hafter hmark, looksTriple_iff]
  split
  · next hthree =>
    obtain ⟨inner, hinner⟩ := isQuotedBy_iff.1 hthree
    have hlt := length_lt_of_triple hinner
    rw [hinner, stripQuote_append]
    constructor
    · rintro rfl
      exact absurd hlt (Nat.lt_irrefl _)
    · intro h
      exact absurd hthree (hinner ▸ h)
  · next hthree => exact ⟨fun _ => hthree, fun _ => rfl⟩

end Surrounded

/-- Between blanks and behind prefix letters, a literal gives its content, whatever that is, but
for a quote of one character that looks like three. A text without blanks at its ends whose rest
behind the prefix letters stands between no two quotes gives itself, with those letters. -/
theorem unquote_undoes_quoting {before letters after : List Char}
    (hbefore : allBlank before = true)
    (hletters : ∀ c ∈ letters, c.toLower ∈ ['r', 'b', 'u', 'f'])
    (hafter : allBlank after = true) :
    (∀ quote ∈ quotes, ∀ content,
      unquote (before ++ (letters ++ (quote ++ content ++ quote)) ++ after) = content ↔
        ¬ LooksTriple quote content) ∧
    (∀ body, Trimmed (letters ++ body) → (∀ c ∈ body.head?, c.toLower ∉ ['r', 'b', 'u', 'f']) →
      (∀ quote ∈ quotes, ∀ content, body ≠ quote ++ content ++ quote) →
      unquote (before ++ (letters ++ body) ++ after) = letters ++ body) := by
  have hletters : ∀ c ∈ letters, isLiteralPrefix c = true := fun c hc =>
    isLiteralPrefix_iff.2 (hletters c hc)
  constructor
  · intro quote hquote content
    obtain ⟨mark, hmark, rfl | rfl⟩ := mem_quotes_iff.1 hquote
    · rw [unquote_triple hbefore hletters hafter hmark]
      exact ⟨fun _ => not_looksTriple_triple mark content, fun _ => rfl⟩
    · exact unquote_single_iff hbefore hletters hafter hmark content
  · intro body htrimmed hbody hunquoted
    have hrest : ∀ c ∈ body.head?, isLiteralPrefix c = false := fun c hc =>
      Bool.eq_false_iff.2 fun h => hbody c hc (isLiteralPrefix_iff.1 h)
    have hnone : quotes.find? (isQuotedBy · body) = none := by
      refine List.find?_eq_none.2 fun quote hquote h => ?_
      obtain ⟨content, hcontent⟩ := isQuotedBy_iff.1 h
      exact hunquoted quote hquote content hcontent
    rw [unquote_surrounded hbefore hletters hafter htrimmed hrest, hnone]
    rfl

theorem unquote_between_blanks :
    allBlank "\n ".toList = true ∧ (∀ c ∈ "rB".toList, c.toLower ∈ ['r', 'b', 'u', 'f']) ∧
      allBlank "\t".toList = true ∧
      unquote "\n rB'f\"'\t".toList = "f\"".toList ∧
      unquote "\n rB\"\"\"\"\"\"\t".toList ≠ "\"\"\"\"".toList ∧
      unquote "\n rB'\t".toList = "rB'".toList := by
  have hbefore : allBlank "\n ".toList = true := by decide
  have hletters : ∀ c ∈ "rB".toList, c.toLower ∈ ['r', 'b', 'u', 'f'] :=
    List.forall_mem_cons.2 ⟨by decide, List.forall_mem_singleton.2 (by decide)⟩
  have hafter : allBlank "\t".toList = true := by decide
  obtain ⟨hquoted, hplain⟩ := unquote_undoes_quoting hbefore hletters hafter
  refine ⟨hbefore, hletters, hafter, ?_, ?_, ?_⟩
  · refine (hquoted ['\''] (by decide) "f\"".toList).2 ?_
    rw [looksTriple_iff]
    decide
  · refine mt (hquoted ['"'] (by decide) "\"\"\"\"".toList).1 ?_
    rw [not_not, looksTriple_iff]
    decide
  · have htrimmed : Trimmed ("rB".toList ++ ['\'']) :=
      trimmed_of_ends rfl rfl (by decide) (by decide)
    have hhead : ∀ c ∈ ['\''].head?, c.toLower ∉ ['r', 'b', 'u', 'f'] := by
      rintro c ⟨⟩
      decide
    refine hplain ['\''] htrimmed hhead fun quote hquote content h => ?_
    have hquoted : ∀ q ∈ quotes, isQuotedBy q ['\''] = false := by decide
    exact Bool.false_ne_true ((hquoted quote hquote).symm.trans (isQuotedBy_iff.2 ⟨content, h⟩))

end Appraisal.Text
