import Appraisal.Data.Json.Reader
import Appraisal.Data.Json.Writer
import Mathlib.Data.List.TakeWhile

set_option autoImplicit false

namespace Appraisal.Json

theorem hexValue?_hexDigit : ∀ n < 16, hexValue? (hexDigit n) = some n := by decide

theorem stringRest?_unicode {a b c d : Char} {n : Nat} (h : hexCode? a b c d = some n)
    (hn : n < 0xD800) (done r : List Char) :
    stringRest? done ('\\' :: 'u' :: a :: b :: c :: d :: r) =
      stringRest? (Char.ofNat n :: done) r := by
  rw [stringRest?, h]
  dsimp only
  rw [if_neg (by omega), scalarOfCode?, if_pos (Or.inl hn)]

theorem stringRest?_control {c : Char} (h : c.toNat < 32) (done r : List Char) :
    stringRest? done ('\\' :: 'u' :: '0' :: '0' :: hexDigit (c.toNat / 16) ::
      hexDigit (c.toNat % 16) :: r) = stringRest? (c :: done) r := by
  have hcode : hexCode? '0' '0' (hexDigit (c.toNat / 16)) (hexDigit (c.toNat % 16)) =
      some c.toNat := by
    rw [hexCode?, hexValue?_hexDigit _ (by omega), hexValue?_hexDigit _ (by omega),
      show hexValue? '0' = some 0 from rfl]
    simp only [Option.bind_eq_bind, Option.bind_some, pure, Option.some.injEq]
    omega
  rw [stringRest?_unicode hcode (by omega), Char.ofNat_toNat]

theorem stringRest?_escape (c : Char) (done r : List Char) :
    stringRest? done (escape c ++ r) = stringRest? (c :: done) r := by
  unfold escape
  split
  · rfl
  · rfl
  · rfl
  · rfl
  · rfl
  · next hquote hslash _ _ _ =>
    split
    · next h =>
      rw [← Char.ofNat_toNat c, h]
      rfl
    split
    · next h =>
      rw [← Char.ofNat_toNat c, h]
      rfl
    split
    · next h => exact stringRest?_control h done r
    · next h =>
      change stringRest? done (c :: r) = _
      rw [stringRest?]
      · rw [if_neg]
        simpa using ⟨by omega, hslash⟩
      · exact hquote
      · exact fun _ _ _ _ _ h => absurd h hslash
      · exact fun _ _ h => absurd h hslash

theorem stringRest?_flatMap_escape (s done r : List Char) :
    stringRest? done (s.flatMap escape ++ '"' :: r) =
      some (String.ofList (done.reverse ++ s), r) := by
  induction s generalizing done with
  | nil => simp [stringRest?]
  | cons c s ih =>
    rw [List.flatMap_cons, List.append_assoc, stringRest?_escape, ih]
    simp

theorem quote_append (s : String) (r : List Char) :
    quote s ++ r = '"' :: (s.toList.flatMap escape ++ '"' :: r) := by
  simp [quote]

theorem stringRest?_quoted (s : String) (r : List Char) :
    stringRest? [] (s.toList.flatMap escape ++ '"' :: r) = some (s, r) := by
  rw [stringRest?_flatMap_escape]
  simp

/-- No character that could continue a number stands first. -/
def EndsNumber (r : List Char) : Prop :=
  ∀ c ∈ r.head?, isDigit c = false ∧ c ≠ '.' ∧ c ≠ 'e' ∧ c ≠ 'E'

theorem endsNumber_nil : EndsNumber [] := by
  simp [EndsNumber]

theorem endsNumber_cons {c : Char} (h : isDigit c = false ∧ c ≠ '.' ∧ c ≠ 'e' ∧ c ≠ 'E')
    (r : List Char) : EndsNumber (c :: r) := by
  intro d hd
  cases hd
  exact h

theorem takeDigits_cons (c : Char) (cs : List Char) :
    takeDigits (c :: cs) =
      if isDigit c then (c :: (takeDigits cs).1, (takeDigits cs).2) else ([], c :: cs) := by
  cases h : isDigit c <;> simp [takeDigits, h]

theorem takeDigits_append {r : List Char} (hr : EndsNumber r) (cs : List Char) :
    takeDigits (cs ++ r) = ((takeDigits cs).1, (takeDigits cs).2 ++ r) := by
  induction cs with
  | nil =>
    cases r with
    | nil => rfl
    | cons c r => simp [takeDigits, (hr c rfl).1]
  | cons c cs ih =>
    rw [List.cons_append, takeDigits_cons, takeDigits_cons, ih]
    cases isDigit c <;> rfl

theorem fraction?_append {r : List Char} (hr : EndsNumber r) {cs rest : List Char}
    {digits? : Option (List Char)} (h : fraction? cs = some (digits?, rest)) :
    fraction? (cs ++ r) = some (digits?, rest ++ r) := by
  unfold fraction? at h
  split at h
  · next t =>
    rw [List.cons_append, fraction?]
    simp only [takeDigits_append hr]
    by_cases hdigits : (takeDigits t).1.isEmpty = true
    · simp [hdigits] at h
    · simp only [if_neg hdigits] at h ⊢
      cases h
      rfl
  · next hpoint =>
    cases h
    cases cs with
    | cons c t =>
      rw [List.cons_append, fraction?]
      exact fun t' h => by
        cases h
        exact hpoint t rfl
    | nil =>
      cases r with
      | nil => rfl
      | cons c t =>
        -- what follows a number does not begin with a point
        rw [List.nil_append, fraction?]
        exact fun t' h => by
          cases h
          exact (hr '.' rfl).2.1 rfl

theorem powerSign_append {r cs : List Char}
    (h : (takeDigits (powerSign cs).2).1 ≠ []) :
    powerSign (cs ++ r) = ((powerSign cs).1, (powerSign cs).2 ++ r) := by
  cases cs with
  | nil => exact absurd rfl h
  | cons c t =>
    rw [List.cons_append, powerSign.eq_def (c :: _), powerSign.eq_def (c :: t)]
    split
    · next heq =>
      cases heq
      rfl
    · next heq =>
      cases heq
      rfl
    · next hminus hplus =>
      split
      · next heq => exact absurd (by cases heq; rfl) (hminus (t ++ r))
      · next heq => exact absurd (by cases heq; rfl) (hplus (t ++ r))
      · rfl

theorem power?_append {r : List Char} (hr : EndsNumber r) {cs rest : List Char}
    {power : Option Int} (h : power? cs = some (power, rest)) :
    power? (cs ++ r) = some (power, rest ++ r) := by
  cases cs with
  | nil =>
    cases h
    cases r with
    | nil => rfl
    | cons c t =>
      have hc : ¬(c = 'e' ∨ c = 'E') := fun hc =>
        hc.elim (hr c rfl).2.2.1 (hr c rfl).2.2.2
      rw [List.nil_append, power?, if_neg hc]
  | cons c t =>
    rw [List.cons_append, power?]
    rw [power?] at h
    by_cases hc : c = 'e' ∨ c = 'E'
    · simp only [if_pos hc] at h ⊢
      by_cases hdigits : (takeDigits (powerSign t).2).1 = []
      · simp [hdigits] at h
      · rw [powerSign_append hdigits, takeDigits_append hr]
        simp only [List.isEmpty_iff, if_neg hdigits] at h ⊢
        cases h
        rfl
    · rw [if_neg hc] at h ⊢
      cases h
      rfl

theorem magnitude?_append {r : List Char} (hr : EndsNumber r) {negative : Bool} {cs : List Char}
    {d : Datum} (h : magnitude? negative cs = some (d, [])) :
    magnitude? negative (cs ++ r) = some (d, r) := by
  rw [magnitude?, takeDigits_append hr]
  rw [magnitude?] at h
  dsimp only at h ⊢
  split at h
  · cases h
  · next hwhole =>
    rw [if_neg hwhole]
    obtain ⟨⟨fraction, afterFraction⟩, hfraction, h⟩ := Option.bind_eq_some_iff.1 h
    obtain ⟨⟨power, afterPower⟩, hpower, h⟩ := Option.bind_eq_some_iff.1 h
    rw [fraction?_append hr hfraction]
    simp only [Option.bind_eq_bind, Option.bind_some]
    rw [power?_append hr hpower]
    simp only [Option.bind_some]
    cases fraction <;> cases power
    all_goals
      obtain ⟨value, hvalue, h⟩ := Option.bind_eq_some_iff.1 h
      cases h
      exact Option.bind_eq_some_iff.2 ⟨_, hvalue, rfl⟩

/-- A number is read the same when what follows cannot continue it. -/
theorem number?_append {r : List Char} (hr : EndsNumber r) {cs : List Char} {d : Datum}
    (h : number? cs = some (d, [])) : number? (cs ++ r) = some (d, r) := by
  unfold number? at h
  split at h
  · exact magnitude?_append hr h
  · next hminus =>
    cases cs with
    | nil => cases h
    | cons c t =>
      rw [List.cons_append, number?]
      · exact magnitude?_append hr h
      · intro t' heq
        cases heq
        exact hminus t rfl

theorem natOfDigits_digitsOf (n : Nat) : natOfDigits (Decimal.digitsOf n) = n := by
  have heq : natOfDigits (Decimal.digitsOf n) = Nat.ofDigitChars 10 (Decimal.digitsOf n) 0 := by
    simp only [Nat.ofDigitChars_eq_foldl, natOfDigits, digitValue, Nat.mul_comm]
    rfl
  rw [heq, Decimal.digitsOf, Nat.ofDigitChars_ten_toDigits]

theorem head?_digitsOf {n : Nat} (hn : 0 < n) : (Decimal.digitsOf n).head? ≠ some '0' := by
  induction n using Nat.base_induction 10 (by decide) with
  | single n hlt =>
    rw [Decimal.digitsOf, Nat.toDigits_of_lt_base hlt]
    revert hn
    revert n
    decide
  | digit n k hk hpos ih =>
    rw [Decimal.digitsOf, ← Nat.toDigits_append_toDigits (by decide) hpos hk,
      List.head?_append, Option.or_of_isSome]
    · exact ih hpos
    · exact List.isSome_head?.2 Nat.toDigits_ne_nil

theorem takeDigits_digitsOf (n : Nat) :
    takeDigits (Decimal.digitsOf n) = (Decimal.digitsOf n, []) := by
  have hall : ∀ c ∈ Decimal.digitsOf n, isDigit c = true := fun c hc =>
    Nat.isDigit_of_mem_toDigits (by decide) (by decide) hc
  rw [takeDigits, List.takeWhile_eq_self_iff.2 hall, List.dropWhile_eq_nil_iff.2 hall]

theorem magnitude?_digitsOf {negative : Bool} {n : Nat} {d : Datum}
    (h : wholeNumber negative (Decimal.digitsOf n) = some d) :
    magnitude? negative (Decimal.digitsOf n) = some (d, []) := by
  have hplain : ((Decimal.digitsOf n).isEmpty ||
      ((Decimal.digitsOf n).length ≠ 1 && (Decimal.digitsOf n).head? == some '0')) = false := by
    have hne : Decimal.digitsOf n ≠ [] := Nat.toDigits_ne_nil
    rcases Nat.eq_zero_or_pos n with rfl | hn
    · rfl
    · simp [hne, head?_digitsOf hn]
  rw [magnitude?, takeDigits_digitsOf]
  dsimp only
  rw [hplain]
  simp [fraction?, power?, h]

theorem number?_scalar_int {n : Int} (hlow : -((UInt64.size / 2 : Nat) : Int) ≤ n)
    (hhigh : n < (UInt64.size : Int)) : number? (scalar (.int n)) = some (.int n, []) := by
  rw [scalar]
  by_cases hneg : n < 0
  · rw [if_pos hneg]
    change magnitude? true (Decimal.digitsOf n.natAbs) = _
    apply magnitude?_digitsOf
    rw [wholeNumber, natOfDigits_digitsOf]
    rw [if_pos rfl, if_pos (by omega), show -(n.natAbs : Int) = n by omega]
  · rw [if_neg hneg, List.nil_append]
    have hnot : number? (Decimal.digitsOf n.natAbs) =
        magnitude? false (Decimal.digitsOf n.natAbs) := by
      rw [number?]
      intro t heq
      have hdigit : isDigit '-' = true :=
        Nat.isDigit_of_mem_toDigits (by decide) (by decide) (n := n.natAbs) (b := 10)
          (by rw [← Decimal.digitsOf, heq]; exact List.mem_cons_self)
      cases hdigit
    rw [hnot]
    apply magnitude?_digitsOf
    rw [wholeNumber, natOfDigits_digitsOf]
    rw [if_neg Bool.false_ne_true, if_pos (by omega), show (n.natAbs : Int) = n by omega]

end Appraisal.Json
