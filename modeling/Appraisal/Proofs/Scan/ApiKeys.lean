import Appraisal.Proofs.Pattern.Forms
import Appraisal.Proofs.Pattern.Occurrences
import Appraisal.Proofs.Pattern.Openings
import Appraisal.Proofs.Scan.Compiled
import Appraisal.Proofs.Scan.Stores
import Appraisal.Scan.Defaults

set_option autoImplicit false

namespace Appraisal.Scan

section

variable {path : String} {content : ByteArray} {statedSize : Nat} {rules : RuleSet}
  {limits : Limits} {findings : List Finding} {d : Detector} {before w after : List Char}
  {number : Nat}

/-- Text around a word of a secret rule may make the cut come earlier, never later. -/
theorem stored_before_word (hd : d ∈ rules.secrets) (hfloat : d.pattern.isFloating = true)
    (hw : d.pattern.Accepts w)
    (hscan : scan path content statedSize rules limits = .scanned findings)
    (hline : (before ++ w ++ after, number) ∈ (linesOf content).zipIdx 1) {f : Finding}
    (hf : f ∈ findings) {stored : String} (hstored : f.Stores number stored) :
    ∃ kept, kept <+: before ∧ stored =
      String.ofList (Text.truncate storedLimit (Text.trim (kept ++ limits.placeholder.toList))) := by
  have hmem : f ∈ (scan path content statedSize rules limits).findings := by rwa [hscan]
  obtain ⟨line, hsource, rfl⟩ := stores_of_mem_scan hmem hstored
  obtain rfl := line_eq_of_mem_zipIdx hline hsource
  have hsecret : SecretAt rules (before ++ w ++ after) before.length :=
    ⟨d, hd, Pattern.matchesAt_of_accepts hfloat hw⟩
  obtain ⟨j, hj, hcut⟩ := cutBefore_of_secretAt hsecret limits.placeholder.toList
  refine ⟨before.take j, List.take_prefix j before, ?_⟩
  rw [hcut, List.append_assoc, List.take_append_of_le_length hj]

theorem exists_finding_of_word (hd : d ∈ rules.secrets) (hfloat : d.pattern.isFloating = true)
    (hstarts : d.pattern.startsOutside [] = true) (hw : d.pattern.Accepts w)
    (hscan : scan path content statedSize rules limits = .scanned findings)
    (hline : (before ++ w ++ after, number) ∈ (linesOf content).zipIdx 1) :
    ∃ f ∈ findings, f.lineNumber = number ∧ f.category = .secret ∧ f.ruleId = d.rule.id := by
  obtain ⟨hmem, hsecret⟩ := List.mem_filter.1 hd
  have hocc : d.pattern.Occurs (before ++ w ++ after) :=
    ⟨before.length, Pattern.matchesAt_of_accepts hfloat hw⟩
  have hfound := Pattern.occurrences_ne_nil_of_occurs (Pattern.not_accepts_nil hstarts) hocc
  obtain ⟨f, hf, hnumber, hcategory, hid⟩ := exists_finding_of_occurrences hscan hline hmem hfound
  exact ⟨f, hf, hnumber, hcategory.trans (of_decide_eq_true hsecret), hid⟩

end

def apiKeyNames : List (List Char) := ["api_key".toList, "api-key".toList, "apikey".toList]

def quotes : List Char := ['\'', '"']

/-- A line on which some spelling of the name of an API key is given a quoted value. -/
structure KeyLine where
  before : List Char
  name : List Char
  gap : List Char
  sign : Char
  space : List Char
  opening : Char
  value : List Char
  closing : Char
  after : List Char
  name_spelled : name.map Char.toLower ∈ apiKeyNames
  gap_blank : ∀ c ∈ gap, c ∈ [' ', '\t']
  sign_assigns : sign ∈ [':', '=']
  space_blank : ∀ c ∈ space, c ∈ [' ', '\t']
  opening_quotes : opening ∈ quotes
  value_long : 20 ≤ value.length
  value_plain : ∀ c ∈ value, c.isAlphanum = true
  closing_quotes : closing ∈ quotes

def KeyLine.assignment (l : KeyLine) : List Char :=
  l.name ++ (l.gap ++ l.sign :: (l.space ++ l.opening :: (l.value ++ [l.closing])))

def KeyLine.text (l : KeyLine) : List Char := l.before ++ l.assignment ++ l.after

def asciiWhere (p : Char → Bool) : List Char := ((List.range 128).map Char.ofNat).filter p

def assignmentForm (name : List Char) : List Pattern.Piece :=
  name.map (fun d => .one (asciiWhere (fun c => c.toLower == d))) ++
    [.run 0 [' ', '\t'], .one [':', '='], .run 0 [' ', '\t'], .one quotes,
      .run 20 (asciiWhere Char.isAlphanum), .one quotes]

theorem exists_apiKey_detector : ∃ rules, RuleSet.compile defaultRules = .ok rules ∧
    ∃ d ∈ rules.secrets, d.rule.id = "secret-api-key" ∧ d.pattern.isFloating = true ∧
      d.pattern.startsOutside [] = true ∧
        ∀ name ∈ apiKeyNames, d.pattern.admits (assignmentForm name) = true := by
  decide +kernel

theorem mem_asciiWhere {p : Char → Bool} {c : Char} (hc : c.toNat < 128) (hp : p c = true) :
    c ∈ asciiWhere p :=
  List.mem_filter.2 ⟨List.mem_map.2 ⟨c.toNat, List.mem_range.2 hc, Char.ofNat_toNat c⟩, hp⟩

theorem toNat_lt_of_isAlphanum {c : Char} (h : c.isAlphanum = true) : c.toNat < 128 := by
  have hlast : c.val ≤ 'Z'.val ∨ c.val ≤ 'z'.val ∨ c.val ≤ '9'.val := by
    rcases Bool.or_eq_true_iff.1 h with halpha | hdigit
    · rcases Bool.or_eq_true_iff.1 halpha with hupper | hlower
      · exact .inl (of_decide_eq_true hupper).2
      · exact .inr (.inl (of_decide_eq_true (Bool.and_eq_true_iff.1 hlower).2))
    · exact .inr (.inr (of_decide_eq_true (Bool.and_eq_true_iff.1 hdigit).2))
  have hz : c.val.toNat ≤ 'z'.val.toNat := by
    rcases hlast with hle | hle | hle
    · exact Nat.le_trans hle (by decide)
    · exact hle
    · exact Nat.le_trans hle (by decide)
  exact Nat.lt_of_le_of_lt hz (by decide)

theorem toNat_lt_of_toLower {c : Char} (h : c.toLower.toNat < 128) : c.toNat < 128 := by
  unfold Char.toLower at h
  split at h
  · rename_i hupper
    have hZ : c.val ≤ 'Z'.val := hupper.2
    rw [UInt32.le_iff_toNat_le] at hZ
    exact Nat.lt_of_le_of_lt hZ (by decide)
  · exact h

theorem fits_name {name : List Char} (h : ∀ c ∈ name, c.toNat < 128) :
    Pattern.FitsForm ((name.map Char.toLower).map
      (fun d => .one (asciiWhere (fun c => c.toLower == d)))) name := by
  induction name with
  | nil => rfl
  | cons c name ih =>
    obtain ⟨hc, hname⟩ := List.forall_mem_cons.1 h
    exact .one (mem_asciiWhere hc (beq_self_eq_true _)) (ih hname)

namespace KeyLine

theorem name_ascii (l : KeyLine) : ∀ c ∈ l.name, c.toNat < 128 := by
  have hnames : apiKeyNames.all (fun name => name.all (fun c => c.toNat < 128)) = true := by decide
  have hname := List.all_eq_true.1 (List.all_eq_true.1 hnames _ l.name_spelled)
  exact fun c hc => toNat_lt_of_toLower (of_decide_eq_true (hname _ (List.mem_map_of_mem hc)))

theorem assignment_fits (l : KeyLine) :
    Pattern.FitsForm (assignmentForm (l.name.map Char.toLower)) l.assignment := by
  have hvalue : ∀ c ∈ l.value, c ∈ asciiWhere Char.isAlphanum := fun c hc =>
    mem_asciiWhere (toNat_lt_of_isAlphanum (l.value_plain c hc)) (l.value_plain c hc)
  refine Pattern.fitsForm_append.2 ⟨l.name, _, fits_name l.name_ascii, ?_, rfl⟩
  exact .run (Nat.zero_le _) l.gap_blank (.one l.sign_assigns (.run (Nat.zero_le _) l.space_blank
    (.one l.opening_quotes (.run l.value_long hvalue (.one l.closing_quotes rfl)))))

end KeyLine

/-- Whatever stands around it, and however its parts are written, the assignment of an API key is
found by its rule, and nothing that is stored of its line goes beyond what stands before it. -/
theorem api_keys_found_and_cut : ∃ rules, RuleSet.compile defaultRules = .ok rules ∧
    ∀ (l : KeyLine) (path : String) (content : ByteArray) (statedSize : Nat) (limits : Limits)
      (findings : List Finding) (number : Nat),
      scan path content statedSize rules limits = .scanned findings →
      (l.text, number) ∈ (linesOf content).zipIdx 1 →
        (∃ f ∈ findings, f.lineNumber = number ∧ f.category = .secret ∧
          f.ruleId = "secret-api-key") ∧
        ∀ f ∈ findings, ∀ stored, f.Stores number stored →
          ∃ kept, kept <+: l.before ∧ stored = String.ofList
            (Text.truncate 240 (Text.trim (kept ++ limits.placeholder.toList))) := by
  obtain ⟨rules, hcompile, d, hd, hid, hfloat, hstarts, hadmits⟩ := exists_apiKey_detector
  refine ⟨rules, hcompile, fun l path content statedSize limits findings number hscan hline => ?_⟩
  have hword : d.pattern.Accepts l.assignment :=
    Pattern.accepts_of_admits (hadmits _ l.name_spelled) l.assignment_fits
  constructor
  · have hfound := exists_finding_of_word hd hfloat hstarts hword hscan hline
    rwa [hid] at hfound
  · exact fun f hf stored => stored_before_word hd hfloat hword hscan hline hf

def mixedKeyLine : KeyLine where
  before := " api_key='a', ".toList
  name := "Api-KEY".toList
  gap := ['\t', ' ']
  sign := ':'
  space := ['\t']
  opening := '"'
  value := "a1B2c3D4e5F6g7H8i9J0".toList
  closing := '\''
  after := " eval(z)".toList
  name_spelled := by decide
  gap_blank := by simp
  sign_assigns := by decide
  space_blank := by simp
  opening_quotes := by decide
  value_long := by decide
  value_plain := List.all_eq_true.1 (by decide)
  closing_quotes := by decide

def mixedKeyContent : ByteArray := ("eval(x)\n" ++ String.ofList mixedKeyLine.text ++ "\n").toUTF8

def mixedKeyScan (rules : RuleSet) : FileScan := scan "bot.py" mixedKeyContent 0 rules .default

theorem mixed_key_found_and_cut : ∃ rules, RuleSet.compile defaultRules = .ok rules ∧
    mixedKeyScan rules = .scanned (mixedKeyScan rules).findings ∧
    (mixedKeyLine.text, 2) ∈ (linesOf mixedKeyContent).zipIdx 1 ∧
    (∃ f ∈ (mixedKeyScan rules).findings, f.lineNumber = 2 ∧ f.category = .secret ∧
      f.ruleId = "secret-api-key") ∧
    (∀ f ∈ (mixedKeyScan rules).findings, ∀ stored, f.Stores 2 stored →
      ∃ kept, kept <+: mixedKeyLine.before ∧ stored = String.ofList
        (Text.truncate 240 (Text.trim (kept ++ Limits.default.placeholder.toList)))) ∧
    (mixedKeyScan rules).findings.map (fun f => (f.ruleId, f.contextLine, f.context.map (·.text))) =
      [("suspicious-eval", "eval(x)", ["api_key='a', [REDACTED]"]),
        ("secret-api-key", "api_key='a', [REDACTED]", []),
        ("suspicious-eval", "api_key='a', [REDACTED]", ["eval(x)"])] := by
  obtain ⟨rules, hcompile, hkeys⟩ := api_keys_found_and_cut
  obtain ⟨same, hsame, hscan, hfindings⟩ : ∃ rules, RuleSet.compile defaultRules = .ok rules ∧
      mixedKeyScan rules = .scanned (mixedKeyScan rules).findings ∧
      (mixedKeyScan rules).findings.map
          (fun f => (f.ruleId, f.contextLine, f.context.map (·.text))) =
        [("suspicious-eval", "eval(x)", ["api_key='a', [REDACTED]"]),
          ("secret-api-key", "api_key='a', [REDACTED]", []),
          ("suspicious-eval", "api_key='a', [REDACTED]", ["eval(x)"])] := by
    decide +kernel
  obtain rfl := Except.ok.inj (hcompile.symm.trans hsame)
  have hline : (mixedKeyLine.text, 2) ∈ (linesOf mixedKeyContent).zipIdx 1 := by
    rw [mixedKeyContent, linesOf_toUTF8]
    decide +kernel
  obtain ⟨hfound, hcut⟩ := hkeys mixedKeyLine "bot.py" mixedKeyContent 0 .default _ 2 hscan hline
  exact ⟨rules, hcompile, hscan, hline, hfound, hcut, hfindings⟩

end Appraisal.Scan
