import Appraisal.Proofs.Scan.Compiled
import Appraisal.Proofs.Scan.Stores
import Appraisal.Settings.Config

set_option autoImplicit false

namespace Appraisal

namespace Settings

theorem exists_of_bind_ok {ε α β : Type} {x : Except ε α} {f : α → Except ε β} {b : β}
    (h : x >>= f = .ok b) : ∃ a, x = .ok a ∧ f a = .ok b := by
  cases x with
  | error e => cases h
  | ok a => exact ⟨a, rfl, h⟩

theorem ok_of_mapError {ε δ α : Type} {f : ε → δ} {x : Except ε α} {a : α}
    (h : x.mapError f = .ok a) : x = .ok a := by
  cases x with
  | error e => cases h
  | ok b => exact congrArg Except.ok (Except.ok.inj h)

variable {c : Config} {s : Settings}

theorem rules_of_validate (h : c.validate = .ok s) :
    Scan.RuleSet.compile c.security.enabledRules = .ok s.rules ∧ s.limits = c.security.limits := by
  unfold Config.validate at h
  obtain ⟨rules, hrules, h⟩ := exists_of_bind_ok h
  iterate 6 replace ⟨_, _, h⟩ := exists_of_bind_ok h
  dsimp only at h
  split at h
  · cases h
  · replace ⟨_, _, h⟩ := exists_of_bind_ok h
    split at h
    · cases h
    · cases h
      exact ⟨ok_of_mapError hrules, rfl⟩

theorem secrets_of_validate (h : c.validate = .ok s) : s.rules.secrets.map Scan.Detector.rule =
    if c.security.scanSecrets then c.security.rules.filter (fun r => r.category == .secret)
    else [] := by
  rw [Scan.RuleSet.secrets_of_compile (rules_of_validate h).1, Security.enabledRules,
    List.filter_filter]
  cases hsecrets : c.security.scanSecrets with
  | true =>
    refine List.filter_congr fun r _ => ?_
    cases hr : r.category <;> simp [Security.enables, hr, hsecrets]
  | false =>
    simp only [Bool.false_eq_true, if_false, List.filter_eq_nil_iff]
    intro r _
    cases hr : r.category <;> simp [Security.enables, hr, hsecrets]

theorem detectors_of_validate_off (h : c.validate = .ok s)
    (hsecrets : c.security.scanSecrets = false) (hpatterns : c.security.scanPatterns = false) :
    s.rules.detectors = [] := by
  have hnone : c.security.enabledRules = [] := by
    refine List.filter_eq_nil_iff.2 fun r _ => ?_
    cases hr : r.category <;> simp [Security.enables, hr, hsecrets, hpatterns]
  have hrules := Scan.RuleSet.detectors_of_compile (rules_of_validate h).1
  rwa [hnone, List.map_eq_nil_iff] at hrules

variable {path : String} {content : ByteArray} {statedSize : Nat} {f : Scan.Finding} {n : Nat}
  {stored : String}

/-- The text is cut before each place at which a secret rule of the configuration matches the line,
whether the rule is switched on or not. -/
def Security.Cuts (security : Security) (line : List Char) (stored : String) : Prop :=
  ∀ rule ∈ security.rules, rule.category = .secret →
    ∃ pattern, Pattern.read? rule.pattern.toList = some pattern ∧
      ∀ i, pattern.MatchesAt line i →
        Scan.CutBefore security.limits.placeholder.toList line i stored

theorem cuts_of_scanSecrets (h : c.validate = .ok s) (hsecrets : c.security.scanSecrets = true)
    (line : List Char) : c.security.Cuts line
      (String.ofList (Scan.storedLine s.rules s.limits.placeholder.toList line)) := by
  obtain ⟨hcompile, hlimits⟩ := rules_of_validate h
  intro rule hrule hcategory
  have henabled : rule ∈ c.security.enabledRules :=
    List.mem_filter.2 ⟨hrule, by simp [Security.enables, hcategory, hsecrets]⟩
  obtain ⟨d, hd, rfl⟩ := Scan.RuleSet.exists_secret_of_compile hcompile henabled hcategory
  refine ⟨d.pattern, Scan.RuleSet.read?_of_compile hcompile d (List.mem_filter.1 hd).1,
    fun i hi => ?_⟩
  rw [← hlimits]
  exact Scan.cutBefore_of_secretAt ⟨d, hd, hi⟩ s.limits.placeholder.toList

/-- While secrets are looked for, or nothing is, whatever is stored is the text of a line that is
cut before each match of each secret rule of the configuration. -/
theorem stored_before_configured_secrets (c : Config) {s : Settings} (h : c.validate = .ok s)
    (hflags : c.security.scanSecrets = true ∨ c.security.scanPatterns = false) (path : String)
    (content : ByteArray) (statedSize : Nat) :
    ∀ f ∈ (Scan.scan path content statedSize s.rules s.limits).findings,
      ∀ n stored, f.Stores n stored →
        ∃ line, (line, n) ∈ (Scan.linesOf content).zipIdx 1 ∧ c.security.Cuts line stored := by
  intro f hf n stored hstored
  cases hsecrets : c.security.scanSecrets with
  | false =>
    -- no rule is left, so nothing is found
    have hpatterns := hflags.resolve_left (by simp [hsecrets])
    obtain ⟨text, -, hfindings⟩ :=
      Scan.exists_text_of_scanned (Scan.scanned_of_mem_findings hf)
    rw [hfindings, Scan.mem_textFindings, detectors_of_validate_off h hsecrets hpatterns] at hf
    simp at hf
  | true =>
    obtain ⟨line, hline, rfl⟩ := Scan.stores_of_mem_scan hf hstored
    exact ⟨line, hline, cuts_of_scanSecrets h hsecrets line⟩

/-- While only patterns are looked for, whatever is stored is the text of a line that is not cut at
all. -/
theorem stored_whole_of_secrets_off (h : c.validate = .ok s)
    (hsecrets : c.security.scanSecrets = false)
    (hf : f ∈ (Scan.scan path content statedSize s.rules s.limits).findings)
    (hstored : f.Stores n stored) : ∃ line, (line, n) ∈ (Scan.linesOf content).zipIdx 1 ∧
      stored = String.ofList (Text.truncate Scan.storedLimit (Text.trim line)) := by
  obtain ⟨line, hline, rfl⟩ := Scan.stores_of_mem_scan hf hstored
  have hrules := secrets_of_validate h
  rw [hsecrets, if_neg Bool.false_ne_true, List.map_eq_nil_iff] at hrules
  exact ⟨line, hline, by rw [Scan.storedLine_of_no_secrets hrules]⟩

def callConfig (scanSecrets : Bool) : Config :=
  { Config.default 1 with security := ⟨scanSecrets, true,
      [⟨"password", .secret, "password\\s*=", .high⟩, ⟨"exec", .suspicious, "exec\\(", .high⟩],
      .default⟩ }

def callContent : ByteArray := "exec(code)\npassword = \"hunter2hunter2\"\n".toUTF8

theorem validate_callConfig (scanSecrets : Bool) :
    ∃ s, (callConfig scanSecrets).validate = .ok s := by
  have hok : (callConfig scanSecrets).validate.toOption.isSome = true := by
    cases scanSecrets <;> decide +kernel
  cases hvalid : (callConfig scanSecrets).validate with
  | error e => simp [hvalid, Except.toOption] at hok
  | ok s => exact ⟨s, rfl⟩

theorem stored_before_password :
    ∃ s, (callConfig true).validate = .ok s ∧
      (callConfig true).security.scanSecrets = true ∧
      (Scan.scan "bot.py" callContent 0 s.rules s.limits).findings.map
        (fun f => (f.snippet, f.contextLine, f.context)) =
          [("exec(", "exec(code)", [⟨2, "[REDACTED]"⟩]), ("[REDACTED]", "[REDACTED]", [])] ∧
      ∀ f ∈ (Scan.scan "bot.py" callContent 0 s.rules s.limits).findings,
        ∀ n stored, f.Stores n stored → ∃ line, (line, n) ∈ (Scan.linesOf callContent).zipIdx 1 ∧
          (callConfig true).security.Cuts line stored := by
  obtain ⟨s, hvalid⟩ := validate_callConfig true
  have hfindings : (callConfig true).validate.toOption.map (fun s =>
      (Scan.scan "bot.py" callContent 0 s.rules s.limits).findings.map
        (fun f => (f.snippet, f.contextLine, f.context))) =
      some [("exec(", "exec(code)", [⟨2, "[REDACTED]"⟩]), ("[REDACTED]", "[REDACTED]", [])] := by
    decide +kernel
  rw [hvalid] at hfindings
  exact ⟨s, hvalid, rfl, Option.some.inj hfindings,
    stored_before_configured_secrets (callConfig true) hvalid (.inl rfl) "bot.py" callContent 0⟩

/-- With secrets switched off, the password on the line below a call is stored. -/
theorem password_stored_with_secrets_off :
    ∃ s, (callConfig false).validate = .ok s ∧
      ∃ f ∈ (Scan.scan "bot.py" callContent 0 s.rules s.limits).findings,
        ∃ line, (line, 2) ∈ (Scan.linesOf callContent).zipIdx 1 ∧
          f.Stores 2 (String.ofList line) ∧
          ∃ rule ∈ (callConfig false).security.rules, rule.category = .secret ∧
            ∃ pattern, Pattern.read? rule.pattern.toList = some pattern ∧
              pattern.MatchesAt line 0 ∧
              ¬ Scan.CutBefore (callConfig false).security.limits.placeholder.toList line 0
                (String.ofList line) := by
  obtain ⟨s, hvalid⟩ := validate_callConfig false
  have hcontexts : (callConfig false).validate.toOption.map (fun s =>
      (Scan.scan "bot.py" callContent 0 s.rules s.limits).findings.map (·.context)) =
      some [[⟨2, "password = \"hunter2hunter2\""⟩]] := by
    decide +kernel
  rw [hvalid] at hcontexts
  have hmem := Option.some.inj hcontexts ▸ List.mem_cons_self
  obtain ⟨f, hf, hcontext⟩ := List.mem_map.1 hmem
  have hfound : (Pattern.read? "password\\s*=".toList).any (fun pattern =>
      (pattern.find? "password = \"hunter2hunter2\"".toList).any (·.start = 0)) = true := by
    decide +kernel
  obtain ⟨pattern, hread, hfind⟩ := (Option.any_eq_true _ _).1 hfound
  obtain ⟨o, ho, hstart⟩ := (Option.any_eq_true _ _).1 hfind
  have hmatch := (Pattern.find?_start ho).1
  rw [of_decide_eq_true hstart] at hmatch
  refine ⟨s, hvalid, f, hf, "password = \"hunter2hunter2\"".toList, by decide +kernel, ?_,
    _, List.mem_cons_self, rfl, pattern, hread, hmatch, ?_⟩
  · rw [String.ofList_toList]
    exact .around (hcontext ▸ List.mem_cons_self)
  · rintro ⟨j, hj, hcut⟩
    obtain rfl := Nat.le_zero.1 hj
    revert hcut
    decide +kernel

end Settings

end Appraisal
