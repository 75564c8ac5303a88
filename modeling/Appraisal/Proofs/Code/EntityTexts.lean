import Appraisal.Proofs.Pattern.Openings
import Appraisal.Proofs.Text.Lines
import Appraisal.Python.Definitions
import Appraisal.Report.Basic
import Appraisal.Scan.Defaults

set_option autoImplicit false

/-!
# What the texts of entities show

Signatures and docstrings are made from the definitions as they are written, and nothing in them is
redacted. A credential that stands in a base, in a parameter or in the docstring is therefore
shown, and one is shown only if its definition holds it: no match comes up where the parts
of a signature are put together, but for a value that one part begins and another ends.
-/
namespace Appraisal

namespace Code

def Definition.parts (d : Definition) : List (List Char) :=
  match d.form with
  | .moduleForm => []
  | .classForm => ("class ".toList ++ d.name) :: d.bases
  | .functionForm => ("def ".toList ++ d.name) :: d.parameters

/-- A word that cannot reach over a separator. -/
structure Unbroken (w : List Char) : Prop where
  start : ∃ c u, w = c :: u ∧ c ∉ [' ']
  inner : ∀ c ∈ [',', '(', ')'], c ∉ w

theorem infix_of_infix_append_cons {w a b : List Char} {c : Char} (hc : c ∉ w)
    (h : w <:+: a ++ c :: b) : w <:+: a ∨ w <:+: b := by
  -- a word that ends in `c :: b` without being a piece of `b` begins with `c`
  have hnil {u : List Char} (hu : u <+: c :: b) (hcu : c ∉ u) : u = [] := by
    rcases List.prefix_cons_iff.1 hu with rfl | ⟨t, rfl, -⟩
    · rfl
    · exact absurd List.mem_cons_self hcu
  rcases List.infix_append_iff.1 h with h | h | ⟨u, v, rfl, hu, hv⟩
  · exact .inl h
  · rcases List.infix_cons_iff.1 h with h | h
    · exact .inl (hnil h hc ▸ List.nil_infix)
    · exact .inr h
  · obtain rfl := hnil hv fun hcv => hc (List.mem_append_right u hcv)
    rw [List.append_nil]
    exact .inl hu.isInfix

namespace Unbroken

variable {w : List Char}

theorem ne_nil (h : Unbroken w) : w ≠ [] := by
  obtain ⟨c, u, rfl, -⟩ := h.start
  exact List.cons_ne_nil c u

theorem infix_of_infix_space (h : Unbroken w) {cs : List Char} (hw : w <:+: ' ' :: cs) :
    w <:+: cs := by
  refine (List.infix_cons_iff.1 hw).resolve_left fun hspace => ?_
  obtain ⟨c, u, rfl, hc⟩ := h.start
  exact hc (List.mem_singleton.2 (List.cons_prefix_cons.1 hspace).1)

theorem infix_commaSeparated (h : Unbroken w) {texts : List (List Char)}
    (hw : w <:+: commaSeparated texts) : ∃ t ∈ texts, w <:+: t := by
  induction texts using commaSeparated.induct with
  | case1 => exact absurd (List.infix_nil.1 hw) h.ne_nil
  | case2 t => exact ⟨t, List.mem_singleton.2 rfl, hw⟩
  | case3 t rest hrest ih =>
    rw [commaSeparated] at hw
    · rcases infix_of_infix_append_cons (h.inner ',' (by simp)) hw with hw | hw
      · exact ⟨t, List.mem_cons_self, hw⟩
      · obtain ⟨u, hu, hwu⟩ := ih (h.infix_of_infix_space hw)
        exact ⟨u, List.mem_cons_of_mem t hu, hwu⟩
    · exact hrest

theorem infix_bracketed (h : Unbroken w) {head : List Char} {texts : List (List Char)}
    (hw : w <:+: head ++ '(' :: commaSeparated texts ++ [')']) : ∃ t ∈ head :: texts, w <:+: t := by
  rcases infix_of_infix_append_cons (h.inner ')' (by simp)) hw with hw | hw
  · rcases infix_of_infix_append_cons (h.inner '(' (by simp)) hw with hw | hw
    · exact ⟨head, List.mem_cons_self, hw⟩
    · obtain ⟨t, ht, hwt⟩ := h.infix_commaSeparated hw
      exact ⟨t, List.mem_cons_of_mem head ht, hwt⟩
  · exact absurd (List.infix_nil.1 hw) h.ne_nil

theorem infix_signature (h : Unbroken w) {d : Definition} (hw : w <:+: d.signature) :
    ∃ part ∈ d.parts, w <:+: part := by
  obtain ⟨form, name, line, bases, decorators, parameters, docstring?, children⟩ := d
  cases form with
  | moduleForm => exact absurd (List.infix_nil.1 hw) h.ne_nil
  | classForm =>
    cases bases with
    | nil => exact ⟨_, List.mem_cons_self, hw⟩
    | cons base bases => exact h.infix_bracketed hw
  | functionForm => exact h.infix_bracketed hw

end Unbroken

theorem infix_commaSeparated_of_mem {t : List Char} {texts : List (List Char)} (ht : t ∈ texts) :
    t <:+: commaSeparated texts := by
  induction texts using commaSeparated.induct with
  | case1 => cases ht
  | case2 u => rw [List.mem_singleton.1 ht]; exact List.infix_rfl
  | case3 u rest hrest ih =>
    rw [commaSeparated]
    · rcases List.mem_cons.1 ht with rfl | ht
      · exact (List.prefix_append _ _).isInfix
      · exact (ih ht).trans ⟨u ++ [',', ' '], [], by simp⟩
    · exact hrest

theorem infix_bracketed_of_mem {head t : List Char} {texts : List (List Char)}
    (ht : t ∈ head :: texts) : t <:+: head ++ '(' :: commaSeparated texts ++ [')'] := by
  rcases List.mem_cons.1 ht with rfl | ht
  · exact ⟨[], '(' :: commaSeparated texts ++ [')'], by simp⟩
  · exact (infix_commaSeparated_of_mem ht).trans ⟨head ++ ['('], [')'], by simp⟩

theorem infix_signature_of_mem {d : Definition} {part : List Char} (h : part ∈ d.parts) :
    part <:+: d.signature := by
  obtain ⟨form, name, line, bases, decorators, parameters, docstring?, children⟩ := d
  cases form with
  | moduleForm => cases h
  | classForm =>
    cases bases with
    | nil => rw [List.mem_singleton.1 h]; exact List.infix_rfl
    | cons base bases => exact infix_bracketed_of_mem h
  | functionForm => exact infix_bracketed_of_mem h

/-- A match is seen to lie within one of the parts of a signature. -/
def staysInPart (r : Pattern) : Bool :=
  r.isFloating && r.startsOutside [' '] && r.avoids [',', '(', ')']

theorem isFloating_of_staysInPart {r : Pattern} (hr : staysInPart r = true) :
    r.isFloating = true := by
  simp only [staysInPart, Bool.and_eq_true] at hr
  exact hr.1.1

theorem occurs_signature_iff {r : Pattern} (hr : staysInPart r = true) (d : Definition) :
    r.Occurs d.signature ↔ ∃ part ∈ d.parts, r.Occurs part := by
  have hfloat := isFloating_of_staysInPart hr
  simp only [staysInPart, Bool.and_eq_true] at hr
  constructor
  · intro h
    obtain ⟨w, hw, hacc⟩ := Pattern.exists_infix_of_occurs h
    have hunbroken : Unbroken w :=
      ⟨hacc.exists_first hr.1.2, hacc.not_mem_of_avoids hr.2⟩
    obtain ⟨part, hpart, hwp⟩ := hunbroken.infix_signature hw
    exact ⟨part, hpart, (Pattern.occurs_iff hfloat part).2 ⟨w, hwp, hacc⟩⟩
  · rintro ⟨part, hpart, h⟩
    exact h.of_isInfix hfloat (infix_signature_of_mem hpart)

def credentialRules : List Scan.Rule := Scan.defaultRules.filter
  (fun rule => rule.id ∈ ["secret-api-key", "secret-password", "secret-token"])

/-- So many items of these rules come before the value: how case counts, the name, a colon or an
equals sign with blanks around it, and a quote. -/
def itemsBeforeValue : Nat := 6

/-- A part of the signature gives a quoted value to the name of a credential, as far as its quote,
or the docstring has a match. -/
def Definition.holdsCredential (pattern : Pattern) (d : Definition) : Bool :=
  d.parts.any (fun part => ((pattern.opening itemsBeforeValue).find? part).isSome) ||
    d.docstring?.any (fun text => (pattern.find? text).isSome)

def Entity.shownTexts (e : Entity) : List String :=
  e.docstring?.toList ++ [e.signature, (ListedEntity.ofEntity e).signature,
    (ListedEntity.ofEntity e).description]

theorem find?_isSome_iff (r : Pattern) (cs : List Char) :
    (r.find? cs).isSome = true ↔ r.Occurs cs := by
  rw [Option.isSome_iff_ne_none, Ne, Pattern.find?_eq_none_iff,
    Classical.not_not]

theorem holdsCredential_iff (r : Pattern) (d : Definition) : d.holdsCredential r = true ↔
    (∃ part ∈ d.parts, (r.opening itemsBeforeValue).Occurs part) ∨
      ∃ text, d.docstring? = some text ∧ r.Occurs text := by
  simp only [Definition.holdsCredential, Bool.or_eq_true, List.any_eq_true, Option.any_eq_true,
    find?_isSome_iff]

variable {r : Pattern} (c : Classifier) (path : String) (s : Scoped)

theorem docstring_isInfix {shown : String} (h : (c.entity path s).docstring? = some shown) :
    ∃ text, s.definition.docstring? = some text ∧ shown.toList <:+: text := by
  obtain ⟨text, htext, rfl⟩ := Option.map_eq_some_iff.1 h
  rw [String.toList_ofList]
  exact ⟨text, htext, (Text.truncate_isPrefix c.maxDocstring text).isInfix⟩

theorem shown_isInfix {text : String} (h : text ∈ (c.entity path s).shownTexts) :
    text.toList <:+: s.definition.signature ∨
      ∃ docstring, s.definition.docstring? = some docstring ∧ text.toList <:+: docstring := by
  have hsignature : (c.entity path s).signature.toList <:+: s.definition.signature :=
    String.toList_ofList ▸ List.infix_rfl
  simp only [Entity.shownTexts, List.mem_append, Option.mem_toList, List.mem_cons,
    List.not_mem_nil, or_false] at h
  rcases h with h | rfl | rfl | rfl
  · exact .inr (docstring_isInfix c path s h)
  · exact .inl hsignature
  · exact .inl hsignature
  · rw [ListedEntity.ofEntity, String.toList_ofList]
    cases hdocstring : (c.entity path s).docstring? with
    | none => exact .inl List.nil_infix
    | some shown =>
      obtain ⟨docstring, heq, hpiece⟩ := docstring_isInfix c path s hdocstring
      exact .inr ⟨docstring, heq, (Text.firstLine_isInfix shown.toList).trans hpiece⟩

theorem holdsCredential_of_shown (hfloat : r.isFloating = true)
    (hopening : staysInPart (r.opening itemsBeforeValue) = true) {text : String}
    (htext : text ∈ (c.entity path s).shownTexts) (hocc : r.Occurs text.toList) :
    s.definition.holdsCredential r = true := by
  rw [holdsCredential_iff]
  rcases shown_isInfix c path s htext with hpiece | ⟨docstring, heq, hpiece⟩
  · have hopeningOcc := (hocc.of_isInfix hfloat hpiece).opening (isFloating_of_staysInPart hopening)
    exact .inl ((occurs_signature_iff hopening s.definition).1 hopeningOcc)
  · exact .inr ⟨docstring, heq, hocc.of_isInfix hfloat hpiece⟩

theorem exists_scoped_of_mem_entities {source : List Char} {grammar : Grammar} {e : Entity}
    (h : e ∈ (classifyFile path source c grammar).entities) :
    ∃ tree, grammar.definitions path source = .ok tree ∧ ∃ s ∈ tree.walk, e = c.entity path s := by
  unfold classifyFile at h
  cases htree : grammar.definitions path source with
  | error error =>
    rw [htree] at h
    cases h
  | ok tree =>
    rw [htree] at h
    obtain ⟨s, hs, rfl⟩ := List.mem_map.1 h
    exact ⟨tree, rfl, s, (List.mem_filter.1 hs).1, rfl⟩

theorem credentialRules_stayInPart : credentialRules.all (fun rule =>
    (Pattern.read? rule.pattern.toList).any (fun pattern =>
      pattern.isFloating && staysInPart (pattern.opening itemsBeforeValue) &&
        (rule.id == "secret-password" || staysInPart pattern))) = true := by
  decide +kernel

/-- Entities of a Python file show a credential only if their definitions hold one. What a part of
a signature holds is shown as it is; of keys and tokens nothing else is. -/
theorem entities_show_credentials_of_definitions :
    ∀ rule ∈ credentialRules, ∃ pattern, Pattern.read? rule.pattern.toList = some pattern ∧
      ∀ (path : String) (source : List Char) (v : Vocabulary) (maxDocstring : Nat),
        ∀ e ∈ (classifyFile path source (.ofVocabulary v maxDocstring) Python.grammar).entities,
          ∃ tree, Python.grammar.definitions path source = .ok tree ∧
            ∃ s ∈ tree.walk, e = (Classifier.ofVocabulary v maxDocstring).entity path s ∧
              (s.definition.holdsCredential pattern = false →
                ∀ text ∈ e.shownTexts, pattern.find? text.toList = none) ∧
              ((∃ part ∈ s.definition.parts, pattern.Occurs part) →
                pattern.Occurs e.signature.toList) ∧
              (rule.id ≠ "secret-password" → pattern.Occurs e.signature.toList →
                ∃ part ∈ s.definition.parts, pattern.Occurs part) := by
  intro rule hrule
  obtain ⟨pattern, hread, hchecks⟩ :=
    (Option.any_eq_true _ _).1 (List.all_eq_true.1 credentialRules_stayInPart rule hrule)
  simp only [Bool.and_eq_true, Bool.or_eq_true, beq_iff_eq] at hchecks
  obtain ⟨⟨hfloat, hopening⟩, hwhole⟩ := hchecks
  refine ⟨pattern, hread, fun path source v maxDocstring e he => ?_⟩
  obtain ⟨tree, htree, s, hs, rfl⟩ := exists_scoped_of_mem_entities _ path he
  have hsignature : ((Classifier.ofVocabulary v maxDocstring).entity path s).signature.toList =
      s.definition.signature := String.toList_ofList
  refine ⟨tree, htree, s, hs, rfl, fun hnone text htext => ?_, ?_, fun hid hocc => ?_⟩
  · rw [Pattern.find?_eq_none_iff]
    intro hocc
    rw [holdsCredential_of_shown _ path s hfloat hopening htext hocc] at hnone
    cases hnone
  · rintro ⟨part, hpart, hocc⟩
    rw [hsignature]
    exact hocc.of_isInfix hfloat (infix_signature_of_mem hpart)
  · rw [hsignature] at hocc
    exact (occurs_signature_iff (hwhole.resolve_left hid) s.definition).1 hocc

def quietSource : List Char :=
  "class Bot(Base, secret=None, name=\"trader\"):\n    \"\"\"Holds no token.\"\"\"\n".toList

theorem quietSource_shows_none :
    (classifyFile "bot.py" quietSource (.ofVocabulary .default 500) Python.grammar).entities.map
        Entity.signature = ["class Bot(Base, secret=None, name=\"trader\")"] ∧
      ∀ rule ∈ credentialRules, ∃ pattern, Pattern.read? rule.pattern.toList = some pattern ∧
        ∀ e ∈ (classifyFile "bot.py" quietSource (.ofVocabulary .default 500)
          Python.grammar).entities,
          ∀ text ∈ e.shownTexts, pattern.find? text.toList = none := by
  have hquiet : credentialRules.all (fun rule =>
      (Pattern.read? rule.pattern.toList).all (fun pattern =>
        (Python.grammar.definitions "bot.py" quietSource).toOption.all (fun tree =>
          tree.walk.all (fun s => !s.definition.holdsCredential pattern)))) = true := by
    decide +kernel
  refine ⟨by decide +kernel, fun rule hrule => ?_⟩
  obtain ⟨pattern, hread, hshown⟩ := entities_show_credentials_of_definitions rule hrule
  refine ⟨pattern, hread, fun e he => ?_⟩
  obtain ⟨tree, htree, s, hs, -, hnone, -⟩ := hshown "bot.py" quietSource .default 500 e he
  have htrees := List.all_eq_true.1 hquiet rule hrule
  rw [hread, htree] at htrees
  exact hnone (by simpa using List.all_eq_true.1 htrees s hs)

def clientSource : List Char :=
  ("class Client(Base, password=\"hunter2hunter2\"):\n" ++
    "    \"\"\"Connects with token = 'AAAABBBBCCCCDDDDEEEEFFFF'.\"\"\"\n").toList

theorem clientSource_shows_credentials :
    ∃ e ∈ (classifyFile "bot.py" clientSource (.ofVocabulary .default 500)
      Python.grammar).entities,
      (∃ rule ∈ credentialRules, rule.id = "secret-password" ∧
        ∃ pattern, Pattern.read? rule.pattern.toList = some pattern ∧
          pattern.Occurs e.signature.toList) ∧
      ∃ rule ∈ credentialRules, rule.id = "secret-token" ∧
        ∃ pattern, Pattern.read? rule.pattern.toList = some pattern ∧
          (∃ text, e.docstring? = some text ∧ pattern.Occurs text.toList) ∧
            pattern.Occurs (ListedEntity.ofEntity e).description.toList := by
  have hshown : (classifyFile "bot.py" clientSource (.ofVocabulary .default 500)
      Python.grammar).entities.any (fun e =>
        credentialRules.any (fun rule => rule.id == "secret-password" &&
          (Pattern.read? rule.pattern.toList).any (fun pattern =>
            (pattern.find? e.signature.toList).isSome)) &&
        credentialRules.any (fun rule => rule.id == "secret-token" &&
          (Pattern.read? rule.pattern.toList).any (fun pattern =>
            e.docstring?.any (fun text => (pattern.find? text.toList).isSome) &&
              (pattern.find? (ListedEntity.ofEntity e).description.toList).isSome))) = true := by
    decide +kernel
  simp only [List.any_eq_true, Bool.and_eq_true, Option.any_eq_true, find?_isSome_iff,
    beq_iff_eq] at hshown
  exact hshown

end Code

end Appraisal
