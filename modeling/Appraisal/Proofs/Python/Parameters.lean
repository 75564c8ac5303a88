import Appraisal.Proofs.Python.SourceOrder
import Appraisal.Proofs.Python.Targets

set_option autoImplicit false

namespace Appraisal.Python

open Code Reading

namespace Parameter

/-- The name alone, with its stars. Separators, comments and joined lines have none. -/
def ownName? : Parameter → Option (List Char)
  | .named target _ _ => some target
  | .starred stars _ name _ => some (stars.text ++ name)
  | .keywordOnly | .positionalOnly | .comment _ | .joint _ => none

def IsTight : Parameter → Prop
  | .starred _ between _ _ => between = []
  | .joint _ => False
  | .named _ _ _ | .keywordOnly | .positionalOnly | .comment _ => True

theorem name?_of_isTight {p : Parameter} (h : p.IsTight) : p.name? = p.ownName? := by
  cases p with
  | starred stars between name annotation? =>
    obtain rfl : between = [] := h
    rw [name?, ownName?, List.append_nil]
  | joint text => exact absurd h id
  | named | keywordOnly | positionalOnly | comment => rfl

end Parameter

theorem length_ownNames_le (ps : List Parameter) :
    (ps.filterMap Parameter.ownName?).length ≤ (parameterNames ps).length := by
  induction ps with
  | nil => exact Nat.le_refl 0
  | cons p rest ih =>
    cases p with
    | named | starred => exact Nat.succ_le_succ ih
    | joint => exact Nat.le_succ_of_le ih
    | keywordOnly | positionalOnly | comment => exact ih

/-- The names alone are listed exactly where nothing stands between a star and its name and no line
is joined. -/
theorem parameterNames_eq_iff {ps : List Parameter} :
    parameterNames ps = ps.filterMap Parameter.ownName? ↔ ∀ p ∈ ps, p.IsTight := by
  constructor
  · intro h
    induction ps with
    | nil => nofun
    | cons p rest ih =>
      rw [List.forall_mem_cons]
      cases p with
      | named => exact ⟨trivial, ih (List.cons.inj h).2⟩
      | starred stars between name annotation? =>
        obtain ⟨hname, hrest⟩ := List.cons.inj h
        rw [List.append_assoc, List.append_cancel_left_eq] at hname
        exact ⟨List.append_left_eq_self.1 hname, ih hrest⟩
      | joint text =>
        -- the joined line is one entry more than there are names
        have hlength : (parameterNames rest).length + 1 =
            (rest.filterMap Parameter.ownName?).length := congrArg List.length h
        have hle := length_ownNames_le rest
        omega
      | keywordOnly | positionalOnly | comment => exact ⟨trivial, ih h⟩
  · intro h
    exact List.filterMap_congr fun p hp => Parameter.name?_of_isTight (h p hp)

theorem commaSeparated_eq (texts : List (List Char)) :
    commaSeparated texts = [',', ' '].intercalate texts := by
  induction texts with
  | nil => rfl
  | cons text rest ih =>
    cases rest with
    | nil => simp [commaSeparated, List.intercalate]
    | cons next rest =>
      rw [commaSeparated, ih]
      · simp [List.intercalate]
      · exact List.cons_ne_nil next rest

def Parameter.bare : Parameter → Parameter
  | .named target _ _ => .named target none none
  | .starred stars between name _ => .starred stars between name none
  | p => p

mutual

def Node.bare : Node → Node
  | .definition row column decorators line name (.functionOf parameters) body =>
    .definition row column decorators line name (.functionOf (parameters.map Parameter.bare))
      (bareAll body)
  | .definition row column decorators line name (.classOf bases) body =>
    .definition row column decorators line name (.classOf bases) (bareAll body)
  | .comment row column text => .comment row column text
  | .expression literal? alone => .expression literal? alone
  | .other => .other

def bareAll : List Node → List Node
  | [] => []
  | n :: rest => n.bare :: bareAll rest

end

theorem parameterNames_bare (ps : List Parameter) :
    parameterNames (ps.map Parameter.bare) = parameterNames ps := by
  rw [parameterNames, List.filterMap_map]
  exact List.filterMap_congr fun p _ => by cases p <;> rfl

theorem commentRun_bare (column row : Nat) (before : List Node) :
    commentRun column row (bareAll before) = commentRun column row before := by
  induction before generalizing row with
  | nil => rw [bareAll]
  | cons n rest ih =>
    rw [bareAll]
    rcases n with _ | _ | ⟨_, _, _, _, _, _ | _, _⟩ | _ <;>
      simp only [Node.bare, commentRun, ih]

theorem bodyDocstring?_bare (body : List Node) :
    bodyDocstring? (bareAll body) = bodyDocstring? body := by
  induction body with
  | nil => rw [bareAll]
  | cons n rest ih =>
    rw [bareAll]
    cases n with
    | comment row column text =>
      rw [Node.bare]
      exact ih
    | expression | other =>
      rw [Node.bare]
      rfl
    | definition row column decorators line name signature body =>
      cases signature <;>
      · rw [Node.bare]
        rfl

mutual

theorem definitionOf?_bare (before : List Node) : (n : Node) →
    definitionOf? (bareAll before) n.bare = definitionOf? before n
  | .comment _ _ _ | .expression _ _ | .other => by simp only [Node.bare, definitionOf?]
  | .definition row column decorators line name (.classOf bases) body => by
    have hbody := definitionsAmong_bare [] body
    rw [bareAll] at hbody
    simp only [Node.bare, definitionOf?, bodyDocstring?_bare, leadingComments?, commentRun_bare,
      hbody]
  | .definition row column decorators line name (.functionOf parameters) body => by
    simp only [Node.bare, definitionOf?, bodyDocstring?_bare, leadingComments?, commentRun_bare,
      parameterNames_bare]

theorem definitionsAmong_bare (before : List Node) : (ns : List Node) →
    definitionsAmong (bareAll before) (bareAll ns) = definitionsAmong before ns
  | [] => by rw [bareAll, definitionsAmong, definitionsAmong]
  | n :: rest => by
    have hrest := definitionsAmong_bare (n :: before) rest
    rw [bareAll] at hrest
    rw [bareAll, definitionsAmong_cons, definitionsAmong_cons, definitionOf?_bare before n, hrest]

end

inductive Spans : Cursor → List (List Char) → Cursor → Prop
  | nil {a b : Cursor} (h : a.Reaches b) : Spans a [] b
  | cons {a b start stop : Cursor} {texts : List (List Char)} (hstart : a.Reaches start)
      (hstop : start.Reaches stop) (h : Spans stop texts b) :
      Spans a (start.textTo stop :: texts) b

namespace Spans

variable {a b c : Cursor} {texts later : List (List Char)}

theorem of_reaches (hab : a.Reaches b) (h : Spans b texts c) : Spans a texts c := by
  cases h with
  | nil hbc => exact .nil (hab.trans hbc)
  | cons hstart hstop h => exact .cons (hab.trans hstart) hstop h

theorem append (h : Spans a texts b) (hlater : Spans b later c) :
    Spans a (texts ++ later) c := by
  induction h with
  | nil hab => exact hlater.of_reaches hab
  | cons hstart hstop _ ih => exact .cons hstart hstop (ih hlater)

theorem to_reaches (h : Spans a texts b) (hbc : b.Reaches c) : Spans a texts c :=
  List.append_nil texts ▸ h.append (.nil hbc)

end Spans

def Parameter.texts : Parameter → List (List Char)
  | .named target annotation? default? => target :: (annotation?.toList ++ default?.toList)
  | .starred stars between name annotation? =>
    (stars.text ++ between ++ name) :: annotation?.toList
  | .keywordOnly | .positionalOnly | .comment _ | .joint _ => []

/-- What stands in the place of a name. -/
def Parameter.target? : Parameter → Option (List Char)
  | .named target _ _ => some target
  | .starred _ _ name _ => some name
  | .keywordOnly | .positionalOnly | .comment _ | .joint _ => none

/-- The texts of parameters stand between two places, and only fillers between stars and names. -/
structure SpansAll (a : Cursor) (ps : List Parameter) (b : Cursor) : Prop where
  texts : Spans a (ps.flatMap Parameter.texts) b
  between : ∀ stars between name annotation?,
    .starred stars between name annotation? ∈ ps → IsFiller between
  targets : ∀ p ∈ ps, ∀ name ∈ p.target?, Expression.IsTarget name

namespace SpansAll

variable {a b c : Cursor} {p : Parameter} {ps later : List Parameter}

theorem nil (h : a.Reaches b) : SpansAll a [] b where
  texts := .nil h
  between := nofun
  targets := nofun

theorem of_texts (h : Spans a p.texts b)
    (hstarred : ∀ stars between name annotation?, .starred stars between name annotation? ≠ p)
    (htarget : ∀ name ∈ p.target?, Expression.IsTarget name) : SpansAll a [p] b where
  texts := by rwa [List.flatMap_singleton]
  between _ _ _ _ hmem := absurd (List.mem_singleton.1 hmem) (hstarred _ _ _ _)
  targets _ hmem := List.mem_singleton.1 hmem ▸ htarget

theorem append (h : SpansAll a ps b) (hlater : SpansAll b later c) :
    SpansAll a (ps ++ later) c where
  texts := by
    rw [List.flatMap_append]
    exact h.texts.append hlater.texts
  between stars between name annotation? hmem :=
    (List.mem_append.1 hmem).elim (h.between _ _ _ _) (hlater.between _ _ _ _)
  targets p hmem := (List.mem_append.1 hmem).elim (h.targets p) (hlater.targets p)

theorem to_reaches (h : SpansAll a ps b) (hbc : b.Reaches c) : SpansAll a ps c where
  texts := h.texts.to_reaches hbc
  between := h.between
  targets := h.targets

end SpansAll

section Places

open Expression

variable {g : Nested} {s t : State} {p : Parameter} {ps : List Parameter}
variable {text? : Option (List Char)} {typed : Bool} {follow : Follow}

theorem text_of_withText {α : Type} {q : Reading α} {a : α} {text : List Char}
    (h : (withText q).Yields s (a, text) t) :
    q.Yields s a t ∧ s.cursor.textTo t.cursor = text := by
  obtain ⟨b, v, hq, h⟩ := yields_bind.1 (yields_place_bind.1 h)
  rw [yields_place_bind] at h
  obtain ⟨heq, rfl⟩ := yields_pure.1 h
  obtain ⟨rfl, rfl⟩ := Prod.mk.inj heq
  exact ⟨hq, rfl⟩

theorem spans_of_behindSign? {sign : String} {q : Reading Phrase}
    (h : (behindSign? follow sign q).Yields s text? t) :
    Spans s.cursor text?.toList t.cursor := by
  obtain ⟨found, u, hsign, h⟩ := yields_bind.1 h
  split at h
  · obtain ⟨_, v, happroach, h⟩ := yields_bind.1 h
    obtain ⟨⟨_, text⟩, w, htext, h⟩ := yields_bind.1 h
    obtain ⟨rfl, rfl⟩ := yields_pure.1 h
    obtain ⟨hread, rfl⟩ := text_of_withText htext
    exact .cons (hsign.reaches.trans happroach.reaches) hread.reaches (.nil (.refl _))
  · obtain ⟨rfl, rfl⟩ := yields_pure.1 h
    exact .nil hsign.reaches

theorem spans_of_annotation? (h : (annotation? g typed follow).Yields s text? t) :
    Spans s.cursor text?.toList t.cursor := by
  rw [annotation?] at h
  split at h
  · exact spans_of_behindSign? h
  · obtain ⟨rfl, rfl⟩ := yields_pure.1 h
    exact .nil (.refl _)

theorem spansAll_of_starredParameter (hg : ReadsTargets g) {nextFollow : Follow} {stars : Stars}
    {a start : Cursor} (hnext : nextFollow = .closer ∨ nextFollow = .neither)
    (h : (starredParameter g typed nextFollow follow stars).Yields s p t)
    (hstart : a.Reaches start) (hstars : start.Reaches s.cursor)
    (htext : start.textTo s.cursor = stars.text) : SpansAll a [p] t.cursor := by
  obtain ⟨⟨_, between⟩, u, hbetween, h⟩ := yields_bind.1 h
  obtain ⟨⟨_, name⟩, v, hname, h⟩ := yields_bind.1 h
  obtain ⟨annotation?, w, hannotation, h⟩ := yields_bind.1 h
  obtain ⟨rfl, rfl⟩ := yields_pure.1 h
  obtain ⟨happroach, rfl⟩ := text_of_withText hbetween
  obtain ⟨htarget, rfl⟩ := text_of_withText hname
  have hlisted : stars.text ++ s.cursor.textTo u.cursor ++ u.cursor.textTo v.cursor =
      start.textTo v.cursor := by
    rw [← htext, Cursor.textTo_append hstars happroach.reaches,
      Cursor.textTo_append (hstars.trans happroach.reaches) htarget.reaches]
  refine ⟨?_, fun stars between name annotation? hmem => ?_, fun p hmem name hp => ?_⟩
  · rw [List.flatMap_singleton, Parameter.texts, hlisted]
    exact .cons hstart (hstars.trans (happroach.reaches.trans htarget.reaches))
      (spans_of_annotation? hannotation)
  · cases List.mem_singleton.1 hmem
    exact happroach.filler_of_approach
  · obtain rfl := List.mem_singleton.1 hmem
    obtain rfl := Option.some.inj hp
    exact hg _ _ _ _ htarget (happroach.startsToken_of_approach hnext)

theorem spansAll_of_parameter (hg : ReadsTargets g) (hfollow : follow = .closer ∨ follow = .neither)
    (hstarts : (s.lex .neither).token ≠ .dedent → StartsToken s.cursor.rest)
    (h : (parameter g typed follow).Yields s p t) : SpansAll s.cursor [p] t.cursor := by
  obtain ⟨star, u, hstar, h⟩ := yields_bind.1 h
  cases star with
  | true =>
    obtain ⟨start, hstart, hstars, htext⟩ := hstar.text_of_trySymbol
    rw [if_pos rfl, yields_peek_bind] at h
    split at h
    · exact spansAll_of_starredParameter hg hfollow h hstart hstars htext
    · obtain ⟨rfl, rfl⟩ := yields_pure.1 h
      exact .of_texts (.nil hstar.reaches) nofun nofun
  | false =>
    obtain rfl := hstar.state_of_trySymbol
    rw [if_neg Bool.false_ne_true] at h
    obtain ⟨stars, v, hstars, h⟩ := yields_bind.1 h
    cases stars with
    | true =>
      obtain ⟨start, hstart, hstars, htext⟩ := hstars.text_of_trySymbol
      rw [if_pos rfl] at h
      exact spansAll_of_starredParameter hg (.inr rfl) h hstart hstars htext
    | false =>
      obtain rfl := hstars.state_of_trySymbol
      rw [if_neg Bool.false_ne_true] at h
      obtain ⟨slash, w, hslash, h⟩ := yields_bind.1 h
      cases slash with
      | true =>
        obtain ⟨rfl, rfl⟩ := yields_pure.1 h
        exact .of_texts (.nil hslash.reaches) nofun nofun
      | false =>
        obtain rfl := hslash.state_of_trySymbol
        obtain ⟨⟨_, target⟩, x, htarget, h⟩ := yields_bind.1 h
        obtain ⟨annotation?, y, hannotation, h⟩ := yields_bind.1 h
        obtain ⟨default?, z, hdefault, h⟩ := yields_bind.1 h
        obtain ⟨rfl, rfl⟩ := yields_pure.1 h
        obtain ⟨hread, rfl⟩ := text_of_withText htarget
        refine .of_texts (.cons (.refl _) hread.reaches ?_) nofun fun name hname => ?_
        · exact (spans_of_annotation? hannotation).append (spans_of_behindSign? hdefault)
        · obtain rfl := Option.some.inj hname
          exact hg _ _ _ _ hread hstarts

theorem spansAll_of_extras {a b : Cursor} (extras : List Extra) (h : a.Reaches b) :
    SpansAll a (extras.map Parameter.ofExtra) b := by
  induction extras with
  | nil => exact .nil h
  | cons extra rest ih =>
    have hfirst : SpansAll a [Parameter.ofExtra extra] a := by
      cases extra with
      | comment | joint => exact .of_texts (.nil (.refl a)) nofun nofun
    exact hfirst.append ih

theorem spansAll_of_parametersRest (hg : ReadsTargets g)
    (h : (parametersRest g).Yields s ps t) : SpansAll s.cursor ps t.cursor := by
  -- after each round the parameters so far span the text up to where the reader is
  refine Yields.iterate (I := fun a u => SpansAll s.cursor a.1 u.cursor)
    (P := fun ps u => SpansAll s.cursor ps u.cursor) ?_ h (.nil (.refl _))
  rintro ⟨done, expected⟩ u x v hdone hround
  rw [yields_place_bind] at hround
  obtain ⟨extras, w, happroach, hround⟩ := yields_bind.1 hround
  have hpassed := hdone.append (spansAll_of_extras extras happroach.reaches)
  dsimp only at hround
  generalize done ++ extras.map Parameter.ofExtra = passed at hpassed hround
  obtain ⟨closed, w', hclosed, hround⟩ := yields_bind.1 hround
  cases closed with
  | true =>
    obtain ⟨rfl, rfl⟩ := yields_pure.1 hround
    exact hpassed.to_reaches hclosed.reaches
  | false =>
    obtain rfl := hclosed.state_of_trySymbol
    rw [if_neg Bool.false_ne_true] at hround
    split at hround
    · rw [yields_peek_bind] at hround
      split at hround
      · obtain ⟨p, v', hparameter, hround⟩ := yields_bind.1 hround
        obtain ⟨rfl, rfl⟩ := yields_pure.1 hround
        have hstarts := happroach.startsToken_of_approach (.inl rfl)
        exact hpassed.append (spansAll_of_parameter hg (.inl rfl) hstarts hparameter)
      · obtain ⟨_, _, -, hround⟩ := yields_bind.1 hround
        exact absurd hround yields_fail
    · obtain ⟨separated, w'', hseparated, hround⟩ := yields_bind.1 hround
      split at hround
      · obtain ⟨rfl, rfl⟩ := yields_pure.1 hround
        exact hpassed.to_reaches hseparated.reaches
      · obtain ⟨_, _, -, hround⟩ := yields_bind.1 hround
        exact absurd hround yields_fail

end Places

/-- The same parameter, perhaps with another annotation or default, or with none. -/
inductive Parameter.Retyped : Parameter → Parameter → Prop
  | named (target : List Char) (annotation? annotation'? default? default'? : Option (List Char)) :
      Retyped (.named target annotation? default?) (.named target annotation'? default'?)
  | starred (stars : Stars) (between name : List Char)
      (annotation? annotation'? : Option (List Char)) :
      Retyped (.starred stars between name annotation?) (.starred stars between name annotation'?)
  | same (p : Parameter) : Retyped p p

theorem map_bare_of_retyped {ps ps' : List Parameter}
    (h : List.Forall₂ Parameter.Retyped ps ps') :
    ps.map Parameter.bare = ps'.map Parameter.bare := by
  induction h with
  | nil => rfl
  | cons hhead _ ih =>
    rw [List.map_cons, List.map_cons, ih]
    cases hhead <;> rfl

theorem definitionsAmong_of_bare {nodes nodes' : List Node} (h : bareAll nodes = bareAll nodes') :
    definitionsAmong [] nodes = definitionsAmong [] nodes' := by
  rw [← definitionsAmong_bare, h, definitionsAmong_bare]

def functionNode (row column : Nat) (decorators : List (List Char)) (line : Nat)
    (name : List Char) (body : List Node) (ps : List Parameter) : Node :=
  .definition row column decorators line name (.functionOf ps) body

/-- A function is listed with the names of its parameters alone, in their order, exactly where
nothing stands between a star and its name and no line is joined; its signature holds what is listed
and nothing else. With other annotations and defaults it is the same definition and becomes the same
entity; this is so for all definitions of a file together. Of a parameter list that is read from a
source, what is listed, the annotations and the defaults are texts of the source one behind the
other, only blanks, joints and comments stand between stars and names, and each name is one word or
else holds a dot or a bracket. -/
theorem signature_lists_names (before : List Node) (row column : Nat)
    (decorators : List (List Char)) (line : Nat) (name : List Char) (body : List Node)
    (ps : List Parameter) :
    (∃ d, definitionOf? before (functionNode row column decorators line name body ps) = some d ∧
      d.form = .functionForm ∧ d.name = name ∧
      (d.parameters = ps.filterMap Parameter.ownName? ↔ ∀ p ∈ ps, p.IsTight) ∧
      d.parameters = ps.filterMap Parameter.name? ∧
      d.signature =
        "def ".toList ++ name ++ ['('] ++ [',', ' '].intercalate d.parameters ++ [')'] ∧
      ∀ ps', List.Forall₂ Parameter.Retyped ps ps' →
        definitionOf? before (functionNode row column decorators line name body ps') =
          some d) ∧
    (∀ nodes nodes', bareAll nodes = bareAll nodes' →
      ∀ (c : Classifier) (path : String) (lines : Nat),
        c.entities path ⟨.ofModule (definitionsAmong [] nodes), lines⟩ =
          c.entities path ⟨.ofModule (definitionsAmong [] nodes'), lines⟩) ∧
    ∀ length s read t, (Expression.parametersRest (Expression.nestedFor length)).Yields s read t →
      SpansAll s.cursor read t.cursor := by
  refine ⟨⟨_, rfl, rfl, rfl, parameterNames_eq_iff, rfl, ?_, fun ps' h => ?_⟩,
    fun nodes nodes' h c path lines => by rw [definitionsAmong_of_bare h],
    fun length s read t h =>
      spansAll_of_parametersRest (Expression.readsTargets_readNested _ _) h⟩
  · simp only [Definition.signature, commaSeparated_eq, List.append_assoc, List.cons_append,
      List.nil_append]
  · have hnames : parameterNames ps' = parameterNames ps := by
      rw [← parameterNames_bare, ← map_bare_of_retyped h, parameterNames_bare]
    simp only [functionNode, definitionOf?, hnames]

def orderText : List Char :=
  "symbol: str, /, qty=1, # lots\n *limits, note: str = 'x', **extra: int)".toList

def orderParameters : List Parameter := [
  .named "symbol".toList (some "str".toList) none, .positionalOnly,
  .named "qty".toList none (some "1".toList), .comment "# lots".toList,
  .starred .one [] "limits".toList none,
  .named "note".toList (some "str".toList) (some "'x'".toList),
  .starred .two [] "extra".toList (some "int".toList)]

def orderState : State := ⟨.start orderText, [], false, false⟩

theorem read_orderText : ∃ t, (Expression.parametersRest
    (Expression.nestedFor orderText.length)).Yields orderState orderParameters t := by
  have hvalue : ((Expression.parametersRest (Expression.nestedFor orderText.length))
      orderState).toOption.map Step.value = some orderParameters := by
    decide +kernel
  obtain ⟨r, hread, hvalue⟩ := Option.map_eq_some_iff.1 hvalue
  exact ⟨r.state, r, ok_of_toOption hread, hvalue, rfl⟩

def untypedParameters : List Parameter := [
  .named "symbol".toList none none, .positionalOnly,
  .named "qty".toList none (some "2".toList), .comment "# lots".toList,
  .starred .one [] "limits".toList (some "float".toList),
  .named "note".toList none none,
  .starred .two [] "extra".toList none]

theorem retyped_orderParameters :
    List.Forall₂ Parameter.Retyped orderParameters untypedParameters :=
  .cons (.named _ _ _ _ _) <| .cons (.same _) <| .cons (.named _ _ _ _ _) <| .cons (.same _) <|
    .cons (.starred _ _ _ _ _) <| .cons (.named _ _ _ _ _) <| .cons (.starred _ _ _ _ _) .nil

theorem signature_of_order :
    (∃ d, definitionOf? [] (functionNode 0 0 [] 0 "order".toList [] orderParameters) = some d ∧
      d.parameters = ["symbol", "qty", "*limits", "note", "**extra"].map String.toList ∧
      d.signature = "def order(symbol, qty, *limits, note, **extra)".toList ∧
      definitionOf? [] (functionNode 0 0 [] 0 "order".toList [] untypedParameters) = some d) ∧
    (Classifier.ofVocabulary .default 4).entities "bot.py" ⟨.ofModule (definitionsAmong []
        [functionNode 0 0 [] 0 "order".toList [] orderParameters]), 2⟩ =
      (Classifier.ofVocabulary .default 4).entities "bot.py" ⟨.ofModule (definitionsAmong []
        [functionNode 0 0 [] 0 "order".toList [] untypedParameters]), 2⟩ ∧
    ∃ t, SpansAll orderState.cursor orderParameters t := by
  obtain ⟨⟨d, hd, -, -, hnames, -, hsignature, hretyped⟩, hfile, hread⟩ :=
    signature_lists_names [] 0 0 [] 0 "order".toList [] orderParameters
  have htight : ∀ p ∈ orderParameters, p.IsTight := by
    simp [orderParameters, Parameter.IsTight]
  have hparameters := hnames.2 htight
  obtain ⟨t, ht⟩ := read_orderText
  refine ⟨⟨d, hd, hparameters, ?_, hretyped _ retyped_orderParameters⟩, hfile _ _ ?_ _ _ _, _,
    hread _ _ _ _ ht⟩
  · rw [hsignature, hparameters]
    decide
  · simp only [bareAll, functionNode, Node.bare, map_bare_of_retyped retyped_orderParameters]

def commentedSource : List Char := "def f(*  # c\n args):\n    pass\n".toList

def Node.parameters : Node → List Parameter
  | .definition _ _ _ _ _ (.functionOf ps) _ => ps
  | _ => []

/-- The comment behind the star is listed with the name. -/
theorem comment_listed_with_name : ∃ tree nodes d n,
    grammar.definitions "a.py" commentedSource = .ok tree ∧
      read commentedSource = .ok nodes ∧ tree.definitions = [d] ∧ nodes = [n] ∧
      n.parameters.filterMap Parameter.ownName? = ["*args".toList] ∧
      d.parameters ≠ n.parameters.filterMap Parameter.ownName? ∧
      d.signature = "def f(*  # c\n args)".toList ∧ d.signature ≠ "def f(*args)".toList := by
  have hlisted : (grammar.definitions "a.py" commentedSource).toOption.map
      (fun tree => tree.definitions.map fun d => (d.parameters, d.signature)) =
        some [(["*  # c\n args".toList], "def f(*  # c\n args)".toList)] := by
    decide +kernel
  have hparameters : (read commentedSource).toOption.map (fun nodes =>
      nodes.map fun n => n.parameters.filterMap Parameter.ownName?) =
        some [["*args".toList]] := by
    decide +kernel
  obtain ⟨tree, htree, hdefinitions⟩ := Option.map_eq_some_iff.1 hlisted
  obtain ⟨nodes, hnodes, hnames⟩ := Option.map_eq_some_iff.1 hparameters
  obtain ⟨d, hd, hd'⟩ := List.map_eq_singleton_iff.1 hdefinitions
  obtain ⟨n, hn, hown⟩ := List.map_eq_singleton_iff.1 hnames
  obtain ⟨hlisted, hsignature⟩ := Prod.mk.inj hd'
  refine ⟨tree, nodes, d, n, ok_of_toOption htree, ok_of_toOption hnodes, hd, hn, hown, ?_,
    hsignature, ?_⟩
  · rw [hlisted, hown]
    decide
  · rw [hsignature]
    decide

end Appraisal.Python
