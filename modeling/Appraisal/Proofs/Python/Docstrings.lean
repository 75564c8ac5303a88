import Appraisal.Proofs.Python.Comments
import Appraisal.Proofs.Python.SourceOrder
import Appraisal.Proofs.Text.Blank
import Mathlib.Data.List.Chain

set_option autoImplicit false

namespace Appraisal.Python

structure Comment where
  row : Nat
  text : List Char

def Comment.node (column : Nat) (c : Comment) : Node := .comment c.row column c.text

/-- Comments at the column, of which each ends on the row above the next and the last on the row
above `row`, are what comes last before an element. -/
structure LeadsUp (row column : Nat) (siblings : List Node) (comments : List Comment) : Prop where
  last : comments.map (Comment.node column) <:+ siblings
  adjacent : (comments.map Comment.row ++ [row]).IsChain (fun above below => above + 1 = below)

structure IsLeadingBlock (row column : Nat) (siblings : List Node) (comments : List Comment) :
    Prop extends LeadsUp row column siblings comments where
  longest : ∀ others, LeadsUp row column siblings others → others <:+ comments

/-- What a comment says: behind all its signs and at most one space, and without blanks at the
end. -/
inductive Says (text line : List Char) : Prop
  | spaced (signs : Nat) (blanks : List Char)
      (split : text = List.replicate signs '#' ++ ' ' :: (line ++ blanks))
      (blank : Text.allBlank blanks = true)
      (visible : ∀ c ∈ line.getLast?, Text.isBlank c = false) : Says text line
  | tight (signs : Nat) (blanks : List Char)
      (split : text = List.replicate signs '#' ++ (line ++ blanks))
      (start : ∀ c ∈ (line ++ blanks).head?, c ≠ '#' ∧ c ≠ ' ')
      (blank : Text.allBlank blanks = true)
      (visible : ∀ c ∈ line.getLast?, Text.isBlank c = false) : Says text line

theorem commentText_of_spaced (signs : Nat) (rest : List Char) :
    commentText (List.replicate signs '#' ++ ' ' :: rest) = Text.trimEnd rest := by
  have hdrop : (List.replicate signs '#' ++ ' ' :: rest).dropWhile (· = '#') = ' ' :: rest :=
    Text.dropWhile_append_of_head (by simp) (by simp)
  rw [commentText, hdrop]
  rfl

theorem commentText_of_tight (signs : Nat) {rest : List Char}
    (h : ∀ c ∈ rest.head?, c ≠ '#' ∧ c ≠ ' ') :
    commentText (List.replicate signs '#' ++ rest) = Text.trimEnd rest := by
  have hdrop : (List.replicate signs '#' ++ rest).dropWhile (· = '#') = rest :=
    Text.dropWhile_append_of_head (by simp) fun c hc => by simpa using (h c hc).1
  rw [commentText, hdrop]
  split
  · next rest => exact absurd rfl (h ' ' rfl).2
  · rfl

theorem exists_signs (text : List Char) : ∃ signs rest,
    text = List.replicate signs '#' ++ rest ∧ ∀ c ∈ rest.head?, c ≠ '#' := by
  refine ⟨(text.takeWhile (· = '#')).length, text.dropWhile (· = '#'), ?_, fun c hc => ?_⟩
  · have hsigns : text.takeWhile (· = '#') =
        List.replicate (text.takeWhile (· = '#')).length '#' :=
      List.eq_replicate_iff.2 ⟨rfl, fun c hc => by simpa using List.mem_takeWhile_imp hc⟩
    rw [← hsigns, List.takeWhile_append_dropWhile]
  · have hhead := List.head?_dropWhile_not (fun c => decide (c = '#')) text
    rw [Option.mem_def.1 hc] at hhead
    simpa using hhead

theorem says_iff {text line : List Char} : Says text line ↔ line = commentText text := by
  constructor
  · rintro (⟨signs, blanks, rfl, hblank, hvisible⟩ | ⟨signs, blanks, rfl, hstart, hblank, hvisible⟩)
    · rw [commentText_of_spaced, Text.trimEnd_append hvisible hblank]
    · rw [commentText_of_tight signs hstart, Text.trimEnd_append hvisible hblank]
  · rintro rfl
    obtain ⟨signs, rest, rfl, hrest⟩ := exists_signs text
    by_cases hspace : rest.head? = some ' '
    · obtain ⟨rest, rfl⟩ := List.head?_eq_some_iff.1 hspace
      obtain ⟨blanks, hsplit, hblank⟩ := Text.exists_trimEnd_append rest
      rw [commentText_of_spaced]
      exact .spaced signs blanks (by rw [← hsplit]) hblank (Text.getLast?_trimEnd rest)
    · have hstart : ∀ c ∈ rest.head?, c ≠ '#' ∧ c ≠ ' ' := fun c hc =>
        ⟨hrest c hc, fun heq => hspace (heq ▸ hc)⟩
      obtain ⟨blanks, hsplit, hblank⟩ := Text.exists_trimEnd_append rest
      rw [commentText_of_tight signs hstart]
      exact .tight signs blanks (by rw [← hsplit]) (hsplit ▸ hstart) hblank
        (Text.getLast?_trimEnd rest)

def runOf (column : Nat) : (row : Nat) → (before : List Node) → List Comment
  | row, .comment r c text :: before =>
    if c = column ∧ r + 1 = row then ⟨r, text⟩ :: runOf column r before else []
  | _, _ => []

theorem commentRun_eq (column row : Nat) (before : List Node) :
    commentRun column row before = (runOf column row before).map (commentText ·.text) := by
  induction before generalizing row with
  | nil => rfl
  | cons n before ih =>
    cases n with
    | comment r c text =>
      rw [commentRun, runOf]
      split
      · rw [ih, List.map_cons]
      · rfl
    | expression | definition | other => rfl

theorem runOf_isPrefix (column row : Nat) (before : List Node) :
    (runOf column row before).map (Comment.node column) <+: before := by
  induction before generalizing row with
  | nil => exact List.prefix_refl []
  | cons n before ih =>
    cases n with
    | comment r c text =>
      rw [runOf]
      split
      · next h =>
        obtain ⟨rfl, -⟩ := h
        exact List.cons_prefix_cons.2 ⟨rfl, ih r⟩
      · exact List.nil_prefix
    | expression | definition | other => exact List.nil_prefix

theorem adjacent_runOf (column row : Nat) (before : List Node) :
    (row :: (runOf column row before).map Comment.row).IsChain
      (fun below above => above + 1 = below) := by
  induction before generalizing row with
  | nil => exact List.IsChain.singleton row
  | cons n before ih =>
    cases n with
    | comment r c text =>
      rw [runOf]
      split
      · next h => exact List.isChain_cons_cons.2 ⟨h.2, ih r⟩
      · exact List.IsChain.singleton row
    | expression | definition | other => exact List.IsChain.singleton row

theorem isPrefix_runOf {column row : Nat} {before : List Node} {others : List Comment}
    (hnearest : others.map (Comment.node column) <+: before)
    (hadjacent : (row :: others.map Comment.row).IsChain
      (fun below above => above + 1 = below)) :
    others <+: runOf column row before := by
  induction others generalizing row before with
  | nil => exact List.nil_prefix
  | cons c others ih =>
    obtain ⟨rest, rfl⟩ := hnearest
    obtain ⟨habove, hrest⟩ := List.isChain_cons_cons.1 hadjacent
    rw [List.map_cons, List.cons_append, Comment.node, runOf, if_pos ⟨rfl, habove⟩]
    exact List.cons_prefix_cons.2 ⟨rfl, ih (List.prefix_append _ _) hrest⟩

theorem leadsUp_iff {row column : Nat} {before : List Node} {run : List Comment} :
    LeadsUp row column before.reverse run.reverse ↔
      run.map (Comment.node column) <+: before ∧
        (row :: run.map Comment.row).IsChain (fun below above => above + 1 = below) := by
  have hrows : run.reverse.map Comment.row ++ [row] = (row :: run.map Comment.row).reverse := by
    rw [List.map_reverse, List.reverse_cons]
  constructor
  · rintro ⟨hlast, hadjacent⟩
    rw [List.map_reverse, List.reverse_suffix] at hlast
    rw [hrows, List.isChain_reverse] at hadjacent
    exact ⟨hlast, hadjacent⟩
  · rintro ⟨hnearest, hadjacent⟩
    refine ⟨?_, ?_⟩
    · rwa [List.map_reverse, List.reverse_suffix]
    · rwa [hrows, List.isChain_reverse]

theorem isLeadingBlock_runOf (row column : Nat) (before : List Node) :
    IsLeadingBlock row column before.reverse (runOf column row before).reverse where
  toLeadsUp := leadsUp_iff.2 ⟨runOf_isPrefix column row before, adjacent_runOf column row before⟩
  longest others h := by
    rw [← List.reverse_reverse others] at h
    obtain ⟨hnearest, hadjacent⟩ := leadsUp_iff.1 h
    rw [← List.reverse_reverse others, List.reverse_suffix]
    exact isPrefix_runOf hnearest hadjacent

theorem joinLines_eq (lines : List (List Char)) : joinLines lines = ['\n'].intercalate lines := by
  induction lines with
  | nil => rfl
  | cons line rest ih =>
    cases rest with
    | nil => simp [joinLines]
    | cons second rest =>
      rw [List.intercalate_cons_cons, ← ih, List.append_assoc]
      rfl

def IsBlockText (row column : Nat) (siblings : List Node) (text? : Option (List Char)) : Prop :=
  ∃ comments lines, IsLeadingBlock row column siblings comments ∧
    List.Forall₂ (fun c line => Says c.text line) comments lines ∧
    text? = if comments = [] then none else some (['\n'].intercalate lines)

theorem isBlockText_leadingComments? (row column : Nat) (siblings : List Node) :
    IsBlockText row column siblings (leadingComments? row column siblings.reverse) := by
  have hblock := isLeadingBlock_runOf row column siblings.reverse
  rw [List.reverse_reverse] at hblock
  refine ⟨_, (runOf column row siblings.reverse).reverse.map (commentText ·.text), hblock, ?_, ?_⟩
  · rw [List.forall₂_map_right_iff, List.forall₂_same]
    exact fun c _ => says_iff.2 rfl
  · rw [leadingComments?, commentRun_eq]
    cases runOf column row siblings.reverse with
    | nil => rfl
    | cons c run => rw [if_neg (by simp), ← joinLines_eq, List.map_reverse]; rfl

/-- Behind comments only, the body starts with expressions of which the first is this literal, and
with it alone or not. -/
def Opens (alone : Bool) (body : List Node) (literal : List Char) : Prop :=
  ∃ comments rest, body = comments ++ .expression (some literal) alone :: rest ∧
    ∀ n ∈ comments, ∃ row column text, n = .comment row column text

def openingLiteral? : List Node → Option (List Char × Bool)
  | .comment _ _ _ :: rest => openingLiteral? rest
  | .expression (some literal) alone :: _ => some (literal, alone)
  | _ => none

theorem opens_iff {alone : Bool} {body : List Node} {literal : List Char} :
    Opens alone body literal ↔ openingLiteral? body = some (literal, alone) := by
  constructor
  · rintro ⟨comments, rest, rfl, hcomments⟩
    induction comments with
    | nil => rfl
    | cons n comments ih =>
      obtain ⟨⟨row, column, text, rfl⟩, hrest⟩ := List.forall_mem_cons.1 hcomments
      exact ih hrest
  · intro h
    induction body with
    | nil => cases h
    | cons n rest ih =>
      cases n with
      | comment row column text =>
        obtain ⟨comments, behind, rfl, hcomments⟩ := ih h
        exact ⟨.comment row column text :: comments, behind, rfl,
          List.forall_mem_cons.2 ⟨⟨row, column, text, rfl⟩, hcomments⟩⟩
      | expression literal? alone' =>
        cases literal? with
        | none => cases h
        | some literal' =>
          cases h
          exact ⟨[], rest, rfl, nofun⟩
      | definition | other => cases h

def saidBy? (literal : List Char) : Option (List Char) :=
  if Text.allBlank (Text.unquote literal) then none else some (Text.trim (Text.unquote literal))

theorem bodyDocstring?_eq (body : List Node) :
    bodyDocstring? body = (openingLiteral? body).bind fun found => saidBy? found.1 := by
  induction body with
  | nil => rfl
  | cons n rest ih =>
    cases n with
    | comment row column text => exact ih
    | expression literal? alone =>
      cases literal? with
      | none => rfl
      | some literal =>
        change (if (Text.trim (Text.unquote literal)).isEmpty then none else _) = saidBy? literal
        simp only [saidBy?, List.isEmpty_iff, Text.trim_eq_nil_iff]
    | definition | other => rfl

structure Site where
  siblings : List Node
  row : Nat
  column : Nat
  body : List Node

/-- The definition is documented by a literal of which this holds, where that says something, and by
the comments before it everywhere else. -/
structure Site.DocumentedBy (site : Site) (holds : List Char → Prop)
    (docstring? : Option (List Char)) : Prop where
  of_literal : ∀ literal, holds literal → Text.allBlank (Text.unquote literal) = false →
    docstring? = some (Text.trim (Text.unquote literal))
  of_comments : (∀ literal, holds literal → Text.allBlank (Text.unquote literal) = true) →
    IsBlockText site.row site.column site.siblings docstring?

/-- A definition is documented by the literal that its body starts with. To count only a literal that
stands alone comes to the same, unless one with a comma behind it says something, and something else
than the comments. -/
structure Site.Documents (site : Site) (docstring? : Option (List Char)) : Prop where
  by_first : site.DocumentedBy (fun literal => ∃ alone, Opens alone site.body literal) docstring?
  by_alone_iff : site.DocumentedBy (Opens true site.body) docstring? ↔
    ∀ literal, Opens false site.body literal → Text.allBlank (Text.unquote literal) = false →
      IsBlockText site.row site.column site.siblings (some (Text.trim (Text.unquote literal)))

theorem Site.documentedBy_first (site : Site) :
    site.DocumentedBy (fun literal => ∃ alone, Opens alone site.body literal)
      ((bodyDocstring? site.body).or
        (leadingComments? site.row site.column site.siblings.reverse)) where
  of_literal literal hfirst hvisible := by
    obtain ⟨alone, hopens⟩ := hfirst
    rw [bodyDocstring?_eq, opens_iff.1 hopens, Option.bind_some, saidBy?,
      if_neg (by simp [hvisible])]
    rfl
  of_comments hblank := by
    have hnone : bodyDocstring? site.body = none := by
      rw [bodyDocstring?_eq]
      cases hopening : openingLiteral? site.body with
      | none => rfl
      | some found =>
        rw [Option.bind_some, saidBy?, if_pos (hblank found.1 ⟨found.2, opens_iff.2 hopening⟩)]
    rw [hnone, Option.none_or]
    exact isBlockText_leadingComments? _ _ _

theorem Site.DocumentedBy.documents {site : Site} {docstring? : Option (List Char)}
    (h : site.DocumentedBy (fun literal => ∃ alone, Opens alone site.body literal) docstring?) :
    site.Documents docstring? where
  by_first := h
  by_alone_iff := by
    constructor
    · intro hrule literal hopens hvisible
      have halone : ∀ other, ¬ Opens true site.body other := fun other hother => by
        cases (opens_iff.1 hopens).symm.trans (opens_iff.1 hother)
      rw [← h.of_literal literal ⟨false, hopens⟩ hvisible]
      exact hrule.of_comments fun other hother => absurd hother (halone other)
    · intro hpair
      refine ⟨fun literal hopens => h.of_literal literal ⟨true, hopens⟩, fun hblank => ?_⟩
      by_cases hvisible : ∃ literal, Opens false site.body literal ∧
          Text.allBlank (Text.unquote literal) = false
      · obtain ⟨literal, hopens, hvisible⟩ := hvisible
        rw [h.of_literal literal ⟨false, hopens⟩ hvisible]
        exact hpair literal hopens hvisible
      · refine h.of_comments fun literal hfirst => ?_
        obtain ⟨alone, hopens⟩ := hfirst
        cases alone with
        | false =>
          exact eq_true_of_ne_false fun hfalse => hvisible ⟨literal, hopens, hfalse⟩
        | true => exact hblank literal hopens

theorem Site.documents (site : Site) : site.Documents ((bodyDocstring? site.body).or
    (leadingComments? site.row site.column site.siblings.reverse)) :=
  site.documentedBy_first.documents

mutual

def Node.sites (siblings : List Node) : Node → List Site
  | .definition row column _ _ _ signature body =>
    match signature with
    | .classOf _ => ⟨siblings, row, column, body⟩ :: sitesAmong [] body
    | .functionOf _ => [⟨siblings, row, column, body⟩]
  | _ => []

def sitesAmong (siblings : List Node) : List Node → List Site
  | [] => []
  | n :: rest => n.sites siblings ++ sitesAmong (siblings ++ [n]) rest

end

open Code

mutual

theorem documented_definitionOf? (siblings : List Node) : (n : Node) →
    List.Forall₂ (fun site d => site.Documents d.docstring?) (n.sites siblings)
      (preorderAll (definitionOf? siblings.reverse n).toList)
  | .comment _ _ _ | .expression _ _ | .other => .nil
  | .definition row column decorators line name (.classOf bases) body => by
    have hbody := documented_definitionsAmong [] body
    rw [definitionOf?, Node.sites]
    simp only [Option.toList_some, preorderAll, Definition.preorder, List.append_nil]
    exact .cons (Site.documents ⟨siblings, row, column, body⟩) hbody
  | .definition row column decorators line name (.functionOf parameters) body => by
    rw [definitionOf?, Node.sites]
    simp only [Option.toList_some, preorderAll, Definition.preorder, List.append_nil]
    exact .cons (Site.documents ⟨siblings, row, column, body⟩) .nil

theorem documented_definitionsAmong (siblings : List Node) : (ns : List Node) →
    List.Forall₂ (fun site d => site.Documents d.docstring?) (sitesAmong siblings ns)
      (preorderAll (definitionsAmong siblings.reverse ns))
  | [] => .nil
  | n :: rest => by
    have hrest := documented_definitionsAmong (siblings ++ [n]) rest
    rw [List.reverse_append, List.reverse_singleton, List.singleton_append] at hrest
    rw [definitionsAmong_cons, preorderAll_append, sitesAmong]
    exact List.rel_append (documented_definitionOf? siblings n) hrest

end

mutual

theorem sound_sites {siblings : List Node} (h : AllSound siblings) : (n : Node) → n.IsSound →
    ∀ site ∈ n.sites siblings, AllSound site.siblings
  | .comment _ _ _, _ | .expression _ _, _ | .other, _ => nofun
  | .definition row column decorators line name (.classOf bases) body, hbody => by
    have hnone : AllSound [] := trivial
    rw [Node.sites]
    exact List.forall_mem_cons.2 ⟨h, sound_sitesAmong hnone body hbody⟩
  | .definition row column decorators line name (.functionOf parameters) body, _ => by
    rw [Node.sites]
    exact List.forall_mem_cons.2 ⟨h, nofun⟩

theorem sound_sitesAmong {siblings : List Node} (h : AllSound siblings) : (ns : List Node) →
    AllSound ns → ∀ site ∈ sitesAmong siblings ns, AllSound site.siblings
  | [], _ => nofun
  | n :: rest, hall => by
    have hsiblings : AllSound (siblings ++ [n]) := allSound_append.2 ⟨h, hall.1, trivial⟩
    rw [sitesAmong]
    exact List.forall_mem_append.2
      ⟨sound_sites h n hall.1, sound_sitesAmong hsiblings rest hall.2⟩

end

/-- The comments before an element give the longest run that leads up to it, one line for each.
A definition is documented by the literal that its body starts with, or else by these comments,
whatever stands before it; so is every definition of a source, where each comment is one line. -/
theorem definitions_documented {path : String} {source : List Char} {tree : DefinitionTree}
    (h : grammar.definitions path source = .ok tree) :
    (∀ row column siblings, IsBlockText row column siblings
      (leadingComments? row column siblings.reverse)) ∧
    (∀ siblings row column decorators line name signature body, ∃ d,
      definitionOf? siblings.reverse
        (.definition row column decorators line name signature body) = some d ∧
      (Site.mk siblings row column body).Documents d.docstring?) ∧
    ∃ nodes, read source = .ok nodes ∧
      List.Forall₂ (fun site d => site.Documents d.docstring?) (sitesAmong [] nodes)
        tree.definitions ∧
      ∀ site ∈ sitesAmong [] nodes, ∀ row column text,
        .comment row column text ∈ site.siblings → IsComment text := by
  refine ⟨isBlockText_leadingComments?, ?_, ?_⟩
  · intro siblings row column decorators line name signature body
    have hdocuments := Site.documents ⟨siblings, row, column, body⟩
    cases signature with
    | classOf bases => exact ⟨_, by rw [definitionOf?], hdocuments⟩
    | functionOf parameters => exact ⟨_, by rw [definitionOf?], hdocuments⟩
  · change definitions source = .ok tree at h
    unfold definitions at h
    cases hread : read source with
    | error fault => simp [hread] at h
    | ok nodes =>
      rw [hread] at h
      obtain rfl := Except.ok.inj h
      refine ⟨nodes, rfl, documented_definitionsAmong [] nodes, ?_⟩
      intro site hsite row column text hcomment
      have hnone : AllSound [] := trivial
      have hsound := sound_sitesAmong hnone nodes (sound_of_read hread) site hsite
      exact allSound_iff.1 hsound _ hcomment

def runSource : List Char :=
  ("x = 1  # not above\n# Runs it.\n#\n##  twice \n@tag\ndef run():\n    '  '\n" ++
    "class Bot:\n    # why\n    r' Stops. '\n").toList

theorem docstrings_of_runSource : ∃ tree, grammar.definitions "bot.py" runSource = .ok tree ∧
    tree.definitions.map Definition.docstring? =
      [some "Runs it.\n\n twice".toList, some "Stops.".toList] ∧
    ∃ nodes, read runSource = .ok nodes ∧
      List.Forall₂ (fun site d => site.Documents d.docstring?) (sitesAmong [] nodes)
        tree.definitions := by
  have hdocstrings : (grammar.definitions "bot.py" runSource).toOption.map
      (fun tree => tree.definitions.map Definition.docstring?) =
        some [some "Runs it.\n\n twice".toList, some "Stops.".toList] := by
    decide +kernel
  obtain ⟨tree, htree, htexts⟩ := Option.map_eq_some_iff.1 hdocstrings
  have h : grammar.definitions "bot.py" runSource = .ok tree := ok_of_toOption htree
  obtain ⟨-, -, nodes, hread, hdocuments, -⟩ := definitions_documented h
  exact ⟨tree, h, htexts, nodes, hread, hdocuments⟩

theorem IsBlockText.eq_none {row column : Nat} {text? : Option (List Char)}
    (h : IsBlockText row column [] text?) : text? = none := by
  obtain ⟨comments, lines, hblock, -, rfl⟩ := h
  have hnil : comments = [] := List.map_eq_nil_iff.1 (List.suffix_nil.1 hblock.last)
  rw [if_pos hnil]

def pairSource : List Char := "def f():\n    'a', 'b'\n".toList

/-- The body of the one definition starts with a pair, and nothing stands before it; still the first
part of the pair documents it. -/
theorem pair_taken_for_docstring : ∃ tree nodes site d,
    grammar.definitions "a.py" pairSource = .ok tree ∧ read pairSource = .ok nodes ∧
      tree.definitions = [d] ∧ sitesAmong [] nodes = [site] ∧
      d.docstring? = some "a".toList ∧
      ¬ site.DocumentedBy (Opens true site.body) d.docstring? := by
  have hdocstrings : (grammar.definitions "a.py" pairSource).toOption.map
      (fun tree => tree.definitions.map Definition.docstring?) = some [some "a".toList] := by
    decide +kernel
  have hsites : (read pairSource).toOption.map (fun nodes => (sitesAmong [] nodes).map
      fun site => (openingLiteral? site.body, site.siblings.isEmpty)) =
        some [(some ("'a'".toList, false), true)] := by
    decide +kernel
  obtain ⟨tree, htree, hdefinitions⟩ := Option.map_eq_some_iff.1 hdocstrings
  obtain ⟨nodes, hnodes, hlisted⟩ := Option.map_eq_some_iff.1 hsites
  obtain ⟨d, hd, hdocstring⟩ := List.map_eq_singleton_iff.1 hdefinitions
  obtain ⟨site, hsite, hopening⟩ := List.map_eq_singleton_iff.1 hlisted
  obtain ⟨hbody, hsiblings⟩ := Prod.mk.inj hopening
  refine ⟨tree, nodes, site, d, ?_, ?_, hd, hsite, hdocstring, fun hrule => ?_⟩
  · exact ok_of_toOption htree
  · exact ok_of_toOption hnodes
  · have hblock := hrule.of_comments fun literal hopens => by
      cases hbody.symm.trans (opens_iff.1 hopens)
    rw [List.isEmpty_iff.1 hsiblings] at hblock
    cases hdocstring.symm.trans hblock.eq_none

end Appraisal.Python
