import Appraisal.Proofs.Python.Layout
import Mathlib.Data.List.TakeWhile

set_option autoImplicit false

namespace Appraisal.Python

open Reading

structure IsComment (text : List Char) : Prop where
  head : text.head? = some '#'
  oneLine : '\n' ∉ text

def Extra.IsSound : Extra → Prop
  | .comment _ text => IsComment text
  | .joint _ => True

mutual

/-- What a node says of comments, its own or inside it, is sound. -/
def Node.IsSound : Node → Prop
  | .comment _ _ text => IsComment text
  | .definition _ _ _ _ _ _ body => AllSound body
  | .expression _ _ => True
  | .other => True

def AllSound : List Node → Prop
  | [] => True
  | n :: rest => n.IsSound ∧ AllSound rest

end

theorem allSound_iff {ns : List Node} : AllSound ns ↔ ∀ n ∈ ns, n.IsSound := by
  induction ns with
  | nil => simp [AllSound]
  | cons n rest ih => simp [AllSound, ih]

theorem allSound_append {ns ms : List Node} :
    AllSound (ns ++ ms) ↔ AllSound ns ∧ AllSound ms := by
  simp only [allSound_iff, List.forall_mem_append]

theorem allSound_reverse {ns : List Node} : AllSound ns.reverse ↔ AllSound ns := by
  simp only [allSound_iff, List.mem_reverse]

theorem isComment_takeWhile {text : List Char} (h : text.head? = some '#') :
    IsComment (text.takeWhile (· ≠ '\n')) where
  head := by
    obtain ⟨rest, rfl⟩ := List.head?_eq_some_iff.1 h
    rfl
  oneLine hmem := by simpa using List.mem_takeWhile_imp hmem

theorem sound_lexFrom (follow : Follow) (fuel : List Char) (s : State) (done : Nat)
    (extras : List Extra) (h : ∀ e ∈ extras, e.IsSound) :
    ∀ e ∈ (lexFrom follow fuel s done extras).extras, e.IsSound := by
  fun_induction lexFrom follow fuel s done extras with
  | case1 | case2 | case5 => simpa using h
  | case3 _ _ _ _ _ _ _ _ _ hsign _ ih =>
    exact ih (List.forall_mem_cons.2 ⟨isComment_takeWhile hsign, h⟩)
  | case4 _ _ _ _ _ _ _ _ _ _ _ _ ih => exact ih (List.forall_mem_cons.2 ⟨trivial, h⟩)

theorem sound_lex (s : State) (follow : Follow) : ∀ e ∈ (s.lex follow).extras, e.IsSound :=
  sound_lexFrom follow _ s 0 [] (by simp)

theorem sound_approach {follow : Follow} {s t : State} {extras : List Extra}
    (h : (approach follow).Yields s extras t) : ∀ e ∈ extras, e.IsSound := by
  obtain ⟨_, _, hstate, h⟩ := yields_bind.1 h
  obtain ⟨rfl, rfl⟩ := yields_state.1 hstate
  obtain ⟨_, _, -, h⟩ := yields_bind.1 h
  obtain ⟨rfl, -⟩ := yields_pure.1 h
  exact sound_lex s follow

namespace Statement

open Expression

theorem isSound_of_isPlain {n : Node} (h : n.IsPlain) : n.IsSound := by
  cases n with
  | expression | other => trivial
  | comment | definition => cases h

theorem sound_comments {extras : List Extra} (h : ∀ e ∈ extras, e.IsSound) :
    AllSound (extras.filterMap commentNode) := by
  rw [allSound_iff]
  intro n hn
  obtain ⟨extra, hmem, hextra⟩ := List.mem_filterMap.1 hn
  cases extra with
  | comment place text =>
    cases hextra
    exact h _ hmem
  | joint text => cases hextra

theorem gives_simpleStatements (g : Nested) : Gives AllSound (simpleStatements g) := by
  unfold simpleStatements
  refine .iterate (I := AllSound) (fun done hdone => ?_) trivial
  refine .bind_of (gives_simpleStatement g) fun node hnode => ?_
  refine .bind_of (fun _ _ _ => sound_approach) fun extras hextras => .bind fun more => ?_
  have hdone : AllSound (done ++ node :: extras.filterMap commentNode) :=
    allSound_append.2 ⟨hdone, isSound_of_isPlain hnode, sound_comments hextras⟩
  split
  · refine .bind_of (fun _ _ _ => sound_approach) fun behind hbehind => .bind fun token => ?_
    have hall := allSound_append.2 ⟨hdone, sound_comments hbehind⟩
    split
    · exact .bind fun _ => .pure hall
    · exact .pure hall
  · refine .bind fun token => ?_
    split
    · exact .bind fun _ => .pure hdone
    · exact .fail

theorem gives_suite {g : Nested} {inner : Reading (List Node)} (hinner : Gives AllSound inner) :
    Gives AllSound (suite inner (simpleStatements g)) := by
  unfold suite
  refine .bind fun s => ?_
  split
  · refine .bind fun _ => .bind fun u => ?_
    split
    · exact .fail
    · refine .bind fun _ => ?_
      split
      · exact .bind fun _ => hinner
      · exact .pure trivial
  · exact .bind fun _ => gives_simpleStatements g

theorem gives_block {fuel : Nat} {top : Bool} {element : Reading (List Node)}
    (helement : Gives AllSound element) :
    Gives AllSound (block fuel top commentNode element) := by
  unfold block
  refine .iterate (I := fun (state : Bool × List Node) => AllSound state.2) ?_ trivial
  rintro ⟨first, done⟩ hdone
  refine .bind fun s => .bind fun _ => ?_
  dsimp only
  generalize hcomments : (if (first && !top) = true then []
    else (s.lex .statement).extras.filterMap commentNode) = comments
  have hsound : AllSound comments := by
    rw [← hcomments]
    split
    · trivial
    · exact sound_comments (sound_lex s .statement)
  have hdone : AllSound (comments.reverse ++ done) :=
    allSound_append.2 ⟨allSound_reverse.2 hsound, hdone⟩
  split
  · exact .bind fun _ => .pure (allSound_reverse.2 hdone)
  · split
    · exact .pure (allSound_reverse.2 hdone)
    · exact .fail
  · refine .bind_of helement fun ns hns => .pure ?_
    exact allSound_append.2 ⟨allSound_reverse.2 hns, hdone⟩

section Definitions

variable {p : Parts} (hp : Gives AllSound p.suite)
include hp

theorem gives_colonSuite : Gives AllSound (colonSuite p) := .bind fun _ => hp

theorem gives_definition (row column : Nat) (decorators : List (List Char)) :
    Gives Node.IsSound (definition p row column decorators) := by
  unfold definition
  refine .bind fun here => .bind fun keyword => ?_
  split
  · refine .bind fun name => .bind fun _ => .bind fun bases => ?_
    exact .bind_of (gives_colonSuite hp) fun body hbody => .pure hbody
  · refine .bind fun _ => .bind fun _ => .bind fun name => .bind fun _ => .bind fun _ =>
      .bind fun parameters => .bind fun arrow => ?_
    have hbody (n : List Char) : Gives Node.IsSound (do
        let body ← colonSuite p
        return .definition row column decorators here.row n (.functionOf parameters) body) :=
      .bind_of (gives_colonSuite hp) fun body hbody => .pure hbody
    split
    · exact .bind fun _ => .bind fun _ => hbody name
    · exact hbody name

theorem gives_decorated (row column : Nat) : Gives Node.IsSound (decorated p row column) := by
  unfold decorated
  refine .iterate (I := fun _ => True) (fun decorators _ => ?_) trivial
  refine .bind fun _ => .bind fun token => ?_
  split
  · exact .bind fun _ => .pure trivial
  · exact .bind_of (gives_definition hp row column decorators) fun n hn => .pure hn

theorem gives_statement : Gives AllSound (statement p) := by
  have hother : Gives AllSound (pure [Node.other]) := .pure ⟨trivial, trivial⟩
  have halone {q : Reading Node} (hq : Gives Node.IsSound q) :
      Gives AllSound (q >>= fun n => pure [n]) :=
    .bind_of hq fun n hn => .pure ⟨hn, trivial⟩
  have hsimple := gives_simpleStatements p.nested
  unfold statement
  refine .bind fun c => .bind fun token => ?_
  split
  · exact halone (gives_decorated hp _ _)
  · dsimp only
    split_ifs
    · exact halone (gives_definition hp _ _ _)
    · refine .bind fun second => ?_
      split
      · exact halone (gives_definition hp _ _ _)
      · exact .bind fun _ => .bind fun _ => .bind fun _ => hother
      · exact .bind fun _ => .bind fun _ => .bind fun _ => hother
      · exact hsimple
    · exact .orElse (.bind fun _ => hother) hsimple
    · split
      · exact .bind fun _ => .bind fun _ => hother
      · exact hsimple
  · exact hsimple

end Definitions

theorem gives_blockRest (g : Nested) (depth : Nat) : Gives AllSound (blockRest g depth) := by
  induction depth with
  | zero => exact .fail
  | succ depth ih =>
    have hparts : Gives AllSound (partsOver g (blockRest g depth)).suite := gives_suite ih
    exact gives_block (gives_statement hparts)

theorem gives_source (g : Nested) : Gives AllSound (source g) := by
  have hparts : Gives AllSound (partsOver g (blockRest g g.fuel)).suite :=
    gives_suite (gives_blockRest g g.fuel)
  exact gives_block fun _ _ _ h => gives_statement hparts (Yields.of_located h)

end Statement

theorem sound_of_read {text : List Char} {nodes : List Node} (h : read text = .ok nodes) :
    AllSound nodes := by
  unfold read at h
  cases hsource : Statement.source (Expression.nestedFor text.length) (startState text) with
  | error e => simp [hsource] at h
  | ok r =>
    rw [hsource] at h
    obtain rfl := Except.ok.inj h
    exact Statement.gives_source _ ⟨r, hsource, rfl, rfl⟩

end Appraisal.Python
