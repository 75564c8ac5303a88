import Appraisal.Proofs.Python.Steps
import Appraisal.Python.Definitions

set_option autoImplicit false

namespace Appraisal.Python

open Reading

def Node.IsPlain : Node → Prop
  | .expression _ _ => True
  | .other => True
  | .comment _ _ _ => False
  | .definition _ _ _ _ _ _ _ => False

mutual

def Node.rows : Node → List Nat
  | .definition _ _ _ line _ signature body =>
    match signature with
    | .classOf _ => line :: rowsOf body
    | .functionOf _ => [line]
  | _ => []

def rowsOf : List Node → List Nat
  | [] => []
  | n :: rest => n.rows ++ rowsOf rest

end

theorem rowsOf_eq (ns : List Node) : rowsOf ns = ns.flatMap Node.rows := by
  induction ns with
  | nil => rw [rowsOf]; rfl
  | cons n rest ih => rw [rowsOf, ih, List.flatMap_cons]

theorem rowsOf_append (ns ms : List Node) : rowsOf (ns ++ ms) = rowsOf ns ++ rowsOf ms := by
  simp only [rowsOf_eq, List.flatMap_append]

/-- Rows of places between two places, in their order. -/
structure Laid (a b : Cursor) (rows : List Nat) : Prop where
  places : ∀ row ∈ rows, ∃ c, a.Reaches c ∧ c.rest ≠ [] ∧ c.row = row
  ascending : rows.Pairwise (· < ·)
  behind : ∀ row ∈ rows, row < b.row ∨ b.rest = []

namespace Laid

variable {a b c : Cursor} {rows later : List Nat}

theorem nil : Laid a b [] := ⟨by simp, .nil, by simp⟩

theorem of_reaches (hab : a.Reaches b) (h : Laid b c rows) : Laid a c rows where
  places row hrow := by
    obtain ⟨d, hd, hrest⟩ := h.places row hrow
    exact ⟨d, hab.trans hd, hrest⟩
  ascending := h.ascending
  behind := h.behind

theorem to_reaches (h : Laid a b rows) (hbc : b.Reaches c) : Laid a c rows where
  places := h.places
  ascending := h.ascending
  behind row hrow := (h.behind row hrow).imp (Nat.lt_of_lt_of_le · hbc.row_le) hbc.rest_eq_nil

theorem append (hab : a.Reaches b) (hbc : b.Reaches c) (h : Laid a b rows)
    (hlater : Laid b c later) : Laid a c (rows ++ later) where
  places row hrow := by
    rcases List.mem_append.1 hrow with hrow | hrow
    · exact h.places row hrow
    · exact (hlater.of_reaches hab).places row hrow
  ascending := by
    refine List.pairwise_append.2 ⟨h.ascending, hlater.ascending, fun row hrow next hnext => ?_⟩
    obtain ⟨d, hd, hrest, rfl⟩ := hlater.places next hnext
    rcases h.behind row hrow with hlt | hend
    · exact Nat.lt_of_lt_of_le hlt hd.row_le
    · exact absurd (hd.rest_eq_nil hend) hrest
  behind row hrow := by
    rcases List.mem_append.1 hrow with hrow | hrow
    · exact (h.to_reaches hbc).behind row hrow
    · exact hlater.behind row hrow

theorem singleton (hrest : a.rest ≠ []) (hpasses : a.Passes b) : Laid a b [a.row] where
  places _ hrow := ⟨a, .refl a, hrest, (List.mem_singleton.1 hrow).symm⟩
  ascending := List.pairwise_singleton _ _
  behind _ hrow := List.mem_singleton.1 hrow ▸ hpasses

end Laid

/-- Whatever the step gives, its rows are laid from the start of the step to its end. -/
def Lays {α : Type} (rows : α → List Nat) (p : Reading α) : Prop :=
  ∀ ⦃s a t⦄, p.Yields s a t → Laid s.cursor t.cursor (rows a)

namespace Lays

variable {α β : Type} {rows : β → List Nat}

theorem pure {b : β} (h : rows b = []) : Lays rows (pure b) := by
  intro s a t hyields
  obtain ⟨rfl, rfl⟩ := yields_pure.1 hyields
  exact h ▸ .nil

theorem bind {p : Reading α} {f : α → Reading β} (h : ∀ a, Lays rows (f a)) :
    Lays rows (p >>= f) := by
  intro s b t hyields
  obtain ⟨a, u, hp, hf⟩ := yields_bind.1 hyields
  exact (h a hf).of_reaches hp.reaches

theorem orElse {p q : Reading β} (hp : Lays rows p) (hq : Lays rows q) :
    Lays rows (p.orElse q) := by
  intro s b t hyields
  exact hyields.of_orElse.elim (fun h => hp h) fun h => hq h

theorem alone {q : Reading Node} (h : Lays Node.rows q) :
    Lays rowsOf (q >>= fun n => Pure.pure [n]) := by
  intro s ns t hyields
  obtain ⟨n, _, hn, hyields⟩ := yields_bind.1 hyields
  obtain ⟨rfl, rfl⟩ := yields_pure.1 hyields
  have hrows : rowsOf [n] = n.rows := List.append_nil _
  exact hrows ▸ h hn

end Lays

def Bare {α : Type} (rows : α → List Nat) (p : Reading α) : Prop :=
  ∀ ⦃s a t⦄, p.Yields s a t → rows a = []

theorem Bare.lays {α : Type} {rows : α → List Nat} {p : Reading α} (h : Bare rows p) :
    Lays rows p := by
  intro s a t hyields
  exact h hyields ▸ .nil

namespace Statement

open Expression

theorem rows_of_isPlain {n : Node} (h : n.IsPlain) : n.rows = [] := by
  cases n with
  | expression | other =>
    rw [Node.rows]
    simp
  | comment | definition => cases h

theorem rowsOf_comments (extras : List Extra) : rowsOf (extras.filterMap commentNode) = [] := by
  rw [rowsOf_eq, List.flatMap_eq_nil_iff]
  intro n hn
  obtain ⟨extra, -, hextra⟩ := List.mem_filterMap.1 hn
  cases extra with
  | comment place text =>
    cases hextra
    rw [Node.rows]
    simp
  | joint text => cases hextra

theorem gives_expressionStatement (g : Nested) : Gives Node.IsPlain (expressionStatement g) := by
  unfold expressionStatement
  refine .bind fun found => ?_
  split
  · exact .bind fun _ => .pure trivial
  · refine .bind fun read => .bind fun ⟨isTarget, alone⟩ => .bind fun assigned => ?_
    split <;> exact .pure trivial

theorem gives_simpleStatement (g : Nested) : Gives Node.IsPlain (simpleStatement g) := by
  have hother : Gives Node.IsPlain (pure Node.other) := .pure trivial
  unfold simpleStatement
  refine .bind fun token => ?_
  split
  · split
    · exact .bind fun _ => .bind fun _ => hother
    · split
      · refine .orElse ?_ (.bind fun _ => .bind fun _ => hother)
        exact .bind_of (gives_expressionStatement g) fun _ hnode => .bind fun _ => .pure hnode
      · exact gives_expressionStatement g
  · exact gives_expressionStatement g

theorem simpleStatements_spec {g : Nested} {s t : State} {nodes : List Node}
    (h : (simpleStatements g).Yields s nodes t) :
    rowsOf nodes = [] ∧ (s.fresh = false → s.cursor.Passes t.cursor) := by
  unfold simpleStatements at h
  refine Yields.iterate (I := fun done u => rowsOf done = [] ∧ s.Leads u)
    (P := fun nodes t => rowsOf nodes = [] ∧ (s.fresh = false → s.cursor.Passes t.cursor))
    ?_ h ⟨rfl, .refl s⟩
  rintro done u x v ⟨hdone, hu⟩ hround
  obtain ⟨node, u1, hnode, hround⟩ := yields_bind.1 hround
  obtain ⟨extras, u2, happroach, hround⟩ := yields_bind.1 hround
  obtain ⟨more, u3, hmore, hround⟩ := yields_bind.1 hround
  have hu := ((hu.trans hnode.leads).trans happroach.leads).trans hmore.leads
  have hdone : rowsOf (done ++ node :: extras.filterMap commentNode) = [] := by
    rw [rowsOf_append, rowsOf, hdone, rows_of_isPlain (gives_simpleStatement g hnode),
      rowsOf_comments]
    rfl
  -- the line ends here, or a semicolon stands before its end or before the next statement
  split at hround
  · obtain ⟨behind, u4, hbehind, hround⟩ := yields_bind.1 hround
    obtain ⟨token, u5, hpeek, hround⟩ := yields_bind.1 hround
    obtain ⟨hlex, rfl⟩ := yields_peek.1 hpeek
    have hu := hu.trans hbehind.leads
    have hall : rowsOf (done ++ node :: extras.filterMap commentNode ++
        behind.filterMap commentNode) = [] := by
      rw [rowsOf_append, hdone, rowsOf_comments]
      rfl
    split at hround
    · obtain ⟨_, u5, hnext, hround⟩ := yields_bind.1 hround
      obtain ⟨rfl, rfl⟩ := yields_pure.1 hround
      exact ⟨hall, hnext.passes_of_next hlex hu⟩
    · obtain ⟨rfl, rfl⟩ := yields_pure.1 hround
      exact ⟨hall, hu⟩
  · obtain ⟨token, u4, hpeek, hround⟩ := yields_bind.1 hround
    obtain ⟨hlex, rfl⟩ := yields_peek.1 hpeek
    split at hround
    · obtain ⟨_, u5, hnext, hround⟩ := yields_bind.1 hround
      obtain ⟨rfl, rfl⟩ := yields_pure.1 hround
      exact ⟨hdone, hnext.passes_of_next hlex hu⟩
    · exact absurd hround yields_fail

theorem lays_simpleStatements (g : Nested) : Lays rowsOf (simpleStatements g) :=
  Bare.lays fun _ _ _ h => (simpleStatements_spec h).1

/-- What stands behind a colon begins on a later line, or there is nothing more. -/
def SuiteLays (p : Reading (List Node)) : Prop :=
  ∀ ⦃s nodes t⦄, s.fresh = false → p.Yields s nodes t →
    ∃ c, s.cursor.Reaches c ∧ s.cursor.Passes c ∧ c.Reaches t.cursor ∧
      Laid c t.cursor (rowsOf nodes)

theorem suiteLays_suite {g : Nested} {inner : Reading (List Node)} (hinner : Lays rowsOf inner) :
    SuiteLays (suite inner (simpleStatements g)) := by
  intro s nodes t hs h
  obtain ⟨_, _, hstate, h⟩ := yields_bind.1 h
  obtain ⟨rfl, rfl⟩ := yields_state.1 hstate
  split at h
  case _ hlex =>
    obtain ⟨extras, u, happroach, h⟩ := yields_bind.1 h
    obtain ⟨hcursor, hfresh⟩ := happroach.of_approach
    obtain ⟨gap, hgap, -, hpasses⟩ := gap_of_lex_lineEnd hs hlex hcursor (hfresh hs)
    obtain ⟨_, _, hstate, h⟩ := yields_bind.1 h
    obtain ⟨rfl, rfl⟩ := yields_state.1 hstate
    rw [hgap] at h
    obtain ⟨_, v, hline, h⟩ := yields_bind.1 h
    have hv := yields_consumeLine.1 hline
    have hpassed : s.cursor.Passes v.cursor := by
      rw [← hv]
      exact happroach.reaches.trans_passes hpasses
    have hlays : Laid v.cursor t.cursor (rowsOf nodes) := by
      split at h
      · obtain ⟨_, w, hindents, h⟩ := yields_bind.1 h
        exact (hinner h).of_reaches hindents.reaches
      · obtain ⟨rfl, -⟩ := yields_pure.1 h
        exact .nil
    exact ⟨v.cursor, happroach.reaches.trans hline.reaches, hpassed, h.reaches, hlays⟩
  case _ =>
    obtain ⟨extras, u, happroach, h⟩ := yields_bind.1 h
    obtain ⟨hnodes, hline⟩ := simpleStatements_spec h
    have hpasses := happroach.reaches.trans_passes (hline (happroach.of_approach.2 hs))
    exact ⟨t.cursor, happroach.reaches.trans h.reaches, hpasses, .refl _, hnodes ▸ .nil⟩

theorem lays_block {fuel : Nat} {top : Bool} {element : Reading (List Node)}
    (helement : Lays rowsOf element) : Lays rowsOf (block fuel top commentNode element) := by
  intro s nodes t h
  unfold block at h
  -- after each round the rows so far are laid up to where the reader is
  refine Yields.iterate
    (I := fun (_, done) u =>
      s.cursor.Reaches u.cursor ∧ Laid s.cursor u.cursor (rowsOf done.reverse))
    (P := fun nodes t => Laid s.cursor t.cursor (rowsOf nodes)) ?_ h ⟨.refl _, .nil⟩
  rintro ⟨first, done⟩ u x v ⟨hu, hdone⟩ hround
  obtain ⟨_, _, hstate, hround⟩ := yields_bind.1 hround
  obtain ⟨rfl, rfl⟩ := yields_state.1 hstate
  obtain ⟨_, w, happroach, hround⟩ := yields_bind.1 hround
  dsimp only at hround
  generalize hcomments : (if (first && !top) = true then []
    else (u.lex .statement).extras.filterMap commentNode) = comments at hround
  have hbare : rowsOf comments = [] := by
    rw [← hcomments]
    split
    · rfl
    · exact rowsOf_comments _
  have hw := hu.trans happroach.reaches
  have hdone : Laid s.cursor w.cursor (rowsOf (comments.reverse ++ done).reverse) := by
    rw [List.reverse_append, List.reverse_reverse, rowsOf_append, hbare, List.append_nil]
    exact hdone.to_reaches happroach.reaches
  split at hround
  · obtain ⟨_, _, hindents, hround⟩ := yields_bind.1 hround
    obtain ⟨rfl, rfl⟩ := yields_pure.1 hround
    exact hdone.to_reaches hindents.reaches
  · split at hround
    · obtain ⟨rfl, rfl⟩ := yields_pure.1 hround
      exact hdone
    · exact absurd hround yields_fail
  · obtain ⟨ns, _, hns, hround⟩ := yields_bind.1 hround
    obtain ⟨rfl, rfl⟩ := yields_pure.1 hround
    refine ⟨hw.trans hns.reaches, ?_⟩
    rw [List.reverse_append, List.reverse_reverse, rowsOf_append]
    exact hdone.append hw hns.reaches (helement hns)

def Continues (a : Cursor) (q : Reading Node) : Prop :=
  ∀ ⦃s n t⦄, a.Reaches s.cursor → q.Yields s n t → Laid a t.cursor n.rows

theorem Continues.bind {α : Type} {a : Cursor} {q : Reading α} {f : α → Reading Node}
    (h : ∀ x, Continues a (f x)) : Continues a (q >>= f) := by
  intro s n t hs hyields
  obtain ⟨x, u, hq, hf⟩ := yields_bind.1 hyields
  exact h x (hs.trans hq.reaches) hf

section Definitions

variable {p : Parts} (hp : SuiteLays p.suite)

include hp

theorem continues_colonSuite {a : Cursor} (ha : a.rest ≠ []) (row column : Nat)
    (decorators : List (List Char)) (name : List Char) (signature : Signature) :
    Continues a (do
      let body ← colonSuite p
      return .definition row column decorators a.row name signature body) := by
  intro s n t hs h
  obtain ⟨body, _, hbody, h⟩ := yields_bind.1 h
  obtain ⟨rfl, rfl⟩ := yields_pure.1 h
  obtain ⟨_, u, hcolon, hsuite⟩ := yields_bind.1 hbody
  obtain ⟨c, hc, hpasses, ht, hlaid⟩ := hp hcolon.fresh_of_symbol hsuite
  have hac := (hs.trans hcolon.reaches).trans hc
  have hpasses := (hs.trans hcolon.reaches).trans_passes hpasses
  have hown : Laid a c [a.row] := .singleton ha hpasses
  cases signature with
  | classOf bases =>
    rw [Node.rows]
    exact hown.append hac ht hlaid
  | functionOf parameters =>
    rw [Node.rows]
    exact hown.to_reaches ht

theorem lays_definition (row column : Nat) (decorators : List (List Char)) :
    Lays Node.rows (definition p row column decorators) := by
  intro s n t h
  obtain ⟨_, _, hplace, h⟩ := yields_bind.1 h
  obtain ⟨rfl, rfl⟩ := yields_place.1 hplace
  obtain ⟨keyword, u, hkeyword, h⟩ := yields_bind.1 h
  split at h
  case isTrue hfound =>
    have hrest := hkeyword.rest_of_tryWord hfound
    have hclass (name : List Char) (bases : List (List Char)) :=
      continues_colonSuite hp hrest row column decorators name (.classOf bases)
    refine Continues.bind (fun name => .bind fun _ => .bind fun bases => ?_) hkeyword.reaches h
    exact hclass name bases
  case isFalse =>
    obtain ⟨_, u1, hasync, h⟩ := yields_bind.1 h
    obtain ⟨_, u2, hdef, h⟩ := yields_bind.1 h
    have hrest : s.cursor.rest ≠ [] := fun hnil =>
      hdef.rest_of_word ((hkeyword.reaches.trans hasync.reaches).rest_eq_nil hnil)
    have hfunction (name : List Char) (parameters : List Parameter) :=
      continues_colonSuite hp hrest row column decorators name (.functionOf parameters)
    have hu := (hkeyword.reaches.trans hasync.reaches).trans hdef.reaches
    refine Continues.bind (fun name => .bind fun _ => .bind fun _ => .bind fun parameters =>
      .bind fun arrow => ?_) hu h
    split
    · exact .bind fun _ => .bind fun _ => hfunction name parameters
    · exact hfunction name parameters

theorem lays_decorated (row column : Nat) : Lays Node.rows (decorated p row column) := by
  intro s n t h
  unfold decorated at h
  refine Yields.iterate (I := fun _ u => s.cursor.Reaches u.cursor)
    (P := fun n t => Laid s.cursor t.cursor n.rows) ?_ h (.refl _)
  intro decorators u x v hu hround
  obtain ⟨_, u1, happroach, hround⟩ := yields_bind.1 hround
  obtain ⟨_, u2, hpeek, hround⟩ := yields_bind.1 hround
  have hu := (hu.trans happroach.reaches).trans hpeek.reaches
  split at hround
  · obtain ⟨decorator, u3, hdecorator, hround⟩ := yields_bind.1 hround
    obtain ⟨rfl, rfl⟩ := yields_pure.1 hround
    exact hu.trans hdecorator.reaches
  · obtain ⟨n, u3, hdefinition, hround⟩ := yields_bind.1 hround
    obtain ⟨rfl, rfl⟩ := yields_pure.1 hround
    exact (lays_definition hp row column decorators hdefinition).of_reaches hu

end Definitions

theorem lays_statement {p : Parts} (hp : SuiteLays p.suite) : Lays rowsOf (statement p) := by
  unfold statement
  refine .bind fun c => .bind fun token => ?_
  have hother : Lays rowsOf (pure [Node.other]) := .pure rfl
  split
  · exact (lays_decorated hp _ _).alone
  · dsimp only
    split_ifs
    · exact (lays_definition hp _ _ _).alone
    · refine .bind fun second => ?_
      split
      · exact (lays_definition hp _ _ _).alone
      · exact .bind fun _ => .bind fun _ => .bind fun _ => hother
      · exact .bind fun _ => .bind fun _ => .bind fun _ => hother
      · exact lays_simpleStatements _
    · exact .orElse (.bind fun _ => hother) (lays_simpleStatements _)
    · split
      · exact .bind fun _ => .bind fun _ => hother
      · exact lays_simpleStatements _
  · exact lays_simpleStatements _

theorem lays_blockRest (g : Nested) (depth : Nat) : Lays rowsOf (blockRest g depth) := by
  induction depth with
  | zero => exact fun _ _ _ h => absurd h yields_fail
  | succ depth ih =>
    have hparts : SuiteLays (partsOver g (blockRest g depth)).suite := suiteLays_suite ih
    exact lays_block (lays_statement hparts)

theorem Yields.of_located {α : Type} {p : Reading α} {s t : State} {a : α}
    (h : (located p).Yields s a t) : p.Yields s a t := by
  obtain ⟨r, hr, rfl, rfl⟩ := h
  unfold located at hr
  split at hr
  · cases hr
    exact ⟨_, ‹_›, rfl, rfl⟩
  all_goals cases hr

theorem lays_source (g : Nested) : Lays rowsOf (source g) := by
  have hparts : SuiteLays (partsOver g (blockRest g g.fuel)).suite :=
    suiteLays_suite (lays_blockRest g g.fuel)
  exact lays_block fun _ _ _ h => lays_statement hparts (Yields.of_located h)

end Statement

/-- The definitions of a source text stand on lines of the text, each on a later one. -/
theorem rows_of_read {text : List Char} {nodes : List Node} (h : read text = .ok nodes) :
    (rowsOf nodes).Pairwise (· < ·) ∧ ∀ row ∈ rowsOf nodes, row < (Text.lines text).length := by
  unfold read at h
  cases hsource : Statement.source (Expression.nestedFor text.length) (startState text) with
  | error e => simp [hsource] at h
  | ok r =>
    rw [hsource] at h
    obtain rfl := Except.ok.inj h
    have hlaid := Statement.lays_source _ ⟨r, hsource, rfl, rfl⟩
    refine ⟨hlaid.ascending, fun row hrow => ?_⟩
    obtain ⟨c, hc, hrest, rfl⟩ := hlaid.places row hrow
    refine Cursor.row_lt_lines (Cursor.Reaches.trans ?_ hc) hrest
    unfold startState
    dsimp only
    split
    · exact .step _ _ (.refl _)
    · exact .refl _

end Appraisal.Python
