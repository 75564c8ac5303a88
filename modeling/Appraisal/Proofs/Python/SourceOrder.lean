import Appraisal.Code.Entity
import Appraisal.Proofs.Python.Layout
import Mathlib.Data.List.Forall2

set_option autoImplicit false

namespace Appraisal

namespace Code

mutual

def Definition.preorder : Definition → List Definition
  | ⟨form, name, line, bases, decorators, parameters, docstring?, children⟩ =>
    ⟨form, name, line, bases, decorators, parameters, docstring?, children⟩ :: preorderAll children

def preorderAll : List Definition → List Definition
  | [] => []
  | d :: rest => d.preorder ++ preorderAll rest

end

def DefinitionTree.definitions (tree : DefinitionTree) : List Definition :=
  preorderAll tree.root.children

end Code

namespace Python

open Code

theorem ok_of_toOption {ε α : Type} {result : Except ε α} {a : α}
    (h : result.toOption = some a) : result = .ok a := by
  cases result with
  | error e => cases h
  | ok b => exact congrArg Except.ok (Option.some.inj h)

theorem preorderAll_append (ds es : List Definition) :
    preorderAll (ds ++ es) = preorderAll ds ++ preorderAll es := by
  induction ds with
  | nil => rw [preorderAll]; rfl
  | cons d rest ih => rw [List.cons_append, preorderAll, preorderAll, ih, List.append_assoc]

theorem walkAll_append (scope? : Option (List Char)) (ds es : List Definition) :
    walkAll scope? (ds ++ es) = walkAll scope? ds ++ walkAll scope? es := by
  induction ds with
  | nil => rw [walkAll]; rfl
  | cons d rest ih => rw [List.cons_append, walkAll, walkAll, ih, List.append_assoc]

theorem definitionsAmong_cons (before : List Node) (n : Node) (rest : List Node) :
    definitionsAmong before (n :: rest) =
      (definitionOf? before n).toList ++ definitionsAmong (n :: before) rest := by
  rw [definitionsAmong]
  cases definitionOf? before n <;> rfl

mutual

theorem lines_definitionOf? (before : List Node) : (n : Node) →
    (preorderAll (definitionOf? before n).toList).map Definition.line = n.rows.map (· + 1)
  | .comment _ _ _ | .expression _ _ | .other => rfl
  | .definition row column decorators line name (.classOf bases) body => by
    have hbody := lines_definitionsAmong [] body
    rw [definitionOf?, Node.rows]
    simp [preorderAll, Definition.preorder, hbody]
  | .definition row column decorators line name (.functionOf parameters) body => by
    rw [definitionOf?, Node.rows]
    simp [preorderAll, Definition.preorder]

theorem lines_definitionsAmong (before : List Node) : (ns : List Node) →
    (preorderAll (definitionsAmong before ns)).map Definition.line = (rowsOf ns).map (· + 1)
  | [] => rfl
  | n :: rest => by
    rw [definitionsAmong_cons, preorderAll_append, rowsOf, List.map_append, List.map_append,
      lines_definitionOf? before n, lines_definitionsAmong (n :: before) rest]

end

mutual

/-- The walk leaves out what is inside functions and starts anew at modules; of neither is there
any among lowered definitions. -/
theorem walked_definitionOf? (scope? : Option (List Char)) (before : List Node) : (n : Node) →
    (walkAll scope? (definitionOf? before n).toList).map Scoped.definition =
      preorderAll (definitionOf? before n).toList
  | .comment _ _ _ | .expression _ _ | .other => rfl
  | .definition row column decorators line name (.classOf bases) body => by
    have hbody := walked_definitionsAmong (some (innerScope scope? name)) [] body
    rw [definitionOf?]
    simp [walkAll, Definition.walk, preorderAll, Definition.preorder, hbody]
  | .definition row column decorators line name (.functionOf parameters) body => by
    rw [definitionOf?]
    simp [walkAll, Definition.walk, preorderAll, Definition.preorder]

theorem walked_definitionsAmong (scope? : Option (List Char)) (before : List Node) :
    (ns : List Node) →
    (walkAll scope? (definitionsAmong before ns)).map Scoped.definition =
      preorderAll (definitionsAmong before ns)
  | [] => rfl
  | n :: rest => by
    rw [definitionsAmong_cons, walkAll_append, preorderAll_append, List.map_append,
      walked_definitionOf? scope? before n, walked_definitionsAmong scope? (n :: before) rest]

end

/-- A tree of definitions that lie in the file, each on a later line than those before it, and none
of them left out by the walk. -/
structure Ordered (tree : DefinitionTree) : Prop where
  lines : ∀ d ∈ tree.definitions, 1 ≤ d.line ∧ d.line ≤ tree.lineCount
  ascending : (tree.definitions.map Definition.line).Pairwise (· < ·)
  walked : tree.walk.map Scoped.definition = tree.definitions

theorem ordered_of_definitions {path : String} {source : List Char} {tree : DefinitionTree}
    (h : grammar.definitions path source = .ok tree) :
    Ordered tree ∧ tree.lineCount = (Text.lines source).length := by
  change definitions source = .ok tree at h
  unfold definitions at h
  cases hread : read source with
  | error fault => simp [hread] at h
  | ok nodes =>
    rw [hread] at h
    obtain rfl := Except.ok.inj h
    obtain ⟨hascending, hinside⟩ := rows_of_read hread
    have hlines := lines_definitionsAmong [] nodes
    refine ⟨⟨fun d hd => ?_, ?_, walked_definitionsAmong none [] nodes⟩, rfl⟩
    · have hline : d.line ∈ (rowsOf nodes).map (· + 1) := hlines ▸ List.mem_map_of_mem hd
      obtain ⟨row, hrow, hline⟩ := List.mem_map.1 hline
      have hrow := hinside row hrow
      simp only at hline ⊢
      omega
    · change ((preorderAll (definitionsAmong [] nodes)).map Definition.line).Pairwise (· < ·)
      rw [hlines, List.pairwise_map]
      exact hascending.imp fun hlt => Nat.succ_lt_succ hlt

theorem Ordered.entities_eq {tree : DefinitionTree} (h : Ordered tree) (c : Classifier)
    (path : String) : c.entities path tree = tree.walk.map (c.entity path) := by
  have hholds : ∀ s ∈ tree.walk, tree.holds s = true := by
    intro s hs
    have hd : s.definition ∈ tree.definitions := h.walked ▸ List.mem_map_of_mem hs
    simpa [DefinitionTree.holds] using h.lines s.definition hd
  rw [Classifier.entities, List.filter_eq_self.2 hholds]

theorem Ordered.forall₂_entities {tree : DefinitionTree} (h : Ordered tree) (c : Classifier)
    (path : String) : List.Forall₂ (fun d e => ∃ scope?, e = c.entity path ⟨d, scope?⟩)
      tree.definitions (c.entities path tree) := by
  rw [h.entities_eq, ← h.walked, List.forall₂_map_left_iff, List.forall₂_map_right_iff,
    List.forall₂_same]
  exact fun s _ => ⟨s.scope?, rfl⟩

theorem Ordered.lineNumbers {tree : DefinitionTree} (h : Ordered tree) (c : Classifier)
    (path : String) : (c.entities path tree).map Entity.lineNumber =
      tree.definitions.map Definition.line := by
  rw [h.entities_eq, ← h.walked, List.map_map, List.map_map]
  rfl

/-- The definitions of a source text that is accepted lie in it, each on a later line than those
before it in the tree. So none is dropped: each has one entity, and the line numbers increase. -/
theorem entities_in_source_order {path : String} {source : List Char} {tree : DefinitionTree}
    (c : Classifier) (h : grammar.definitions path source = .ok tree) :
    (∀ d ∈ tree.definitions, 1 ≤ d.line ∧ d.line ≤ (Text.lines source).length) ∧
      (tree.definitions.map Definition.line).Pairwise (· < ·) ∧
      ∃ entities, classifyFile path source c grammar = .classified entities ∧
        List.Forall₂ (fun d e => ∃ scope?, e = c.entity path ⟨d, scope?⟩)
          tree.definitions entities ∧
        (entities.map Entity.lineNumber).Pairwise (· < ·) := by
  obtain ⟨hordered, hcount⟩ := ordered_of_definitions h
  have hnumbers := hordered.lineNumbers c path
  exact ⟨hcount ▸ hordered.lines, hordered.ascending, c.entities path tree,
    by rw [classifyFile, h], hordered.forall₂_entities c path, hnumbers ▸ hordered.ascending⟩

def botSource : List Char :=
  ("@tag\nclass Bot(Base):\n  class Part:\n    def stop(): pass\n\n" ++
    "  def run(self):\n    def inner(): pass\n\ndef main():").toList

theorem entities_of_botSource :
    (Text.lines botSource).length = 9 ∧
      (classifyFile "bot.py" botSource (.ofVocabulary .default 4) grammar).entities.map
          (fun e => (e.signature, e.lineNumber)) =
        [("class Bot(Base)", 2), ("class Part", 3), ("def stop()", 4), ("def run(self)", 6),
          ("def main()", 9)] ∧
      ∃ tree, grammar.definitions "bot.py" botSource = .ok tree ∧
        (∀ d ∈ tree.definitions, 1 ≤ d.line ∧ d.line ≤ (Text.lines botSource).length) ∧
        (tree.definitions.map Definition.line).Pairwise (· < ·) ∧
        ∃ entities,
          classifyFile "bot.py" botSource (.ofVocabulary .default 4) grammar =
            .classified entities ∧
          List.Forall₂
            (fun d e => ∃ scope?,
              e = (Classifier.ofVocabulary .default 4).entity "bot.py" ⟨d, scope?⟩)
            tree.definitions entities ∧
          (entities.map Entity.lineNumber).Pairwise (· < ·) := by
  have hlisted : (classifyFile "bot.py" botSource (.ofVocabulary .default 4) grammar).entities.map
      (fun e => (e.signature, e.lineNumber)) =
        [("class Bot(Base)", 2), ("class Part", 3), ("def stop()", 4), ("def run(self)", 6),
          ("def main()", 9)] := by decide +kernel
  refine ⟨by decide +kernel, hlisted, ?_⟩
  cases h : grammar.definitions "bot.py" botSource with
  | error fault =>
    rw [classifyFile, h] at hlisted
    cases hlisted
  | ok tree => exact ⟨tree, rfl, entities_in_source_order (.ofVocabulary .default 4) h⟩

end Python

end Appraisal
