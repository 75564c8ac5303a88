import Appraisal.Code.Entity
import Mathlib.Data.List.Flatten
import Mathlib.Data.List.Forall2
import Mathlib.Data.List.Induction

set_option autoImplicit false

/-!
# The walk through a tree of definitions

A definition has an address in its tree: which child it is, of which child, and so on. The walk
comes to the classes and functions whose addresses lead through modules and classes only, each once
and in the order of the addresses, and gives them the chain of the classes around them, back to the
last module, as their scope.
-/
namespace Appraisal.Code

def Definition.at? : List Nat → Definition → Option Definition
  | [], d => some d
  | i :: rest, d => d.children[i]?.bind (Definition.at? rest)

def Definition.around : List Nat → Definition → List Definition
  | [], _ => []
  | i :: rest, d => d :: (d.children[i]?.map (Definition.around rest)).getD []

/-- A class or function with no function around it. -/
structure Definition.Reaches (root : Definition) (address : List Nat) (d : Definition) : Prop where
  found : root.at? address = some d
  form : d.form ≠ .moduleForm
  outside : ∀ a ∈ root.around address, a.form ≠ .functionForm

/-- The names of the classes among these definitions that come after the last module. -/
def classChain (around : List Definition) : List (List Char) :=
  ((around.reverse.takeWhile (fun a => a.form = .classForm)).reverse).map Definition.name

def dotted? (chain : List (List Char)) : Option (List Char) :=
  if chain.isEmpty then none else some (['.'].intercalate chain)

structure Entity.Describes (e : Entity) (c : Classifier) (path : String) (d : Definition)
    (around : List Definition) : Prop where
  kind : e.kind = classify c.rules d
  form : e.form = d.form
  name : e.name = String.ofList d.name
  filePath : e.filePath = path
  lineNumber : e.lineNumber = d.line
  docstring? : e.docstring? =
    d.docstring?.map (fun text => String.ofList (text.take c.maxDocstring))
  signature : e.signature = String.ofList d.signature
  scope? : e.scope? = (dotted? (classChain around)).map String.ofList

mutual

def Definition.reached : Definition → List (List Nat)
  | ⟨.moduleForm, _, _, _, _, _, _, children⟩ => reachedFrom 0 children
  | ⟨.classForm, _, _, _, _, _, _, children⟩ => [] :: reachedFrom 0 children
  | ⟨.functionForm, _, _, _, _, _, _, _⟩ => [[]]

def reachedFrom (i : Nat) : List Definition → List (List Nat)
  | [] => []
  | d :: rest => d.reached.map (i :: ·) ++ reachedFrom (i + 1) rest

end

def Definition.entered (d : Definition) : List Definition :=
  if d.form = .functionForm then [] else d.children

def scopeWithin (scope? : Option (List Char)) (d : Definition) : Option (List Char) :=
  match d.form with
  | .moduleForm => none
  | .classForm => some (innerScope scope? d.name)
  | .functionForm => scope?

theorem walkAll_eq (scope? : Option (List Char)) (ds : List Definition) :
    walkAll scope? ds = ds.flatMap (Definition.walk scope?) := by
  induction ds with
  | nil => rw [walkAll]; rfl
  | cons d rest ih => rw [walkAll, ih, List.flatMap_cons]

theorem reachedFrom_eq (i : Nat) (ds : List Definition) :
    reachedFrom i ds = (ds.zipIdx i).flatMap (fun e => e.1.reached.map (e.2 :: ·)) := by
  induction ds generalizing i with
  | nil => rw [reachedFrom]; rfl
  | cons d rest ih => rw [reachedFrom, ih, List.zipIdx_cons, List.flatMap_cons]

theorem Definition.walk_eq (scope? : Option (List Char)) (d : Definition) :
    d.walk scope? = (if d.form = .moduleForm then [] else [⟨d, scope?⟩]) ++
      d.entered.flatMap (Definition.walk (scopeWithin scope? d)) := by
  obtain ⟨form, name, line, bases, decorators, parameters, docstring?, children⟩ := d
  cases form with
  | moduleForm => rw [Definition.walk, walkAll_eq]; rfl
  | classForm => rw [Definition.walk, walkAll_eq]; rfl
  | functionForm => rw [Definition.walk]; rfl

theorem Definition.reached_eq (d : Definition) :
    d.reached = (if d.form = .moduleForm then [] else [[]]) ++
      d.entered.zipIdx.flatMap (fun e => e.1.reached.map (e.2 :: ·)) := by
  obtain ⟨form, name, line, bases, decorators, parameters, docstring?, children⟩ := d
  cases form with
  | moduleForm => rw [Definition.reached, reachedFrom_eq]; rfl
  | classForm => rw [Definition.reached, reachedFrom_eq]; rfl
  | functionForm => rw [Definition.reached]; rfl

theorem Definition.children_induction {P : Definition → Prop}
    (h : ∀ d : Definition, (∀ child ∈ d.children, P child) → P d) : (d : Definition) → P d
  | ⟨_, _, _, _, _, _, _, children⟩ =>
    h _ fun child (_hchild : child ∈ children) => Definition.children_induction h child
termination_by d => sizeOf d
decreasing_by
  have hsize := List.sizeOf_lt_of_mem _hchild
  simp only [Definition.mk.sizeOf_spec]
  omega

theorem Definition.mem_children_of_entered {d child : Definition} {i : Nat}
    (h : d.entered[i]? = some child) : d.children[i]? = some child := by
  unfold Definition.entered at h
  split at h
  · cases h
  · exact h

theorem Definition.reaches_nil_iff {root d : Definition} :
    root.Reaches [] d ↔ root = d ∧ d.form ≠ .moduleForm := by
  constructor
  · exact fun h => ⟨Option.some.inj h.found, h.form⟩
  · rintro ⟨rfl, hform⟩
    exact ⟨rfl, hform, nofun⟩

theorem Definition.around_cons {root child : Definition} {i : Nat}
    (h : root.children[i]? = some child) (rest : List Nat) :
    root.around (i :: rest) = root :: child.around rest := by
  rw [Definition.around, h]
  rfl

theorem Definition.at?_cons {root child : Definition} {i : Nat}
    (h : root.children[i]? = some child) (rest : List Nat) :
    root.at? (i :: rest) = child.at? rest := by
  rw [Definition.at?, h]
  rfl

theorem Definition.reaches_cons_iff {root d : Definition} {i : Nat} {rest : List Nat} :
    root.Reaches (i :: rest) d ↔
      ∃ child, root.entered[i]? = some child ∧ child.Reaches rest d := by
  constructor
  · rintro ⟨hfound, hform, houtside⟩
    obtain ⟨child, hchild, hbelow⟩ := Option.bind_eq_some_iff.1 hfound
    rw [Definition.around_cons hchild] at houtside
    obtain ⟨hroot, hrest⟩ := List.forall_mem_cons.1 houtside
    exact ⟨child, by rwa [Definition.entered, if_neg hroot], hbelow, hform, hrest⟩
  · rintro ⟨child, hentered, hfound, hform, houtside⟩
    have hchild := Definition.mem_children_of_entered hentered
    have hroot : root.form ≠ .functionForm := fun hfunction => by
      rw [Definition.entered, if_pos hfunction] at hentered
      cases hentered
    exact ⟨(Definition.at?_cons hchild rest).trans hfound, hform,
      Definition.around_cons hchild rest ▸ List.forall_mem_cons.2 ⟨hroot, houtside⟩⟩

theorem Definition.nil_mem_reached_iff {root : Definition} :
    [] ∈ root.reached ↔ root.form ≠ .moduleForm := by
  rw [Definition.reached_eq, List.mem_append]
  have hnone : [] ∉ root.entered.zipIdx.flatMap (fun e => e.1.reached.map (e.2 :: ·)) := by
    simp
  rw [or_iff_left hnone]
  split <;> simp_all

theorem Definition.cons_mem_reached_iff {root : Definition} {i : Nat} {rest : List Nat} :
    i :: rest ∈ root.reached ↔
      ∃ child, root.entered[i]? = some child ∧ rest ∈ child.reached := by
  rw [Definition.reached_eq, List.mem_append, or_iff_right (by split <;> simp), List.mem_flatMap]
  constructor
  · rintro ⟨e, he, hrest⟩
    obtain ⟨below, hbelow, hcons⟩ := List.mem_map.1 hrest
    obtain ⟨rfl, rfl⟩ := List.cons.inj hcons
    exact ⟨e.1, List.mem_zipIdx_iff_getElem?.1 he, hbelow⟩
  · rintro ⟨child, hchild, hrest⟩
    exact ⟨(child, i), List.mk_mem_zipIdx_iff_getElem?.2 hchild, List.mem_map.2 ⟨rest, hrest, rfl⟩⟩

theorem Definition.mem_reached_iff (address : List Nat) (root : Definition) :
    address ∈ root.reached ↔ ∃ d, root.Reaches address d := by
  induction address generalizing root with
  | nil => simp [Definition.nil_mem_reached_iff, Definition.reaches_nil_iff]
  | cons i rest ih =>
    simp only [Definition.cons_mem_reached_iff, Definition.reaches_cons_iff, ih]
    exact ⟨fun ⟨child, hchild, d, hd⟩ => ⟨d, child, hchild, hd⟩,
      fun ⟨d, child, hchild, hd⟩ => ⟨child, hchild, d, hd⟩⟩

theorem Definition.pairwise_reached (root : Definition) : root.reached.Pairwise (· < ·) := by
  induction root using Definition.children_induction with
  | h root ih =>
    have hindices : (root.entered.zipIdx.map (·.2)).Pairwise (· < ·) := by
      rw [List.zipIdx_map_snd]
      exact List.pairwise_lt_range'
    rw [Definition.reached_eq, List.pairwise_append, List.pairwise_flatMap]
    -- an own address before those below, and below by the child that comes first
    refine ⟨by split <;> simp, ⟨fun e he => ?_, (List.pairwise_map.1 hindices).imp ?_⟩, ?_⟩
    · have hchild := Definition.mem_children_of_entered (List.mem_zipIdx_iff_getElem?.1 he)
      exact List.pairwise_map.2
        ((ih e.1 (List.mem_of_getElem? hchild)).imp (List.cons_lt_cons_self.2 ·))
    · rintro e e' hlt x hx y hy
      obtain ⟨_, -, rfl⟩ := List.mem_map.1 hx
      obtain ⟨_, -, rfl⟩ := List.mem_map.1 hy
      exact List.cons_lt_cons_iff.2 (.inl hlt)
    · intro x hx y hy
      obtain ⟨e, -, hy⟩ := List.mem_flatMap.1 hy
      obtain ⟨_, -, rfl⟩ := List.mem_map.1 hy
      have hx : x = [] := by
        split at hx <;> simp_all
      exact hx ▸ List.nil_lt_cons _ _

def Definition.scopedAt? (scope? : Option (List Char)) (d : Definition) (address : List Nat) :
    Option Scoped :=
  (d.at? address).map (fun found => ⟨found, (d.around address).foldl scopeWithin scope?⟩)

theorem Definition.scopedAt?_cons {root child : Definition} {i : Nat}
    (h : root.children[i]? = some child) (scope? : Option (List Char)) (rest : List Nat) :
    root.scopedAt? scope? (i :: rest) = child.scopedAt? (scopeWithin scope? root) rest := by
  rw [Definition.scopedAt?, Definition.at?_cons h, Definition.around_cons h, List.foldl_cons]
  rfl

theorem Definition.walk_eq_filterMap (scope? : Option (List Char)) (root : Definition) :
    root.walk scope? = root.reached.filterMap (root.scopedAt? scope?) := by
  -- below a module or class the walk goes on with another scope
  induction root using Definition.children_induction generalizing scope? with
  | h root ih =>
    have hbelow (e : Definition × Nat) (he : e ∈ root.entered.zipIdx) :
        (e.1.reached.map (e.2 :: ·)).filterMap (root.scopedAt? scope?) =
          e.1.walk (scopeWithin scope? root) := by
      have hchild := Definition.mem_children_of_entered (List.mem_zipIdx_iff_getElem?.1 he)
      rw [List.filterMap_map, ih e.1 (List.mem_of_getElem? hchild)]
      exact List.filterMap_congr fun rest _ => Definition.scopedAt?_cons hchild scope? rest
    rw [Definition.walk_eq, Definition.reached_eq, List.filterMap_append, List.filterMap_flatMap,
      List.flatMap_congr hbelow]
    congr 1
    · split <;> rfl
    · conv_lhs => rw [← List.zipIdx_map_fst 0 root.entered, List.flatMap_map]

theorem form_of_mem_walk {scope? : Option (List Char)} {s : Scoped} (root : Definition)
    (h : s ∈ root.walk scope?) : s.definition.form ≠ .moduleForm := by
  rw [Definition.walk_eq_filterMap] at h
  obtain ⟨address, haddress, hs⟩ := List.mem_filterMap.1 h
  obtain ⟨d, hd⟩ := (Definition.mem_reached_iff address root).1 haddress
  obtain ⟨found, hfound, rfl⟩ := Option.map_eq_some_iff.1 hs
  obtain rfl : d = found := Option.some.inj (hd.found.symm.trans hfound)
  exact hd.form

theorem classChain_append (around : List Definition) (d : Definition) :
    classChain (around ++ [d]) = if d.form = .classForm then classChain around ++ [d.name] else [] := by
  unfold classChain
  rw [List.reverse_append, List.reverse_singleton, List.singleton_append, List.takeWhile_cons]
  by_cases h : d.form = .classForm <;> simp [h]

theorem intercalate_append_singleton {α : Type} {chain : List (List α)} (h : chain ≠ [])
    (dot : α) (name : List α) :
    [dot].intercalate (chain ++ [name]) = [dot].intercalate chain ++ dot :: name := by
  induction chain with
  | nil => exact absurd rfl h
  | cons first rest ih =>
    cases rest with
    | nil => simp
    | cons second rest =>
      have hrest := ih (List.cons_ne_nil _ _)
      simp only [List.cons_append, List.intercalate_cons_cons] at hrest ⊢
      rw [hrest]
      simp only [List.append_assoc]

theorem innerScope_dotted? (chain : List (List Char)) (name : List Char) :
    some (innerScope (dotted? chain) name) = dotted? (chain ++ [name]) := by
  cases hchain : chain with
  | nil => simp [dotted?, innerScope]
  | cons first rest =>
    have hdots := intercalate_append_singleton (List.cons_ne_nil first rest) '.' name
    simp only [dotted?, List.isEmpty_cons, Bool.false_eq_true, if_false, innerScope,
      List.cons_append] at hdots ⊢
    rw [hdots]

/-- The scope grows by a class and starts anew at a module. -/
theorem foldl_scopeWithin {around : List Definition} (h : ∀ a ∈ around, a.form ≠ .functionForm) :
    around.foldl scopeWithin none = dotted? (classChain around) := by
  -- the innermost definition is the last to change the scope, so it is taken off first
  induction around using List.reverseRecOn with
  | nil => rfl
  | append_singleton around d ih =>
    have haround := ih fun a ha => h a (List.mem_append_left _ ha)
    have hd : d.form ≠ .functionForm := h d (List.mem_append_right _ (List.mem_singleton.2 rfl))
    rw [List.foldl_append, List.foldl_cons, List.foldl_nil, haround, classChain_append]
    unfold scopeWithin
    cases hform : d.form with
    | moduleForm => rfl
    | classForm => exact innerScope_dotted? _ _
    | functionForm => exact absurd hform hd

section Lists

variable {α β : Type} {f : α → Option β}

theorem filter_filterMap_eq (p : β → Bool) (l : List α) :
    (l.filterMap f).filter p = (l.filter (fun x => (f x).any p)).filterMap f := by
  rw [List.filter_filterMap, List.filterMap_filter]
  refine List.filterMap_congr fun x _ => ?_
  cases f x with
  | none => simp
  | some y => cases hp : p y <;> simp [hp]

theorem forall₂_filterMap {r : α → β → Prop} {l : List α}
    (h : ∀ x ∈ l, ∃ y, f x = some y ∧ r x y) : List.Forall₂ r l (l.filterMap f) := by
  induction l with
  | nil => exact .nil
  | cons x l ih =>
    obtain ⟨y, hy, hr⟩ := h x List.mem_cons_self
    rw [List.filterMap_cons_some hy]
    exact .cons hr (ih fun z hz => h z (List.mem_cons_of_mem x hz))

end Lists

def DefinitionTree.listed (tree : DefinitionTree) : List (List Nat) :=
  tree.root.reached.filter (fun address => (tree.root.scopedAt? none address).any tree.holds)

theorem DefinitionTree.mem_listed_iff (tree : DefinitionTree) (address : List Nat) :
    address ∈ tree.listed ↔
      ∃ d, tree.root.Reaches address d ∧ 1 ≤ d.line ∧ d.line ≤ tree.lineCount := by
  rw [DefinitionTree.listed, List.mem_filter, Definition.mem_reached_iff]
  have hholds {d : Definition} (hd : tree.root.Reaches address d) :
      (tree.root.scopedAt? none address).any tree.holds = true ↔
        1 ≤ d.line ∧ d.line ≤ tree.lineCount := by
    simp [Definition.scopedAt?, hd.found, DefinitionTree.holds]
  constructor
  · rintro ⟨⟨d, hd⟩, hlines⟩
    exact ⟨d, hd, (hholds hd).1 hlines⟩
  · rintro ⟨d, hd, hlines⟩
    exact ⟨⟨d, hd⟩, (hholds hd).2 hlines⟩

theorem DefinitionTree.entities_eq (tree : DefinitionTree) (c : Classifier) (path : String) :
    c.entities path tree = tree.listed.filterMap
      (fun address => (tree.root.scopedAt? none address).map (c.entity path)) := by
  rw [Classifier.entities, DefinitionTree.walk, Definition.walk_eq_filterMap, filter_filterMap_eq,
    List.map_filterMap]
  rfl

theorem describes_entity (c : Classifier) (path : String) (d : Definition)
    {around : List Definition} (h : ∀ a ∈ around, a.form ≠ .functionForm) :
    (c.entity path ⟨d, around.foldl scopeWithin none⟩).Describes c path d around where
  kind := rfl
  form := rfl
  name := rfl
  filePath := rfl
  lineNumber := rfl
  docstring? := rfl
  signature := rfl
  scope? := congrArg (Option.map String.ofList) (foldl_scopeWithin h)

/-- The entities of a file are the classes and functions of its tree that lie in the file and not
inside a function, each with its own texts and the classes around it. Their addresses ascend, so
what stands around a definition or before it comes first. -/
theorem entities_of_walk {grammar : Grammar} {path : String} {source : List Char}
    {tree : DefinitionTree} (c : Classifier) (h : grammar.definitions path source = .ok tree) :
    ∃ addresses entities, classifyFile path source c grammar = .classified entities ∧
      addresses.Pairwise (· < ·) ∧
      (∀ address, address ∈ addresses ↔
        ∃ d, tree.root.Reaches address d ∧ 1 ≤ d.line ∧ d.line ≤ tree.lineCount) ∧
      List.Forall₂ (fun address e => ∃ d, tree.root.at? address = some d ∧
        e.Describes c path d (tree.root.around address)) addresses entities := by
  refine ⟨tree.listed, c.entities path tree, by rw [classifyFile, h],
    tree.root.pairwise_reached.filter _, tree.mem_listed_iff, ?_⟩
  rw [DefinitionTree.entities_eq]
  refine forall₂_filterMap fun address haddress => ?_
  obtain ⟨d, hd, -⟩ := (tree.mem_listed_iff address).1 haddress
  refine ⟨_, ?_, d, hd.found, describes_entity c path d hd.outside⟩
  rw [Definition.scopedAt?, hd.found]
  rfl

def nestedTree : DefinitionTree where
  root := .ofModule
    [⟨.classForm, "Bot".toList, 0, ["Base".toList], [], [], none,
        [⟨.functionForm, "run".toList, 2, [], [], ["self".toList], some "Runs it.".toList, []⟩,
          .ofModule [⟨.classForm, "Part".toList, 9, [], [], [], none,
            [⟨.functionForm, "stop_loss".toList, 9, [], [], [], none, []⟩]⟩]]⟩,
      ⟨.functionForm, "main".toList, 3, [], [], [], none,
        [⟨.classForm, "Inner".toList, 4, [], [], [], none, []⟩]⟩,
      ⟨.classForm, "Late".toList, 10, [], [], [], none, []⟩]
  lineCount := 9

def nestedGrammar : Grammar := ⟨"nested", fun _ => true, fun _ _ => .ok nestedTree⟩

def nestedClassifier : Classifier := .ofVocabulary .default 4

theorem entities_of_nestedTree :
    nestedGrammar.definitions "bot.py" [] = .ok nestedTree ∧
      (classifyFile "bot.py" [] nestedClassifier nestedGrammar).entities.map
          (fun e => (e.signature, e.lineNumber, e.scope?)) =
        [("def run(self)", 2, some "Bot"), ("class Part", 9, none),
          ("def stop_loss()", 9, some "Part"), ("def main()", 3, none)] ∧
      ∃ addresses entities,
        classifyFile "bot.py" [] nestedClassifier nestedGrammar = .classified entities ∧
        addresses.Pairwise (· < ·) ∧
        (∀ address, address ∈ addresses ↔ ∃ d, nestedTree.root.Reaches address d ∧
          1 ≤ d.line ∧ d.line ≤ nestedTree.lineCount) ∧
        List.Forall₂ (fun address e => ∃ d, nestedTree.root.at? address = some d ∧
          e.Describes nestedClassifier "bot.py" d (nestedTree.root.around address))
          addresses entities :=
  ⟨rfl, by decide +kernel, entities_of_walk nestedClassifier rfl⟩

end Appraisal.Code
