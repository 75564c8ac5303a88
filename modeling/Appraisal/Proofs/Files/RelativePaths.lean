import Appraisal.Proofs.Files.Discovery

set_option autoImplicit false

namespace Appraisal

namespace Path

variable {name : List Char} {names : List (List Char)}

theorem joined_names (names : List (List Char)) :
    joined (names.map .name) = ['/'].intercalate names := by
  induction names with
  | nil => rfl
  | cons name rest ih =>
    cases rest with
    | nil => simp [joined, Component.text]
    | cons second rest =>
      rw [List.intercalate_cons_cons, ← ih]
      simp [joined, Component.text]

theorem segments_intercalate (hne : names ≠ []) (h : ∀ name ∈ names, '/' ∉ name) :
    segments (['/'].intercalate names) = names := by
  induction names with
  | nil => exact absurd rfl hne
  | cons name rest ih =>
    obtain ⟨hname, hrest⟩ := List.forall_mem_cons.1 h
    cases rest with
    | nil => rw [List.intercalate_singleton, segments_of_noSlash hname]
    | cons second rest =>
      rw [List.intercalate_cons_cons, List.append_assoc, List.singleton_append,
        segments_append_slash, segments_of_noSlash hname, ih (List.cons_ne_nil _ _) hrest]
      rfl

theorem eq_of_intercalate_eq {others : List (List Char)} (hne : names ≠ []) (hne' : others ≠ [])
    (h : ∀ name ∈ names, IsName name) (h' : ∀ name ∈ others, IsName name)
    (heq : ['/'].intercalate others = ['/'].intercalate names) : others = names := by
  rw [← segments_intercalate hne' fun name hname => (h' name hname).noSlash, heq,
    segments_intercalate hne fun name hname => (h name hname).noSlash]

theorem IsName.relative_append (h : IsName name) (more : List Char) :
    isAbsolute ⟨name ++ more⟩ = false := by
  obtain ⟨c, rest, rfl⟩ := List.exists_cons_of_ne_nil h.ne_nil
  have hc : c ≠ '/' := fun heq => h.noSlash (heq ▸ List.mem_cons_self)
  simp [isAbsolute, hc]

def separator (directory : Path) : List Char :=
  if directory.text = [] ∨ directory.text.getLast? = some '/' then [] else ['/']

theorem join_of_relative {directory entry : Path} (h : entry.isAbsolute = false) :
    directory.join entry = ⟨directory.text ++ (directory.separator ++ entry.text)⟩ := by
  rw [join, h, if_neg Bool.false_ne_true, separator]
  split <;> simp

theorem IsName.relative (h : IsName name) : isAbsolute ⟨name⟩ = false := by
  simpa using h.relative_append []

theorem IsName.text_join_ne_nil (h : IsName name) (directory : Path) :
    (directory.join ⟨name⟩).text ≠ [] := by
  rw [join_of_relative h.relative]
  simp [h.ne_nil]

theorem IsName.join_join (h : IsName name) (directory : Path) {more : List Char}
    (hmore : isAbsolute ⟨more⟩ = false) :
    (directory.join ⟨name⟩).join ⟨more⟩ = directory.join ⟨name ++ '/' :: more⟩ := by
  have hseparator : (directory.join ⟨name⟩).separator = ['/'] := by
    have hlast : (directory.join ⟨name⟩).text.getLast? ≠ some '/' := by
      rw [join_of_relative h.relative]
      dsimp only
      rw [← List.append_assoc, List.getLast?_append_of_ne_nil _ h.ne_nil]
      exact fun hlast => h.noSlash (List.mem_of_getLast? hlast)
    exact if_neg (not_or.2 ⟨h.text_join_ne_nil directory, hlast⟩)
  rw [join_of_relative hmore, hseparator, join_of_relative h.relative,
    join_of_relative (h.relative_append _)]
  simp

/-- A name that is joined to a path becomes its last component, also where that path is empty. -/
theorem IsName.components_join (h : IsName name) (directory : Path) :
    (directory.join ⟨name⟩).components = directory.components ++ [.name name] := by
  by_cases hnil : directory.text = []
  · obtain ⟨_⟩ := directory
    subst hnil
    have hjoin : join ⟨[]⟩ ⟨name⟩ = ⟨name⟩ := by
      rw [join_of_relative h.relative]
      rfl
    rw [hjoin, components_eq, h.relative, segments_of_noSlash h.noSlash, componentsOf]
    simp [h.componentOf?, h.ne_here]
    rfl
  · exact Path.components_join hnil h

end Path

namespace Discovery

variable {names : List (List Char)}

theorem isAbsolute_intercalate (h : ∀ name ∈ names, Path.IsName name) :
    Path.isAbsolute ⟨['/'].intercalate names⟩ = false := by
  cases names with
  | nil => rfl
  | cons name rest =>
    have hname := h name List.mem_cons_self
    cases rest with
    | nil => rw [List.intercalate_singleton, hname.relative]
    | cons second rest =>
      rw [List.intercalate_cons_cons, List.append_assoc]
      exact hname.relative_append _

theorem pathBelow_eq_join (root : Path) (hne : names ≠ [])
    (h : ∀ name ∈ names, Path.IsName name) :
    pathBelow root names = root.join ⟨['/'].intercalate names⟩ := by
  induction names generalizing root with
  | nil => exact absurd rfl hne
  | cons name rest ih =>
    obtain ⟨hname, hrest⟩ := List.forall_mem_cons.1 h
    cases rest with
    | nil =>
      rw [List.intercalate_singleton]
      rfl
    | cons second rest =>
      change pathBelow (root.join ⟨name⟩) (second :: rest) = _
      rw [ih _ (List.cons_ne_nil _ _) hrest, hname.join_join _ (isAbsolute_intercalate hrest),
        List.intercalate_cons_cons, List.append_assoc, List.singleton_append]

theorem components_below (root : Path) (h : ∀ name ∈ names, Path.IsName name) :
    (pathBelow root names).components = root.components ++ names.map .name := by
  cases names with
  | nil => simp [pathBelow]
  | cons name rest =>
    obtain ⟨hname, hrest⟩ := List.forall_mem_cons.1 h
    change (pathBelow (root.join ⟨name⟩) rest).components = _
    rw [components_pathBelow (hname.text_join_ne_nil root) hrest, hname.components_join]
    simp

end Discovery

theorem Path.stripPrefix?_append (front rest : List Component) :
    stripPrefix? front (front ++ rest) = some rest := by
  induction front with
  | nil => rfl
  | cons c front ih => rw [List.cons_append, stripPrefix?, if_pos rfl, ih]

def SourceFile.below (root : Path) (names : List (List Char)) : SourceFile :=
  .ofPath root (Discovery.pathBelow root names)

theorem SourceFile.relativePath_below (root : Path) {names : List (List Char)}
    (h : ∀ name ∈ names, Path.IsName name) :
    (below root names).relativePath = String.ofList (['/'].intercalate names) := by
  rw [below, ofPath, Path.relativeTo, Discovery.components_below root h,
    Path.stripPrefix?_append, Option.getD_some, Path.joined_names]

/-- The relative path of a file is its names with slashes between them, whatever the directory from
which they lead. So below one directory no two files have the same one, and joined to the directory
it is the path of the file again. -/
theorem SourceFile.relativePath_identifies (root : Path) {names : List (List Char)}
    (hne : names ≠ []) (hnames : ∀ name ∈ names, Path.IsName name) :
    (below root names).relativePath = String.ofList (['/'].intercalate names) ∧
      (∀ others, others ≠ [] → (∀ name ∈ others, Path.IsName name) →
        (below root others).relativePath = (below root names).relativePath → others = names) ∧
      root.join (.ofString (below root names).relativePath) = (below root names).path ∧
      (below root names).path.components = root.components ++ names.map .name := by
  have hrelative := relativePath_below root hnames
  refine ⟨hrelative, fun others hothers hnames' heq => ?_, ?_,
    Discovery.components_below root hnames⟩
  · rw [hrelative, relativePath_below root hnames', String.ofList_inj] at heq
    exact Path.eq_of_intercalate_eq hne hothers hnames hnames' heq
  · rw [hrelative, Path.ofString, String.toList_ofList]
    exact (Discovery.pathBelow_eq_join root hne hnames).symm

theorem SourceFile.relativePath_below_untidy_root :
    ["a b".toList, "é.py".toList] ≠ [] ∧
      (∀ name ∈ ["a b".toList, "é.py".toList], Path.IsName name) ∧
      (below (.ofString ".//repo/./") ["a b".toList, "é.py".toList]).relativePath =
        "a b/é.py" ∧
      (Path.ofString ".//repo/./").join (.ofString "a b/é.py") =
        .ofString ".//repo/./a b/é.py" ∧
      (Path.ofString ".//repo/./a b/é.py").components =
        [.here, .name "repo".toList, .name "a b".toList, .name "é.py".toList] := by
  have hne : ["a b".toList, "é.py".toList] ≠ [] := by decide
  have hnames : ∀ name ∈ ["a b".toList, "é.py".toList], Path.IsName name := by decide
  obtain ⟨hrelative, -, hjoin, hcomponents⟩ :=
    SourceFile.relativePath_identifies (.ofString ".//repo/./") hne hnames
  rw [hrelative] at hjoin
  exact ⟨hne, hnames, hrelative, hjoin, hcomponents⟩

end Appraisal
