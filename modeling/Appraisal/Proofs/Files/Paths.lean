import Appraisal.Files.Path
import Mathlib.Data.List.TakeWhile

set_option autoImplicit false

namespace Appraisal.Path

structure IsName (name : List Char) : Prop where
  ne_nil : name ≠ []
  noSlash : '/' ∉ name
  ne_here : name ≠ ['.']
  ne_up : name ≠ ['.', '.']

instance : DecidablePred IsName := fun name =>
  decidable_of_iff (name ≠ [] ∧ '/' ∉ name ∧ name ≠ ['.'] ∧ name ≠ ['.', '.'])
    ⟨fun h => ⟨h.1, h.2.1, h.2.2.1, h.2.2.2⟩, fun h => ⟨h.ne_nil, h.noSlash, h.ne_here, h.ne_up⟩⟩

theorem IsName.componentOf? {name : List Char} (h : IsName name) :
    Path.componentOf? name = some (.name name) := by
  rw [Path.componentOf?, if_neg (fun h' => h'.elim h.ne_nil h.ne_here), if_neg h.ne_up]

theorem segments_ne_nil (text : List Char) : segments text ≠ [] := by
  cases text with
  | nil => simp [segments]
  | cons c r =>
    rw [segments]
    split
    · simp
    · split <;> simp

theorem segments_append_slash (a b : List Char) :
    segments (a ++ '/' :: b) = segments a ++ segments b := by
  induction a with
  | nil => rfl
  | cons c a ih =>
    rw [List.cons_append, segments, segments, ih]
    by_cases hc : c = '/'
    · rw [if_pos hc, if_pos hc]
      rfl
    · rw [if_neg hc, if_neg hc]
      cases hsegments : segments a with
      | nil => exact absurd hsegments (segments_ne_nil a)
      | cons first rest => rfl

theorem segments_of_noSlash {name : List Char} (h : '/' ∉ name) : segments name = [name] := by
  induction name with
  | nil => rfl
  | cons c name ih =>
    have hc : c ≠ '/' := fun heq => h (heq ▸ List.mem_cons_self)
    rw [segments, if_neg hc, ih fun hmem => h (List.mem_cons_of_mem _ hmem)]

def componentsOf (slash : Bool) (parts : List (List Char)) : List Component :=
  if slash then .root :: parts.filterMap componentOf?
  else if parts.head? = some ['.'] then .here :: parts.filterMap componentOf?
  else parts.filterMap componentOf?

theorem components_eq (p : Path) :
    p.components = componentsOf p.isAbsolute (segments p.text) := by
  simp only [components, componentsOf, isAbsolute, beq_iff_eq]

theorem componentsOf_append {parts : List (List Char)} (h : parts ≠ []) (slash : Bool)
    (part : List Char) :
    componentsOf slash (parts ++ [part]) =
      componentsOf slash parts ++ (componentOf? part).toList := by
  obtain ⟨first, rest, rfl⟩ := List.exists_cons_of_ne_nil h
  have hbody : (first :: rest ++ [part]).filterMap componentOf? =
      (first :: rest).filterMap componentOf? ++ (componentOf? part).toList := by
    rw [List.filterMap_append]
    cases hpart : componentOf? part <;> simp [hpart]
  rw [componentsOf, componentsOf, hbody]
  cases slash
  · by_cases hfirst : first = ['.'] <;> simp [hfirst]
  · simp

theorem isAbsolute_append {text : List Char} (h : text ≠ []) (more : List Char) :
    isAbsolute ⟨text ++ more⟩ = isAbsolute ⟨text⟩ := by
  obtain ⟨c, rest, rfl⟩ := List.exists_cons_of_ne_nil h
  rfl

theorem components_join {p : Path} {name : List Char} (hp : p.text ≠ []) (h : IsName name) :
    (p.join ⟨name⟩).components = p.components ++ [.name name] := by
  have hrelative : isAbsolute ⟨name⟩ = false := by
    cases name with
    | nil => rfl
    | cons c name =>
      have hc : c ≠ '/' := fun heq => h.noSlash (heq ▸ List.mem_cons_self)
      simp [isAbsolute, hc]
  have hlast : (componentOf? name).toList = [Component.name name] := by
    rw [h.componentOf?]
    rfl
  obtain ⟨text⟩ := p
  rw [join, hrelative, if_neg Bool.false_ne_true]
  dsimp only at hp ⊢
  split
  · next hslash =>
    obtain ⟨before, rfl⟩ := List.getLast?_eq_some_iff.1 (hslash.resolve_left hp)
    rw [components_eq, components_eq, isAbsolute_append hp, List.append_assoc,
      List.singleton_append, segments_append_slash, segments_append_slash,
      segments_of_noSlash h.noSlash, componentsOf_append (segments_ne_nil _), hlast]
    change _ = componentsOf _ (segments before ++ [[]]) ++ _
    rw [componentsOf_append (segments_ne_nil _)]
    simp [componentOf?]
  · rw [components_eq, components_eq, isAbsolute_append hp, segments_append_slash,
      segments_of_noSlash h.noSlash, componentsOf_append (segments_ne_nil _), hlast]

/-- What follows the last dot of a name, when something stands before that dot. -/
structure IsExtension (name ext : List Char) : Prop where
  stem : ∃ stem, stem ≠ [] ∧ name = stem ++ '.' :: ext
  noDot : '.' ∉ ext

theorem IsExtension.extensionOf? {name ext : List Char} (h : IsExtension name ext) :
    Path.extensionOf? name = some ext := by
  obtain ⟨⟨stem, hstem, rfl⟩, hdot⟩ := h
  have hreverse : (stem ++ '.' :: ext).reverse = ext.reverse ++ '.' :: stem.reverse := by simp
  have htake : (ext.reverse ++ '.' :: stem.reverse).takeWhile (· ≠ '.') = ext.reverse := by
    rw [List.takeWhile_append_of_pos]
    · simp
    · intro c hc
      exact decide_eq_true fun heq => hdot (heq ▸ List.mem_reverse.1 hc)
  obtain ⟨first, rest, hrest⟩ := List.exists_cons_of_ne_nil (List.reverse_ne_nil_iff.2 hstem)
  rw [Path.extensionOf?, hreverse, htake, List.drop_left, hrest]
  dsimp only
  rw [List.reverse_reverse]

theorem isExtension_of_extensionOf? {name ext : List Char}
    (h : Path.extensionOf? name = some ext) : IsExtension name ext := by
  have hsplit := List.takeWhile_append_dropWhile (p := (fun c => decide (c ≠ '.')))
    (l := name.reverse)
  have htail : ∀ c ∈ name.reverse.takeWhile (· ≠ '.'), c ≠ '.' := fun c hc => by
    simpa using List.mem_takeWhile_imp hc
  have hhead := List.head?_dropWhile_not (fun c => decide (c ≠ '.')) name.reverse
  rw [Path.extensionOf?] at h
  generalize name.reverse.takeWhile (· ≠ '.') = tail at *
  generalize name.reverse.dropWhile (fun c => decide (c ≠ '.')) = rest at *
  rw [← hsplit, List.drop_left] at h
  split at h
  · cases h
  · cases h
  · next dot more hmore =>
    cases h
    obtain rfl : dot = '.' := by simpa using hhead
    refine ⟨⟨more.reverse, ?_, ?_⟩, fun hdot => htail '.' (List.mem_reverse.1 hdot) rfl⟩
    · intro hnil
      rw [List.reverse_eq_nil_iff] at hnil
      exact hmore hnil
    · rw [← List.reverse_reverse name, ← hsplit]
      simp

theorem extensionOf?_eq_some_iff {name ext : List Char} :
    extensionOf? name = some ext ↔ IsExtension name ext :=
  ⟨isExtension_of_extensionOf?, IsExtension.extensionOf?⟩

end Appraisal.Path
