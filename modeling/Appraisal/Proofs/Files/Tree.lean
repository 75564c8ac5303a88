import Appraisal.Files.FileSystem

set_option autoImplicit false

/-!
# What stands at a place

A tree is seen through what stands at each of its places. Putting a file at a place that takes one
changes what stands there and nowhere else.
-/
namespace Appraisal

inductive Node where
  | file (content : ByteArray)
  | link (target : Path)
  | directory

namespace Entry

def node : Entry → Node
  | .file content => .file content
  | .link target => .link target
  | .directory _ => .directory

def nodeAt? (e : Entry) (place : List (List Char)) : Option Node := (e.at? place).map node

theorem node_eq_directory {e : Entry} (h : e.node = .directory) :
    ∃ entries, e = .directory entries := by
  cases e with
  | directory entries => exact ⟨entries, rfl⟩
  | file content => cases h
  | link target => cases h

theorem childAmong?_putAmong (name other : List Char) (new : Entry)
    (entries : List (List Char × Entry)) :
    childAmong? other (putAmong name new entries) =
      if other = name then some new else childAmong? other entries := by
  induction entries with
  | nil =>
    by_cases h : other = name
    · simp [putAmong, childAmong?, h]
    · simp [putAmong, childAmong?, h, Ne.symm h]
  | cons e rest ih =>
    by_cases hname : e.1 = name
    · by_cases h : other = name
      · simp [putAmong, childAmong?, hname, h]
      · simp [putAmong, childAmong?, hname, h, Ne.symm h]
    · rw [putAmong, if_neg hname]
      by_cases he : e.1 = other
      · have hne : other ≠ name := fun h => hname (he.trans h)
        simp [childAmong?, he, hne]
      · have hskip (l : List (List Char × Entry)) :
            childAmong? other (e :: l) = childAmong? other l := by
          simp [childAmong?, he]
        rw [hskip, hskip, ih]

section Places

variable (e : Entry) (entries : List (List Char × Entry)) (name : List Char)
  (place rest : List (List Char))

theorem at?_directory_cons :
    (Entry.directory entries).at? (name :: rest) =
      (childAmong? name entries).bind (at? rest) := rfl

theorem at?_append : e.at? (place ++ rest) = (e.at? place).bind (at? rest) := by
  induction place generalizing e with
  | nil => rfl
  | cons name place ih =>
    change (e.child? name).bind (at? (place ++ rest)) =
      ((e.child? name).bind (at? place)).bind (at? rest)
    rw [Option.bind_assoc]
    exact congrArg (e.child? name).bind (funext ih)

theorem nodeAt?_directory_cons :
    (Entry.directory entries).nodeAt? (name :: rest) =
      (childAmong? name entries).bind (nodeAt? · rest) := by
  unfold nodeAt?
  rw [at?_directory_cons, Option.map_bind]
  rfl

theorem nodeAt?_child {place : List (List Char)} (h : e.at? place = some (.directory entries)) :
    e.nodeAt? (place ++ [name]) = (childAmong? name entries).map node := by
  rw [nodeAt?, at?_append, h, Option.bind_some, at?_directory_cons]
  cases childAmong? name entries <;> rfl

end Places

variable {top : Entry} {place : List (List Char)}

theorem nodeAt?_of_below {name : List Char} {n : Node}
    (h : top.nodeAt? (place ++ [name]) = some n) : top.nodeAt? place = some .directory := by
  obtain ⟨e, he, -⟩ := Option.map_eq_some_iff.1 h
  rw [at?_append] at he
  obtain ⟨above, habove, hchild⟩ := Option.bind_eq_some_iff.1 he
  cases above with
  | directory entries => exact congrArg (Option.map node) habove
  | file content => cases hchild
  | link target => cases hchild

theorem nodeAt?_dropLast {n : Node} (h : top.nodeAt? place = some n) (hne : place ≠ []) :
    top.nodeAt? place.dropLast = some .directory := by
  rw [← List.dropLast_concat_getLast hne] at h
  exact nodeAt?_of_below h

theorem node_of_below {n : Node} (h : top.nodeAt? place = some n) (hne : place ≠ []) :
    top.node = .directory := by
  cases place with
  | nil => exact absurd rfl hne
  | cons name rest =>
    cases top with
    | directory entries => rfl
    | file content => cases h
    | link target => cases h

/-- A file can be put at the place: there is a directory for it, and no link or directory. -/
structure TakesFile (top : Entry) (place : List (List Char)) : Prop where
  ne_nil : place ≠ []
  directory : top.nodeAt? place.dropLast = some .directory
  file : ∀ n, top.nodeAt? place = some n → ∃ content, n = .file content

theorem TakesFile.below {name : List Char} {entries : List (List Char × Entry)} {e : Entry}
    (h : (Entry.directory entries).TakesFile (name :: place)) (hne : place ≠ [])
    (he : childAmong? name entries = some e) : e.TakesFile place where
  ne_nil := hne
  directory := by
    have hdirectory := h.directory
    rwa [List.dropLast_cons_of_ne_nil hne, nodeAt?_directory_cons, he] at hdirectory
  file := by
    have hfile := h.file
    rwa [nodeAt?_directory_cons, he] at hfile

theorem nodeAt?_file_cons (content : ByteArray) (name : List Char) (rest : List (List Char)) :
    (Entry.file content).nodeAt? (name :: rest) = none := rfl

theorem nodeAt?_put (h : top.TakesFile place) (content : ByteArray) (other : List (List Char)) :
    (put (.file content) place top).nodeAt? other =
      if other = place then some (.file content) else top.nodeAt? other := by
  induction place generalizing top other with
  | nil => exact absurd rfl h.ne_nil
  | cons name rest ih =>
    obtain ⟨entries, rfl⟩ : ∃ entries, top = .directory entries := by
      cases rest with
      | nil => exact node_eq_directory (Option.some.inj h.directory)
      | cons next rest =>
        exact node_eq_directory (node_of_below h.directory (by simp))
    cases other with
    | nil => rfl
    | cons first others =>
      rw [put, nodeAt?_directory_cons, childAmong?_putAmong, nodeAt?_directory_cons]
      by_cases hname : first = name
      · subst hname
        simp only [ite_true, Option.bind_some, List.cons.injEq, true_and]
        cases rest with
        | nil =>
          cases others with
          | nil => rfl
          | cons next others =>
            -- below a file or a free place there is nothing
            simp only [put, nodeAt?_file_cons, List.cons_ne_nil, ite_false]
            have hfile := h.file
            rw [nodeAt?_directory_cons] at hfile
            cases hchild : childAmong? first entries with
            | none => rfl
            | some e =>
              rw [hchild] at hfile
              obtain ⟨content, hcontent⟩ := hfile e.node rfl
              cases e with
              | file content => rfl
              | link target => cases hcontent
              | directory entries => cases hcontent
        | cons next rest =>
          have hdirectory := h.directory
          rw [List.dropLast_cons_of_ne_nil (by simp), nodeAt?_directory_cons] at hdirectory
          obtain ⟨e, he, -⟩ := Option.bind_eq_some_iff.1 hdirectory
          simp only [he, Option.getD_some, Option.bind_some]
          exact ih (h.below (by simp) he) others
      · have hne : first :: others ≠ name :: rest := fun heq => hname (List.cons.inj heq).1
        rw [if_neg hname, if_neg hne]

end Entry

end Appraisal
