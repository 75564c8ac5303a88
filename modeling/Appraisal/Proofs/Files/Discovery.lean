import Appraisal.Files.Discovery
import Appraisal.Proofs.Files.Paths
import Appraisal.Proofs.Files.Tree
import Appraisal.Proofs.Text.Order

set_option autoImplicit false

namespace Appraisal

namespace Entry

def Proper (e : Entry) : Prop :=
  ∀ place entries, e.at? place = some (.directory entries) →
    (entries.map Prod.fst).Nodup ∧ ∀ name ∈ entries.map Prod.fst, Path.IsName name

variable {name : List Char} {e : Entry} {entries : List (List Char × Entry)}

theorem mem_of_childAmong? (h : childAmong? name entries = some e) : (name, e) ∈ entries := by
  obtain ⟨found, hfound, rfl⟩ := Option.map_eq_some_iff.1 h
  have hname : found.1 = name := by simpa using List.find?_some hfound
  exact hname ▸ List.mem_of_find?_eq_some hfound

theorem childAmong?_of_mem (hnodup : (entries.map Prod.fst).Nodup) (h : (name, e) ∈ entries) :
    childAmong? name entries = some e := by
  induction entries with
  | nil => cases h
  | cons first rest ih =>
    obtain ⟨hfirst, hrest⟩ := List.nodup_cons.1 hnodup
    rcases List.mem_cons.1 h with rfl | h
    · simp [childAmong?]
    · have hne : first.1 ≠ name := fun heq => hfirst (heq ▸ List.mem_map_of_mem h)
      have hskip : childAmong? name (first :: rest) = childAmong? name rest := by
        simp [childAmong?, hne]
      rw [hskip, ih hrest h]

theorem Proper.nodup (h : (Entry.directory entries).Proper) : (entries.map Prod.fst).Nodup :=
  (h [] entries rfl).1

theorem Proper.isName (h : (Entry.directory entries).Proper) (he : (name, e) ∈ entries) :
    Path.IsName name :=
  (h [] entries rfl).2 name (List.mem_map_of_mem he)

theorem Proper.child (h : (Entry.directory entries).Proper) (he : (name, e) ∈ entries) :
    e.Proper := by
  intro place below hbelow
  refine h (name :: place) below ?_
  rw [at?_directory_cons, childAmong?_of_mem h.nodup he, Option.bind_some, hbelow]

theorem proper_file (content : ByteArray) : (Entry.file content).Proper := by
  intro place entries h
  cases place <;> cases h

theorem proper_link (target : Path) : (Entry.link target).Proper := by
  intro place entries h
  cases place <;> cases h

theorem proper_directory (hnodup : (entries.map Prod.fst).Nodup)
    (hname : ∀ name ∈ entries.map Prod.fst, Path.IsName name) (hbelow : ∀ e ∈ entries, e.2.Proper) :
    (Entry.directory entries).Proper := by
  intro place found h
  cases place with
  | nil =>
    cases h
    exact ⟨hnodup, hname⟩
  | cons name rest =>
    rw [at?_directory_cons] at h
    obtain ⟨e, he, hrest⟩ := Option.bind_eq_some_iff.1 h
    exact hbelow _ (mem_of_childAmong? he) rest found hrest

end Entry

namespace Discovery

open Entry

/-- A file is reached along names: through directories below the first one that are not left out,
and through no link. -/
inductive Reaches (skipped : List String) :
    List (List Char × Entry) → List (List Char) → Prop
  | file {entries : List (List Char × Entry)} {name : List Char} {content : ByteArray}
    (h : childAmong? name entries = some (.file content)) : Reaches skipped entries [name]
  | through {entries sub : List (List Char × Entry)} {name : List Char} {rest : List (List Char)}
    (h : childAmong? name entries = some (.directory sub)) (hname : String.ofList name ∉ skipped)
    (hrest : Reaches skipped sub rest) : Reaches skipped entries (name :: rest)

def Wanted (extensions : List String) (names : List (List Char)) : Prop :=
  ∃ name ext x, names.getLast? = some name ∧ Path.IsExtension name ext ∧ x ∈ extensions ∧
    x.toList.map Char.toLower = ext.map Char.toLower

variable {extensions skipped : List String} {name : List Char} {names : List (List Char)}
  {entries : List (List Char × Entry)}

theorem wanted_singleton_iff : Wanted extensions [name] ↔ hasExtension extensions name = true := by
  simp only [hasExtension, Option.any_eq_true, List.any_eq_true, sameExtension, beq_iff_eq,
    Path.extensionOf?_eq_some_iff]
  constructor
  · rintro ⟨_, ext, x, hlast, hext, hx, hsame⟩
    cases hlast
    exact ⟨ext, hext, x, hx, hsame⟩
  · rintro ⟨ext, hext, x, hx, hsame⟩
    exact ⟨name, ext, x, rfl, hext, hx, hsame⟩

theorem wanted_cons_iff (h : names ≠ []) :
    Wanted extensions (name :: names) ↔ Wanted extensions names := by
  unfold Wanted
  rw [List.getLast?_cons_of_ne_nil h]

theorem mem_inOrder {found : List (List Char × List (List (List Char)))} :
    names ∈ inOrder found ↔ ∃ x ∈ found, names ∈ x.2 := by
  simp only [inOrder, List.mem_flatMap, List.mem_mergeSort]

theorem mem_filesAmong {x : List Char × List (List (List Char))} :
    x ∈ filesAmong extensions skipped entries ↔
      ∃ e ∈ entries, x = (e.1, filesOf extensions skipped e.1 e.2) := by
  induction entries with
  | nil => simp [filesAmong]
  | cons first rest ih => simp [filesAmong, ih]

/-- What is found below a directory: names that are found at one of its entries. -/
theorem mem_found_iff :
    names ∈ inOrder (filesAmong extensions skipped entries) ↔
      ∃ name e, (name, e) ∈ entries ∧ names ∈ filesOf extensions skipped name e := by
  rw [mem_inOrder]
  constructor
  · rintro ⟨x, hx, hnames⟩
    obtain ⟨e, he, rfl⟩ := mem_filesAmong.1 hx
    exact ⟨e.1, e.2, he, hnames⟩
  · rintro ⟨name, e, he, hnames⟩
    exact ⟨_, mem_filesAmong.2 ⟨_, he, rfl⟩, hnames⟩

theorem left_out_iff : (skipped.any fun s => s.toList == name) = true ↔
    String.ofList name ∈ skipped := by
  simp only [List.any_eq_true, beq_iff_eq]
  constructor
  · rintro ⟨s, hs, rfl⟩
    rwa [String.ofList_toList]
  · intro h
    exact ⟨_, h, String.toList_ofList⟩

theorem mem_filesOf_directory :
    names ∈ filesOf extensions skipped name (.directory entries) ↔
      String.ofList name ∉ skipped ∧ ∃ rest, names = name :: rest ∧
        rest ∈ inOrder (filesAmong extensions skipped entries) := by
  rw [filesOf]
  split
  · next hout => simp [left_out_iff.1 hout]
  · next hout =>
    rw [left_out_iff] at hout
    simp [hout, eq_comm, and_comm]

theorem head_of_mem_filesOf {e : Entry} (h : names ∈ filesOf extensions skipped name e) :
    ∃ rest, names = name :: rest := by
  cases e with
  | file content =>
    rw [filesOf] at h
    split at h
    · exact ⟨[], List.mem_singleton.1 h⟩
    · cases h
  | link target => cases h
  | directory sub =>
    obtain ⟨-, rest, rfl, -⟩ := mem_filesOf_directory.1 h
    exact ⟨rest, rfl⟩

theorem ne_nil_of_mem_found (h : names ∈ inOrder (filesAmong extensions skipped entries)) :
    names ≠ [] := by
  obtain ⟨name, e, -, hnames⟩ := mem_found_iff.1 h
  obtain ⟨rest, rfl⟩ := head_of_mem_filesOf hnames
  exact List.cons_ne_nil _ _

theorem mem_found (hproper : (Entry.directory entries).Proper) :
    names ∈ inOrder (filesAmong extensions skipped entries) ↔
      Reaches skipped entries names ∧ Wanted extensions names := by
  -- by the names on the way: each leads to the entries below it, and to the rest of the names
  induction names generalizing entries with
  | nil =>
    constructor
    · intro h
      exact absurd rfl (ne_nil_of_mem_found h)
    · rintro ⟨h, -⟩
      cases h
  | cons name rest ih =>
    rw [mem_found_iff]
    constructor
    · rintro ⟨first, e, he, hnames⟩
      have hchild := childAmong?_of_mem hproper.nodup he
      cases e with
      | file content =>
        rw [filesOf] at hnames
        split at hnames
        · next hext =>
          cases List.mem_singleton.1 hnames
          exact ⟨.file hchild, wanted_singleton_iff.2 hext⟩
        · cases hnames
      | link target => cases hnames
      | directory sub =>
        obtain ⟨hout, rest', heq, hrest⟩ := mem_filesOf_directory.1 hnames
        cases heq
        obtain ⟨hreaches, hwanted⟩ := (ih (hproper.child he)).1 hrest
        have hne := ne_nil_of_mem_found hrest
        exact ⟨.through hchild hout hreaches, (wanted_cons_iff hne).2 hwanted⟩
    · rintro ⟨hreaches, hwanted⟩
      cases hreaches with
      | file h =>
        refine ⟨name, _, mem_of_childAmong? h, ?_⟩
        rw [filesOf, if_pos (wanted_singleton_iff.1 hwanted)]
        exact List.mem_singleton_self _
      | through h hout hrest =>
        have hne : rest ≠ [] := by
          rintro rfl
          cases hrest
        have hmem := mem_of_childAmong? h
        exact ⟨name, _, hmem, mem_filesOf_directory.2 ⟨hout, rest, rfl,
          (ih (hproper.child hmem)).2 ⟨hrest, (wanted_cons_iff hne).1 hwanted⟩⟩⟩

/-- The first list of names comes before the second one, component by component in the order of
bytes. -/
def Before (a b : List (List Char)) : Prop := a.map Text.bytes < b.map Text.bytes

theorem before_cons_iff {a b : List (List Char)} :
    Before (name :: a) (name :: b) ↔ Before a b := by
  simp only [Before, List.map_cons, List.cons_lt_cons_iff, true_and, or_iff_right_iff_imp]
  exact fun h => absurd h (List.lt_irrefl _)

theorem before_of_le {other : List Char} (h : Text.le name other = true) (hne : name ≠ other)
    (a b : List (List Char)) : Before (name :: a) (other :: b) :=
  List.cons_lt_cons_iff.2 (.inl (Text.bytes_lt_of_le h hne))

theorem ascending_inOrder {found : List (List Char × List (List (List Char)))}
    (hnodup : (found.map Prod.fst).Nodup) (heach : ∀ x ∈ found, x.2.Pairwise Before)
    (hhead : ∀ x ∈ found, ∀ names ∈ x.2, ∃ rest, names = x.1 :: rest) :
    (inOrder found).Pairwise Before := by
  have hperm := List.mergeSort_perm found (fun a b => Text.le a.1 b.1)
  have hsorted : (found.mergeSort (fun a b => Text.le a.1 b.1)).Pairwise
      (fun a b => Text.le a.1 b.1 = true) := by
    refine List.pairwise_mergeSort ?_ ?_ found
    · exact fun _ _ _ => Text.le_trans
    · exact fun a b => Text.le_or_le a.1 b.1
  have hdistinct : (found.mergeSort (fun a b => Text.le a.1 b.1)).Pairwise
      (fun a b => a.1 ≠ b.1) :=
    List.pairwise_map.1 ((hperm.map Prod.fst).nodup_iff.2 hnodup)
  refine List.pairwise_flatMap.2 ⟨fun x hx => heach x (hperm.mem_iff.1 hx), ?_⟩
  refine (hsorted.and hdistinct).imp_of_mem fun {x y} hx hy hxy a ha b hb => ?_
  obtain ⟨restA, rfl⟩ := hhead x (hperm.mem_iff.1 hx) a ha
  obtain ⟨restB, rfl⟩ := hhead y (hperm.mem_iff.1 hy) b hb
  exact before_of_le hxy.1 hxy.2 restA restB

theorem names_filesAmong (entries : List (List Char × Entry)) :
    (filesAmong extensions skipped entries).map Prod.fst = entries.map Prod.fst := by
  induction entries with
  | nil => rfl
  | cons first rest ih => simp [filesAmong, ih]

theorem ascending_found (hproper : (Entry.directory entries).Proper)
    (heach : ∀ x ∈ filesAmong extensions skipped entries, x.2.Pairwise Before) :
    (inOrder (filesAmong extensions skipped entries)).Pairwise Before := by
  refine ascending_inOrder ?_ heach ?_
  · rw [names_filesAmong]
    exact hproper.nodup
  · intro x hx names hnames
    obtain ⟨e, -, rfl⟩ := mem_filesAmong.1 hx
    exact head_of_mem_filesOf hnames

mutual

theorem ascending_filesOf (extensions skipped : List String) (name : List Char) :
    (e : Entry) → e.Proper → (filesOf extensions skipped name e).Pairwise Before
  | .file _, _ => by
    rw [filesOf]
    split
    · exact List.pairwise_singleton _ _
    · exact List.Pairwise.nil
  | .link _, _ => List.Pairwise.nil
  | .directory entries, h => by
    rw [filesOf]
    split
    · exact List.Pairwise.nil
    · refine List.pairwise_map.2 ((ascending_found h ?_).imp before_cons_iff.2)
      exact ascending_filesAmong extensions skipped entries fun e he => h.child he

theorem ascending_filesAmong (extensions skipped : List String) :
    (entries : List (List Char × Entry)) → (∀ e ∈ entries, e.2.Proper) →
      ∀ x ∈ filesAmong extensions skipped entries, x.2.Pairwise Before
  | [], _, _, hx => by cases hx
  | (name, e) :: rest, h, x, hx => by
    rw [filesAmong] at hx
    rcases List.mem_cons.1 hx with rfl | hx
    · exact ascending_filesOf extensions skipped name e (h (name, e) List.mem_cons_self)
    · exact ascending_filesAmong extensions skipped rest
        (fun e he => h e (List.mem_cons_of_mem _ he)) x hx

end

theorem text_join_ne_nil {p : Path} (h : p.text ≠ []) (entry : Path) :
    (p.join entry).text ≠ [] := by
  unfold Path.join
  split
  · next habsolute =>
    intro hnil
    simp [Path.isAbsolute, hnil] at habsolute
  · split <;> simp [h]

theorem components_pathBelow {root : Path} (hroot : root.text ≠ [])
    (hnames : ∀ name ∈ names, Path.IsName name) :
    (pathBelow root names).components = root.components ++ names.map .name := by
  induction names generalizing root with
  | nil => simp [pathBelow]
  | cons name rest ih =>
    obtain ⟨hname, hrest⟩ := List.forall_mem_cons.1 hnames
    change (pathBelow (root.join ⟨name⟩) rest).components = _
    rw [ih (text_join_ne_nil hroot _) hrest, Path.components_join hroot hname]
    simp

theorem Reaches.isName (hproper : (Entry.directory entries).Proper)
    (h : Reaches skipped entries names) : ∀ name ∈ names, Path.IsName name := by
  induction h with
  | file hchild =>
    intro name hname
    obtain rfl := List.mem_singleton.1 hname
    exact hproper.isName (mem_of_childAmong? hchild)
  | through hchild _ _ ih =>
    have hmem := mem_of_childAmong? hchild
    exact List.forall_mem_cons.2 ⟨hproper.isName hmem, ih (hproper.child hmem)⟩

def componentBytes (p : Path) : List (List UInt8) := p.components.map fun c => Text.bytes c.text

theorem componentBytes_lt {root : Path} (hroot : root.text ≠ []) {a b : List (List Char)}
    (ha : ∀ name ∈ a, Path.IsName name) (hb : ∀ name ∈ b, Path.IsName name) (h : Before a b) :
    componentBytes (pathBelow root a) < componentBytes (pathBelow root b) := by
  rw [componentBytes, componentBytes, components_pathBelow hroot ha, components_pathBelow hroot hb,
    List.map_append, List.map_append, List.map_map, List.map_map]
  exact List.append_left_lt h

end Discovery

theorem FileSystem.text_ne_nil_of_entry {fs : FileSystem} {p : Path} {e : Entry}
    (h : fs.entry p = .ok e) : p.text ≠ [] := by
  intro hnil
  rw [entry, locate, hnil] at h
  cases h

/-- Discovery below a directory of a proper tree gives exactly the wanted files that are reached
from it, each of them once, and in the order of the bytes of their components. -/
theorem FileSystem.discover_exact (fs : FileSystem) (root : Path) (extensions skipped : List String)
    {entries : List (List Char × Entry)} (hroot : fs.entry root = .ok (.directory entries))
    (hproper : (Entry.directory entries).Proper) :
    ∃ files, fs.discover root extensions skipped = .ok files ∧
      (∀ f, f ∈ files ↔ ∃ names, Discovery.Reaches skipped entries names ∧
        Discovery.Wanted extensions names ∧ f = .ofPath root (Discovery.pathBelow root names)) ∧
      (∀ names, Discovery.Reaches skipped entries names →
        (Discovery.pathBelow root names).components = root.components ++ names.map .name) ∧
      files.Nodup ∧
      files.Pairwise fun a b =>
        Discovery.componentBytes a.path < Discovery.componentBytes b.path := by
  have htext := text_ne_nil_of_entry hroot
  have hascending : ((Discovery.inOrder (Discovery.filesAmong extensions skipped entries)).map
      (fun names => SourceFile.ofPath root (Discovery.pathBelow root names))).Pairwise
        (fun a b => Discovery.componentBytes a.path < Discovery.componentBytes b.path) := by
    refine List.pairwise_map.2 ?_
    refine (Discovery.ascending_found hproper (Discovery.ascending_filesAmong extensions skipped
      entries fun e he => hproper.child he)).imp_of_mem fun {a b} ha hb hab => ?_
    exact Discovery.componentBytes_lt htext
      (((Discovery.mem_found hproper).1 ha).1.isName hproper)
      (((Discovery.mem_found hproper).1 hb).1.isName hproper) hab
  refine ⟨_, by rw [discover, hroot], fun f => ?_,
    fun names h => Discovery.components_pathBelow htext (h.isName hproper), ?_, hascending⟩
  · rw [List.mem_map]
    constructor
    · rintro ⟨names, hnames, rfl⟩
      obtain ⟨hreaches, hwanted⟩ := (Discovery.mem_found hproper).1 hnames
      exact ⟨names, hreaches, hwanted, rfl⟩
    · rintro ⟨names, hreaches, hwanted, rfl⟩
      exact ⟨names, (Discovery.mem_found hproper).2 ⟨hreaches, hwanted⟩, rfl⟩
  · refine List.nodup_iff_pairwise_ne.2 (hascending.imp fun {a b} hlt heq => ?_)
    subst heq
    exact List.lt_irrefl _ hlt

namespace Discovery

def skippedEntries : List (List Char × Entry) :=
  [("b.py".toList, .file ByteArray.empty), ("a.py".toList, .file ByteArray.empty),
    ("a".toList, .directory [("é.PY".toList, .file ByteArray.empty),
      ("z.py".toList, .file ByteArray.empty), (".py".toList, .file ByteArray.empty)]),
    ("link.py".toList, .link (.ofString "a.py")),
    ("old.py".toList, .file ByteArray.empty),
    ("skip".toList, .directory [("y.py".toList, .file ByteArray.empty)])]

def skippedTree : FileSystem where
  top := .directory [("skip".toList, .directory skippedEntries)]
  here := []

theorem proper_skippedEntries : (Entry.directory skippedEntries).Proper := by
  have hfile := Entry.proper_file ByteArray.empty
  refine Entry.proper_directory (by decide) (by decide) ?_
  simp only [skippedEntries, List.forall_mem_cons, List.not_mem_nil, false_implies, implies_true,
    and_true]
  exact ⟨hfile, hfile, Entry.proper_directory (by decide) (by decide) (by simp [hfile]),
    Entry.proper_link _, hfile, Entry.proper_directory (by decide) (by decide) (by simp [hfile])⟩

end Discovery

theorem discover_skippedTree :
    Discovery.skippedTree.entry (.ofString "skip") = .ok (.directory Discovery.skippedEntries) ∧
      (Entry.directory Discovery.skippedEntries).Proper ∧
      ∃ files, Discovery.skippedTree.discover (.ofString "skip") ["py"] ["skip", "old.py"] =
        .ok files ∧
        .ofPath (.ofString "skip") (.ofString "skip/a/é.PY") ∈ files ∧
        .ofPath (.ofString "skip") (.ofString "skip/old.py") ∈ files ∧
        files.Nodup ∧ files.Pairwise (fun a b =>
          Discovery.componentBytes a.path < Discovery.componentBytes b.path) := by
  have hroot : Discovery.skippedTree.entry (.ofString "skip") =
      .ok (.directory Discovery.skippedEntries) := rfl
  obtain ⟨files, hfiles, hmem, -, hnodup, hascending⟩ := FileSystem.discover_exact
    Discovery.skippedTree (.ofString "skip") ["py"] ["skip", "old.py"] hroot
    Discovery.proper_skippedEntries
  refine ⟨hroot, Discovery.proper_skippedEntries, files, hfiles, ?_, ?_, hnodup, hascending⟩
  · refine (hmem _).2 ⟨["a".toList, "é.PY".toList], .through rfl (by decide) (.file rfl), ?_, rfl⟩
    exact ⟨_, "PY".toList, "py", rfl, ⟨⟨"é".toList, by decide, rfl⟩, by decide⟩, by simp,
      by decide⟩
  · refine (hmem _).2 ⟨["old.py".toList], .file rfl, ?_, rfl⟩
    exact ⟨_, "py".toList, "py", rfl, ⟨⟨"old".toList, by decide, rfl⟩, by decide⟩, by simp,
      by decide⟩

end Appraisal
