import Appraisal.Files.Fault
import Appraisal.Proofs.Files.Paths
import Appraisal.Proofs.Files.Tree

set_option autoImplicit false

/-!
# Writing a file

A path leads through links to one place, and a text written to it stands there. No other place
changes, and every path leads to where it led before.
-/
namespace Appraisal.FileSystem

open Entry

namespace Located

def place : Located → List (List Char)
  | .entry place _ => place
  | .free place => place

def node? : Located → Option Node
  | .entry _ e => some e.node
  | .free _ => none

/-- What a path leads to is there and no link, or it is a free name in a directory. -/
structure Holds (l : Located) (top : Entry) : Prop where
  node : top.nodeAt? l.place = l.node?
  above : l.place ≠ [] → top.nodeAt? l.place.dropLast = some .directory
  top : l.place = [] → l.node? = some .directory
  not_link : ∀ target, l.node? ≠ some (.link target)

end Located

section Walks

variable {top : Entry} {through through' : List (List Char) → List (List Char) →
  Except FileError Located}

theorem walk_cons (place : List (List Char)) (segment : List Char) (rest : List (List Char)) :
    walk top through place (segment :: rest) =
      match top.nodeAt? place.reverse with
      | none => .error .notFound
      | some (.file _) => .error .notDirectory
      | some (.link _) => .error .notDirectory
      | some .directory =>
        if staysPut segment then walk top through place rest
        else if segment = ['.', '.'] then walk top through place.tail rest
        else if maxNameLength < (String.ofList segment).utf8ByteSize then .error .nameTooLong
        else
          match top.nodeAt? (segment :: place).reverse with
          | none =>
            if rest.isEmpty then .ok (.free (segment :: place).reverse) else .error .notFound
          | some (.link target) =>
            through (if target.isAbsolute then [] else place) (Path.segments target.text ++ rest)
          | some _ => walk top through (segment :: place) rest := by
  rw [walk]
  cases hat : top.at? place.reverse with
  | none => simp only [nodeAt?, hat, Option.map_none]
  | some e =>
    cases e with
    | file content => simp only [nodeAt?, hat, Option.map_some, node]
    | link target => simp only [nodeAt?, hat, Option.map_some, node]
    | directory entries =>
      have hhere : top.nodeAt? place.reverse = some .directory := congrArg (Option.map node) hat
      simp only [hhere, List.reverse_cons, nodeAt?_child top entries segment hat]
      cases childAmong? segment entries with
      | none => rfl
      | some e => cases e <;> rfl

theorem nodeAt?_reverse_tail {place : List (List Char)}
    (h : top.nodeAt? place.reverse = some .directory) :
    top.nodeAt? place.tail.reverse = some .directory := by
  cases place with
  | nil => exact h
  | cons name place =>
    rw [List.reverse_cons] at h
    exact nodeAt?_of_below h

/-- With nothing left to follow, a file or a directory stands at the place. -/
def Starts (top : Entry) (place segments : List (List Char)) : Prop :=
  segments = [] → top.nodeAt? place.reverse = some .directory ∨
    place ≠ [] ∧ ∃ content, top.nodeAt? place.reverse = some (.file content)

theorem Starts.of_directory {place : List (List Char)} (segments : List (List Char))
    (h : top.nodeAt? place.reverse = some .directory) : Starts top place segments :=
  fun _ => Or.inl h

theorem Starts.of_ne_nil {place segments : List (List Char)} (h : segments ≠ []) :
    Starts top place segments := fun hnil => absurd hnil h

theorem Starts.of_child {place : List (List Char)} {segment : List Char} {n : Node}
    (segments : List (List Char)) (h : top.nodeAt? (segment :: place).reverse = some n)
    (hlink : ∀ target, n ≠ .link target) : Starts top (segment :: place) segments := by
  intro _
  cases n with
  | file content => exact Or.inr ⟨by simp, content, h⟩
  | link target => exact absurd rfl (hlink target)
  | directory => exact Or.inl h

theorem walk_nil_holds {place : List (List Char)} {l : Located} (hstart : Starts top place [])
    (h : walk top through place [] = .ok l) : l.Holds top := by
  rw [walk] at h
  cases hat : top.at? place.reverse with
  | none =>
    rw [hat] at h
    cases h
  | some e =>
    rw [hat] at h
    cases h
    have hnode : top.nodeAt? place.reverse = some e.node := congrArg (Option.map Entry.node) hat
    refine ⟨hnode, fun hne => nodeAt?_dropLast hnode hne, fun hnil => ?_, fun target hlink => ?_⟩
    · rcases hstart rfl with hdirectory | ⟨hne, -⟩
      · exact hnode.symm.trans hdirectory
      · exact absurd (List.reverse_eq_nil_iff.1 hnil) hne
    · have hat : top.nodeAt? place.reverse = some (.link target) := hnode.trans hlink
      rcases hstart rfl with hdirectory | ⟨-, content, hfile⟩
      · rw [hdirectory] at hat
        cases hat
      · rw [hfile] at hat
        cases hat

theorem linkSegments_ne_nil (target : Path) (rest : List (List Char)) :
    Path.segments target.text ++ rest ≠ [] :=
  List.append_ne_nil_of_left_ne_nil (Path.segments_ne_nil target.text) rest

theorem walk_holds {place segments : List (List Char)} {l : Located}
    (hthrough : ∀ place segments l, segments ≠ [] → through place segments = .ok l →
      l.Holds top)
    (hstart : Starts top place segments) (h : walk top through place segments = .ok l) :
    l.Holds top := by
  induction segments generalizing place with
  | nil => exact walk_nil_holds hstart h
  | cons segment rest ih =>
    rw [walk_cons] at h
    split at h
    · cases h
    · cases h
    · cases h
    · rename_i hhere
      split at h
      · exact ih (.of_directory rest hhere) h
      · split at h
        · exact ih (.of_directory rest (nodeAt?_reverse_tail hhere)) h
        · split at h
          · cases h
          · split at h
            · rename_i hnone
              split at h
              · cases h
                refine ⟨hnone, fun _ => ?_, fun hnil => ?_, fun target hlink => nomatch hlink⟩
                · simpa [Located.place] using hhere
                · simp [Located.place] at hnil
              · cases h
            · exact hthrough _ _ l (linkSegments_ne_nil _ rest) h
            · rename_i n hlink hchild
              exact ih (.of_child rest hchild fun target hn => hlink target hn) h

end Walks

/-- Where a path leads when a file is put at a place: there, or to where it led before. -/
inductive Rewritten (place : List (List Char)) (content : ByteArray) :
    Except FileError Located → Except FileError Located → Prop
  | written {l : Located} (h : l.place = place) :
    Rewritten place content (.ok l) (.ok (.entry place (.file content)))
  | kept {l l' : Located} (h : l.place ≠ place) (hplace : l'.place = l.place)
    (hnode : l'.node? = l.node?) : Rewritten place content (.ok l) (.ok l')
  | failed (e e' : FileError) : Rewritten place content (.error e) (.error e')

section Puts

variable {top : Entry} {q : List (List Char)} {content : ByteArray}
  {through through' : List (List Char) → List (List Char) → Except FileError Located}

theorem walk_nil_of_file {place : List (List Char)}
    (h : top.nodeAt? place.reverse = some (.file content)) :
    walk top through place [] = .ok (.entry place.reverse (.file content)) := by
  obtain ⟨e, he, hnode⟩ := Option.map_eq_some_iff.1 h
  rw [walk, he]
  cases e with
  | file other => rw [Node.file.inj hnode]
  | link target => cases hnode
  | directory entries => cases hnode

theorem walk_cons_of_file {place : List (List Char)} (segment : List Char)
    (rest : List (List Char)) (h : top.nodeAt? place.reverse = some (.file content)) :
    walk top through place (segment :: rest) = .error .notDirectory := by
  rw [walk_cons, h]

theorem walk_nil_put {place : List (List Char)} (hq : top.TakesFile q)
    (hstart : Starts top place []) :
    Rewritten q content (walk top through place [])
      (walk (put (.file content) q top) through' place []) := by
  have hput := nodeAt?_put hq content place.reverse
  obtain ⟨n, hn⟩ : ∃ n, top.nodeAt? place.reverse = some n := by
    rcases hstart rfl with h | ⟨-, content, h⟩ <;> exact ⟨_, h⟩
  obtain ⟨e, he, rfl⟩ := Option.map_eq_some_iff.1 hn
  have hwalk : walk top through place [] = .ok (.entry place.reverse e) := by rw [walk, he]
  rw [hwalk]
  by_cases hplace : place.reverse = q
  · rw [if_pos hplace] at hput
    rw [walk_nil_of_file hput, hplace]
    exact .written rfl
  · rw [if_neg hplace, hn] at hput
    obtain ⟨e', he', hnode⟩ := Option.map_eq_some_iff.1 hput
    rw [walk, he']
    exact .kept hplace rfl (congrArg some hnode)

theorem walk_put_at {place : List (List Char)} (hq : top.TakesFile q) (segment : List Char)
    (rest : List (List Char)) (hplace : place.reverse = q) :
    Rewritten q content (walk top through place (segment :: rest))
      (walk (put (.file content) q top) through' place (segment :: rest)) := by
  have hput := nodeAt?_put hq content place.reverse
  rw [if_pos hplace] at hput
  rw [walk_cons_of_file segment rest hput, walk_cons]
  cases hnode : top.nodeAt? place.reverse with
  | none => exact .failed _ _
  | some n =>
    rw [hplace] at hnode
    obtain ⟨old, rfl⟩ := hq.file n hnode
    exact .failed _ _

/-- A walk over both trees stays side by side until it comes to the place. -/
theorem walk_put {place segments : List (List Char)} (hq : top.TakesFile q)
    (hthrough : ∀ place segments, segments ≠ [] →
      Rewritten q content (through place segments) (through' place segments))
    (hstart : Starts top place segments) :
    Rewritten q content (walk top through place segments)
      (walk (put (.file content) q top) through' place segments) := by
  induction segments generalizing place with
  | nil => exact walk_nil_put hq hstart
  | cons segment rest ih =>
    by_cases hplace : place.reverse = q
    · exact walk_put_at hq segment rest hplace
    · rw [walk_cons, walk_cons, nodeAt?_put hq, nodeAt?_put hq, if_neg hplace]
      cases hhere : top.nodeAt? place.reverse with
      | none => exact .failed _ _
      | some n =>
        cases n with
        | file old => exact .failed _ _
        | link target => exact .failed _ _
        | directory =>
          dsimp only
          split
          · exact ih (.of_directory rest hhere)
          · split
            · exact ih (.of_directory rest (nodeAt?_reverse_tail hhere))
            · split
              · exact .failed _ _
              · -- the next name is that of the place, or leads to what stood there before
                by_cases hchild : (segment :: place).reverse = q
                · rw [if_pos hchild]
                  cases hnode : top.nodeAt? (segment :: place).reverse with
                  | none =>
                    have hput := nodeAt?_put hq content (segment :: place).reverse
                    rw [if_pos hchild] at hput
                    cases rest with
                    | nil =>
                      rw [walk_nil_of_file hput, hchild]
                      exact .written rfl
                    | cons next rest =>
                      dsimp only
                      rw [walk_cons_of_file next rest hput]
                      exact .failed _ _
                  | some n =>
                    have hfile := hq.file n (hchild ▸ hnode)
                    obtain ⟨old, rfl⟩ := hfile
                    exact ih (.of_child rest hnode fun target hlink => nomatch hlink)
                · rw [if_neg hchild]
                  cases hnode : top.nodeAt? (segment :: place).reverse with
                  | none =>
                    dsimp only
                    split
                    · exact .kept hchild rfl rfl
                    · exact .failed _ _
                  | some n =>
                    cases n with
                    | file old => exact ih (.of_child rest hnode fun target hlink => nomatch hlink)
                    | link target => exact hthrough _ _ (linkSegments_ne_nil target rest)
                    | directory =>
                      exact ih (.of_child rest hnode fun target hlink => nomatch hlink)

theorem follow_holds {links : Nat} {place segments : List (List Char)} {l : Located}
    (hne : segments ≠ []) (h : follow top links place segments = .ok l) : l.Holds top := by
  induction links generalizing place segments l with
  | zero => exact walk_holds (fun _ _ _ _ hthrough => by cases hthrough) (.of_ne_nil hne) h
  | succ links ih => exact walk_holds (fun _ _ _ hne hl => ih hne hl) (.of_ne_nil hne) h

theorem follow_put {links : Nat} {place segments : List (List Char)} (hq : top.TakesFile q)
    (hne : segments ≠ []) :
    Rewritten q content (follow top links place segments)
      (follow (put (.file content) q top) links place segments) := by
  induction links generalizing place segments with
  | zero => exact walk_put hq (fun _ _ _ => .failed _ _) (.of_ne_nil hne)
  | succ links ih => exact walk_put hq (fun _ _ h => ih h) (.of_ne_nil hne)

end Puts

def withFile (fs : FileSystem) (place : List (List Char)) (content : ByteArray) : FileSystem :=
  { fs with top := put (.file content) place fs.top }

def target? (fs : FileSystem) (p : Path) : Option (List (List Char)) :=
  match directoryPath? p, fs.locate p with
  | none, .ok (.entry place (.file _)) => some place
  | none, .ok (.free place) => some place
  | _, _ => none

section Targets

variable {fs : FileSystem} {p r : Path} {q : List (List Char)} {content : ByteArray}

theorem locate_holds {l : Located} (h : fs.locate p = .ok l) : l.Holds fs.top := by
  unfold locate at h
  split at h
  · cases h
  · split at h
    · cases h
    · split at h
      · cases h
      · exact follow_holds (Path.segments_ne_nil p.text) h

theorem locate_withFile (hq : fs.top.TakesFile q) (content : ByteArray) (r : Path) :
    Rewritten q content (fs.locate r) ((fs.withFile q content).locate r) := by
  unfold locate
  split
  · exact .failed _ _
  · split
    · exact .failed _ _
    · split
      · exact .failed _ _
      · exact follow_put hq (Path.segments_ne_nil r.text)

theorem target?_cases (h : fs.target? p = some q) :
    directoryPath? p = none ∧ ∃ l, fs.locate p = .ok l ∧ l.place = q ∧
      (l.node? = none ∨ ∃ content, l.node? = some (.file content)) := by
  unfold target? at h
  split at h
  · rename_i place content hpath hlocate
    exact ⟨hpath, _, hlocate, Option.some.inj h, Or.inr ⟨content, rfl⟩⟩
  · rename_i place hpath hlocate
    exact ⟨hpath, _, hlocate, Option.some.inj h, Or.inl rfl⟩
  · cases h

theorem takesFile_of_target? (h : fs.target? p = some q) : fs.top.TakesFile q := by
  obtain ⟨-, l, hlocate, rfl, hnode⟩ := target?_cases h
  have hl := locate_holds hlocate
  have hne : l.place ≠ [] := by
    intro hnil
    have htop := hl.top hnil
    rcases hnode with hfree | ⟨content, hfile⟩
    · rw [hfree] at htop
      cases htop
    · rw [hfile] at htop
      cases htop
  refine ⟨hne, hl.above hne, fun n hn => ?_⟩
  rw [hl.node] at hn
  rcases hnode with hfree | ⟨content, hfile⟩
  · rw [hfree] at hn
    cases hn
  · rw [hfile] at hn
    exact ⟨content, (Option.some.inj hn).symm⟩

theorem nodeAt?_withFile (h : fs.target? p = some q) (content : ByteArray)
    (place : List (List Char)) :
    (fs.withFile q content).top.nodeAt? place =
      if place = q then some (.file content) else fs.top.nodeAt? place :=
  nodeAt?_put (takesFile_of_target? h) content place

theorem writeText_eq_ok_iff {fs' : FileSystem} {text : String} :
    fs.writeText p text = .ok fs' ↔
      ∃ q, fs.target? p = some q ∧ fs' = fs.withFile q text.toUTF8 := by
  unfold writeText target?
  cases hpath : directoryPath? p with
  | some directory =>
    cases hlocate : fs.locate directory <;> simp [bind, Except.bind, hlocate]
  | none =>
    cases hlocate : fs.locate p with
    | error e => simp [bind, Except.bind]
    | ok l =>
      cases l with
      | free place => simp [bind, Except.bind, withFile, eq_comm]
      | entry place e =>
        cases e with
        | file content => simp [bind, Except.bind, withFile, eq_comm]
        | directory entries => simp [bind, Except.bind]
        | link target => exact absurd rfl ((locate_holds hlocate).not_link target)

theorem store_eq_ok_iff {fs' : FileSystem} {text : String} :
    fs.store p text = .ok fs' ↔
      ∃ q, fs.target? p = some q ∧ fs' = fs.withFile q text.toUTF8 := by
  rw [← writeText_eq_ok_iff, store]
  cases fs.writeText p text <;> simp [Except.mapError]

theorem target?_of_locate {l : Located} (hpath : directoryPath? p = none)
    (hlocate : fs.locate p = .ok l) (hnode : l.node? ≠ some .directory) :
    fs.target? p = some l.place := by
  cases l with
  | free place => simp only [target?, hpath, hlocate, Located.place]
  | entry place e =>
    cases e with
    | file content => simp only [target?, hpath, hlocate, Located.place]
    | directory entries => exact absurd rfl hnode
    | link target => exact absurd rfl ((locate_holds hlocate).not_link target)

theorem node?_ne_directory {l : Located} (hlocate : fs.locate p = .ok l)
    (hq : fs.top.TakesFile l.place) : l.node? ≠ some .directory := by
  intro hdirectory
  obtain ⟨content, hfile⟩ := hq.file _ ((locate_holds hlocate).node.trans hdirectory)
  cases hfile

theorem readBytes_eq_ok_iff :
    fs.readBytes p = .ok content ↔ ∃ l, fs.locate p = .ok l ∧ l.node? = some (.file content) := by
  unfold readBytes entry
  cases fs.locate p with
  | error e => simp [bind, Except.bind]
  | ok l =>
    cases l with
    | free place => simp [bind, Except.bind, Located.node?]
    | entry place e =>
      cases e <;> simp [bind, Except.bind, Located.node?, Entry.node]

theorem readBytes_withFile_self (h : fs.target? p = some q) :
    (fs.withFile q content).readBytes p = .ok content := by
  obtain ⟨-, l, hlocate, hplace, -⟩ := target?_cases h
  have hmoved := locate_withFile (takesFile_of_target? h) content p
  rw [hlocate] at hmoved
  rw [readBytes_eq_ok_iff]
  generalize hafter : (fs.withFile q content).locate p = after at hmoved
  cases hmoved with
  | written _ => exact ⟨_, rfl, rfl⟩
  | kept hne _ _ => exact absurd hplace hne

theorem readBytes_withFile_of_ne {old : ByteArray} (hq : fs.top.TakesFile q)
    (hpath : directoryPath? r = none) (hne : fs.target? r ≠ some q) :
    (fs.withFile q content).readBytes r = .ok old ↔ fs.readBytes r = .ok old := by
  have hmoved := locate_withFile hq content r
  rw [readBytes_eq_ok_iff, readBytes_eq_ok_iff]
  generalize hbefore : fs.locate r = before at hmoved
  generalize (fs.withFile q content).locate r = after at hmoved
  cases hmoved with
  | @written l hplace =>
    subst hplace
    exact absurd (target?_of_locate hpath hbefore (node?_ne_directory hbefore hq)) hne
  | kept _ _ hnode => simp [hnode]
  | failed e e' => simp

theorem target?_withFile (hq : fs.top.TakesFile q) (r : Path) :
    (fs.withFile q content).target? r = fs.target? r := by
  cases hpath : directoryPath? r with
  | some directory => simp only [target?, hpath]
  | none =>
    have hmoved := locate_withFile hq content r
    generalize hbefore : fs.locate r = before at hmoved
    generalize hafter : (fs.withFile q content).locate r = after at hmoved
    cases hmoved with
    | @written l hplace =>
      subst hplace
      rw [target?_of_locate hpath hbefore (node?_ne_directory hbefore hq)]
      simp only [target?, hpath, hafter]
    | @kept l l' _ hplace hnode =>
      by_cases hdirectory : l.node? = some .directory
      · cases l with
        | free place => cases hdirectory
        | entry place e =>
          cases l' with
          | free place' => cases hnode
          | entry place' e' =>
            obtain ⟨entries, rfl⟩ := node_eq_directory (Option.some.inj hdirectory)
            obtain ⟨entries', rfl⟩ := node_eq_directory (Option.some.inj (hnode.trans hdirectory))
            simp only [target?, hpath, hbefore, hafter]
      · rw [target?_of_locate hpath hbefore hdirectory,
          target?_of_locate hpath hafter (hnode ▸ hdirectory), hplace]
    | failed e e' => simp only [target?, hpath, hbefore, hafter]

theorem isDirectory_eq_true_iff :
    fs.isDirectory p = true ↔ ∃ l, fs.locate p = .ok l ∧ l.node? = some .directory := by
  unfold isDirectory entry
  cases fs.locate p with
  | error e => simp [bind, Except.bind]
  | ok l =>
    cases l with
    | free place => simp [bind, Except.bind, Located.node?]
    | entry place e =>
      cases e <;> simp [bind, Except.bind, Located.node?, Entry.node, Entry.isDirectory]

theorem canonicalName?_withFile (hq : fs.top.TakesFile q) (hr : fs.isDirectory r = true) :
    (fs.withFile q content).canonicalName? r = fs.canonicalName? r := by
  obtain ⟨l, hlocate, hnode⟩ := isDirectory_eq_true_iff.1 hr
  have hmoved := locate_withFile hq content r
  rw [hlocate] at hmoved
  generalize hafter : (fs.withFile q content).locate r = after at hmoved
  cases hmoved with
  | written hplace =>
    subst hplace
    exact absurd hnode (node?_ne_directory hlocate hq)
  | @kept _ l' _ hplace hkept =>
    cases l with
    | free place => cases hnode
    | entry place e =>
      cases l' with
      | free place' => cases hkept.trans hnode
      | entry place' e' =>
        obtain rfl : place' = place := hplace
        simp only [canonicalName?, hlocate, hafter]

end Targets

end Appraisal.FileSystem
