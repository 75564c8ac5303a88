import Appraisal.Data.Datum
import Appraisal.Data.Yaml.Token

set_option autoImplicit false

/-!
# Reading YAML

`read?` accepts one document at most; no document at all is an empty scalar. An alias is the value
that its anchor names, and a map with a key that is no scalar is a value that no field reads. Tags
have to be declared but do not change what they stand at.
-/
namespace Appraisal.Yaml

structure Reading.State where
  rest : List Token
  anchors : List (List Char × Datum)
  handles : List (List Char)

abbrev Reading := StateT Reading.State Option

namespace Reading

def peek? : Reading (Option Token) := do return (← get).rest.head?

def skip : Reading Unit := modify (fun s => { s with rest := s.rest.tail })

def expect (t : Token) : Reading Unit := do
  if (← peek?) = some t then skip else failure

def takes (t : Token) : Reading Bool := do
  if (← peek?) = some t then
    skip
    return true
  else return false

def isNext (ts : List Token) : Reading Bool := do
  return (← peek?).any (fun t => t ∈ ts)

def emptyScalar : Datum := .plain ""

def knownHandles : List (List Char) := [[], ['!'], ['!', '!']]

def checkHandle (handle : List Char) : Reading Unit := do
  if handle ∈ knownHandles || handle ∈ (← get).handles then return () else failure

/-- An anchor and a tag in either order: the name of the anchor, and whether either was there. -/
def properties : Reading (Option (List Char) × Bool) := do
  match ← peek? with
  | some (.anchor name) =>
    skip
    if let some (.tag handle) ← peek? then
      skip
      checkHandle handle
    return (some name, true)
  | some (.tag handle) =>
    skip
    let name? ← (do
      if let some (.anchor name) ← peek? then
        skip
        return some name
      else return none)
    checkHandle handle
    return (name?, true)
  | _ => return (none, false)

/-- The value of a node with this anchor. Within the node the anchor stands for no value. -/
def anchored (name? : Option (List Char)) (node : Reading Datum) : Reading Datum :=
  match name? with
  | none => node
  | some name => do
    let before := (← get).anchors.length
    modify (fun s => { s with anchors := (name, .foreign) :: s.anchors })
    let d ← node
    modify (fun s =>
      { s with anchors := s.anchors.set (s.anchors.length - before - 1) (name, d) })
    return d

def aliased (name : List Char) : Reading Datum := do
  match (← get).anchors.find? (fun e => e.1 = name) with
  | some e => return e.2
  | none => failure

def keyText? : Datum → Option String
  | .plain s => some s
  | .text s => some s
  | _ => none

def mapOf (entries : List (Datum × Datum)) : Datum :=
  match entries.mapM (fun e => (keyText? e.1).map (·, e.2)) with
  | some entries => .map entries
  | none => .foreign

mutual

/-- A node. Outside brackets it may be a block collection, and where `indentless` says so a sequence
that is indented no further than the map around it. -/
def node (block indentless : Bool) : Nat → Reading Datum
  | 0 => failure
  | steps + 1 => do
    if let some (.alias name) ← peek? then
      skip
      return ← aliased name
    let (name?, named) ← properties
    anchored name? (do
      match ← peek? with
      | some .item => if indentless then return .sequence (← indentlessItems steps) else
          if named then return emptyScalar else failure
      | some (.scalar text isPlain) =>
        skip
        return if isPlain then .plain (String.ofList text) else .text (String.ofList text)
      | some .flowSequence =>
        skip
        return .sequence (← flowItems true steps)
      | some .flowMapping =>
        skip
        return mapOf (← flowEntries true steps)
      | some .blockSequence =>
        if block then
          skip
          return .sequence (← blockItems steps)
        else if named then return emptyScalar
        else failure
      | some .blockMapping =>
        if block then
          skip
          return mapOf (← blockEntries steps)
        else if named then return emptyScalar
        else failure
      | _ => if named then return emptyScalar else failure)

def blockNodeUnless (indentless : Bool) (ends : List Token) : Nat → Reading Datum
  | 0 => failure
  | steps + 1 => do
    if ← isNext ends then return emptyScalar else node true indentless steps

def flowNodeUnless (ends : List Token) : Nat → Reading Datum
  | 0 => failure
  | steps + 1 => do
    if ← isNext ends then return emptyScalar else node false false steps

def blockItems : Nat → Reading (List Datum)
  | 0 => failure
  | steps + 1 => do
    if ← takes .blockEnd then return []
    expect .item
    let d ← blockNodeUnless false [.item, .blockEnd] steps
    return d :: (← blockItems steps)

def indentlessItems : Nat → Reading (List Datum)
  | 0 => failure
  | steps + 1 => do
    if ← takes .item then
      let d ← blockNodeUnless false [.item, .key, .value, .blockEnd] steps
      return d :: (← indentlessItems steps)
    else return []

def blockEntries : Nat → Reading (List (Datum × Datum))
  | 0 => failure
  | steps + 1 => do
    if ← takes .blockEnd then return []
    expect .key
    let key ← blockNodeUnless true [.key, .value, .blockEnd] steps
    let value ← (do
      if ← takes .value then blockNodeUnless true [.key, .value, .blockEnd] steps
      else return emptyScalar)
    return (key, value) :: (← blockEntries steps)

def flowItems (first : Bool) : Nat → Reading (List Datum)
  | 0 => failure
  | steps + 1 => do
    if ← takes .flowSequenceEnd then return []
    if !first then expect .comma
    if ← takes .flowSequenceEnd then return []
    let d ← (do
      if ← takes .key then return mapOf [← flowPair steps] else node false false steps)
    return d :: (← flowItems false steps)

/-- A single entry among the items of a list. Without a key, the token in its place is passed
over. -/
def flowPair : Nat → Reading (Datum × Datum)
  | 0 => failure
  | steps + 1 => do
    let key ← (do
      if ← isNext [.value, .comma, .flowSequenceEnd] then
        skip
        return emptyScalar
      else node false false steps)
    let value ← (do
      if ← takes .value then flowNodeUnless [.comma, .flowSequenceEnd] steps
      else return emptyScalar)
    return (key, value)

def flowEntries (first : Bool) : Nat → Reading (List (Datum × Datum))
  | 0 => failure
  | steps + 1 => do
    if ← takes .flowMappingEnd then return []
    if !first then expect .comma
    if ← takes .flowMappingEnd then return []
    let entry ← (do
      if ← takes .key then
        let key ← flowNodeUnless [.value, .comma, .flowMappingEnd] steps
        let value ← (do
          if ← takes .value then flowNodeUnless [.comma, .flowMappingEnd] steps
          else return emptyScalar)
        return (key, value)
      else
        let key ← node false false steps
        return (key, emptyScalar))
    return entry :: (← flowEntries false steps)

end

def isDirective : Token → Bool
  | .version _ _ => true
  | .handle _ => true
  | _ => false

def agree (ts : List Token) : Bool :=
  ts.all (fun t => match t with
    | .version major minor => major == 1 && (minor == 1 || minor == 2)
    | _ => true) &&
  (ts.filter (fun t => match t with
    | .version _ _ => true
    | _ => false)).length ≤ 1 &&
  ts.eraseDups.length == ts.length

def prologue : Reading Unit := do
  let ts := (← get).rest.takeWhile isDirective
  if !agree ts then failure
  modify (fun s =>
    { s with
      rest := s.rest.drop ts.length
      handles := ts.filterMap (fun t => match t with
        | .handle name => some name
        | _ => none) })
  expect .documentStart

def content (steps : Nat) : Reading Datum := do
  match ← peek? with
  | none => return emptyScalar
  | some t =>
    if isDirective t || t = .documentStart || t = .documentEnd then return emptyScalar
    else node true false steps

def epilogue : Reading Unit :=
  modify (fun s => { s with rest := s.rest.dropWhile (· = .documentEnd) })

def document (steps : Nat) : Reading Datum := do
  match ← peek? with
  | none => return emptyScalar
  | some t =>
    let d ← (do
      if isDirective t || t = .documentStart then
        prologue
        content steps
      else node true false steps)
    epilogue
    if (← peek?).isNone then return d else failure

end Reading

def read? (s : String) : Option Datum := do
  let ts ← tokens? s.toList
  let (d, _) ← StateT.run (Reading.document (8 * ts.length + 8)) ⟨ts, [], []⟩
  return d

end Appraisal.Yaml
