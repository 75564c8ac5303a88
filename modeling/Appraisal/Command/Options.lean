set_option autoImplicit false

namespace Appraisal.Command

inductive UsageError where
  | help
  | version
  | helpOnMissingCommand
  | missingCommand
  | unknownCommand
  | unknownArgument
  | missingRequired
  /-- An option without its value, or with a value that is not among those it has. -/
  | invalidValue
  | malformedValue
  | unneededValue
  | repeated
  deriving DecidableEq, Repr

inductive Role where
  | flag
  | counter
  | value (check : String → Option UsageError)
  | help
  | version

structure Opt where
  long : String
  short? : Option Char
  role : Role

structure Options where
  given : List (String × String)
  /-- The option before, with its value if it is there already. -/
  pending? : Option (Opt × Option String)

namespace Options

def start : Options := ⟨[], none⟩

def has (s : Options) (name : String) : Bool := s.given.any (fun e => e.1 == name)

def count (s : Options) (name : String) : Nat := s.given.countP (fun e => e.1 == name)

def get? (s : Options) (name : String) : Option String :=
  (s.given.find? (fun e => e.1 == name)).map (·.2)

def addOnce (s : Options) (name value : String) : Except UsageError Options :=
  if s.has name then .error .repeated else .ok { s with given := (name, value) :: s.given }

/-- With the pending option added, if its value is there and right. -/
def resolve (s : Options) : Except UsageError Options :=
  match s.pending? with
  | none => .ok s
  | some (_, none) => .error .invalidValue
  | some (o, some v) => do
    let s ← addOnce { s with pending? := none } o.long v
    match o.role with
    | .value check =>
      match check v with
      | some e => .error e
      | none => .ok s
    | _ => .ok s

def addFlag (s : Options) (o : Opt) : Except UsageError Options := do
  let s ← s.resolve
  match o.role with
  | .help => .error .help
  | .version => .error .version
  | .counter => .ok { s with given := (o.long, "") :: s.given }
  | _ => s.addOnce o.long ""

def addValued (s : Options) (o : Opt) (attached? : Option String) : Except UsageError Options := do
  let s ← s.resolve
  match attached? with
  | some v => resolve { s with pending? := some (o, some v) }
  | none => .ok { s with pending? := some (o, none) }

def takesValue (o : Opt) : Bool :=
  match o.role with
  | .value _ => true
  | _ => false

def splitValue : List Char → List Char × Option (List Char)
  | [] => ([], none)
  | c :: r =>
    if c = '=' then ([], some r)
    else
      let (name, value?) := splitValue r
      (c :: name, value?)

def addLong (opts : List Opt) (s : Options) (word : List Char) : Except UsageError Options :=
  let (name, value?) := splitValue word
  match opts.find? (fun o => o.long.toList == name) with
  | none => .error .unknownArgument
  | some o =>
    if takesValue o then s.addValued o (value?.map String.ofList)
    else if value?.isSome then .error .unneededValue
    else s.addFlag o

def attached? : List Char → Option String
  | [] => none
  | '=' :: r => some (String.ofList r)
  | r => some (String.ofList r)

def addShorts (opts : List Opt) : Options → List Char → Except UsageError Options
  | s, [] => .ok s
  | s, c :: r =>
    match opts.find? (fun o => o.short? == some c) with
    | none => .error .unknownArgument
    | some o =>
      if takesValue o then s.addValued o (attached? r)
      else
        match s.addFlag o with
        | .ok s => addShorts opts s r
        | .error e => .error e

inductive Stop where
  | done
  | word (word : String) (rest : List String)
  | dashes (rest : List String)

def withValue? (s : Options) (v : String) : Option Options :=
  match s.pending? with
  | some (o, none) => some { s with pending? := some (o, some v) }
  | _ => none

def read (opts : List Opt) : Options → List String → Except UsageError (Options × Stop)
  | s, [] => do return (← s.resolve, .done)
  | s, w :: rest =>
    match w.toList with
    | ['-', '-'] => .ok (s, .dashes rest)
    | '-' :: '-' :: long =>
      match addLong opts s long with
      | .ok s => read opts s rest
      | .error e => .error e
    | '-' :: c :: shorts =>
      match addShorts opts s (c :: shorts) with
      | .ok s => read opts s rest
      | .error e => .error e
    | _ =>
      match s.withValue? w with
      | some s => read opts s rest
      | none => .ok (s, .word w rest)

end Options

end Appraisal.Command
