import Appraisal.Data.Datum
import Appraisal.Decimal.Notation

set_option autoImplicit false

namespace Appraisal.Json

def hexDigit (n : Nat) : Char := if n < 10 then Char.ofNat (48 + n) else Char.ofNat (87 + n)

def escape (c : Char) : List Char :=
  match c with
  | '"' => ['\\', '"']
  | '\\' => ['\\', '\\']
  | '\n' => ['\\', 'n']
  | '\r' => ['\\', 'r']
  | '\t' => ['\\', 't']
  | _ =>
    if c.toNat = 8 then ['\\', 'b']
    else if c.toNat = 12 then ['\\', 'f']
    else if c.toNat < 32 then
      ['\\', 'u', '0', '0', hexDigit (c.toNat / 16), hexDigit (c.toNat % 16)]
    else [c]

def quote (s : String) : List Char := '"' :: (s.toList.flatMap escape ++ ['"'])

def scalar : Datum → List Char
  | .null => "null".toList
  | .bool b => (if b then "true" else "false").toList
  | .int n => (if n < 0 then ['-'] else []) ++ Decimal.digitsOf n.natAbs
  | .float x => match Decimal.interchange x with
    | some text => text.toList
    | none => "null".toList
  | .text s => quote s
  | .plain s => quote s
  | .list _ => []
  | .sequence _ => []
  | .map _ => []
  | .foreign => "null".toList

def indent (depth : Nat) : List Char := List.replicate (2 * depth) ' '

mutual

def prettyChars (depth : Nat) : Datum → List Char
  | .list [] | .sequence [] => ['[', ']']
  | .list (item :: rest) | .sequence (item :: rest) =>
    '[' :: '\n' :: (indent (depth + 1) ++ prettyChars (depth + 1) item ++
      prettyItems depth rest ++ '\n' :: (indent depth ++ [']']))
  | .map [] => ['\x7b', '\x7d']
  | .map ((key, value) :: rest) =>
    '\x7b' :: '\n' :: (indent (depth + 1) ++ quote key ++ ':' :: ' ' ::
      prettyChars (depth + 1) value ++
      prettyEntries depth rest ++ '\n' :: (indent depth ++ ['\x7d']))
  | other => scalar other

def prettyItems (depth : Nat) : List Datum → List Char
  | [] => []
  | item :: rest =>
    ',' :: '\n' :: (indent (depth + 1) ++ prettyChars (depth + 1) item ++ prettyItems depth rest)

def prettyEntries (depth : Nat) : List (String × Datum) → List Char
  | [] => []
  | (key, value) :: rest =>
    ',' :: '\n' :: (indent (depth + 1) ++ quote key ++ ':' :: ' ' ::
      prettyChars (depth + 1) value ++ prettyEntries depth rest)

end

mutual

def compactChars : Datum → List Char
  | .list [] | .sequence [] => ['[', ']']
  | .list (item :: rest) | .sequence (item :: rest) => '[' :: (compactChars item ++ compactItems rest)
  | .map [] => ['\x7b', '\x7d']
  | .map ((key, value) :: rest) =>
    '\x7b' :: (quote key ++ ':' :: (compactChars value ++ compactEntries rest))
  | other => scalar other

def compactItems : List Datum → List Char
  | [] => [']']
  | item :: rest => ',' :: (compactChars item ++ compactItems rest)

def compactEntries : List (String × Datum) → List Char
  | [] => ['\x7d']
  | (key, value) :: rest =>
    ',' :: (quote key ++ ':' :: (compactChars value ++ compactEntries rest))

end

def pretty (d : Datum) : String := String.ofList (prettyChars 0 d)

def compact (d : Datum) : String := String.ofList (compactChars d)

end Appraisal.Json
