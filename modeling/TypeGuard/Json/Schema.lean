import TypeGuard.Json.Basic
import TypeGuard.Json.Skip

namespace TypeGuard.Json

/-- The shape of a value. -/
inductive Schema where
  | text
  | natural (bound : Nat)
  | choice (names : List String)
  | list (item : Schema)
  | record (fields : List (String × Schema))
deriving Repr

namespace Reader

/-- Reads a name of a choice. -/
def chosen (names : List String) : Reader String := do
  let name ← text
  if names.contains name then return name else throw .unsuited

def null : Reader Unit := do
  match ← peekToken with
  | none => throw .ended
  | some 'n' => word "null".toList
  | some _ => mismatch

def choice (names : List String) : Reader String := do
  match ← peekToken with
  | none => throw .ended
  | some '"' => chosen names
  | some '\x7b' =>
    advance
    let name ← chosen names
    colon
    null
    endObject
    return name
  | some _ => throw .malformed

def items {α : Type} (item : Reader α) (first : Bool) : Nat → Reader (List α)
  | 0 => throw .malformed
  | fuel + 1 => do
    if ← hasItem first then
      let a ← item
      return a :: (← items item false fuel)
    else return []

def list {α : Type} (item : Reader α) : Reader (List α) := do
  match ← peekToken with
  | none => throw .ended
  | some '[' =>
    advance
    let as ← items item true (← steps)
    endArray
    return as
  | some _ => mismatch

/-- Reads one value for each field, in order. -/
def inOrder (first : Bool) : List (String × Reader Json) → Reader (List (String × Json))
  | [] => return []
  | (name, field) :: fields => do
    if ← hasItem first then
      let v ← field
      return (name, v) :: (← inOrder false fields)
    else throw .unsuited

/-- The fields of a record in order, if all of them were found. -/
def arranged? (found : List (String × Json)) :
    List (String × Reader Json) → Option (List (String × Json))
  | [] => some []
  | (name, _) :: fields => do
    let v ← found.lookup name
    return (name, v) :: (← arranged? found fields)

/-- Reads the members of an object. No field may be given twice, and none may be missing when the
object ends. Members that are no fields are passed over. -/
def members (fields : List (String × Reader Json)) (first : Bool) (found : List (String × Json)) :
    Nat → Reader (List (String × Json))
  | 0 => throw .malformed
  | fuel + 1 => do
    match ← key? first with
    | none =>
      match arranged? found fields with
      | some fs => return fs
      | none => throw .unsuited
    | some name =>
      match fields.lookup name with
      | some field =>
        if (found.lookup name).isSome then throw .unsuited
        colon
        let v ← field
        members fields false ((name, v) :: found) fuel
      | none =>
        colon
        skip
        members fields false found fuel

def record (fields : List (String × Reader Json)) : Reader (List (String × Json)) := do
  match ← peekToken with
  | none => throw .ended
  | some '[' =>
    advance
    let fs ← inOrder true fields
    endArray
    return fs
  | some '\x7b' =>
    advance
    let fs ← members fields true [] (← steps)
    endObject
    return fs
  | some _ => mismatch

end Reader

namespace Schema

mutual

def reader : Schema → Reader Json
  | text => Json.text <$> Reader.text
  | natural bound => Json.natural <$> Reader.natural bound
  | choice names => Json.text <$> Reader.choice names
  | list item => Json.list <$> Reader.list item.reader
  | record fields => Json.record <$> Reader.record (readers fields)

def readers : List (String × Schema) → List (String × Reader Json)
  | [] => []
  | (name, s) :: fields => (name, s.reader) :: readers fields

end

/-- Reads a text as a value of a shape. -/
def read (s : Schema) (text : String) : Except Refusal Json :=
  s.reader.run text.toList

end Schema

end TypeGuard.Json
