namespace TypeGuard

inductive Json where
  | text (s : String)
  | natural (n : Nat)
  | flag (b : Bool)
  | list (items : List Json)
  /-- An object; its members stand in the order in which they are written. -/
  | record (members : List (String × Json))
deriving Repr

namespace Json

/-- A character of a string. Only quotation marks, backslashes and control characters are
escaped. -/
def escaped (c : Char) : List Char :=
  if c = '"' then ['\\', '"']
  else if c = '\\' then ['\\', '\\']
  else if c = '\x08' then ['\\', 'b']
  else if c = '\x0c' then ['\\', 'f']
  else if c = '\n' then ['\\', 'n']
  else if c = '\r' then ['\\', 'r']
  else if c = '\t' then ['\\', 't']
  else if c.toNat < 0x20 then
    ['\\', 'u', '0', '0', Nat.digitChar (c.toNat / 16), Nat.digitChar (c.toNat % 16)]
  else [c]

def writeText (s : String) : List Char :=
  '"' :: s.toList.flatMap escaped ++ ['"']

mutual

def write : Json → List Char
  | text s => writeText s
  | natural n => Nat.toDigits 10 n
  | flag b => if b then "true".toList else "false".toList
  | list items => '[' :: writeItems items ++ [']']
  | record members => '\x7b' :: writeMembers members ++ ['\x7d']

def writeItems : List Json → List Char
  | [] => []
  | [v] => write v
  | v :: w :: vs => write v ++ ',' :: writeItems (w :: vs)

def writeMembers : List (String × Json) → List Char
  | [] => []
  | [(key, v)] => writeText key ++ ':' :: write v
  | (key, v) :: m :: ms => writeText key ++ ':' :: write v ++ ',' :: writeMembers (m :: ms)

end

end Json

end TypeGuard
