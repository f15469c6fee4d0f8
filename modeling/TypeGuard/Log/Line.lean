import TypeGuard.Json.Basic
import TypeGuard.Log.Config
import TypeGuard.Log.Event

namespace TypeGuard.Log

def Value.toJson : Value → Json
  | text s => .text s
  | number n => .natural n
  | flag b => .flag b

/-- A character of a message. Those that steer a terminal are written by their number. -/
def tamed (c : Char) : String :=
  let digits := String.ofList (Nat.toDigits 16 c.toNat)
  if c.toNat = 0x1B || c.toNat = 0x7F then "\\x" ++ digits
  else if c.toNat = 7 || c.toNat = 8 || c.toNat = 12 then "\\x0" ++ digits
  else if 0x80 ≤ c.toNat && c.toNat ≤ 0x9F then "\\u\x7b" ++ digits ++ "\x7d"
  else c.toString

/-- A field in a text line. The value of a field named `message` stands alone. -/
def fieldText (name : String) (v : Value) : String :=
  if name == "message" then String.join (v.render.toList.map tamed) else name ++ "=" ++ v.render

def Event.line (showTarget : Bool) (e : Event) : String :=
  e.level.name ++ " " ++ (if showTarget then e.target ++ ": " else "") ++
    " ".intercalate (e.allFields.map fun (name, v) => fieldText name v)

/-- Fields in which every name stands once, with the value it was given last. -/
def lastGiven : List (String × Value) → List (String × Value)
  | [] => []
  | (name, v) :: fields =>
    if fields.any (·.1 == name) then lastGiven fields else (name, v) :: lastGiven fields

def Event.object (showTarget : Bool) (e : Event) : Json :=
  .record (("level", .text e.level.name) ::
    (if showTarget then [("target", .text e.target)] else []) ++
    [("fields", .record ((lastGiven e.allFields).map fun (name, v) => (name, v.toJson)))])

/-- A line of the log, without the time and the place of its event. -/
inductive Line where
  | text (line : String)
  | object (line : Json)
deriving Repr

def Config.lineOf (c : Config) (e : Event) : Line :=
  if c.json then .object (e.object c.showTarget) else .text (e.line c.showTarget)

end TypeGuard.Log
