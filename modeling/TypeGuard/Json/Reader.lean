import TypeGuard.Json.Numeral
import TypeGuard.Text.Utf8

namespace TypeGuard.Json

inductive Refusal where
  | ended
  | malformed
  /-- The value does not have the shape that is wanted. -/
  | unsuited
deriving Repr, DecidableEq

/-- Reads something from the front of a text. -/
abbrev Reader := StateT (List Char) (Except Refusal)

namespace Reader

def isBlank (c : Char) : Bool :=
  c == ' ' || c == '\n' || c == '\t' || c == '\r'

def peek : Reader (Option Char) :=
  return (← get).head?

/-- The next character that is no blank. -/
def peekToken : Reader (Option Char) := do
  modify (List.dropWhile isBlank)
  peek

def advance : Reader Unit :=
  modify List.tail

def next : Reader Char := do
  match ← get with
  | [] => throw .ended
  | c :: cs =>
    set cs
    return c

def word : List Char → Reader Unit
  | [] => return
  | c :: cs => do
    if (← next) = c then word cs else throw .malformed

def hexDigit? (c : Char) : Option Nat :=
  if c.isDigit then some (c.toNat - 48)
  else if 'a' ≤ c ∧ c ≤ 'f' then some (c.toNat - 87)
  else if 'A' ≤ c ∧ c ≤ 'F' then some (c.toNat - 55)
  else none

/-- Reads a code unit of four hexadecimal digits. With fewer than four bytes left, the text has
ended. -/
def codeUnit : Reader Nat := do
  let cs ← get
  if Utf8.byteLength (cs.take 4) < 4 then throw .ended
  match (cs.take 4).mapM hexDigit? with
  | some [a, b, c, d] =>
    set (cs.drop 4)
    return ((a * 16 + b) * 16 + c) * 16 + d
  | _ => throw .malformed

/-- Whether a code unit is the first half of a pair. -/
def isLeading (n : Nat) : Bool := 0xD800 ≤ n && n < 0xDC00

def isTrailing (n : Nat) : Bool := 0xDC00 ≤ n && n < 0xE000

/-- Reads the rest of an escape that gives code units. Halves of pairs do not stand alone. -/
def unicodeEscape : Reader Char := do
  let n ← codeUnit
  if isTrailing n then throw .malformed
  else if isLeading n then
    word ['\\', 'u']
    let m ← codeUnit
    if isTrailing m then return Char.ofNat (0x10000 + (n - 0xD800) * 0x400 + (m - 0xDC00))
    else throw .malformed
  else return Char.ofNat n

def simpleEscape? (c : Char) : Option Char :=
  if c = '"' ∨ c = '\\' ∨ c = '/' then some c
  else if c = 'b' then some '\x08'
  else if c = 'f' then some '\x0c'
  else if c = 'n' then some '\n'
  else if c = 'r' then some '\r'
  else if c = 't' then some '\t'
  else none

def escape : Reader Char := do
  let c ← next
  if c = 'u' then unicodeEscape
  else match simpleEscape? c with
    | some d => return d
    | none => throw .malformed

/-- Reads the rest of a string after its first quotation mark. -/
def textRest : Nat → Reader (List Char)
  | 0 => throw .malformed
  | fuel + 1 => do
    let c ← next
    if c = '"' then return []
    else if c = '\\' then
      let d ← escape
      return d :: (← textRest fuel)
    else if c.toNat < 0x20 then throw .malformed
    else return c :: (← textRest fuel)

/-- A number of steps that suffices for the rest of the text. -/
def steps : Reader Nat :=
  return 2 * (← get).length + 2

def textBody : Reader String := do
  return String.ofList (← textRest (← steps))

def digits : Reader (List Char) := do
  let (ds, cs) := (← get).span Char.isDigit
  set cs
  return ds

def exponent? : Reader (Option Int) := do
  match ← peek with
  | some 'e' | some 'E' =>
    advance
    let sign ← peek
    if sign = some '+' ∨ sign = some '-' then advance
    let first ← next
    if !first.isDigit then throw .malformed
    let e : Int := Numeral.valueOf (first :: (← digits))
    return some (if sign = some '-' then -e else e)
  | _ => return none

/-- Reads a number after its sign. -/
def numeral : Reader Numeral := do
  let first ← next
  if !first.isDigit then throw .malformed
  let more ← digits
  if first = '0' ∧ more ≠ [] then throw .malformed
  if (← peek) = some '.' then
    advance
    let fraction ← digits
    if fraction.isEmpty then throw (if (← peek).isNone then .ended else .malformed)
    return ⟨first :: more, fraction, ← exponent?⟩
  else return ⟨first :: more, [], ← exponent?⟩

/-- Reads a number after its sign and refuses it if it is too large. -/
def number : Reader Numeral := do
  let n ← numeral
  if n.isTooLarge then throw .malformed else return n

/-- Refuses the value in front. A scalar is read to its end first, so that it is refused for its
own faults before it is refused for its shape. -/
def mismatch {α : Type} : Reader α := do
  match ← peek with
  | some 'n' => word "null".toList
  | some 't' => word "true".toList
  | some 'f' => word "false".toList
  | some '-' =>
    advance
    let _ ← number
  | some '"' =>
    advance
    let _ ← textBody
  | some '[' => pure ()
  | some '\x7b' => pure ()
  | some c =>
    if c.isDigit then
      let _ ← number
    else throw .malformed
  | none => throw .ended
  throw .unsuited

def text : Reader String := do
  match ← peekToken with
  | none => throw .ended
  | some '"' =>
    advance
    textBody
  | some _ => mismatch

def natural (bound : Nat) : Reader Nat := do
  match ← peekToken with
  | none => throw .ended
  | some '-' =>
    advance
    let _ ← number
    throw .unsuited
  | some c =>
    if c.isDigit then
      let n ← number
      let value := Numeral.valueOf n.whole
      if n.isIntegral ∧ value < bound then return value else throw .unsuited
    else mismatch

def colon : Reader Unit := do
  match ← peekToken with
  | none => throw .ended
  | some ':' => advance
  | some _ => throw .malformed

/-- Whether another item of an array follows; the comma in front of it is read. -/
def hasItem (first : Bool) : Reader Bool := do
  match ← peekToken with
  | none => throw .ended
  | some ']' => return false
  | some ',' =>
    if first then return true
    advance
    match ← peekToken with
    | none => throw .ended
    | some ']' => throw .malformed
    | some _ => return true
  | some _ => if first then return true else throw .malformed

def endArray : Reader Unit := do
  match ← peekToken with
  | none => throw .ended
  | some ']' => advance
  | some _ => throw .malformed

/-- Reads the key of the next member of an object, if one follows. -/
def key? (first : Bool) : Reader (Option String) := do
  match ← peekToken with
  | none => throw .ended
  | some '\x7d' => return none
  | some ',' =>
    if first then throw .malformed
    advance
    match ← peekToken with
    | none => throw .ended
    | some '"' =>
      advance
      return some (← textBody)
    | some _ => throw .malformed
  | some '"' =>
    if first then
      advance
      return some (← textBody)
    else throw .malformed
  | some _ => throw .malformed

def endObject : Reader Unit := do
  match ← peekToken with
  | none => throw .ended
  | some '\x7d' => advance
  | some _ => throw .malformed

def finish : Reader Unit := do
  if (← peekToken).isSome then throw .malformed

def run {α : Type} (r : Reader α) (s : List Char) : Except Refusal α :=
  (StateT.run (do let a ← r; finish; return a) s).map Prod.fst

end Reader

end TypeGuard.Json
