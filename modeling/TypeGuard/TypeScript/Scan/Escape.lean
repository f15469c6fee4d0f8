import TypeGuard.TypeScript.Scan.Digits

namespace TypeGuard.TypeScript.Scan

/-- What an escape sequence stands for, or what is wrong with it, and how many characters it takes
after the backslash. Places are counted from there, too. -/
structure Escape where
  value : Except Remark (List Char)
  length : Nat
  remarks : List Remark := []
  octal : Bool := false

def character? (n : Nat) : Option Char :=
  if h : n.isValidChar then some (Char.ofNatAux n h) else none

def Escape.single (c : Char) (n : Nat) : Escape :=
  { value := .ok [c], length := n }

/-- A code point in braces, after the opening brace. Half of a surrogate pair is no character and
stays as it was written, up to six characters of it. -/
def bracedEscape (cs : List Char) : Escape :=
  let run := wordDigits 16 cs
  let remarks := run.remarks 2
  let refused (wanted : String) : Escape :=
    { value := .error ⟨2 + run.length, .badEscape wanted⟩, length := 2 + run.length, remarks }
  if run.count == 0 || 0xFFFFFFFF < run.value then refused "1-6 hex characters"
  else if 0x10FFFF < run.value then refused "1-6 hex characters in the range 0 to 10FFFF."
  else
    let (value, n) := match character? run.value with
      | some c => ([c], run.length)
      | none =>
        let kept := (cs.take 6).takeWhile (· != '\x7d')
        ('\\' :: 'u' :: '\x7b' :: kept ++ ['\x7d'], kept.length)
    if (cs.drop n).head? == some '\x7d' then { value := .ok value, length := n + 3, remarks }
    else { value := .error ⟨2, .rule "Invalid unicode escape"⟩, length := n + 2, remarks }

/-- What is wrong with a backslash that begins no escape of a name. -/
def noEscape : Cause := .rule "Expected unicode escape"

def unicodeEscape (cs : List Char) : Escape :=
  match cs with
  | 'u' :: '\x7b' :: cs => bracedEscape cs
  | 'u' :: cs =>
    let run := digitsUpTo 16 4 cs
    let remarks := run.remarks 1
    if run.count < 4 then
      { value := .error ⟨1 + run.length, .badEscape "4 hex characters"⟩
        length := 1 + run.length
        remarks }
    else match character? run.value with
      | some c => { value := .ok [c], length := 1 + run.length, remarks }
      | none =>
        let kept := cs.take 4
        { value := .ok ('\\' :: 'u' :: kept), length := 1 + kept.length, remarks }
  | _ => { value := .error ⟨0, noEscape⟩, length := 0 }

/-- An octal escape: up to three digits, as long as the value fits in a byte. -/
def octalEscape (cs : List Char) : Escape :=
  let run := (cs.take 3).takeWhile (isDigitOf 8)
  let run := if 255 < valueOf 8 run then run.take 2 else run
  { value := .ok (character? (valueOf 8 run)).toList, length := run.length, octal := true }

def byteEscape (cs : List Char) : Escape :=
  let run := digitsUpTo 16 2 cs
  { value := if run.count < 2 then .error ⟨0, .badEscape "2 hex characters"⟩
      else .ok (character? run.value).toList
    length := 1 + run.length
    remarks := run.remarks 1 }

def escape (cs : List Char) : Escape :=
  match cs with
  | [] => { value := .error ⟨0, .rule "Invalid string escape"⟩, length := 0 }
  | 'n' :: _ => .single '\n' 1
  | 'r' :: _ => .single '\r' 1
  | 't' :: _ => .single '\t' 1
  | 'b' :: _ => .single '\x08' 1
  | 'v' :: _ => .single '\x0b' 1
  | 'f' :: _ => .single '\x0c' 1
  | '\r' :: '\n' :: _ => { value := .ok [], length := 2 }
  | 'x' :: cs => byteEscape cs
  | 'u' :: cs => unicodeEscape ('u' :: cs)
  | c :: cs =>
    if isLineBreak c then { value := .ok [], length := 1 }
    else if c == '0' && !(cs.head?.any (isDigitOf 8)) then .single '\x00' 1
    else if isDigitOf 8 c then octalEscape (c :: cs)
    else .single c 1

end TypeGuard.TypeScript.Scan
