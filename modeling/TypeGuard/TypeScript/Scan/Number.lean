import TypeGuard.Decimal.Shortest
import TypeGuard.TypeScript.Scan.Digits

namespace TypeGuard.TypeScript.Scan

/-- The number `digits · 10 ^ exponent`. -/
structure Number where
  digits : Nat
  exponent : Int := 0
  big : Bool := false

/-- Decimal text of the value of a literal. Beyond some size of the exponent the nearest double is
infinite or zero, whatever the exponent is. -/
def Number.text (n : Number) : String :=
  if n.big then toString n.digits
  else
    let least : Int := -400 - (Nat.toDigits 10 n.digits).length
    let (num, den) := Decimal.scaled 10 n.digits 1 (max least (min n.exponent 400))
    Decimal.shortest num den

/-- A number must not run into a name; only the suffix of big integers keeps the two apart. -/
def finish (n : Number) (length : Nat) (remarks : List Remark) (after : List Char) :
    Element Number :=
  if after.head?.any Text.isIdentifierStart then ⟨.error ⟨length, .nameAfterNumber⟩, length, remarks⟩
  else ⟨.ok n, length, remarks⟩

/-- Reads the digits of an integer after its two-character sign. -/
def radixNumber (radix : Nat) (cs : List Char) : Element Number :=
  let run := digits radix cs
  let remarks := run.remarks 2
  let length := run.length + 2
  if run.count == 0 then ⟨.error ⟨2, .expectedDigit radix⟩, length, remarks⟩
  else
    match cs.drop run.length with
    | 'n' :: _ => ⟨.ok { digits := run.value, big := true }, length + 1, remarks⟩
    | after => finish { digits := run.value } length remarks after

/-- Reads the exponent of a decimal number, the mark included, `pos` characters after the start of
the literal. -/
def exponentPart (pos : Nat) (cs : List Char) : Element Int :=
  match cs with
  | e :: cs =>
    if e == 'e' || e == 'E' then
      let sign := cs.head?.filter fun c => c == '+' || c == '-'
      let signLength := if sign.isSome then 1 else 0
      let start := pos + 1 + signLength
      let run := digits 10 (cs.drop signLength)
      let length := 1 + signLength + run.length
      if cs.isEmpty then
        ⟨.error ⟨start, .rule "Expected +, - or decimal digit after e"⟩, length, []⟩
      else if run.count == 0 then
        ⟨.error ⟨start, .expectedDigit 10⟩, length, run.remarks start⟩
      else
        let n : Int := run.value
        ⟨.ok (if sign == some '-' then -n else n), length, run.remarks start⟩
    else ⟨.ok 0, 0, []⟩
  | [] => ⟨.ok 0, 0, []⟩

/-- Reads fraction and exponent of a decimal number whose integer part takes `pos` characters. -/
def decimalTail (whole pos : Nat) (remarks : List Remark) (cs : List Char) : Element Number :=
  let pointLength := if cs.head? == some '.' then 1 else 0
  let fraction := if pointLength == 1 then digits 10 (cs.drop 1) else {}
  let afterFraction := cs.drop (pointLength + fraction.length)
  let pos' := pos + pointLength + fraction.length
  let exponent := exponentPart pos' afterFraction
  let length := pos' + exponent.length
  let remarks := remarks ++ fraction.remarks (pos + 1) ++ exponent.remarks
  match exponent.value with
  | .error r => ⟨.error r, length, remarks⟩
  | .ok e =>
    finish
      { digits := whole * Nat.pow 10 fraction.count + fraction.value, exponent := e - fraction.count }
      length remarks (afterFraction.drop exponent.length)

def oldOctal (length : Nat) (remarks : List Remark) (cs : List Char) : Element Number :=
  let n := finish { digits := valueOf 8 (cs.take length) } length remarks (cs.drop length)
  match n.value with
  | .error _ => n
  | .ok _ => { n with remarks := remarks ++ [⟨0, .legacyOctal⟩, ⟨0, .legacyOctalStrict⟩] }

def isInfinite (n : Nat) : Bool :=
  Nat.pow 2 1024 - Nat.pow 2 970 ≤ n

/-- Reads a decimal number, or an integer in one of the old forms with a leading zero. Beyond all
doubles there are no old forms. -/
def decimalNumber (cs : List Char) : Element Number :=
  let run := digits 10 cs
  let after := cs.drop run.length
  let remarks := run.remarks 0
  if after.head? == some 'n' then
    ⟨.ok { digits := run.value, big := true }, run.length + 1, remarks⟩
  else if cs.head? == some '0' && 1 < run.length && !isInfinite run.value then
    if (cs.take run.length).all fun c => c == '_' || isDigitOf 8 c then
      oldOctal run.length remarks cs
    else decimalTail run.value run.length (remarks ++ [⟨0, .legacyDecimalStrict⟩]) after
  else decimalTail run.value run.length remarks after

def number (cs : List Char) : Element Number :=
  match cs with
  | '0' :: mark :: digits =>
    if mark == 'x' || mark == 'X' then radixNumber 16 digits
    else if mark == 'o' || mark == 'O' then radixNumber 8 digits
    else if mark == 'b' || mark == 'B' then radixNumber 2 digits
    else decimalNumber cs
  | _ => decimalNumber cs

end TypeGuard.TypeScript.Scan
