import TypeGuard.TypeScript.Scan.Basic

namespace TypeGuard.TypeScript.Scan

/-- Value of a digit in a radix up to sixteen. -/
def digitValue? (radix : Nat) (c : Char) : Option Nat :=
  let v :=
    if c.isDigit then some (c.toNat - '0'.toNat)
    else if 'a' ≤ c && c ≤ 'f' then some (c.toNat - 'a'.toNat + 10)
    else if 'A' ≤ c && c ≤ 'F' then some (c.toNat - 'A'.toNat + 10)
    else none
  v.filter (· < radix)

def isDigitOf (radix : Nat) (c : Char) : Bool :=
  (digitValue? radix c).isSome

/-- Value of a run of digits; other characters are passed over. -/
def valueOf (radix : Nat) (cs : List Char) : Nat :=
  cs.foldl (fun n c => match digitValue? radix c with
    | some d => n * radix + d
    | none => n) 0

/-- A run of digits as far as it has been read. -/
structure Digits where
  value : Nat := 0
  count : Nat := 0
  length : Nat := 0
  /-- Number of separators that do not stand between two digits. -/
  strays : Nat := 0

/-- Reads on, up to a digit with which the run is complete. -/
def digitsFrom (radix : Nat) (complete : Digits → Bool) (run : Digits) : List Char → Digits
  | [] => run
  | c :: cs =>
    if c == '_' then
      let stray := run.count == 0 || !(cs.head?.any (isDigitOf radix))
      digitsFrom radix complete
        { run with
          length := run.length + 1
          strays := if stray then run.strays + 1 else run.strays } cs
    else
      match digitValue? radix c with
      | none => run
      | some d =>
        let run : Digits :=
          { run with
            value := run.value * radix + d
            count := run.count + 1
            length := run.length + 1 }
        if complete run then run else digitsFrom radix complete run cs

def digits (radix : Nat) (cs : List Char) : Digits :=
  digitsFrom radix (fun _ => false) {} cs

def digitsUpTo (radix n : Nat) (cs : List Char) : Digits :=
  digitsFrom radix (fun run => run.count == n) {} cs

/-- The run of digits at the front of a text, up to the digit that takes its value past 32 bits. -/
def wordDigits (radix : Nat) (cs : List Char) : Digits :=
  digitsFrom radix (fun run => decide (0xFFFFFFFF < run.value)) {} cs

/-- Remarks for the stray separators of a run that begins at `place`. -/
def Digits.remarks (run : Digits) (place : Nat) : List Remark :=
  List.replicate run.strays ⟨place, .misplacedSeparator⟩

end TypeGuard.TypeScript.Scan
