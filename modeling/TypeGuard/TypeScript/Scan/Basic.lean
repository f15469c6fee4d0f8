import TypeGuard.Text.Identifier
import TypeGuard.TypeScript.Fault

namespace TypeGuard.TypeScript.Scan

/-- Something wrong `place` characters after the start of the element. -/
structure Remark where
  place : Nat
  cause : Cause
deriving Repr, DecidableEq

def Remark.shift (n : Nat) (r : Remark) : Remark :=
  { r with place := n + r.place }

/-- An element of `length` characters, or what is wrong with it. Its remarks do not stop the
reading. -/
structure Element (α : Type) where
  value : Except Remark α
  length : Nat
  remarks : List Remark := []

def isLineBreak (c : Char) : Bool :=
  c == '\n' || c == '\r' || c.toNat == 0x2028 || c.toNat == 0x2029

/-- Blanks that do not end a line. -/
def isBlank (c : Char) : Bool :=
  c == ' ' || c == '\t' || c.toNat == 0x0B || c.toNat == 0x0C ||
    c.toNat == 0x85 || c.toNat == 0xA0 || c.toNat == 0xFEFF || c.toNat == 0x1680 ||
    (0x2000 ≤ c.toNat && c.toNat ≤ 0x200A) || c.toNat == 0x202F || c.toNat == 0x205F ||
    c.toNat == 0x3000

def startsWith (cs : List Char) (s : String) : Bool :=
  s.toList.isPrefixOf cs

end TypeGuard.TypeScript.Scan
