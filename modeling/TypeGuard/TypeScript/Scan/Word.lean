import TypeGuard.TypeScript.Scan.Escape

namespace TypeGuard.TypeScript.Scan

structure Word where
  name : List Char
  escaped : Bool

/-- Reads a name on from `pos`; `pending` characters belong to an escape that was resolved
already. -/
def wordFrom (pending pos : Nat) (name : List Char) (escaped : Bool) (remarks : List Remark) :
    List Char → Element Word
  | [] => ⟨.ok ⟨name.reverse, escaped⟩, pos, remarks.reverse⟩
  | c :: cs =>
    match pending with
    | k + 1 => wordFrom k (pos + 1) name escaped remarks cs
    | 0 =>
      if Text.isIdentifierPart c then wordFrom 0 (pos + 1) (c :: name) escaped remarks cs
      else if c == '\\' then
        let e := unicodeEscape cs
        let remarks := (e.remarks.map (·.shift (pos + 1))).reverse ++ remarks
        match e.value with
        | .error r =>
          let place := if r.cause == noEscape then pos else pos + 1 + r.place
          ⟨.error ⟨place, r.cause⟩, pos + 1 + e.length, remarks.reverse⟩
        | .ok value =>
          let fits := if name.isEmpty then Text.isIdentifierStart else Text.isIdentifierPart
          let remarks := if value.head?.all fits then remarks
            else ⟨pos, .badNameCharacter⟩ :: remarks
          wordFrom e.length (pos + 1) (value.reverse ++ name) true remarks cs
      else ⟨.ok ⟨name.reverse, escaped⟩, pos, remarks.reverse⟩

def word (cs : List Char) : Element Word :=
  wordFrom 0 0 [] false [] cs

end TypeGuard.TypeScript.Scan
