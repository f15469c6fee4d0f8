import TypeGuard.Json.Reader

namespace TypeGuard.Json.Reader

/-- Passes over the rest of a string after its first quotation mark. -/
def skipText : Nat → Reader Unit
  | 0 => throw .malformed
  | fuel + 1 => do
    let c ← next
    if c = '"' then return
    else if c = '\\' then
      let d ← next
      if d = 'u' then
        let _ ← codeUnit
      else if (simpleEscape? d).isNone then throw .malformed
      skipText fuel
    else if c.toNat < 0x20 then throw .malformed
    else skipText fuel

def skipNumber : Reader Unit := fun s =>
  match numeral s with
  | .ok (_, s) => .ok ((), s)
  | .error _ => .error .malformed

mutual

/-- Passes over a value. -/
def skipValue : Nat → Reader Unit
  | 0 => throw .malformed
  | fuel + 1 => do
    match ← peekToken with
    | none => throw .ended
    | some 'n' => word "null".toList
    | some 't' => word "true".toList
    | some 'f' => word "false".toList
    | some '-' =>
      advance
      skipNumber
    | some '"' =>
      advance
      skipText (← steps)
    | some '[' =>
      advance
      skipItems true fuel
    | some '\x7b' =>
      advance
      skipMembers true fuel
    | some c => if c.isDigit then skipNumber else throw .malformed

def skipItems (first : Bool) : Nat → Reader Unit
  | 0 => throw .malformed
  | fuel + 1 => do
    if ← hasItem first then
      skipValue fuel
      skipItems false fuel
    else endArray

def skipMembers (first : Bool) : Nat → Reader Unit
  | 0 => throw .malformed
  | fuel + 1 => do
    match ← peekToken with
    | none => throw .ended
    | some '\x7d' => advance
    | some ',' =>
      if first then throw .malformed
      advance
      skipMember fuel
    | some _ => if first then skipMember fuel else throw .malformed

def skipMember : Nat → Reader Unit
  | 0 => throw .malformed
  | fuel + 1 => do
    match ← peekToken with
    | none => throw .ended
    | some '"' =>
      advance
      skipText (← steps)
      colon
      skipValue fuel
      skipMembers false fuel
    | some _ => throw .malformed

end

def skip : Reader Unit := do
  skipValue (2 * (← steps))

end TypeGuard.Json.Reader
