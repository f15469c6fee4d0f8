import TypeGuard.Text.LetterCase

namespace TypeGuard.Text

def lowercaseChar (c : Char) : List Char :=
  if c.toNat < 0x80 then [c.toLower]
  else if c.toNat = 0x130 then ['i', '\u0307']
  else match lowercaseRuns.find? fun r => r.covers c.toNat with
    | some r => [Char.ofNat (c.toNat + r.shift).toNat]
    | none => [c]

/-- Whether the first character that is not passed over has a case. -/
def startsCased (cs : List Char) : Bool :=
  match cs.dropWhile isCaseIgnorable with
  | [] => false
  | c :: _ => isCased c

/-- The lowercase form of a character between the characters before it, last one first, and the
characters after it. -/
def lowercaseBetween (before : List Char) (c : Char) (after : List Char) : List Char :=
  if c = 'Σ' then [if startsCased before && !startsCased after then 'ς' else 'σ']
  else lowercaseChar c

/-- The lowercase form of the characters after `before`, which stands last one first. -/
def lowercaseAfter : List Char → List Char → List Char
  | _, [] => []
  | before, c :: cs => lowercaseBetween before c cs ++ lowercaseAfter (c :: before) cs

def lowercase (s : String) : String :=
  String.ofList (lowercaseAfter [] s.toList)

end TypeGuard.Text
