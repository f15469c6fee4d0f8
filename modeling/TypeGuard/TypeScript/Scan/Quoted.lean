import TypeGuard.TypeScript.Scan.Word

namespace TypeGuard.TypeScript.Scan

structure Quoted where
  value : List Char
  closed : Bool

/-- Reads a string after its opening quotation mark. A string that is not closed ends with its
line. -/
def stringFrom (quote : Char) (pending pos : Nat) (value : List Char) (remarks : List Remark) :
    List Char → Element Quoted
  | [] => ⟨.ok ⟨value.reverse, false⟩, pos, remarks.reverse ++ [⟨0, .unclosedString⟩]⟩
  | c :: cs =>
    match pending with
    | k + 1 => stringFrom quote k (pos + 1) value remarks cs
    | 0 =>
      if c == quote then ⟨.ok ⟨value.reverse, true⟩, pos + 1, remarks.reverse⟩
      else if c == '\n' || c == '\r' then
        ⟨.ok ⟨value.reverse, false⟩, pos, remarks.reverse ++ [⟨0, .unclosedString⟩]⟩
      else if c == '\\' then
        let e := escape cs
        let remarks := (e.remarks.map (·.shift (pos + 1))).reverse ++ remarks
        match e.value with
        | .error r => ⟨.error ⟨pos, r.cause⟩, pos + 1 + e.length, remarks.reverse⟩
        | .ok chars =>
          let remarks := if e.octal then ⟨pos, .legacyOctalStrict⟩ :: remarks else remarks
          stringFrom quote e.length (pos + 1) (chars.reverse ++ value) remarks cs
      else stringFrom quote 0 (pos + 1) (c :: value) remarks cs

def string (quote : Char) (afterQuote : List Char) : Element Quoted :=
  stringFrom quote 0 1 [] [] afterQuote

inductive TemplateEnd where
  | closed
  | hole
  | unclosed
deriving DecidableEq

/-- A piece of a template, the sign that ends it included, and its last bad escape. -/
structure TemplatePiece where
  ending : TemplateEnd
  length : Nat
  bad : Option Remark
  remarks : List Remark

def TemplateEnd.length : TemplateEnd → Nat
  | closed => 1
  | hole => 2
  | unclosed => 0

def templateFrom (pending pos : Nat) (bad : Option Remark) (remarks : List Remark) :
    List Char → TemplatePiece
  | [] => ⟨.unclosed, pos, bad, remarks.reverse⟩
  | c :: cs =>
    match pending with
    | k + 1 => templateFrom k (pos + 1) bad remarks cs
    | 0 =>
      if c == '\x60' then ⟨.closed, pos + 1, bad, remarks.reverse⟩
      else if c == '$' && cs.head? == some '\x7b' then ⟨.hole, pos + 2, bad, remarks.reverse⟩
      else if c == '\\' then
        let e := escape cs
        let bad := match e.value with
          | .error r => some ⟨pos, r.cause⟩
          | .ok _ => if e.octal then some ⟨pos, .legacyOctalStrict⟩ else bad
        let length := if e.octal then 1 else e.length
        templateFrom length (pos + 1) bad
          ((e.remarks.map (·.shift (pos + 1))).reverse ++ remarks) cs
      else templateFrom 0 (pos + 1) bad remarks cs

def template (cs : List Char) : TemplatePiece :=
  templateFrom 0 0 none [] cs

/-- Length of a regular expression up to its closing slash, which does not count inside a class or
after a backslash. -/
def regExpBody (inClass escaped : Bool) (pos : Nat) : List Char → Option Nat
  | [] => none
  | c :: cs =>
    if isLineBreak c then none
    else if escaped then regExpBody inClass false (pos + 1) cs
    else if c == '/' && !inClass then some (pos + 1)
    else
      let inClass := if c == '[' then true else if c == ']' then false else inClass
      regExpBody inClass (c == '\\') (pos + 1) cs

structure RegExp where
  length : Nat
  flags : List Char

/-- Reads the regular expression whose opening slash stands before the text, if it is closed. Flags
are written like a name that does not begin with an escape. -/
def regExp? (afterSlash : List Char) : Option (Element RegExp) :=
  (regExpBody false false 1 afterSlash).map fun n =>
    let after := afterSlash.drop (n - 1)
    if after.head?.any Text.isIdentifierStart then
      let flags := word after
      { value := match flags.value with
          | .error r => .error (r.shift n)
          | .ok w => .ok ⟨n + flags.length, w.name⟩
        length := n + flags.length
        remarks := flags.remarks.map (·.shift n) }
    else { value := .ok ⟨n, []⟩, length := n }

end TypeGuard.TypeScript.Scan
