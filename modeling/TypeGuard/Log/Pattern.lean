import TypeGuard.Text.Alphanumeric

namespace TypeGuard.Log

/-- Why a text is no pattern to match values with. -/
inductive PatternProblem where
  | malformed
  | wordBoundary
deriving Repr, DecidableEq

def PatternProblem.message : PatternProblem → String
  | malformed => "error building NFA"
  | wordBoundary =>
    "unsupported regex feature for DFAs: cannot build DFAs for regexes with Unicode word " ++
      "boundaries; switch to ASCII word boundaries, or heuristically enable Unicode word " ++
      "boundaries or use a different regex engine"

namespace Pattern

/-- The settings in force at a place of a pattern. -/
structure Mode where
  /-- Letter case does not count. -/
  caseless : Bool := false
  /-- Characters are matched, not bytes. -/
  unicode : Bool := true
  /-- Blanks and comments are passed over. -/
  verbose : Bool := false
deriving Repr, DecidableEq

/-- Whether folding letter case would take a table. -/
def Mode.folds (m : Mode) : Bool :=
  m.caseless && m.unicode

/-- The settings after some are turned on and, behind a dash, others off. -/
def Mode.change (m : Mode) (flags : List Char) : Mode :=
  let on := flags.takeWhile (· ≠ '-')
  let set (c : Char) (old : Bool) : Bool := on.contains c || (old && !flags.contains c)
  ⟨set 'i' m.caseless, set 'u' m.unicode, set 'x' m.verbose⟩

/-- The characters that a verbose pattern may hold for its readers only. -/
def isBlank (c : Char) : Bool :=
  (9 ≤ c.toNat && c.toNat ≤ 13) || (0x2000 ≤ c.toNat && c.toNat ≤ 0x200A) ||
    [0x20, 0x85, 0xA0, 0x1680, 0x2028, 0x2029, 0x202F, 0x205F, 0x3000].contains c.toNat

/-- What follows blanks and comments; `comment` tells that a comment is open. -/
def afterBlanks : Bool → List Char → List Char
  | _, [] => []
  | true, c :: cs => afterBlanks (c ≠ '\n') cs
  | false, c :: cs =>
    if isBlank c then afterBlanks false cs
    else if c = '#' then afterBlanks true cs
    else c :: cs

def Mode.next (m : Mode) (cs : List Char) : List Char :=
  if m.verbose then afterBlanks false cs else cs

inductive Atom where
  /-- A character; `isByte` tells that it is written as the number of a byte. -/
  | character (c : Char) (isByte : Bool)
  | anyOf
  | place (ofUnicodeWord : Bool)
deriving Repr, DecidableEq

/-- The character with a number of so many hexadecimal digits. -/
def hexadecimal? (count : Nat) (cs : List Char) : Option (Char × List Char) :=
  let digits := cs.take count
  let digit (c : Char) : Option Nat :=
    "0123456789abcdef".toList.findIdx? (· == c.toLower)
  if digits.length < count then none
  else do
    let ds ← digits.mapM digit
    let n := ds.foldl (fun n d => 16 * n + d) 0
    if n.isValidChar then some (Char.ofNat n, cs.drop count) else none

def escape? (m : Mode) : List Char → Option (Atom × List Char)
  | [] => none
  | c :: cs =>
    match c with
    | 'x' => (hexadecimal? 2 cs).map fun (c, cs) => (.character c true, cs)
    | 'u' => (hexadecimal? 4 cs).map fun (c, cs) => (.character c false, cs)
    | 'U' => (hexadecimal? 8 cs).map fun (c, cs) => (.character c false, cs)
    | 'a' => some (.character '\x07' false, cs)
    | 'f' => some (.character '\x0c' false, cs)
    | 'n' => some (.character '\n' false, cs)
    | 'r' => some (.character '\r' false, cs)
    | 't' => some (.character '\t' false, cs)
    | 'v' => some (.character '\x0b' false, cs)
    | 'd' | 's' | 'w' => if m.unicode then none else some (.anyOf, cs)
    | 'A' | 'z' => some (.place false, cs)
    | 'b' | 'B' | '<' | '>' => some (.place m.unicode, cs)
    | c => if c.toNat < 128 && !c.isAlphanum then some (.character c false, cs) else none

def member? (m : Mode) : List Char → Option (Atom × List Char)
  | [] => none
  | '\\' :: cs => escape? m cs
  | c :: cs => some (.character c false, cs)

/-- Whether an atom can be in a class. Classes of bytes hold ASCII characters only. -/
def Atom.isMember (m : Mode) : Atom → Bool
  | character c _ => m.unicode || c.toNat < 128
  | anyOf => true
  | place _ => false

/-- Reads a member of a class or a range of characters, the smaller one first. -/
def range? (m : Mode) (cs : List Char) : Option (List Char) := do
  let (first, cs) ← member? m cs
  if !first.isMember m then none
  else match m.next cs with
    | '-' :: rest =>
      match m.next rest with
      | ']' :: _ | '-' :: _ => some ('-' :: rest)
      | rest =>
        let (last, rest) ← member? m rest
        match first, last with
        | .character a _, .character b _ =>
          if a ≤ b && last.isMember m then some rest else none
        | _, _ => none
    | cs => some cs

def classNames : List String :=
  ["alnum", "alpha", "ascii", "blank", "cntrl", "digit", "graph", "lower", "print", "punct",
    "space", "upper", "word", "xdigit"]

/-- Reads a named class behind its bracket, and whether its complement is meant. -/
def namedClass? : List Char → Option (Bool × List Char)
  | ':' :: cs =>
    let negated := cs.head? = some '^'
    let (name, rest) := (if negated then cs.tail else cs).span (· ≠ ':')
    match rest with
    | ':' :: ']' :: rest =>
      if classNames.contains (String.ofList name) then some (negated, rest) else none
    | _ => none
  | _ => none

/-- Reads the start of a class behind its bracket: a sign of negation, then dashes that stand for
themselves, or a bracket that does. The complement of a class of bytes is no text. -/
def classStart? (m : Mode) (cs : List Char) : Option (List Char) :=
  let afterDashes (cs : List Char) : List Char :=
    match m.next cs with
    | '-' :: cs => cs.dropWhile (· = '-')
    | ']' :: cs => cs
    | cs => cs
  match m.next cs with
  | '^' :: cs => if m.unicode then some (afterDashes cs) else none
  | cs => some (afterDashes cs)

def classRest? (m : Mode) : Nat → Nat → List Char → Option (List Char)
  | 0, _, _ => none
  | fuel + 1, depth, cs =>
    match m.next cs with
    | [] => none
    | ']' :: cs =>
      match depth with
      | 0 => some cs
      | depth + 1 => classRest? m fuel depth cs
    | '[' :: cs =>
      match namedClass? cs with
      | some (negated, cs) =>
        if negated && !m.unicode then none else classRest? m fuel depth cs
      | none => (classStart? m cs).bind (classRest? m fuel (depth + 1))
    | '&' :: '&' :: cs | '-' :: '-' :: cs | '~' :: '~' :: cs => classRest? m fuel depth cs
    | cs => (range? m cs).bind (classRest? m fuel depth)

structure Progress where
  mode : Mode := {}
  repeatable : Bool := false
  /-- The settings outside of the open groups, from the innermost. -/
  outer : List Mode := []
  names : List (List Char) := []
  wordBoundary : Bool := false
deriving Repr, DecidableEq

namespace Progress

def atom? (p : Progress) : Atom → Option Progress
  | .character c isByte =>
    if p.mode.folds || (isByte && !p.mode.unicode && 128 ≤ c.toNat) then none
    else some { p with repeatable := true }
  | .anyOf => some { p with repeatable := true }
  | .place ofUnicodeWord =>
    some { p with repeatable := true, wordBoundary := p.wordBoundary || ofUnicodeWord }

def enter (p : Progress) (m : Mode) : Progress :=
  { p with mode := m, outer := p.mode :: p.outer, repeatable := false }

def isGroupName : List Char → Bool
  | [] => false
  | c :: cs =>
    (c = '_' || (Text.isAlphanumeric c && !c.isDigit)) &&
      cs.all fun c => Text.isAlphanumeric c || ['_', '.', '[', ']'].contains c

def named? (p : Progress) (cs : List Char) : Option (Progress × List Char) :=
  let (name, rest) := cs.span (· ≠ '>')
  match rest with
  | [] => none
  | _ :: rest =>
    if isGroupName name && !p.names.contains name then
      some ({ p.enter p.mode with names := name :: p.names }, rest)
    else none

/-- Reads settings, for a group or for the rest of the group at hand. -/
def settings? (p : Progress) (cs : List Char) : Option (Progress × List Char) :=
  let (flags, rest) := cs.span fun c => c ≠ ':' && c ≠ ')'
  let known := flags.all ['i', 'm', 's', 'U', 'u', 'R', 'x', '-'].contains
  if !known || flags.eraseDups.length < flags.length || flags.getLast? = some '-' then none
  else match rest with
    | [] => none
    | ':' :: rest => some (p.enter (p.mode.change flags), rest)
    | _ :: rest =>
      if flags.isEmpty then none
      else some ({ p with mode := p.mode.change flags, repeatable := false }, rest)

def group? (p : Progress) (cs : List Char) : Option (Progress × List Char) :=
  match p.mode.next cs with
  | '?' :: 'P' :: '<' :: cs | '?' :: '<' :: cs => p.named? cs
  | '?' :: cs => p.settings? cs
  | cs => some (p.enter p.mode, cs)

def step? (p : Progress) : List Char → Option (Progress × List Char)
  | [] => none
  | c :: cs =>
    match c with
    | '(' => p.group? cs
    | ')' =>
      match p.outer with
      | [] => none
      | m :: outer => some ({ p with mode := m, outer := outer, repeatable := true }, cs)
    | '|' => some ({ p with repeatable := false }, cs)
    | '[' =>
      if p.mode.folds then none
      else ((classStart? p.mode cs).bind (classRest? p.mode (cs.length + 1) 0)).map fun cs =>
        ({ p with repeatable := true }, cs)
    | '?' | '*' | '+' =>
      if p.repeatable then some (p, if cs.head? = some '?' then cs.tail else cs) else none
    | '\x7b' => none
    | '.' => if p.mode.unicode then some ({ p with repeatable := true }, cs) else none
    | '^' | '$' => some ({ p with repeatable := true }, cs)
    | '\\' => do
      let (a, cs) ← escape? p.mode cs
      return (← p.atom? a, cs)
    | c => (p.atom? (.character c false)).map fun p => (p, cs)

/-- Reads the rest of a pattern. Every step takes at least one character. -/
def finish? : Nat → Progress → List Char → Option Progress
  | 0, _, _ => none
  | fuel + 1, p, cs =>
    match p.mode.next cs with
    | [] => if p.outer.isEmpty then some p else none
    | cs => (p.step? cs).bind fun (p, cs) => finish? fuel p cs

end Progress

/-- The problem of a text that is no pattern to match values with. -/
def problem? (cs : List Char) : Option PatternProblem :=
  match Progress.finish? (cs.length + 1) {} cs with
  | none => some .malformed
  | some p => if p.wordBoundary then some .wordBoundary else none

end Pattern

end TypeGuard.Log
