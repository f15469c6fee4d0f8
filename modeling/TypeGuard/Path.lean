import TypeGuard.Guard.Error
import TypeGuard.Text.Parts

namespace TypeGuard.Path

inductive Component where
  | root
  | current
  | parent
  | name (text : List Char)
deriving Repr, DecidableEq

def segments (text : List Char) : List (List Char) :=
  Text.parts '/' text

def joined (ss : List (List Char)) : List Char :=
  Text.joined '/' ss

def component? (s : List Char) : Option Component :=
  if s = [] ∨ s = ['.'] then none
  else if s = ['.', '.'] then some .parent
  else some (.name s)

/-- A path text split into its anchor and the text after it. -/
def anchored : List Char → Option Component × List Char
  | '/' :: cs => (some .root, cs)
  | ['.'] => (some .current, [])
  | '.' :: '/' :: cs => (some .current, '/' :: cs)
  | cs => (none, cs)

def anchorText : Option Component → List Char
  | some .root => ['/']
  | some .current => ['.']
  | _ => []

/-- The components of a path. Repeated and trailing separators and inner `.` segments do not count,
a leading `.` does, and `..` is a component like any other. -/
def components (path : List Char) : List Component :=
  (anchored path).1.toList ++ (segments (anchored path).2).filterMap component?

/-- Drops the segments at the end that are no components. -/
def trimmedRight (ss : List (List Char)) : List (List Char) :=
  (ss.reverse.dropWhile fun s => (component? s).isNone).reverse

def trimmed (ss : List (List Char)) : List (List Char) :=
  trimmedRight (ss.dropWhile fun s => (component? s).isNone)

/-- What segments leave after the given components, if they start with them. -/
def stripSegments? : List Component → List (List Char) → Option (List (List Char))
  | [], ss => some (trimmed ss)
  | _ :: _, [] => none
  | c :: cs, s :: ss =>
    match component? s with
    | none => stripSegments? (c :: cs) ss
    | some d => if d = c then stripSegments? cs ss else none

/-- The part of a path after the components of `base`, if it starts with them. Inside, the text of
the path is kept; at its ends it loses what is no component. A base without components leaves the
anchor in place. -/
def strip? (base path : List Char) : Option (List Char) :=
  let (anchor, body) := anchored path
  match components base, anchor with
  | [], _ => some (anchorText anchor ++ joined (trimmedRight (segments body)))
  | b :: bs, some a =>
    if a = b then (stripSegments? bs (segments body)).map joined else none
  | bs, none => (stripSegments? bs (segments body)).map joined

/-- A path under a root. An absolute path stays as it is. -/
def under (root path : List Char) : List Char :=
  if path.head? = some '/' then path
  else match root.getLast? with
    | none => path
    | some '/' => root ++ path
    | some _ => root ++ '/' :: path

/-- What stands after the last dot of a name, unless that dot is its first character. -/
def extensionOfName? (name : List Char) : Option (List Char) :=
  let (after, before) := name.reverse.span (· ≠ '.')
  match before with
  | [] => none
  | [_] => none
  | _ :: _ :: _ => some after.reverse

def extension? (path : List Char) : Option (List Char) :=
  match (components path).getLast? with
  | some (.name s) => extensionOfName? s
  | _ => none

def contains (text : List Char) : List Char → Bool
  | [] => text.isEmpty
  | c :: cs => text.isPrefixOf (c :: cs) || contains text cs

def checkedMark : List Char := ".checked".toList

/-- Whether a path leads to a source that should get guards. -/
def isCandidate (path : List Char) : Bool :=
  extension? path == some "ts".toList && !contains checkedMark path

/-- Where the guarded form of a file goes: the same place under the output root as the file has
under the input root. -/
def output (file inputRoot outputRoot : List Char) : Except GuardError (List Char) :=
  match strip? inputRoot file with
  | none => .error (.outsideInputRoot (String.ofList file))
  | some rest => .ok (under outputRoot rest)

end TypeGuard.Path
