import TypeGuard.TypeScript.Nesting
import TypeGuard.TypeScript.Scan.Number
import TypeGuard.TypeScript.Scan.Quoted
import TypeGuard.TypeScript.Scan.Trivia

namespace TypeGuard.TypeScript

/-- What a token is. -/
inductive Lexeme (src : List Char) where
  | symbol (s : Symbol)
  /-- A name or a keyword, escapes resolved. -/
  | word (name : String)
  /-- A name that begins with an escape, and is therefore never a keyword. -/
  | name (text : String)
  | number (value raw : String)
  | bigint (value raw : String)
  | string (value raw : String)
  | stop
  /-- Characters that are no token. -/
  | invalid (fault : Fault src)

namespace Lexeme

variable {src : List Char}

def shown : Lexeme src → String
  | symbol s => s.text
  | word text => nameOf text
  | name text => text
  | number value raw => "numeric literal (" ++ value ++ ", " ++ raw ++ ")"
  | bigint value raw => "bigint literal (" ++ value ++ ", " ++ raw ++ ")"
  | string value raw => "string literal (" ++ value ++ ", " ++ raw ++ ")"
  | stop => "<eof>"
  | invalid f => "<lexing error: " ++ f.cause.message ++ ">"

def kind : Lexeme src → TokenKind
  | symbol s => .symbol s
  | word text =>
    if text == "null" || text == "true" || text == "false" then .other
    else if isKeyword text then .keyword text
    else .name text
  | name text => .name text
  | _ => .other

def text? : Lexeme src → Option String
  | word text => some (nameOf text)
  | name text => some text
  | _ => none

end Lexeme

def beginsWord (cs : List Char) : Bool :=
  cs.head?.any fun x => Text.isIdentifierStart x || x == '\\'

def nameAt? (cs : List Char) : Option String :=
  if beginsWord cs then
    match (Scan.word cs).value with
    | .error _ => none
    | .ok w =>
      if cs.head? == some '\\' then some (String.ofList w.name)
      else some (nameOf (String.ofList w.name))
  else none

theorem nameAt?_of_word {cs : List Char} {w : Scan.Word} (hbegins : beginsWord cs)
    (hw : (Scan.word cs).value = .ok w) :
    nameAt? cs = if cs.head? == some '\\' then some (String.ofList w.name)
      else some (nameOf (String.ofList w.name)) := by
  rw [nameAt?, if_pos hbegins, hw]

structure Token (src : List Char) where
  /-- Where the token is said to start: markup comments in front of it belong to it. -/
  start : Cursor src
  /-- Where its characters begin. -/
  place : Cursor src
  stop : Cursor src
  lexeme : Lexeme src
  /-- Whether a line ends between this token and the one before it; the end of the text counts as
  the start of a line. -/
  startsLine : Bool
  start_le_place : start.offset ≤ place.offset
  place_le_stop : place.offset ≤ stop.offset
  /-- Only a markup comment or a marker makes a token start in front of its characters. -/
  sign : start.offset < place.offset → Scan.isLineSign start.rest
  brace : lexeme = .symbol .braceOpen →
    place.rest.head? = some '\x7b' ∧ place.offset < stop.offset
  /-- A name stands where it is said to stand, as far as it goes. -/
  spelled : ∀ name ∈ lexeme.text?,
    nameAt? place.rest = some name ∧ stop = place.advance (Scan.word place.rest).length
  escape : ∀ text, lexeme = .name text → place.rest.head? = some '\\'

namespace Token

variable {src : List Char}

/-- A remark of a scanner as a fault of the source. -/
def faultAt (c : Cursor src) (r : Scan.Remark) : Fault src :=
  { place := c.advance r.place, cause := r.cause }

/-- What begins at a place: a lexeme, its length, and errors in it that do not stop the parser. -/
structure Reading (c : Cursor src) where
  lexeme : Lexeme src
  length : Nat
  remarks : List Scan.Remark := []
  brace : lexeme = .symbol .braceOpen →
    c.rest.head? = some '\x7b' ∧ c.offset < (c.advance length).offset
  spelled : ∀ name ∈ lexeme.text?,
    nameAt? c.rest = some name ∧ length = (Scan.word c.rest).length
  escape : ∀ text, lexeme = .name text → c.rest.head? = some '\\'

namespace Reading

variable {c : Cursor src}

def plain (length : Nat) (remarks : List Scan.Remark) (lexeme : Lexeme src)
    (h : ∀ s, lexeme ≠ .symbol s) (htext : lexeme.text? = none := by rfl) : Reading c where
  lexeme := lexeme
  length := length
  remarks := remarks
  brace := fun he => absurd he (h _)
  spelled := by simp [htext]
  escape := by
    rintro text rfl
    cases htext

def named (lexeme : Lexeme src) (h : ∀ s, lexeme ≠ .symbol s)
    (htext : nameAt? c.rest = lexeme.text?)
    (hescape : ∀ text, lexeme = .name text → c.rest.head? = some '\\') : Reading c where
  lexeme := lexeme
  length := (Scan.word c.rest).length
  remarks := (Scan.word c.rest).remarks
  brace := fun he => absurd he (h _)
  spelled := fun _ hname => ⟨htext.trans hname, rfl⟩
  escape := hescape

def bad (length : Nat) (remarks : List Scan.Remark) (r : Scan.Remark) : Reading c :=
  plain length remarks (.invalid (faultAt c r)) (by simp)

def symbol (s : Symbol) (h : c.rest.head? = s.chars.head?) : Reading c where
  lexeme := .symbol s
  length := s.chars.length
  brace := by
    intro he
    cases he
    exact ⟨h, Cursor.offset_lt_advance_one h⟩
  spelled := nofun
  escape := nofun

end Reading

/-- Inside a type an angle bracket is a token by itself, whatever follows it. -/
def angle? (single : Bool) (c : Cursor src) :
    Option { s : Symbol // c.rest.head? = s.chars.head? } :=
  if !single then none
  else if h : c.rest.head? = some '<' then some ⟨.less, h⟩
  else if h : c.rest.head? = some '>' then some ⟨.greater, h⟩
  else none

def symbolAt? (single : Bool) (c : Cursor src) :
    Option { s : Symbol // c.rest.head? = s.chars.head? } :=
  match angle? single c with
  | some s => some s
  | none =>
    match h : Symbol.longest? c.rest with
    | some s => some ⟨s, Symbol.head?_of_longest? h⟩
    | none => none

/-- The name or keyword at a place. A word that cannot be a name there must not contain escapes. -/
def readWord (context : Context) (c : Cursor src) (hbegins : beginsWord c.rest) : Reading c :=
  let w := Scan.word c.rest
  match hw : w.value with
  | .error r => .bad w.length w.remarks r
  | .ok word =>
    let name := String.ofList word.name
    if hescape : c.rest.head? == some '\\' then
      .named (.name name) (by simp) (by rw [nameAt?_of_word hbegins hw, if_pos hescape]; rfl)
        fun _ _ => beq_iff_eq.1 hescape
    else if word.escaped && context.reserves name then
      .bad w.length w.remarks ⟨0, .escapedKeyword (nameOf name)⟩
    else .named (.word name) (by simp) (by rw [nameAt?_of_word hbegins hw, if_neg hescape]; rfl)
      nofun

def readNumber (c : Cursor src) : Reading c :=
  let n := Scan.number c.rest
  let raw := String.ofList (c.rest.take n.length)
  match n.value with
  | .error r => .bad n.length n.remarks r
  | .ok number =>
    if number.big then .plain n.length n.remarks (.bigint number.text raw) (by simp)
    else .plain n.length n.remarks (.number number.text raw) (by simp)

/-- The string at a place, which begins with `quote`. A string that is not closed is shown with the
line break that ends it. -/
def readString (c : Cursor src) (quote : Char) : Reading c :=
  let s := Scan.string quote (c.rest.drop 1)
  match s.value with
  | .error r => .bad s.length s.remarks r
  | .ok text =>
    let raw := c.rest.take (if text.closed then s.length else s.length + 1)
    .plain s.length s.remarks (.string (String.ofList text.value) (String.ofList raw)) (by simp)

def readAt (context : Context) (c : Cursor src) : Reading c :=
  match hrest : c.rest with
  | [] => .plain 0 [] .stop (by simp)
  | x :: xs =>
    if hx : Text.isIdentifierStart x || x == '\\' then
      readWord context c (by simpa [beginsWord, hrest] using hx)
    else if x.isDigit || (x == '.' && xs.head?.any Char.isDigit) then readNumber c
    else if x == '"' || x == '\x27' then readString c x
    else
      match symbolAt? context.singleAngles c with
      | some s => .symbol s.val s.property
      | none => .bad 1 [] ⟨0, .unexpectedCharacter x⟩

/-- The token that begins `n` characters after a place. -/
def ofReading (start : Cursor src) (n : Nat) (startsLine : Bool)
    (r : Reading (start.advance n))
    (sign : start.offset < (start.advance n).offset → Scan.isLineSign start.rest) :
    Token src where
  start := start
  place := start.advance n
  stop := (start.advance n).advance r.length
  lexeme := r.lexeme
  startsLine := startsLine || r.lexeme matches .stop
  start_le_place := start.offset_le_advance n
  place_le_stop := Cursor.offset_le_advance _ _
  sign := sign
  brace := r.brace
  spelled := fun name hname =>
    ⟨(r.spelled name hname).1, congrArg _ (r.spelled name hname).2⟩
  escape := r.escape

end Token

/-- What a scan from a place finds: a token, or a null character and the place after it. -/
inductive Scanned {src : List Char} (c : Cursor src) where
  | token (t : Token src) (after : c.offset ≤ t.start.offset)
  | gap (stop : Cursor src) (after : c.offset ≤ stop.offset)

namespace Token

variable {src : List Char}

/-- What stands in front of a token is passed over, up to the first sign of a line in it. -/
theorem sign_of_trivia {c : Cursor src} {t : Scan.Trivia} (ht : t.Signed c.rest)
    (hfault : t.fault = none) :
    (c.advance (t.first?.getD t.length)).offset <
        ((c.advance (t.first?.getD t.length)).advance (t.length - t.first?.getD t.length)).offset →
      Scan.isLineSign (c.advance (t.first?.getD t.length)).rest := by
  intro hlt
  cases hr : t.remarks with
  | nil => simp [Scan.Trivia.first?, hr, Cursor.advance] at hlt
  | cons r rs =>
    have hsign := ht hfault r (by simp [hr])
    simpa [Scan.Trivia.first?, hr, Cursor.advance] using hsign

/-- Scans from a place. Besides what it finds, the result has the errors in it and in front of it
that do not stop the parser; `startsLine` says whether the place begins a line. -/
def scan (context : Context) (startsLine : Bool) (c : Cursor src) :
    Scanned c × List (Fault src) :=
  let t := Scan.trivia context.singleAngles startsLine c.rest
  let faults := t.remarks.map (faultAt c)
  match hfault : t.fault with
  | some r =>
    let token := ofReading (c.advance r.place) 0 t.breaks
      (.bad (t.length - r.place) [] ⟨0, r.cause⟩) fun h => absurd h (Nat.lt_irrefl _)
    (.token token (c.offset_le_advance r.place), faults)
  | none =>
    if (c.rest.drop t.length).head? == some '\x00' then
      (.gap (c.advance (t.length + 1)) (c.offset_le_advance _), faults)
    else
      let first := t.first?.getD t.length
      let reading := readAt context ((c.advance first).advance (t.length - first))
      (.token (ofReading (c.advance first) (t.length - first) t.breaks reading
            (sign_of_trivia (Scan.signed_trivia _ _ _) hfault))
          (c.offset_le_advance first),
        faults ++ reading.remarks.map (faultAt ((c.advance first).advance (t.length - first))))

/-- The end of the text, wherever it is taken to be. -/
def endAt (c : Cursor src) : Token src where
  start := c
  place := c
  stop := c
  lexeme := .stop
  startsLine := true
  start_le_place := Nat.le_refl _
  place_le_stop := Nat.le_refl _
  sign := fun h => absurd h (Nat.lt_irrefl _)
  brace := by simp
  spelled := nofun
  escape := nofun

/-- The opening angle bracket one character into a token. -/
def innerAngle (t : Token src) : Token src where
  start := t.place.advance 1
  place := t.place.advance 1
  stop := (t.place.advance 1).advance 1
  lexeme := .symbol .less
  startsLine := false
  start_le_place := Nat.le_refl _
  place_le_stop := Cursor.offset_le_advance _ _
  sign := fun h => absurd h (Nat.lt_irrefl _)
  brace := by simp
  spelled := nofun
  escape := nofun

def isSymbol (t : Token src) (s : Symbol) : Bool :=
  match t.lexeme with
  | .symbol s' => s' == s
  | _ => false

def isWord (t : Token src) (name : String) : Bool :=
  match t.lexeme with
  | .word name' => name' == name
  | _ => false

def isAnyWord (t : Token src) : Bool :=
  match t.lexeme with
  | .word _ | .name _ => true
  | _ => false

def isString (t : Token src) : Bool :=
  t.lexeme matches .string _ _

/-- Whether a token is a number, but not a big integer. -/
def isNumber (t : Token src) : Bool :=
  t.lexeme matches .number _ _

def isStop (t : Token src) : Bool :=
  t.lexeme matches .stop

def symbol? (t : Token src) : Option Symbol :=
  match t.lexeme with
  | .symbol s => some s
  | _ => none

def text? (t : Token src) : Option String :=
  t.lexeme.text?

/-- Whether a token is an operator between two operands. -/
def isOperator (t : Token src) : Bool :=
  (t.symbol?.bind Symbol.precedence?).isSome

end Token

end TypeGuard.TypeScript
