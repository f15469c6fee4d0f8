import TypeGuard.TypeScript.Token

namespace TypeGuard.TypeScript

/-- Tokens follow each other in the source, from a place on, and end in front of another place. -/
def Follow {src : List Char} : Cursor src → List (Token src) → Cursor src → Prop
  | c, [], stop => c.offset ≤ stop.offset
  | c, t :: ts, stop => c.offset ≤ t.start.offset ∧ Follow t.stop ts stop

/-- The state of a parser of `src`. A token is scanned when it is first looked at, under the
surroundings of that moment, and keeps what it was found to be. -/
structure State (src : List Char) where
  context : Context := {}
  lastStart : Cursor src
  lastStop : Cursor src
  /-- Tokens that have been looked at but not read. -/
  ahead : List (Token src) := []
  /-- Whether the next token has been looked at since the last one was read. -/
  looked : Bool := false
  unread : Cursor src
  fresh : Bool := false
  nesting : Nesting := {}
  /-- Errors, the newest one first. -/
  reported : List (Fault src) := []
  labels : List String := []
  arrowStart : Option Nat := none
  /-- More rounds than any loop of a grammar over this source takes. -/
  bound : Nat
  ordered : Follow lastStop ahead unread

namespace State

variable {src : List Char}

def position (s : State src) : Nat :=
  s.lastStop.offset

/-- Adds an error, unless it comes from a trial. -/
def report (s : State src) (f : Fault src) : State src :=
  if s.context.trial then s else { s with reported := f :: s.reported }

/-- Errors together with those of a token that has just been scanned. -/
def noting (s : State src) (faults : List (Fault src)) : List (Fault src) :=
  (faults.filter fun f => s.context.keeps f.cause).reverse ++ s.reported

/-- The nesting after a token that has been scanned; the end of the text is none. -/
def nestingAfter (s : State src) (t : Token src) : Nesting :=
  if t.isStop then s.nesting else s.nesting.after t.lexeme.kind t.startsLine

theorem follow_append {c u v : Cursor src} {ts : List (Token src)} (h : Follow c ts u)
    (huv : u.offset ≤ v.offset) : Follow c ts v := by
  induction ts generalizing c with
  | nil => exact Nat.le_trans h huv
  | cons t ts ih => exact ⟨h.1, ih h.2⟩

theorem follow_concat {c u v : Cursor src} {ts : List (Token src)} {t : Token src}
    (h : Follow c ts u) (ht : u.offset ≤ t.start.offset) (hv : t.stop.offset ≤ v.offset) :
    Follow c (ts ++ [t]) v := by
  induction ts generalizing c with
  | nil => exact ⟨Nat.le_trans h ht, hv⟩
  | cons t' ts ih => exact ⟨h.1, ih h.2⟩

/-- Scans once more, and adds the token that is found to those that have been looked at. -/
def scan (s : State src) : State src :=
  match Token.scan s.context s.fresh s.unread with
  | (.token t after, faults) =>
    { s with
      ahead := s.ahead ++ [t]
      unread := t.stop
      fresh := false
      nesting := s.nestingAfter t
      reported := s.noting faults
      ordered := follow_concat s.ordered after (Nat.le_refl _) }
  | (.gap stop after, faults) =>
    { s with
      unread := stop
      fresh := false
      reported := s.noting faults
      ordered := follow_append s.ordered after }

def noteLook (s : State src) : State src :=
  if s.looked then s else { s with looked := true }

def look (s : State src) : State src :=
  match s.ahead with
  | [] => s.scan.noteLook
  | _ :: _ => s.noteLook

def peek (s : State src) : State src :=
  match s.look.ahead with
  | [] | [_] => s.look.scan
  | _ => s.look

def token (s : State src) : Token src :=
  match s.ahead with
  | t :: _ => t
  | [] => .endAt s.lastStop

def second (s : State src) : Token src :=
  match s.ahead with
  | _ :: t :: _ => t
  | _ => .endAt s.lastStop

def bump (s : State src) : State src :=
  let s := s.look
  match h : s.ahead with
  | t :: ts =>
    if t.isStop then s
    else
      { s with
        lastStart := t.start
        lastStop := t.stop
        ahead := ts
        looked := false
        ordered := by
          have ho := s.ordered
          rw [h] at ho
          exact ho.2 }
  | [] => s

/-- Passes over characters that are no token. An unclosed regular expression is found again
wherever one goes on reading. -/
def skip (s : State src) (f : Fault src) : State src :=
  if f.cause = .unclosedRegExp then s else s.bump

theorem lastStop_le_token_place (s : State src) : s.lastStop.offset ≤ s.token.place.offset := by
  have ho := s.ordered
  unfold token
  split
  · next t ts h =>
    rw [h] at ho
    exact Nat.le_trans ho.1 t.start_le_place
  · exact Nat.le_refl _

theorem lastStop_le_token_start (s : State src) : s.lastStop.offset ≤ s.token.start.offset := by
  have ho := s.ordered
  unfold token
  split
  · next t ts h =>
    rw [h] at ho
    exact ho.1
  · exact Nat.le_refl _

/-- Reads `n` characters from the place of the next token, whatever tokens they make up; an error
at the end of the text is then reported `k` characters after that place. -/
def jump (s : State src) (k n : Nat) (nesting : Nesting) : State src :=
  { s with
    lastStart := s.token.place.advance k
    lastStop := s.token.place.advance n
    ahead := []
    unread := s.token.place.advance n
    nesting
    ordered := Nat.le_refl _ }

/-- Takes a doubled angle bracket apart and drops the first half. -/
def halve (s : State src) : State src :=
  { s with
    ahead := [s.token.innerAngle]
    unread := s.token.innerAngle.stop
    ordered :=
      ⟨Nat.le_trans s.lastStop_le_token_place (s.token.place.offset_le_advance 1), Nat.le_refl _⟩ }

def spoil (s : State src) (f : Fault src) : State src :=
  { s with
    ahead := [{ s.token with
      lexeme := .invalid f
      brace := by simp
      spelled := nofun
      escape := nofun }]
    unread := s.token.stop
    ordered := ⟨s.lastStop_le_token_start, Nat.le_refl _⟩ }

def setContext (s : State src) (c : Context) : State src :=
  { s with context := c }

def setNesting (s : State src) (n : Nesting) : State src :=
  { s with nesting := n }

/-- The state in front of the first token, an interpreter line passed over. Three looks are taken
before the grammar asks for anything. -/
def initial (src : List Char) : State src :=
  let start := Cursor.start src
  let stop := start.advance (Scan.interpreterLine src)
  let s : State src :=
    { lastStart := start
      lastStop := stop
      unread := stop
      fresh := true
      bound := 2 * src.length + 4
      ordered := Nat.le_refl _ }
  s.look.look.look

@[simp] theorem position_report (s : State src) (f : Fault src) :
    (s.report f).position = s.position := by
  unfold report
  split <;> rfl

@[simp] theorem position_scan (s : State src) : s.scan.position = s.position := by
  unfold scan
  split <;> rfl

@[simp] theorem position_noteLook (s : State src) : s.noteLook.position = s.position := by
  unfold noteLook
  split <;> rfl

@[simp] theorem position_look (s : State src) : s.look.position = s.position := by
  unfold look
  split <;> simp

@[simp] theorem position_peek (s : State src) : s.peek.position = s.position := by
  unfold peek
  split <;> simp

@[simp] theorem position_setContext (s : State src) (c : Context) :
    (s.setContext c).position = s.position :=
  rfl

@[simp] theorem position_setNesting (s : State src) (n : Nesting) :
    (s.setNesting n).position = s.position :=
  rfl

theorem position_le_bump (s : State src) : s.position ≤ s.bump.position := by
  unfold bump
  dsimp only
  split
  · next t ts h =>
    split
    · exact Nat.le_of_eq s.position_look.symm
    · have ho := s.look.ordered
      rw [h] at ho
      rw [← s.position_look]
      exact Nat.le_trans ho.1 (Nat.le_trans t.start_le_place t.place_le_stop)
  · exact Nat.le_of_eq s.position_look.symm

theorem position_le_skip (s : State src) (f : Fault src) : s.position ≤ (s.skip f).position := by
  unfold skip
  split
  · exact Nat.le_refl _
  · exact s.position_le_bump

theorem position_le_jump (s : State src) (k n : Nat) (nesting : Nesting) :
    s.position ≤ (s.jump k n nesting).position :=
  Nat.le_trans s.lastStop_le_token_place (s.token.place.offset_le_advance n)

/-- Place that an error at the next token is reported at: if there is none, or none has been looked
at yet, the start of the last token. -/
def spot (s : State src) : Cursor src :=
  if s.looked && !s.token.isStop then s.token.start else s.lastStart

/-- Place where a construct at the next token begins: if there is none, the end of the last
token. -/
def here (s : State src) : Cursor src :=
  if s.token.isStop then s.lastStop else s.token.start

end State

end TypeGuard.TypeScript
