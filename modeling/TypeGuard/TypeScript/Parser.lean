import TypeGuard.TypeScript.State

namespace TypeGuard.TypeScript

/-- How a parser ends: with a value or with an error, and in both cases in some state. -/
inductive Outcome (src : List Char) (α : Type) where
  | value (a : α) (s : State src)
  | failure (f : Fault src) (s : State src)

def Outcome.state {src : List Char} {α : Type} : Outcome src α → State src
  | value _ s => s
  | failure _ s => s

/-- A parser that never goes back. -/
structure Parser (src : List Char) (α : Type) where
  run : State src → Outcome src α
  advances : ∀ s, s.position ≤ (run s).state.position

namespace Parser

variable {src : List Char} {α β : Type}

/-- Runs one parser after another, if the first one succeeds. -/
@[inline] def andThen (p : Parser src α) (f : α → Parser src β) : Parser src β where
  run s :=
    match p.run s with
    | .value a s' => (f a).run s'
    | .failure e s' => .failure e s'
  advances s := by
    have h := p.advances s
    split
    · next a s' he =>
      rw [he] at h
      exact Nat.le_trans h ((f a).advances s')
    · next e s' he =>
      rw [he] at h
      exact h

instance : Monad (Parser src) where
  pure a := ⟨fun s => .value a s, fun _ => Nat.le_refl _⟩
  bind := andThen

/-- A parser that changes the state without reading. -/
@[inline] def still (f : State src → α × State src) (h : ∀ s, (f s).2.position = s.position) :
    Parser src α where
  run s := .value (f s).1 (f s).2
  advances s := Nat.le_of_eq (h s).symm

def get : Parser src (State src) :=
  still (fun s => (s, s)) fun _ => rfl

def next : Parser src (Token src) :=
  still (fun s => (s.look.token, s.look)) fun s => s.position_look

/-- The token after the next one. -/
def afterNext : Parser src (Token src) :=
  still (fun s => (s.peek.second, s.peek)) fun s => s.position_peek

def bump : Parser src Unit where
  run s := .value () s.bump
  advances s := s.position_le_bump

def skip (f : Fault src) : Parser src Unit where
  run s := .value () (s.skip f)
  advances s := s.position_le_skip f

/-- Reads `n` characters from the place of the next token. -/
def jump (k n : Nat) (change : Nesting → Nesting) : Parser src Unit where
  run s := .value () (s.look.jump k n (change s.look.nesting))
  advances s := by
    have := s.look.position_le_jump k n (change s.look.nesting)
    rwa [s.position_look] at this

/-- Drops the first half of a doubled angle bracket, which comes next. -/
def halve : Parser src Unit :=
  still (fun s => ((), s.look.halve)) fun s => s.position_look

def spoil (f : Fault src) : Parser src Unit :=
  still (fun s => ((), s.look.spoil f)) fun s => s.position_look

def add (f : Fault src) : Parser src Unit :=
  still (fun s => ((), s.report f)) fun s => s.position_report _

def throw (f : Fault src) : Parser src α :=
  ⟨fun s => .failure f s, fun _ => Nat.le_refl _⟩

/-- Reports an error and goes on. Outside of trials, characters that are no token are reported
first, if they come next, and passed over. -/
def reportFault (fault : Fault src) : Parser src Unit := do
  if (← get).context.trial then return ()
  match (← next).lexeme with
  | .invalid f =>
    add f
    skip f
  | _ => pure ()
  add fault

def report (place : Cursor src) (cause : Cause) : Parser src Unit :=
  reportFault { place, cause }

/-- Reports an error that only strict code knows and goes on. -/
def reportStrict (place : Cursor src) (cause : Cause) : Parser src Unit :=
  add { place, cause }

/-- Fails if characters that are no token come next, and passes over them. -/
def checkNext : Parser src Unit := do
  match (← next).lexeme with
  | .invalid f =>
    skip f
    throw f
  | _ => return ()

/-- Fails with an error. Characters that are no token are the greater evil: if they come next, the
error is theirs. -/
def failWith (fault : Fault src) : Parser src α := do
  checkNext
  throw fault

def failAt (place : Cursor src) (cause : Cause) : Parser src α :=
  failWith { place, cause }

/-- Place of the next token, for errors; nothing is looked at. -/
def spot : Parser src (Cursor src) :=
  return (← get).spot

/-- Place of the next token, for constructs that begin here. -/
def here : Parser src (Cursor src) := do
  let _ ← next
  return (← get).here

def fail (cause : Cause) : Parser src α := do
  failAt (← spot) cause

/-- Fails because none of the things that may stand here does. -/
def unexpected (wanted : String) : Parser src α := do
  fail (.unexpected (← next).lexeme.shown wanted)

def require : Parser src (Token src) := do
  checkNext
  let t ← next
  if t.isStop then throw { place := (← get).lastStop, cause := .unexpectedEnd }
  else return t

/-- Runs a parser under other surroundings. -/
@[inline] def within (change : Context → Context) (p : Parser src α) : Parser src α where
  run s :=
    match p.run (s.setContext (change s.context)) with
    | .value a s' => .value a (s'.setContext s.context)
    | .failure e s' => .failure e (s'.setContext s.context)
  advances s := by
    have h := p.advances (s.setContext (change s.context))
    rw [State.position_setContext] at h
    split
    · next a s' he =>
      rw [he] at h
      exact h
    · next e s' he =>
      rw [he] at h
      exact h

/-- Changes something that is neither a place nor a token. -/
def modifyContext (change : Context → Context) : Parser src Unit :=
  still (fun s => ((), s.setContext (change s.context))) fun s => s.position_setContext _

/-- Tries a parser without reporting errors, except for a few that every scan of a token reports;
if it fails or declines, nothing else has happened. -/
@[inline] def attempt (p : Parser src (Option α)) : Parser src (Option α) where
  run s :=
    match p.run (s.setContext { s.context with trial := true }) with
    | .value (some a) s' =>
      .value (some a) (s'.setContext { s'.context with trial := s.context.trial })
    | .value none s' => .value none { s with reported := s'.reported }
    | .failure _ s' => .value none { s with reported := s'.reported }
  advances s := by
    have h := p.advances (s.setContext { s.context with trial := true })
    rw [State.position_setContext] at h
    split
    · next a s' he =>
      rw [he] at h
      exact h
    · exact Nat.le_refl _
    · exact Nat.le_refl _

/-- Looks ahead with a parser; a failure is passed on, and nothing has been read. -/
@[inline] def lookahead (p : Parser src α) : Parser src α where
  run s :=
    match p.run (s.setContext { s.context with trial := true }) with
    | .value a s' => .value a { s with reported := s'.reported }
    | .failure e s' => .failure e { s with reported := s'.reported }
  advances s := by
    split <;> exact Nat.le_refl _

/-- Runs a parser and goes on from where it failed, if it does. -/
@[inline] def recover (p : Parser src α) (handle : Fault src → Parser src α) : Parser src α where
  run s :=
    match p.run s with
    | .value a s' => .value a s'
    | .failure e s' => (handle e).run s'
  advances s := by
    have h := p.advances s
    split
    · next a s' he =>
      rw [he] at h
      exact h
    · next e s' he =>
      rw [he] at h
      exact Nat.le_trans h ((handle e).advances s')

/-- One round of a loop: go on with a new value or leave with a result. -/
inductive Round (α β : Type) where
  | again (a : α)
  | done (b : β)

def rounds (round : α → Parser src (Round α β)) : Nat → α → State src → Outcome src β
  | 0, _, s => .failure { place := s.lastStop, cause := .nestingLimit } s
  | n + 1, a, s =>
    match (round a).run s with
    | .value (.again a') s' => rounds round n a' s'
    | .value (.done b) s' => .value b s'
    | .failure e s' => .failure e s'

theorem rounds_advances (round : α → Parser src (Round α β)) (n : Nat) (a : α) (s : State src) :
    s.position ≤ (rounds round n a s).state.position := by
  induction n generalizing a s with
  | zero => exact Nat.le_refl _
  | succ n ih =>
    have h := (round a).advances s
    unfold rounds
    split
    · next a' s' he =>
      rw [he] at h
      exact Nat.le_trans h (ih a' s')
    · next b s' he =>
      rw [he] at h
      exact h
    · next e s' he =>
      rw [he] at h
      exact h

/-- Repeats a round until it is done. Each round of a grammar reads a token, so the bound is never
reached. -/
def loop (a : α) (round : α → Parser src (Round α β)) : Parser src β where
  run s := rounds round s.bound a s
  advances s := rounds_advances round _ a s

/-- Runs a parser with no labels in sight and no arrow function under way. -/
@[inline] def unlabelled (p : Parser src α) : Parser src α where
  run s :=
    match p.run { s with labels := [], arrowStart := none } with
    | .value a s' => .value a { s' with labels := s.labels, arrowStart := s.arrowStart }
    | .failure e s' => .failure e { s' with labels := s.labels, arrowStart := s.arrowStart }
  advances s := by
    have h := p.advances { s with labels := [], arrowStart := none }
    split
    · next a s' he =>
      rw [he] at h
      exact h
    · next e s' he =>
      rw [he] at h
      exact h

def setArrowStart (place : Option Nat) : Parser src Unit :=
  still (fun s => ((), { s with arrowStart := place })) fun _ => rfl

def noOperand : Parser src Unit :=
  still (fun s => ((), s.setNesting { s.nesting with operandNext := false })) fun _ => rfl

/-- Runs a parser that sees nothing around it. -/
@[inline] def isolated (p : Parser src α) : Parser src α where
  run s :=
    match p.run (s.setNesting s.nesting.outermost) with
    | .value a s' => .value a (s'.setNesting { s'.nesting with levels := s.nesting.levels })
    | .failure e s' => .failure e (s'.setNesting { s'.nesting with levels := s.nesting.levels })
  advances s := by
    have h := p.advances (s.setNesting s.nesting.outermost)
    rw [State.position_setNesting] at h
    split
    · next a s' he =>
      rw [he] at h
      exact h
    · next e s' he =>
      rw [he] at h
      exact h

def modifyLabels (f : List String → List String) : Parser src Unit :=
  still (fun s => ((), { s with labels := f s.labels })) fun _ => rfl

def is (s : Symbol) : Parser src Bool :=
  return (← next).isSymbol s

/-- Whether the next token is one of several symbols, tried one after the other. -/
def isOneOf : List Symbol → Parser src Bool
  | [] => return false
  | s :: ss => do if ← is s then return true else isOneOf ss

def isWord (name : String) : Parser src Bool :=
  return (← next).isWord name

def isOneOfWords : List String → Parser src Bool
  | [] => return false
  | name :: names => do if ← isWord name then return true else isOneOfWords names

def atStop : Parser src Bool :=
  return (← next).isStop

/-- Whether the text ends here; characters that are no token are an error. -/
def atEnd : Parser src Bool := do
  checkNext
  atStop

def startsLine : Parser src Bool :=
  return (← next).startsLine

def peekIs (s : Symbol) : Parser src Bool :=
  return (← afterNext).isSymbol s

def peekIsWord (name : String) : Parser src Bool :=
  return (← afterNext).isWord name

def peekIsWordOnLine (name : String) : Parser src Bool := do
  let t ← afterNext
  return t.isWord name && !t.startsLine

/-- Whether a binary operator comes next, other than the ones that are words. -/
def atOperator : Parser src Bool :=
  return (← next).isOperator

def eat (s : Symbol) : Parser src Bool := do
  if (← next).isSymbol s then
    bump
    return true
  else return false

def eatWord (name : String) : Parser src Bool := do
  if (← next).isWord name then
    bump
    return true
  else return false

/-- Reads a symbol, which has to come next. -/
def expect (s : Symbol) : Parser src Unit := do
  if (← eat s) then return ()
  else fail (.expected s.text (← next).lexeme.shown)

def expectWord (name : String) : Parser src Unit := do
  if (← eatWord name) then return ()
  else fail (.expected name (← next).lexeme.shown)

/-- Whether a statement may end here: at a semicolon, at a closing brace, at the end of the text or
of a line. -/
def atSemicolon : Parser src Bool := do
  let t ← next
  return t.isSymbol .semicolon || t.isSymbol .braceClose || t.isStop || t.startsLine

def eatSemicolon : Parser src Bool := do
  let t ← next
  if t.isSymbol .semicolon then
    bump
    return true
  else return t.isSymbol .braceClose || t.isStop || t.startsLine

def semicolon : Parser src Unit := do
  if (← eatSemicolon) then return ()
  else fail (.expected ";" (← next).lexeme.shown)

end Parser

end TypeGuard.TypeScript
