import TypeGuard.Guard.Service

namespace TypeGuard

open Log (Recorded)

/-- A buffer that is worked on, with the declarations that were found or given last. Inserting into
the buffer does not move them. -/
structure Session where
  config : Config
  buffer : List UInt8
  remembered : Declarations := {}
deriving Repr, DecidableEq

namespace Session

inductive Step where
  /-- Finds the declarations of the buffer and remembers them. -/
  | extract
  | declare (d : Declarations)
  | collect
  /-- Inserts the guards of the remembered declarations. -/
  | guard
  /-- Inserts the guards of the declarations that the buffer has. -/
  | guardTypeScript
  | insert (patches : List Patch)
  | replace (buffer : List UInt8)
deriving Repr, DecidableEq

inductive Answer where
  | declarations (d : Declarations)
  | patches (patches : List Patch)
  | guarded (g : Guarded)
  | buffer (bytes : List UInt8)
  | length (n : Nat)
deriving Repr, DecidableEq

inductive Failure where
  /-- The buffer should be read as text, but is none. -/
  | notText
  | guard (e : GuardError)
deriving Repr, DecidableEq

/-- An operation that makes its source the buffer. -/
def guarding (s : Session) (r : Recorded (Except GuardError Guarded)) :
    Session × Recorded (Except Failure Answer) :=
  match r.value with
  | .ok g => ({ s with buffer := g.bytes }, ⟨.ok (.guarded g), r.events⟩)
  | .error e => (s, ⟨.error (.guard e), r.events⟩)

/-- Performs an operation. One that fails changes nothing. -/
def perform (s : Session) : Step → Session × Recorded (Except Failure Answer)
  | .extract =>
    match Utf8.decode? s.buffer with
    | none => (s, ⟨.error .notText, []⟩)
    | some text =>
      let r := TypeGuard.extract text
      match r.value with
      | .ok d => ({ s with remembered := d }, ⟨.ok (.declarations d), r.events⟩)
      | .error e => (s, ⟨.error (.guard e), r.events⟩)
  | .declare d => ({ s with remembered := d }, ⟨.ok (.declarations d), []⟩)
  | .collect =>
    let r := s.config.collect s.remembered
    (s, ⟨.ok (.patches r.value), r.events⟩)
  | .guard => s.guarding (s.config.guardSource s.buffer s.remembered)
  | .guardTypeScript =>
    match Utf8.decode? s.buffer with
    | none => (s, ⟨.error .notText, []⟩)
    | some text => s.guarding (s.config.guardTypeScript text)
  | .insert patches =>
    match applyPatches s.buffer patches with
    | .ok bytes => ({ s with buffer := bytes }, ⟨.ok (.buffer bytes), []⟩)
    | .error e => (s, ⟨.error (.guard e), []⟩)
  | .replace bytes => ({ s with buffer := bytes }, ⟨.ok (.length bytes.length), []⟩)

end Session

end TypeGuard
