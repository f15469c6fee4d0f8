import TypeGuard.Guard.Config
import TypeGuard.Guard.Snippet
import TypeGuard.Log.Event
import TypeGuard.TypeScript.Extract

namespace TypeGuard

open Log (Event Recorded)

structure Guarded where
  bytes : List UInt8
  guards : Nat
  bytesInserted : Nat
deriving Repr, DecidableEq

def serviceTarget : String := "act_02_type_guards::application::service"

def readerTarget : String := "act_02_type_guards::adapters::swc_front"

def FunctionDecl.collected (mode : Mode) (f : FunctionDecl) : Event where
  level := .debug
  target := serviceTarget
  message := "Collected function guards"
  fields := [("function", .text f.name), ("guards", .number (f.patches mode).length)]

def ClassDecl.collected (mode : Mode) (c : ClassDecl) : Event where
  level := .debug
  target := serviceTarget
  message := "Collected class guards"
  fields := [("class", .text c.name), ("guards", .number (c.patches mode).length)]

def Declarations.counted (target message : String) (d : Declarations) : Event where
  level := .debug
  target := target
  message := message
  fields := [("functions", .number d.functions.length), ("classes", .number d.classes.length)]

/-- Records an error that did not stop the reading of a source. -/
def TypeScript.Fault.recovered {src : List Char} (f : TypeScript.Fault src) : Event where
  level := .warn
  target := readerTarget
  message := "Recovered from TypeScript syntax error"
  fields := [("offset", .number f.offset), ("message", .text f.cause.message)]

def TypeScript.Fault.toError {src : List Char} (f : TypeScript.Fault src) : GuardError :=
  .parse f.offset f.cause.message

/-- The least length in bytes that sources must not reach. -/
def sourceBound : Nat := 0xFFFFFFFF

/-- Finds the declarations of a source, and records the errors that did not stop the reading. -/
def extract (source : List Char) : Recorded (Except GuardError Declarations) :=
  if sourceBound ≤ Utf8.byteLength source then
    ⟨.error (.sourceTooLarge (Utf8.byteLength source)), []⟩
  else match TypeScript.read source with
    | .error fault => ⟨.error fault.toError, []⟩
    | .ok reading =>
      ⟨.ok reading.declarations,
        reading.faults.map TypeScript.Fault.recovered ++
          [reading.declarations.counted readerTarget "Extracted declarations"]⟩

namespace Config

/-- The patches for declarations: those of the functions first, then those of the classes. -/
def collect (c : Config) (d : Declarations) : Recorded (List Patch) where
  value := d.functions.flatMap (·.patches c.mode) ++ d.classes.flatMap (·.patches c.mode)
  events := d.functions.map (·.collected c.mode) ++ d.classes.map (·.collected c.mode)

def insert (c : Config) (source : List UInt8) (patches : List Patch) :
    Recorded (Except GuardError Guarded) :=
  if c.limit < patches.length then
    ⟨.error (.tooManyPatches patches.length c.limit),
      [{ level := .warn
         target := serviceTarget
         message := "Patch limit exceeded"
         fields := [("count", .number patches.length), ("max", .number c.limit)] }]⟩
  else match applyPatches source patches with
    | .error e => ⟨.error e, []⟩
    | .ok bytes =>
      let inserted := bytes.length - source.length
      ⟨.ok ⟨bytes, patches.length, inserted⟩,
        [{ level := .info
           target := serviceTarget
           message := "Guarded source"
           fields := [("mode", .text c.mode.name), ("guards", .number patches.length),
             ("bytes_inserted", .number inserted)] }]⟩

/-- Inserts the guards of declarations into a source. -/
def guardSource (c : Config) (source : List UInt8) (d : Declarations) :
    Recorded (Except GuardError Guarded) :=
  let collected := c.collect d
  (c.insert source collected.value).after collected.events

/-- Inserts the guards of all declarations that a source has. -/
def guardTypeScript (c : Config) (source : List Char) : Recorded (Except GuardError Guarded) :=
  let extracted := extract source
  match extracted.value with
  | .error e => ⟨.error e, extracted.events⟩
  | .ok d =>
    (c.guardSource (Utf8.encode source) d).after
      (extracted.events ++ [d.counted serviceTarget "Guarding parsed source"])

end Config

end TypeGuard
