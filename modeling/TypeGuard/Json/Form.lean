import TypeGuard.Guard.Config
import TypeGuard.Guard.Declaration
import TypeGuard.Guard.Patch
import TypeGuard.Json.Schema
import TypeGuard.NamedValue

namespace TypeGuard

open Json (Schema Refusal)

/-- A type with a JSON form. -/
class HasForm (α : Type) where
  schema : Schema
  toJson : α → Json
  ofJson? : Json → Option α

namespace HasForm

def write {α : Type} [HasForm α] (a : α) : String :=
  String.ofList (toJson a).write

def read {α : Type} [HasForm α] (text : String) : Except Refusal α := do
  match ofJson? (← (schema α).read text) with
  | some a => return a
  | none => throw .unsuited

end HasForm

def wordBound : Nat := 0x10000000000000000

instance : HasForm NamedValue where
  schema := .record [("name", .text)]
  toJson v := .record [("name", .text v.name)]
  ofJson?
    | .record [(_, .text name)] => some ⟨name⟩
    | _ => none

instance : HasForm Mode where
  schema := .choice ["warning", "error", "fix"]
  toJson m := .text m.name
  ofJson?
    | .text s => Mode.ofName? s
    | _ => none

instance : HasForm Config where
  schema := .record [("patch_mode", HasForm.schema Mode),
    ("max_patches_per_source", .natural wordBound)]
  toJson c := .record [("patch_mode", HasForm.toJson c.mode),
    ("max_patches_per_source", .natural c.limit)]
  ofJson?
    | .record [(_, mode), (_, .natural limit)] => (HasForm.ofJson? mode).map (⟨·, limit⟩)
    | _ => none

namespace ParamType

/-- The name of a type in JSON. -/
def formName : ParamType → String
  | number => "Number"
  | string => "String"
  | unknown => "Unknown"

def ofFormName? (s : String) : Option ParamType :=
  if s == "Number" then some number
  else if s == "String" then some string
  else if s == "Unknown" then some unknown
  else none

end ParamType

instance : HasForm ParamType where
  schema := .choice ["Number", "String", "Unknown"]
  toJson t := .text t.formName
  ofJson?
    | .text s => ParamType.ofFormName? s
    | _ => none

instance : HasForm Param where
  schema := .record [("name", .text), ("param_type", HasForm.schema ParamType)]
  toJson p := .record [("name", .text p.name), ("param_type", HasForm.toJson p.type)]
  ofJson?
    | .record [(_, .text name), (_, type)] => (HasForm.ofJson? type).map (⟨name, ·⟩)
    | _ => none

instance : HasForm FunctionDecl where
  schema := .record [("name", .text), ("params", .list (HasForm.schema Param)),
    ("body_start", .natural wordBound)]
  toJson f := .record [("name", .text f.name), ("params", .list (f.params.map HasForm.toJson)),
    ("body_start", .natural f.bodyStart)]
  ofJson?
    | .record [(_, .text name), (_, .list params), (_, .natural bodyStart)] =>
      (params.mapM HasForm.ofJson?).map (⟨name, ·, bodyStart⟩)
    | _ => none

instance : HasForm ClassDecl where
  schema := .record [("name", .text), ("methods", .list (HasForm.schema FunctionDecl))]
  toJson c := .record [("name", .text c.name), ("methods", .list (c.methods.map HasForm.toJson))]
  ofJson?
    | .record [(_, .text name), (_, .list methods)] =>
      (methods.mapM HasForm.ofJson?).map (⟨name, ·⟩)
    | _ => none

def byteOfJson? : Json → Option UInt8
  | .natural n => if n < 256 then some n.toUInt8 else none
  | _ => none

instance : HasForm Patch where
  schema := .record [("byte_pos", .natural wordBound), ("bytes", .list (.natural 256))]
  toJson p := .record [("byte_pos", .natural p.offset),
    ("bytes", .list (p.bytes.map fun b => .natural b.toNat))]
  ofJson?
    | .record [(_, .natural offset), (_, .list bytes)] =>
      (bytes.mapM byteOfJson?).map (⟨offset, ·⟩)
    | _ => none

end TypeGuard
