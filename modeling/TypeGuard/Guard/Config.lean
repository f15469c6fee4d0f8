import TypeGuard.Guard.Error
import TypeGuard.Guard.Mode

namespace TypeGuard

/-- How guards react and how many of them a source may get. -/
structure Config where
  mode : Mode := .warning
  limit : Nat := 10000
deriving Repr, DecidableEq

namespace Config

def validate (c : Config) : Except GuardError Unit :=
  if c.limit = 0 then .error (.invalidConfig "max_patches_per_source cannot be 0") else .ok ()

def withMode (c : Config) (mode : Mode) : Config :=
  { c with mode }

/-- Settings of which some are open. -/
structure Draft where
  mode? : Option Mode := none
  limit? : Option Nat := none
deriving Repr, DecidableEq

def Draft.setMode (d : Draft) (mode : Mode) : Draft :=
  { d with mode? := some mode }

def Draft.setLimit (d : Draft) (limit : Nat) : Draft :=
  { d with limit? := some limit }

/-- Fills what is open with the defaults and validates the result. -/
def Draft.build (d : Draft) : Except GuardError Config :=
  let open_ : Config := {}
  let c : Config := ⟨d.mode?.getD open_.mode, d.limit?.getD open_.limit⟩
  c.validate.map fun _ => c

end Config

end TypeGuard
