import Mathlib.Data.List.Forall2
import TypeGuard.Proofs.Braces
import TypeGuard.Proofs.SourceOrder

namespace TypeGuard

namespace TypeScript

variable {src : List Char} {g : Rules src} {low high : Nat}

namespace MemberForm

variable {form : MemberForm src}

end MemberForm

namespace Member.Keeps

variable {m : Member src} {form : MemberForm src}

theorem function?_eq (h : m.Keeps form) : m.function? =
    form.routine?.bind fun r => form.name?.bind fun name => r.function? name := by
  rw [function?, h]
  cases form.routine? <;> rfl

end Member.Keeps

structure ClassForm (src : List Char) where
  name : String
  members : List (MemberForm src)

namespace ClassForm

/-- A class stands where its members stand one after another. -/
def Stands (g : Rules src) (low : Nat) (k : ClassForm src) (high : Nat) : Prop :=
  InTurn (MemberForm.Stands g) low k.members high

/-- What is kept of a class: its name, and of each member what is kept of its form. -/
def Keeps (c : String × List (Member src)) (k : ClassForm src) : Prop :=
  c.1 = k.name ∧ List.Forall₂ Member.Keeps c.2 k.members

end ClassForm

end TypeScript

open TypeScript

variable {source : List Char} {d : Declarations}

end TypeGuard
