import Mathlib.Data.List.Induction
import TypeGuard.Log.Filter

namespace TypeGuard.Log

variable {d k b : Directive} {ds : List Directive}

namespace Directive

instance : Std.TransCmp order :=
  inferInstanceAs (Std.TransCmp (compareLex _ _))

/-- Nothing in a list of directives is closer than this one, and what follows it is less close. -/
def Closest (d : Directive) (ds : List Directive) : Prop :=
  ∃ front back, ds = front ++ d :: back ∧
    (∀ k ∈ front, (k.order d).isLE) ∧ ∀ k ∈ back, k.order d = .lt

namespace Closest

theorem bound (h : d.Closest ds) (hk : k ∈ ds) : (k.order d).isLE := by
  obtain ⟨front, back, rfl, hfront, hback⟩ := h
  rcases List.mem_append.1 hk with hk | hk
  · exact hfront k hk
  · rcases List.mem_cons.1 hk with rfl | hk
    · exact Std.ReflCmp.isLE_rfl
    · rw [hback k hk]
      rfl

end Closest

end Directive

end TypeGuard.Log
