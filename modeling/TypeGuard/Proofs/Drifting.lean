import Mathlib.Algebra.GroupWithZero.Nat
import Mathlib.Algebra.Order.BigOperators.Group.List
import Mathlib.Algebra.Order.Group.Nat
import Mathlib.Data.List.Induction
import Mathlib.Order.Monotone.Basic
import TypeGuard.Guard.Patch

namespace TypeGuard

variable {xs ys : List Insertion} {d : Drift}

theorem sizeSum_eq_sum (xs : List Insertion) :
    Insertion.sizeSum xs = (xs.map Insertion.size).sum := by
  induction xs with
  | nil => rfl
  | cons x xs ih => rw [Insertion.sizeSum, ih, List.map_cons, List.sum_cons]

theorem sizeSum_perm (h : xs.Perm ys) : Insertion.sizeSum xs = Insertion.sizeSum ys := by
  rw [sizeSum_eq_sum, sizeSum_eq_sum]
  exact (h.map Insertion.size).sum_eq

theorem sizeSum_le_of_sublist (h : xs.Sublist ys) :
    Insertion.sizeSum xs ≤ Insertion.sizeSum ys := by
  rw [sizeSum_eq_sum, sizeSum_eq_sum]
  exact (h.map Insertion.size).sum_le_sum fun _ _ => Nat.zero_le _

theorem sizeSum_filter_le {i j : Nat} (h : i ≤ j) :
    Insertion.sizeSum (xs.filter (·.offset ≤ i)) ≤
      Insertion.sizeSum (xs.filter (·.offset ≤ j)) := by
  apply sizeSum_le_of_sublist
  apply List.monotone_filter_right
  intro x hx
  simp only [decide_eq_true_eq] at hx ⊢
  exact Nat.le_trans hx h

theorem sizeSum_filter_succ (xs : List Insertion) (k : Nat) :
    Insertion.sizeSum (xs.filter (·.offset ≤ k + 1)) =
      Insertion.sizeSum (xs.filter (·.offset ≤ k)) +
        Insertion.sizeSum (xs.filter (·.offset = k + 1)) := by
  induction xs with
  | nil => rfl
  | cons x xs ih =>
    rcases Nat.lt_trichotomy x.offset (k + 1) with hlt | heq | hgt
    · have hle : x.offset ≤ k + 1 := Nat.le_of_lt hlt
      have hk : x.offset ≤ k := Nat.le_of_lt_succ hlt
      simp only [List.filter_cons, hle, hk, Nat.ne_of_lt hlt, decide_true, decide_false, ↓reduceIte,
        Bool.false_eq_true, Insertion.sizeSum, ih, Nat.add_assoc]
    · simp only [List.filter_cons, heq, Nat.le_refl, Nat.not_succ_le_self, decide_true,
        decide_false, ↓reduceIte, Bool.false_eq_true, Insertion.sizeSum, ih]
      omega
    · have hle : ¬ x.offset ≤ k + 1 := Nat.not_le_of_lt hgt
      have hk : ¬ x.offset ≤ k := fun h => hle (Nat.le_succ_of_le h)
      simp only [List.filter_cons, hle, hk, Nat.ne_of_gt hgt, decide_false, ↓reduceIte,
        Bool.false_eq_true, ih]

namespace Drift

@[simp] theorem drifted_register (d : Drift) (offset size k : Nat) :
    (d.register offset size).drifted k = d.drifted k + if offset ≤ k then size else 0 := by
  unfold register drifted
  by_cases h : offset ≤ k
  · simp only [List.filter_cons, h, decide_true, ↓reduceIte, Insertion.sizeSum]
    omega
  · simp only [List.filter_cons, h, decide_false, ↓reduceIte, Bool.false_eq_true, Nat.add_zero]

@[simp] theorem drifted_empty (k : Nat) : ({} : Drift).drifted k = k := rfl

@[simp] theorem total_register (d : Drift) (offset size : Nat) :
    (d.register offset size).total = d.total + size :=
  Nat.add_comm size _

theorem drifted_strictMono (d : Drift) : StrictMono d.drifted := by
  intro i j h
  exact Nat.add_lt_add_of_lt_of_le h (sizeSum_filter_le (Nat.le_of_lt h))

theorem drifted_le_iff (d : Drift) {i j : Nat} : d.drifted i ≤ d.drifted j ↔ i ≤ j :=
  d.drifted_strictMono.le_iff_le

theorem drifted_succ (d : Drift) (k : Nat) :
    d.drifted (k + 1) =
      d.drifted k + (1 + Insertion.sizeSum (d.insertions.filter (·.offset = k + 1))) := by
  rw [drifted, drifted, sizeSum_filter_succ]
  omega

theorem le_drifted (d : Drift) (k : Nat) : k ≤ d.drifted k :=
  Nat.le_add_right k _

theorem drifted_of_past {k : Nat} (h : ∀ i ∈ d.insertions, i.offset ≤ k) :
    d.drifted k = k + d.total := by
  have hall : d.insertions.filter (·.offset ≤ k) = d.insertions := by
    rw [List.filter_eq_self]
    intro i hi
    simpa using h i hi
  rw [drifted, hall, total]

theorem drifted_le (d : Drift) (k : Nat) : d.drifted k ≤ k + d.total :=
  Nat.add_le_add_left (sizeSum_le_of_sublist List.filter_sublist) k

def ofInsertions (xs : List Insertion) : Drift :=
  xs.foldl (fun d i => d.register i.offset i.size) {}

theorem insertions_ofInsertions (xs : List Insertion) :
    (ofInsertions xs).insertions = xs.reverse := by
  induction xs using List.reverseRecOn with
  | nil => rfl
  | append_singleton xs x ih =>
    rw [List.reverse_concat, ← ih]
    simp only [ofInsertions, List.foldl_append, List.foldl_cons, List.foldl_nil, register]

theorem insertions_ofInsertions_perm (xs : List Insertion) :
    (ofInsertions xs).insertions.Perm xs := by
  rw [insertions_ofInsertions]
  exact List.reverse_perm xs

theorem drifted_of_perm {d' : Drift} (h : d.insertions.Perm d'.insertions) :
    d.drifted = d'.drifted := by
  funext k
  rw [drifted, drifted, sizeSum_perm (h.filter _)]

/-- After any sequence of insertions, in any order of their offsets, moved offsets keep their order;
from one offset to the next there is room for one byte and what was inserted in front of the second;
an offset moves by no more than all insertions, and by all of them from the last one on; and the
order of the insertions makes no difference. -/
theorem drifted_ofInsertions (xs : List Insertion) :
    StrictMono (ofInsertions xs).drifted ∧
    (∀ k, (ofInsertions xs).drifted (k + 1) = (ofInsertions xs).drifted k +
      (1 + ((xs.filter (·.offset = k + 1)).map Insertion.size).sum)) ∧
    (∀ k, k ≤ (ofInsertions xs).drifted k ∧
      (ofInsertions xs).drifted k ≤ k + (ofInsertions xs).total) ∧
    (∀ k, (∀ i ∈ xs, i.offset ≤ k) →
      (ofInsertions xs).drifted k = k + (ofInsertions xs).total) ∧
    ∀ ys, xs.Perm ys →
      (ofInsertions xs).drifted = (ofInsertions ys).drifted ∧
        (ofInsertions xs).total = (ofInsertions ys).total := by
  have hxs := insertions_ofInsertions_perm xs
  refine ⟨drifted_strictMono _, fun k => ?gap, fun k => ⟨le_drifted _ k, drifted_le _ k⟩,
    fun k h => ?past, fun ys h => ?order⟩
  case gap =>
    rw [drifted_succ, sizeSum_perm (hxs.filter _), sizeSum_eq_sum]
  case past =>
    apply drifted_of_past
    intro i hi
    exact h i (hxs.mem_iff.1 hi)
  case order =>
    have hys := hxs.trans (h.trans (insertions_ofInsertions_perm ys).symm)
    exact ⟨drifted_of_perm hys, sizeSum_perm hys⟩

/-- Two insertions at one offset, one without bytes and one at the start, in two orders. -/
theorem drifted_ofInsertions_shared :
    (ofInsertions [⟨3, 4⟩, ⟨0, 1⟩, ⟨3, 2⟩, ⟨1, 0⟩]).drifted 3 = 3 + 7 ∧
      (ofInsertions [⟨3, 4⟩, ⟨0, 1⟩, ⟨3, 2⟩, ⟨1, 0⟩]).drifted =
        (ofInsertions [⟨0, 1⟩, ⟨3, 4⟩, ⟨3, 2⟩, ⟨1, 0⟩]).drifted := by
  obtain ⟨-, -, -, past, order⟩ := drifted_ofInsertions [⟨3, 4⟩, ⟨0, 1⟩, ⟨3, 2⟩, ⟨1, 0⟩]
  exact ⟨past 3 (by decide), (order _ (.swap _ _ _)).1⟩

end Drift

end TypeGuard
