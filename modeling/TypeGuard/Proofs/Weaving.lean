import Mathlib.Algebra.GroupWithZero.Nat
import Mathlib.Data.List.Basic
import Mathlib.Data.List.Induction
import TypeGuard.Proofs.Drifting

namespace TypeGuard

/-- A walk over a source that inserts bytes in front of each offset, the end included. -/
def weave (inserted : Nat → List UInt8) (source : List UInt8) : List UInt8 :=
  (List.range (source.length + 1)).flatMap fun i => inserted i ++ source[i]?.toList

/-- A walk over the part of a source that begins at an offset; what is inserted at the offset itself
is left out. -/
def trail (inserted : Nat → List UInt8) : Nat → List UInt8 → List UInt8
  | _, [] => []
  | i, x :: xs => x :: inserted (i + 1) ++ trail inserted (i + 1) xs

/-- The bytes that patches insert at an offset, in the order of the patches. -/
def bytesAt (patches : List Patch) (offset : Nat) : List UInt8 :=
  (patches.filter fun p => p.offset = offset).flatMap Patch.bytes

def Drift.after (patches : List Patch) : Drift :=
  patches.foldl (fun d p => d.register p.offset p.bytes.length) {}

variable {inserted inserted' : Nat → List UInt8} {source xs ys b : List UInt8}
  {patches : List Patch} {p : Patch}

@[simp] theorem Drift.after_nil : Drift.after [] = {} := rfl

@[simp] theorem Drift.after_concat (patches : List Patch) (p : Patch) :
    Drift.after (patches ++ [p]) = (Drift.after patches).register p.offset p.bytes.length := by
  simp only [Drift.after, List.foldl_append, List.foldl_cons, List.foldl_nil]

@[simp] theorem weave_nil : weave inserted [] = inserted 0 := by
  simp [weave]

theorem weave_concat (x : UInt8) :
    weave inserted (xs ++ [x]) = weave inserted xs ++ x :: inserted (xs.length + 1) := by
  have hcongr : ∀ i ∈ List.range xs.length,
      inserted i ++ (xs ++ [x])[i]?.toList = inserted i ++ xs[i]?.toList := by
    intro i hi
    rw [List.getElem?_append_left (List.mem_range.1 hi)]
  simp only [weave, List.length_append, List.length_cons, List.length_nil, Nat.zero_add,
    List.range_succ, List.flatMap_append, List.flatMap_congr hcongr]
  simp

theorem trail_append (i : Nat) :
    trail inserted i (xs ++ ys) = trail inserted i xs ++ trail inserted (i + xs.length) ys := by
  induction xs generalizing i with
  | nil => rfl
  | cons x xs ih =>
    simp only [List.cons_append, trail, ih, List.length_cons, List.append_assoc]
    rw [Nat.add_right_comm, Nat.add_assoc]

theorem trail_congr {i : Nat} (h : ∀ j, i < j → inserted j = inserted' j) :
    trail inserted i xs = trail inserted' i xs := by
  induction xs generalizing i with
  | nil => rfl
  | cons x xs ih =>
    rw [trail, trail, h (i + 1) (Nat.lt_succ_self i), ih fun j hj => h j (by omega)]

theorem weave_eq_trail : weave inserted xs = inserted 0 ++ trail inserted 0 xs := by
  induction xs using List.reverseRecOn with
  | nil => simp [trail]
  | append_singleton xs x ih =>
    rw [weave_concat, ih, trail_append]
    simp [trail]

theorem weave_append :
    weave inserted (xs ++ ys) = weave inserted xs ++ trail inserted xs.length ys := by
  rw [weave_eq_trail, weave_eq_trail, trail_append, Nat.zero_add, List.append_assoc]

theorem weave_congr (h : ∀ i, i ≤ xs.length → inserted i = inserted' i) :
    weave inserted xs = weave inserted' xs := by
  apply List.flatMap_congr
  intro i hi
  rw [h i (Nat.le_of_lt_succ (List.mem_range.1 hi))]

theorem weave_last (hlast : inserted' xs.length = inserted xs.length ++ b)
    (h : ∀ i, i < xs.length → inserted' i = inserted i) :
    weave inserted' xs = weave inserted xs ++ b := by
  cases xs using List.reverseRecOn with
  | nil => simpa using hlast
  | append_singleton ys x =>
    rw [List.length_append, List.length_singleton] at hlast h
    have hys : weave inserted' ys = weave inserted ys :=
      weave_congr fun i hi => h i (Nat.lt_succ_of_le hi)
    rw [weave_concat, weave_concat, hlast, hys]
    simp

@[simp] theorem bytesAt_nil (i : Nat) : bytesAt [] i = [] := rfl

@[simp] theorem weave_bytesAt_nil (xs : List UInt8) : weave (bytesAt []) xs = xs := by
  induction xs using List.reverseRecOn with
  | nil => rfl
  | append_singleton xs x ih => rw [weave_concat, ih, bytesAt_nil]

theorem bytesAt_concat_self (patches : List Patch) (p : Patch) :
    bytesAt (patches ++ [p]) p.offset = bytesAt patches p.offset ++ p.bytes := by
  simp [bytesAt]

theorem bytesAt_concat_of_ne {i : Nat} (h : p.offset ≠ i) :
    bytesAt (patches ++ [p]) i = bytesAt patches i := by
  simp [bytesAt, h]

theorem bytesAt_filter (patches : List Patch) :
    bytesAt (patches.filter fun p => !p.bytes.isEmpty) = bytesAt patches := by
  funext i
  induction patches with
  | nil => rfl
  | cons p ps ih =>
    simp only [bytesAt, List.filter_cons] at ih ⊢
    cases hb : p.bytes.isEmpty <;> by_cases hp : p.offset = i <;> simp_all

theorem weave_bytesAt_concat (h : p.offset ≤ xs.length) :
    weave (bytesAt (patches ++ [p])) xs = weave (bytesAt patches) (xs.take p.offset) ++ p.bytes ++
      trail (bytesAt patches) p.offset (xs.drop p.offset) := by
  have hlen : (xs.take p.offset).length = p.offset := by
    rw [List.length_take, Nat.min_eq_left h]
  conv_lhs => rw [← List.take_append_drop p.offset xs]
  rw [weave_append, hlen]
  congr 1
  · apply weave_last
    · rw [hlen, bytesAt_concat_self]
    · intro i hi
      exact bytesAt_concat_of_ne (by omega)
  · apply trail_congr
    intro j hj
    exact bytesAt_concat_of_ne (Nat.ne_of_lt hj)

theorem length_weave_bytesAt (patches : List Patch) (xs : List UInt8) :
    (weave (bytesAt patches) xs).length = (Drift.after patches).drifted xs.length := by
  induction patches using List.reverseRecOn generalizing xs with
  | nil => rw [weave_bytesAt_nil, Drift.after_nil, Drift.drifted_empty]
  | append_singleton ps p ih =>
    rw [Drift.after_concat, Drift.drifted_register]
    by_cases h : p.offset ≤ xs.length
    · have hxs := ih xs
      rw [← List.take_append_drop p.offset xs, weave_append, List.length_append,
        List.length_take, Nat.min_eq_left h, List.take_append_drop] at hxs
      rw [weave_bytesAt_concat h, if_pos h, ← hxs]
      simp only [List.length_append]
      omega
    · rw [if_neg h, Nat.add_zero, ← ih]
      apply congrArg List.length
      apply weave_congr
      intro i hi
      exact bytesAt_concat_of_ne (by omega)

theorem length_weave_of_le (h : ∀ p ∈ patches, p.offset ≤ xs.length) :
    (weave (bytesAt patches) xs).length =
      xs.length + (patches.map fun p => p.bytes.length).sum := by
  rw [length_weave_bytesAt]
  induction patches using List.reverseRecOn with
  | nil => simp
  | append_singleton ps p ih =>
    have hps := ih fun q hq => h q (by simp [hq])
    have hp : p.offset ≤ xs.length := h p (by simp)
    simp only [Drift.after_concat, Drift.drifted_register, hps, hp, ↓reduceIte, List.map_append,
      List.sum_append, List.map_cons, List.map_nil, List.sum_singleton]
    omega

/-- Where the next patch is spliced in, the walk has just passed everything inserted at its
offset. -/
theorem splice_weave (h : p.offset ≤ source.length) :
    Buffer.splice ⟨weave (bytesAt patches) source, Drift.after patches⟩ p =
      ⟨weave (bytesAt (patches ++ [p])) source, Drift.after (patches ++ [p])⟩ := by
  have hlen : (source.take p.offset).length = p.offset := by
    rw [List.length_take, Nat.min_eq_left h]
  have hat : (Drift.after patches).drifted p.offset =
      (weave (bytesAt patches) (source.take p.offset)).length := by
    rw [length_weave_bytesAt, hlen]
  have hsplit : weave (bytesAt patches) source = weave (bytesAt patches) (source.take p.offset) ++
      trail (bytesAt patches) p.offset (source.drop p.offset) := by
    conv_lhs => rw [← List.take_append_drop p.offset source]
    rw [weave_append, hlen]
  rw [Buffer.splice, Drift.after_concat, weave_bytesAt_concat h]
  simp only [hat]
  rw [hsplit, List.take_left, List.drop_left]

/-- After any number of patches the buffer is a walk over the source. -/
theorem foldl_splice (h : ∀ p ∈ patches, p.offset ≤ source.length) :
    patches.foldl Buffer.splice { bytes := source } =
      ⟨weave (bytesAt patches) source, Drift.after patches⟩ := by
  induction patches using List.reverseRecOn with
  | nil =>
    rw [weave_bytesAt_nil]
    rfl
  | append_singleton ps p ih =>
    have hps : ∀ q ∈ ps, q.offset ≤ source.length := fun q hq => h q (by simp [hq])
    rw [List.foldl_append, ih hps]
    exact splice_weave (h p (by simp))

theorem applyPatches_eq_loop (h : ∀ p ∈ patches, p.offset ≤ source.length) :
    applyPatches source patches =
      .ok ((patches.filter fun p => !p.bytes.isEmpty).foldl Buffer.splice
        { bytes := source }).bytes := by
  have hfind : (patches.find? fun p => source.length < p.offset) = none := by
    rw [List.find?_eq_none]
    intro p hp
    simpa using h p hp
  rw [applyPatches, hfind]

theorem applyPatches_of_le (h : ∀ p ∈ patches, p.offset ≤ source.length) :
    applyPatches source patches = .ok (weave (bytesAt patches) source) := by
  rw [applyPatches_eq_loop h, foldl_splice fun p hp => h p (List.mem_of_mem_filter hp),
    bytesAt_filter]

theorem applyPatches_of_first {before after : List Patch}
    (hbefore : ∀ q ∈ before, q.offset ≤ source.length) (hp : source.length < p.offset) :
    applyPatches source (before ++ p :: after) =
      .error (.offsetOutOfBounds p.offset source.length) := by
  have hfind : ((before ++ p :: after).find? fun q => source.length < q.offset) = some p := by
    rw [List.find?_eq_some_iff_append]
    refine ⟨by simpa using hp, before, after, rfl, ?_⟩
    intro q hq
    simpa using hbefore q hq
  rw [applyPatches, hfind]

theorem bounded_or_first (source : List UInt8) (patches : List Patch) :
    (∀ p ∈ patches, p.offset ≤ source.length) ∨
      ∃ before bad after, patches = before ++ bad :: after ∧
        (∀ p ∈ before, p.offset ≤ source.length) ∧ source.length < bad.offset := by
  induction patches with
  | nil => exact .inl (by simp)
  | cons p ps ih =>
    by_cases hp : p.offset ≤ source.length
    · rcases ih with h | ⟨before, bad, after, rfl, hbefore, hbad⟩
      · exact .inl (List.forall_mem_cons.2 ⟨hp, h⟩)
      · exact .inr ⟨p :: before, bad, after, rfl, List.forall_mem_cons.2 ⟨hp, hbefore⟩, hbad⟩
    · exact .inr ⟨[], p, ps, rfl, by simp, Nat.lt_of_not_le hp⟩

/-- Inserting patches fails exactly if one of them lies past the end of the source, and then names
the first such patch; otherwise it gives the walk over the source that inserts in front of each
offset the bytes of its patches in their order. -/
theorem applyPatches_one_pass (source : List UInt8) (patches : List Patch) :
    (∀ e, applyPatches source patches = .error e ↔
      ∃ before bad after, patches = before ++ bad :: after ∧
        (∀ p ∈ before, p.offset ≤ source.length) ∧ source.length < bad.offset ∧
        e = .offsetOutOfBounds bad.offset source.length) ∧
    (∀ bytes, applyPatches source patches = .ok bytes ↔
      (∀ p ∈ patches, p.offset ≤ source.length) ∧
        bytes = (List.range (source.length + 1)).flatMap fun i =>
          (patches.filter fun p => p.offset = i).flatMap Patch.bytes ++ source[i]?.toList) := by
  change _ ∧ ∀ bytes, _ ↔ _ ∧ bytes = weave (bytesAt patches) source
  rcases bounded_or_first source patches with h | ⟨before, bad, after, rfl, hbefore, hbad⟩
  · rw [applyPatches_of_le h]
    refine ⟨fun e => ⟨nofun, ?_⟩, fun bytes => ⟨?_, ?_⟩⟩
    · rintro ⟨before, bad, after, rfl, -, hbad, -⟩
      exact absurd (h bad (by simp)) (Nat.not_le_of_lt hbad)
    · intro he
      cases he
      exact ⟨h, rfl⟩
    · rintro ⟨-, rfl⟩
      rfl
  · have hresult : applyPatches source (before ++ bad :: after) = _ :=
      applyPatches_of_first hbefore hbad
    rw [hresult]
    refine ⟨fun e => ⟨?_, ?_⟩, fun bytes => ⟨nofun, ?_⟩⟩
    · intro he
      cases he
      exact ⟨before, bad, after, rfl, hbefore, hbad, rfl⟩
    · rintro ⟨before', bad', after', hsplit, hbefore', hbad', rfl⟩
      rw [← hresult, hsplit, applyPatches_of_first hbefore' hbad']
    · rintro ⟨h, -⟩
      exact absurd (h bad (by simp)) (Nat.not_le_of_lt hbad)

end TypeGuard
