import TypeGuard.Proofs.Weaving
import TypeGuard.TypeScript.Cursor

namespace TypeGuard

namespace Utf8

/-- No character of a text has bytes on both sides of the offset. -/
def Boundary (cs : List Char) (offset : Nat) : Prop :=
  ∃ before, before <+: cs ∧ byteLength before = offset

variable {cs ds : List Char} {x : Char} {i : Nat} {a b : List UInt8}

@[simp] theorem length_encode (cs : List Char) : (encode cs).length = byteLength cs := by
  induction cs with
  | nil => rfl
  | cons c cs ih => simp [ih]

theorem byteLength_eq_zero (h : byteLength cs = 0) : cs = [] := by
  cases cs with
  | nil => rfl
  | cons c cs =>
    have hc := c.utf8Size_pos
    rw [byteLength_cons] at h
    omega

theorem byteLength_le_of_prefix (h : cs <+: ds) : byteLength cs ≤ byteLength ds := by
  obtain ⟨rest, rfl⟩ := h
  rw [byteLength_append]
  exact Nat.le_add_right _ _

theorem boundary_concat_iff :
    Boundary (cs ++ [x]) i ↔ i = byteLength cs + x.utf8Size ∨ Boundary cs i := by
  constructor
  · rintro ⟨before, hp, rfl⟩
    rcases List.prefix_concat_iff.1 hp with rfl | hp
    · left
      rw [byteLength_append, byteLength_cons, byteLength_nil, Nat.add_zero]
    · exact .inr ⟨before, hp, rfl⟩
  · rintro (rfl | ⟨before, hp, rfl⟩)
    · refine ⟨cs ++ [x], List.prefix_refl _, ?_⟩
      rw [byteLength_append, byteLength_cons, byteLength_nil, Nat.add_zero]
    · exact ⟨before, hp.trans (List.prefix_append cs [x]), rfl⟩

theorem Boundary.le (h : Boundary cs i) : i ≤ byteLength cs := by
  obtain ⟨before, hp, rfl⟩ := h
  exact byteLength_le_of_prefix hp

theorem toNat_of_mem_utf8EncodeChar {b : UInt8} (h : b ∈ String.utf8EncodeChar x)
    (hb : b.toNat < 128) : x.toNat = b.toNat := by
  have hlarge : ∀ n, 128 ≤ n → n < 256 → b ≠ UInt8.ofNat n := by
    rintro n hn hlt rfl
    rw [UInt8.toNat_ofNat', Nat.mod_eq_of_lt hlt] at hb
    exact Nat.not_le_of_lt hb hn
  unfold String.utf8EncodeChar at h
  dsimp only at h
  split at h
  · next hle =>
    rw [List.mem_singleton.1 h, UInt8.toNat_ofNat', Nat.mod_eq_of_lt (by omega)]
    rfl
  · exfalso
    split_ifs at h <;>
      simp only [List.mem_cons, List.not_mem_nil, or_false] at h <;>
      exact absurd h (by
        simp only [not_or]
        repeat' constructor
        all_goals exact hlarge _ (by omega) (by omega))

theorem valid_encode (cs : List Char) : Valid (encode cs) :=
  ⟨cs, rfl⟩

theorem Valid.append (ha : Valid a) (hb : Valid b) : Valid (a ++ b) := by
  obtain ⟨cs, rfl⟩ := ha
  obtain ⟨ds, rfl⟩ := hb
  exact ⟨cs ++ ds, encode_append cs ds⟩

theorem Valid.flatMap {α : Type} {xs : List α} {f : α → List UInt8}
    (h : ∀ x ∈ xs, Valid (f x)) : Valid (xs.flatMap f) := by
  induction xs with
  | nil => exact valid_encode []
  | cons x xs ih =>
    rw [List.forall_mem_cons] at h
    exact h.1.append (ih h.2)

end Utf8

variable {inserted : Nat → List UInt8} {xs : List UInt8} {cs : List Char}

theorem trail_of_inner_nil {i : Nat} (hxs : xs ≠ [])
    (h : ∀ j, i < j → j < i + xs.length → inserted j = []) :
    trail inserted i xs = xs ++ inserted (i + xs.length) := by
  induction xs generalizing i with
  | nil => exact absurd rfl hxs
  | cons x xs ih =>
    cases xs with
    | nil => simp [trail]
    | cons y ys =>
      have hnil : inserted (i + 1) = [] := h (i + 1) (by omega) (by simp)
      have hrest := ih (i := i + 1) (List.cons_ne_nil y ys) fun j hj hlt =>
        h j (by omega) (by simp only [List.length_cons] at hlt ⊢; omega)
      rw [trail, hnil, hrest]
      simp [Nat.add_assoc, Nat.add_comm 1]

theorem valid_weave (hvalid : ∀ i, Utf8.Valid (inserted i))
    (h : ∀ i, i ≤ Utf8.byteLength cs → inserted i ≠ [] → Utf8.Boundary cs i) :
    Utf8.Valid (weave inserted (Utf8.encode cs)) := by
  induction cs using List.reverseRecOn with
  | nil =>
    rw [Utf8.encode_nil, weave_nil]
    exact hvalid 0
  | append_singleton cs x ih =>
    have hlen : Utf8.byteLength (cs ++ [x]) = Utf8.byteLength cs + x.utf8Size := by
      rw [Utf8.byteLength_append, Utf8.byteLength_cons, Utf8.byteLength_nil, Nat.add_zero]
    have hx := x.utf8Size_pos
    have hbefore : Utf8.Valid (weave inserted (Utf8.encode cs)) := by
      apply ih
      intro i hi hne
      rcases Utf8.boundary_concat_iff.1 (h i (by omega) hne) with hend | hb
      · omega
      · exact hb
    have hinner : ∀ j, Utf8.byteLength cs < j →
        j < Utf8.byteLength cs + (Utf8.encode [x]).length → inserted j = [] := by
      intro j hj hlt
      rw [Utf8.length_encode, Utf8.byteLength_cons, Utf8.byteLength_nil] at hlt
      by_contra hne
      rcases Utf8.boundary_concat_iff.1 (h j (by omega) hne) with hend | hb
      · omega
      · exact absurd hb.le (Nat.not_le_of_lt hj)
    have hne : Utf8.encode [x] ≠ [] := by
      rw [← List.length_pos_iff, Utf8.length_encode, Utf8.byteLength_cons]
      omega
    rw [Utf8.encode_append, weave_append, Utf8.length_encode, trail_of_inner_nil hne hinner]
    exact hbefore.append ((Utf8.valid_encode [x]).append (hvalid _))

/-- Texts that are inserted at boundaries of a text make up a text. -/
theorem valid_weave_bytesAt {patches : List Patch} (hvalid : ∀ p ∈ patches, Utf8.Valid p.bytes)
    (h : ∀ p ∈ patches, Utf8.Boundary cs p.offset) :
    Utf8.Valid (weave (bytesAt patches) (Utf8.encode cs)) := by
  apply valid_weave
  · intro i
    apply Utf8.Valid.flatMap
    intro p hp
    exact hvalid p (List.mem_of_mem_filter hp)
  · intro i _ hne
    by_contra hb
    refine hne (List.flatMap_eq_nil_iff.2 fun p hp => ?_)
    obtain ⟨hp, hi⟩ := List.mem_filter.1 hp
    rw [← of_decide_eq_true hi] at hb
    exact absurd (h p hp) hb

namespace TypeScript.Cursor

variable {src : List Char}

theorem boundary (c : Cursor src) : Utf8.Boundary src c.offset := by
  obtain ⟨before, hsrc, hlen⟩ := c.splits
  exact ⟨before, ⟨c.rest, hsrc⟩, hlen⟩

theorem rest_eq_of_offset_eq {c d : Cursor src} (h : c.offset = d.offset) : c.rest = d.rest := by
  obtain ⟨before, hc, hlen⟩ := c.splits
  obtain ⟨before', hd, hlen'⟩ := d.splits
  have hsame : before = before' := by
    rcases List.prefix_or_prefix_of_prefix ⟨_, hc⟩ ⟨_, hd⟩ with ⟨t, rfl⟩ | ⟨t, rfl⟩
    · rw [Utf8.byteLength_append] at hlen'
      have ht : t = [] := Utf8.byteLength_eq_zero (by omega)
      rw [ht, List.append_nil]
    · rw [Utf8.byteLength_append] at hlen
      have ht : t = [] := Utf8.byteLength_eq_zero (by omega)
      rw [ht, List.append_nil]
  subst hsame
  exact List.append_cancel_left (hc.trans hd.symm)

theorem getElem?_encode {c : Cursor src} {x : Char} {b : UInt8} (h : c.rest.head? = some x)
    (hb : String.utf8EncodeChar x = [b]) : (Utf8.encode src)[c.offset]? = some b := by
  obtain ⟨before, hsrc, hlen⟩ := c.splits
  obtain ⟨rest, hrest⟩ := List.head?_eq_some_iff.1 h
  have hbytes : Utf8.encode src = Utf8.encode before ++ b :: Utf8.encode rest := by
    rw [← hsrc, hrest, Utf8.encode_append, Utf8.encode_cons, hb]
    rfl
  rw [hbytes, ← hlen, ← Utf8.length_encode]
  simp

end TypeScript.Cursor

end TypeGuard
