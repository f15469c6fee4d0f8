import TypeGuard.Proofs.Stripping

namespace TypeGuard

namespace Utf8

variable {cs ds : List Char} {c d : Char} {i : Nat} {a b r : List UInt8} {x : UInt8}

theorem encodeChar_append_inj
    (h : String.utf8EncodeChar c ++ a = String.utf8EncodeChar d ++ b) : c = d ∧ a = b := by
  have hc := @ByteArray.utf8DecodeChar?_utf8EncodeChar_append a.toByteArray c
  have hd := @ByteArray.utf8DecodeChar?_utf8EncodeChar_append b.toByteArray d
  rw [← List.toByteArray_append, h, List.toByteArray_append, hd, Option.some.injEq] at hc
  subst hc
  exact ⟨rfl, List.append_cancel_left h⟩

theorem exists_rest_of_encode (h : encode cs = encode ds ++ b) :
    ∃ rest, cs = ds ++ rest ∧ encode rest = b := by
  induction ds generalizing cs with
  | nil => exact ⟨cs, rfl, h⟩
  | cons d ds ih =>
    cases cs with
    | nil =>
      have hd := congrArg List.length h
      have hpos := d.utf8Size_pos
      simp only [encode_cons, encode_nil, List.length_append, List.length_nil,
        String.length_utf8EncodeChar] at hd
      omega
    | cons c cs =>
      rw [encode_cons, encode_cons, List.append_assoc] at h
      obtain ⟨rfl, hrest⟩ := encodeChar_append_inj h
      obtain ⟨rest, rfl, hb⟩ := ih hrest
      exact ⟨rest, rfl, hb⟩

theorem Valid.of_append (ha : Valid a) (h : Valid (a ++ b)) : Valid b := by
  obtain ⟨ds, rfl⟩ := ha
  obtain ⟨cs, hcs⟩ := h
  obtain ⟨rest, -, hrest⟩ := exists_rest_of_encode hcs
  exact ⟨rest, hrest⟩

theorem encodeChar_of_mem (h : x ∈ String.utf8EncodeChar c) (hx : x.toNat < 128) :
    String.utf8EncodeChar c = [x] := by
  have hc := toNat_of_mem_utf8EncodeChar h hx
  have hone : c.val.toNat ≤ 127 := by
    change c.toNat ≤ 127
    omega
  rw [String.utf8EncodeChar] at h ⊢
  simp only [hone, ↓reduceIte, List.mem_singleton] at h ⊢
  rw [h]

theorem valid_encodeChar (c : Char) : Valid (String.utf8EncodeChar c) :=
  ⟨[c], List.append_nil _⟩

/-- In front of a byte below 128 no character is cut in two. -/
theorem Valid.cut (h : Valid (a ++ x :: b)) (hx : x.toNat < 128) : Valid a := by
  obtain ⟨cs, hcs⟩ := h
  induction cs generalizing a with
  | nil => simp at hcs
  | cons c cs ih =>
    rw [encode_cons] at hcs
    rcases List.append_eq_append_iff.1 hcs with ⟨a', rfl, hrest⟩ | ⟨e, hc, hrest⟩
    · exact (valid_encodeChar c).append (ih hrest)
    · cases e with
      | nil =>
        rw [List.append_nil] at hc
        rw [← hc]
        exact valid_encodeChar c
      | cons y ys =>
        obtain ⟨rfl, -⟩ := List.cons.inj hrest
        have hmem : x ∈ String.utf8EncodeChar c := by
          rw [hc]
          exact List.mem_append_right a List.mem_cons_self
        rw [encodeChar_of_mem hmem hx, List.singleton_eq_append_iff] at hc
        rcases hc with ⟨rfl, -⟩ | ⟨-, hnil⟩
        · exact valid_encode []
        · cases hnil

/-- A text that begins with a byte below 128, if it has any bytes. -/
def Detached (r : List UInt8) : Prop :=
  Valid r ∧ ∀ x ∈ r.head?, x.toNat < 128

theorem detached_nil : Detached [] :=
  ⟨valid_encode [], nofun⟩

theorem Detached.append (hr : Detached r) (hb : Detached b) : Detached (r ++ b) := by
  refine ⟨hr.1.append hb.1, fun x hx => ?_⟩
  rw [List.head?_append] at hx
  cases hhead : r.head? with
  | none =>
    rw [hhead, Option.none_or] at hx
    exact hb.2 x hx
  | some y =>
    rw [hhead, Option.some_or] at hx
    exact hr.2 x (hhead.trans hx)

theorem Detached.flatMap {α : Type} {xs : List α} {f : α → List UInt8}
    (h : ∀ x ∈ xs, Detached (f x)) : Detached (xs.flatMap f) := by
  induction xs with
  | nil => exact detached_nil
  | cons x xs ih =>
    rw [List.forall_mem_cons] at h
    exact h.1.append (ih h.2)

theorem Detached.remove (hr : Detached r) (h : Valid (a ++ (r ++ b))) : Valid (a ++ b) := by
  cases r with
  | nil => exact h
  | cons x xs =>
    have ha : Valid a := h.cut (hr.2 x rfl)
    exact ha.append (hr.1.of_append (ha.of_append h))

theorem boundary_of_valid_take (hi : i ≤ byteLength cs) (h : Valid ((encode cs).take i)) :
    Boundary cs i := by
  obtain ⟨before, hbefore⟩ := h
  have hsplit := (List.take_append_drop i (encode cs)).symm
  rw [← hbefore] at hsplit
  obtain ⟨rest, rfl, -⟩ := exists_rest_of_encode hsplit
  refine ⟨before, List.prefix_append before rest, ?_⟩
  rw [← length_encode, hbefore, List.length_take_of_le (by rwa [length_encode])]

end Utf8

variable {inserted : Nat → List UInt8} {xs ys : List UInt8} {cs : List Char} {patches : List Patch}

/-- Everything that a walk inserts can be taken out again. -/
theorem valid_of_valid_weave (hinserted : ∀ i, Utf8.Detached (inserted i))
    (h : Utf8.Valid (weave inserted xs ++ ys)) : Utf8.Valid (xs ++ ys) := by
  induction xs using List.reverseRecOn generalizing ys with
  | nil =>
    rw [weave_nil] at h
    exact (hinserted 0).remove (a := []) h
  | append_singleton xs x ih =>
    rw [weave_concat, List.append_cons, List.append_assoc, List.append_assoc] at h
    rw [List.append_assoc]
    apply ih
    rw [← List.append_assoc] at h ⊢
    exact (hinserted (xs.length + 1)).remove h

/-- What a walk inserts at an offset shows that the offset is a boundary, if the result is a text:
cut there, the walk so far is a text, and without its insertions it is the front of the source. -/
theorem boundary_of_valid_weave (hinserted : ∀ i, Utf8.Detached (inserted i)) {i : Nat}
    (hi : i ≤ Utf8.byteLength cs) (hne : inserted i ≠ [])
    (h : Utf8.Valid (weave inserted (Utf8.encode cs))) : Utf8.Boundary cs i := by
  have hlen : ((Utf8.encode cs).take i).length = i :=
    List.length_take_of_le (by rwa [Utf8.length_encode])
  let before (j : Nat) : List UInt8 := if j < i then inserted j else []
  have hbefore : ∀ j, Utf8.Detached (before j) := by
    intro j
    dsimp only [before]
    split
    · exact hinserted j
    · exact Utf8.detached_nil
  have hfront : weave inserted ((Utf8.encode cs).take i) =
      weave before ((Utf8.encode cs).take i) ++ inserted i := by
    apply weave_last
    · simp [before, hlen]
    · intro j hj
      rw [hlen] at hj
      simp [before, hj]
  obtain ⟨x, rest, hx⟩ := List.exists_cons_of_ne_nil hne
  have hsmall : x.toNat < 128 := (hinserted i).2 x (by rw [hx]; rfl)
  rw [← List.take_append_drop i (Utf8.encode cs), weave_append, hfront, hx, List.append_assoc,
    List.cons_append] at h
  have htake := h.cut hsmall
  rw [← List.append_nil (weave before _)] at htake
  have hsource := valid_of_valid_weave hbefore htake
  rw [List.append_nil] at hsource
  exact Utf8.boundary_of_valid_take hi hsource

theorem Param.head?_guard {p : Param} {mode : Mode} {text : String}
    (h : p.guard? mode = some text) : (Utf8.ofString text).head? = some 0x0A := by
  obtain ⟨constructor, -, rfl⟩ := Option.map_eq_some_iff.1 h
  have hopening : (Utf8.ofString "\n    if(typeof ").head? = some 0x0A := by decide
  exact head?_ofString_append (head?_ofString_append (head?_ofString_append
    (head?_ofString_append (head?_ofString_append (head?_ofString_append hopening)))))

theorem Config.detached_of_mem_collect {c : Config} {d : Declarations} {p : Patch}
    (h : p ∈ (c.collect d).value) : Utf8.Detached p.bytes ∧ p.bytes ≠ [] := by
  obtain ⟨f, -, -, q, -, text, htext, hbytes⟩ := exists_guard_of_mem_collect h
  have hhead := Param.head?_guard htext
  rw [← hbytes] at hhead
  refine ⟨⟨⟨text.toList, hbytes.symm⟩, fun x hx => ?_⟩, fun hnil => ?_⟩
  · rw [hhead, Option.mem_some] at hx
    rw [← hx]
    decide
  · rw [hnil] at hhead
    cases hhead

theorem Config.exists_patch_of_tested {c : Config} {d : Declarations} {f : FunctionDecl}
    (hf : f ∈ d.all) (htested : f.params.any Param.isTested) :
    ∃ p ∈ (c.collect d).value, p.offset = f.bodyStart := by
  have hlen : 0 < (f.guardTexts c.mode).length := by
    rw [f.length_guardTexts, List.countP_pos_iff]
    exact List.any_eq_true.1 htested
  obtain ⟨text, htext⟩ := List.exists_mem_of_length_pos hlen
  refine ⟨⟨f.bodyStart, Utf8.ofString text⟩, ?_, rfl⟩
  rw [c.collect_value, List.mem_flatMap]
  refine ⟨f, hf, ?_⟩
  rw [f.patches_eq]
  exact List.mem_map_of_mem htext

/-- The guarded source is a text exactly if every body with a tested parameter starts between two
characters of the source. -/
theorem valid_guardSource_iff {c : Config} {d : Declarations} {g : Guarded}
    (h : (c.guardSource (Utf8.encode cs) d).value = .ok g) :
    Utf8.Valid g.bytes ↔
      ∀ f ∈ d.all, f.params.any Param.isTested → Utf8.Boundary cs f.bodyStart := by
  obtain ⟨-, hle, rfl⟩ := Config.of_guardSource_eq_ok h
  constructor
  · intro hvalid f hf htested
    obtain ⟨p, hp, hoffset⟩ := Config.exists_patch_of_tested hf htested (c := c)
    rw [← hoffset]
    apply boundary_of_valid_weave _ _ _ hvalid
    · intro i
      exact Utf8.Detached.flatMap fun q hq =>
        (Config.detached_of_mem_collect (List.mem_of_mem_filter hq)).1
    · rw [← Utf8.length_encode]
      exact hle p hp
    · intro hnil
      have hmem : p ∈ (c.collect d).value.filter fun q => q.offset = p.offset := by
        rw [List.mem_filter]
        exact ⟨hp, decide_eq_true rfl⟩
      exact (Config.detached_of_mem_collect hp).2 (List.flatMap_eq_nil_iff.1 hnil p hmem)
  · intro hboundary
    apply valid_weave_bytesAt
    · intro p hp
      exact (Config.detached_of_mem_collect hp).1.1
    · intro p hp
      obtain ⟨f, hf, hoffset, q, hq, text, htext, -⟩ := Config.exists_guard_of_mem_collect hp
      rw [hoffset]
      refine hboundary f hf (List.any_eq_true.2 ⟨q, hq, ?_⟩)
      rw [← q.isSome_guard? c.mode, htext]
      rfl

/-- One guard stands inside the only character of the source and one behind it; a body in front of
them that gets no guard may start anywhere. -/
theorem valid_guardSource_iff_inside :
    ∃ g, (Config.guardSource { mode := .fix } (Utf8.encode ['𝒳'])
        ⟨[⟨"f", [⟨"é", .string⟩], 4⟩, ⟨"h", [⟨"x", .unknown⟩], 1⟩],
          [⟨"K", [⟨"m", [⟨"a", .number⟩], 2⟩]⟩]⟩).value = .ok g ∧
      ¬ Utf8.Boundary ['𝒳'] 2 ∧ ¬ Utf8.Valid g.bytes := by
  have hg := @Config.guardSource_of_le { mode := .fix } (Utf8.encode ['𝒳'])
    ⟨[⟨"f", [⟨"é", .string⟩], 4⟩, ⟨"h", [⟨"x", .unknown⟩], 1⟩],
      [⟨"K", [⟨"m", [⟨"a", .number⟩], 2⟩]⟩]⟩ (by decide) (by decide +kernel)
  have hinside : ¬ Utf8.Boundary ['𝒳'] 2 := by
    rintro ⟨before, hp, hlen⟩
    rcases List.prefix_cons_iff.1 hp with rfl | ⟨t, rfl, ht⟩
    · cases hlen
    · rw [List.prefix_nil.1 ht] at hlen
      exact absurd hlen (by decide)
  refine ⟨_, hg, hinside, fun hvalid => hinside ?_⟩
  exact (valid_guardSource_iff hg).1 hvalid ⟨"m", [⟨"a", .number⟩], 2⟩ (by decide) (by decide)

end TypeGuard
