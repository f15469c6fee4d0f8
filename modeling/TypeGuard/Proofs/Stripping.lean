import TypeGuard.Proofs.Boundary
import TypeGuard.Proofs.Guarding

namespace TypeGuard

namespace Guarded

def opening : List UInt8 :=
  Utf8.ofString "\n    if(typeof "

def closing : List UInt8 :=
  Utf8.ofString "\n    \x7d\n    "

/-- What stands before the first occurrence of a marker, and what stands after it. -/
def cut? (marker bytes : List UInt8) : Option (List UInt8 × List UInt8) :=
  if marker.isPrefixOf bytes then some ([], bytes.drop marker.length)
  else match bytes with
    | [] => none
    | b :: bs => (cut? marker bs).map fun found => (b :: found.1, found.2)

variable {marker bytes xs ys : List UInt8} {x : UInt8}

theorem eq_of_cut? (h : cut? marker bytes = some (xs, ys)) : bytes = xs ++ marker ++ ys := by
  fun_induction cut? marker bytes generalizing xs with
  | case1 bytes hp =>
    cases h
    exact (List.prefix_iff_eq_append.1 (List.isPrefixOf_iff_prefix.1 hp)).symm
  | case2 => cases h
  | case3 b bs _ ih =>
    obtain ⟨⟨kept, rest⟩, hfound, heq⟩ := Option.map_eq_some_iff.1 h
    cases heq
    rw [ih hfound]
    rfl

/-- Copies what stands in front of the first opening marker, drops everything up to the end of the
closing marker that comes next, and goes on behind it. The result is what was copied and the number
of parts that were dropped; there is none if a closing marker is missing. -/
def strip (bytes : List UInt8) : Option (List UInt8 × Nat) :=
  match _ : cut? opening bytes with
  | none => some (bytes, 0)
  | some (kept, inner) =>
    match _ : cut? closing inner with
    | none => none
    | some (_, rest) => (strip rest).map fun found => (kept ++ found.1, found.2 + 1)
termination_by bytes.length
decreasing_by
  next hopen _ hclose =>
  rw [eq_of_cut? hopen, eq_of_cut? hclose]
  simp only [List.length_append]
  have hpos : 0 < opening.length := by decide
  omega

@[simp] theorem cut?_append (marker bytes : List UInt8) :
    cut? marker (marker ++ bytes) = some ([], bytes) := by
  rw [cut?.eq_def, if_pos (List.isPrefixOf_iff_prefix.2 (List.prefix_append _ _)), List.drop_left]

theorem cut?_cons (h : ¬ marker <+: x :: bytes) :
    cut? marker (x :: bytes) = (cut? marker bytes).map fun found => (x :: found.1, found.2) := by
  rw [cut?.eq_def, if_neg (by simpa using h)]

theorem cut?_append_of_not_mem (h : ∀ m ∈ marker.head?, m ∉ xs) (hmarker : marker ≠ []) :
    cut? marker (xs ++ bytes) =
      (cut? marker bytes).map fun found => (xs ++ found.1, found.2) := by
  induction xs with
  | nil => simp
  | cons x xs ih =>
    have hx : ¬ marker <+: x :: (xs ++ bytes) := by
      intro hp
      obtain ⟨m, ms, rfl⟩ := List.exists_cons_of_ne_nil hmarker
      rw [List.cons_prefix_cons] at hp
      exact h m rfl (by simp [hp.1])
    rw [List.cons_append, cut?_cons hx, ih fun m hm hmem => h m hm (List.mem_cons_of_mem _ hmem),
      Option.map_map]
    rfl

theorem strip_eq (bytes : List UInt8) :
    strip bytes = match cut? opening bytes with
      | none => some (bytes, 0)
      | some (kept, inner) =>
        match cut? closing inner with
        | none => none
        | some (_, rest) => (strip rest).map fun found => (kept ++ found.1, found.2 + 1) := by
  rw [strip]
  split
  · next hopen => rw [hopen]
  · next kept inner hopen =>
    rw [hopen]
    dsimp only
    split
    · next hclose => rw [hclose]
    · next hclose => rw [hclose]

theorem strip_cons (h : ¬ opening <+: x :: bytes) :
    strip (x :: bytes) = (strip bytes).map fun found => (x :: found.1, found.2) := by
  rw [strip_eq (x :: bytes), strip_eq bytes, cut?_cons h]
  cases cut? opening bytes with
  | none => rfl
  | some found =>
    obtain ⟨kept, inner⟩ := found
    cases hclose : cut? closing inner with
    | none => simp only [Option.map_some, hclose, Option.map_none]
    | some found' =>
      simp only [Option.map_some, hclose, Option.map_map]
      rfl

/-- Bytes that the scanner drops as a whole, whatever follows. -/
def Block (bytes : List UInt8) : Prop :=
  ∃ inner, bytes = opening ++ inner ∧
    ∀ rest, ∃ before, cut? closing (inner ++ rest) = some (before, rest)

theorem Block.strip_append (h : Block xs) (bytes : List UInt8) :
    strip (xs ++ bytes) = (strip bytes).map fun found => (found.1, found.2 + 1) := by
  obtain ⟨inner, rfl, hinner⟩ := h
  obtain ⟨before, hclose⟩ := hinner bytes
  rw [List.append_assoc, strip_eq, cut?_append]
  simp only [hclose, List.nil_append]

theorem strip_blocks {ps : List Patch} (h : ∀ p ∈ ps, Block p.bytes) (bytes : List UInt8) :
    strip (ps.flatMap Patch.bytes ++ bytes) =
      (strip bytes).map fun found => (found.1, found.2 + ps.length) := by
  induction ps with
  | nil => simp
  | cons p ps ih =>
    rw [List.forall_mem_cons] at h
    rw [List.flatMap_cons, List.append_assoc, h.1.strip_append, ih h.2, Option.map_map]
    simp only [List.length_cons, ← Nat.add_assoc]
    rfl

theorem Block.head? (h : Block xs) : xs.head? = some 0x0A := by
  obtain ⟨inner, rfl, -⟩ := h
  rfl

variable {inserted : Nat → List UInt8}

theorem prefix_of_prefix_trail {ms : List UInt8} (hms : 0x0A ∉ ms)
    (hinserted : ∀ i, inserted i ≠ [] → (inserted i).head? = some 0x0A) {i : Nat}
    (h : ms <+: inserted i ++ trail inserted i xs) : ms <+: xs := by
  induction ms generalizing i xs with
  | nil => exact List.nil_prefix
  | cons m ms ih =>
    rw [List.mem_cons, not_or] at hms
    cases hi : inserted i with
    | nil =>
      rw [hi, List.nil_append] at h
      cases xs with
      | nil => cases List.prefix_nil.1 h
      | cons x xs =>
        rw [trail, List.cons_append, List.cons_prefix_cons] at h
        exact List.cons_prefix_cons.2 ⟨h.1, ih hms.2 h.2⟩
    | cons y ys =>
      have hy := hinserted i (by simp [hi])
      rw [hi, List.head?_cons, Option.some.injEq] at hy
      rw [hi, List.cons_append, List.cons_prefix_cons] at h
      exact absurd (h.1.trans hy).symm hms.1

theorem opening_not_prefix_trail
    (hinserted : ∀ i, inserted i ≠ [] → (inserted i).head? = some 0x0A) {i : Nat}
    (h : ¬ opening <+: x :: xs) :
    ¬ opening <+: x :: (inserted i ++ trail inserted i xs) := by
  intro hp
  have hsplit : opening = 0x0A :: opening.tail := rfl
  rw [hsplit, List.cons_prefix_cons] at hp h
  exact h ⟨hp.1, prefix_of_prefix_trail (by decide) hinserted hp.2⟩

theorem countP_offset_cons (ps : List Patch) (i n : Nat) :
    (ps.countP fun p => i ≤ p.offset ∧ p.offset ≤ i + (n + 1)) =
      (ps.countP fun p => i + 1 ≤ p.offset ∧ p.offset ≤ i + 1 + n) +
        (ps.filter fun p => p.offset = i).length := by
  induction ps with
  | nil => rfl
  | cons p ps ih =>
    simp only [List.countP_cons, List.filter_cons, ih, decide_eq_true_eq]
    by_cases heq : p.offset = i
    · rw [if_pos heq, if_pos (by omega), if_neg (by omega), List.length_cons]
      omega
    · rw [if_neg heq]
      split_ifs <;> omega

/-- The scanner gives a source back from what was inserted into it, and counts what it drops. -/
theorem strip_trail {ps : List Patch} (hps : ∀ p ∈ ps, Block p.bytes) (i : Nat)
    (h : ¬ opening <:+: xs) :
    strip (bytesAt ps i ++ trail (bytesAt ps) i xs) =
      some (xs, ps.countP fun p => i ≤ p.offset ∧ p.offset ≤ i + xs.length) := by
  have hblocks : ∀ i, ∀ p ∈ ps.filter fun p => p.offset = i, Block p.bytes := fun i p hp =>
    hps p (List.mem_of_mem_filter hp)
  have hhead : ∀ i, bytesAt ps i ≠ [] → (bytesAt ps i).head? = some 0x0A := by
    intro i hne
    cases hq : ps.filter fun p => p.offset = i with
    | nil => exact absurd (by rw [bytesAt, hq]; rfl) hne
    | cons q qs =>
      have hblock := hblocks i q (by simp [hq])
      rw [bytesAt, hq, List.flatMap_cons, List.head?_append, hblock.head?]
      rfl
  induction xs generalizing i with
  | nil =>
    have hstart : (ps.countP fun p => i ≤ p.offset ∧ p.offset ≤ i) =
        (ps.filter fun p => p.offset = i).length := by
      rw [← List.countP_eq_length_filter]
      apply List.countP_congr
      intro p _
      simp only [decide_eq_true_eq]
      omega
    have hempty : strip [] = some ([], 0) := by rw [strip_eq]; rfl
    rw [trail, bytesAt, strip_blocks (hblocks i), hempty, List.length_nil, Nat.add_zero, hstart,
      Option.map_some, Nat.zero_add]
  | cons x xs ih =>
    have hx : ¬ opening <+: x :: xs := fun hp => h hp.isInfix
    have hxs : ¬ opening <:+: xs := fun hi => h (hi.trans (List.suffix_cons x xs).isInfix)
    rw [trail, bytesAt, strip_blocks (hblocks i), List.cons_append,
      strip_cons (opening_not_prefix_trail hhead hx), ih (i + 1) hxs, List.length_cons,
      countP_offset_cons]
    rfl

theorem strip_weave {ps : List Patch} (hps : ∀ p ∈ ps, Block p.bytes)
    (hle : ∀ p ∈ ps, p.offset ≤ xs.length) (h : ¬ opening <:+: xs) :
    strip (weave (bytesAt ps) xs) = some (xs, ps.length) := by
  rw [weave_eq_trail, strip_trail hps 0 h]
  congr 2
  rw [List.countP_eq_length]
  intro p hp
  simpa using hle p hp

theorem closing_eq :
    closing = [0x0A, 0x20, 0x20, 0x20, 0x20, 0x7d, 0x0A, 0x20, 0x20, 0x20, 0x20] := by
  decide

/-- Of the three line breaks in a guard, the first begins the opening marker, the second comes
before a letter, and only the last begins the closing marker. -/
theorem block_of_reaction {front reaction : List UInt8} {r : UInt8} (hfront : 0x0A ∉ front)
    (hreaction : 0x0A ∉ reaction) (hr : reaction.head? = some r) (hne : r ≠ 0x7d) :
    Block (opening ++ (front ++ Utf8.ofString "\n    " ++ reaction ++ closing)) := by
  refine ⟨_, rfl, fun rest => ⟨front ++ Utf8.ofString "\n    " ++ reaction, ?_⟩⟩
  obtain ⟨rs, rfl⟩ := List.head?_eq_some_iff.1 hr
  have hindent : Utf8.ofString "\n    " = [0x0A, 0x20, 0x20, 0x20, 0x20] := by decide
  have hmarker : closing ≠ [] := by decide
  have hhead : ∀ xs : List UInt8, 0x0A ∉ xs → ∀ m ∈ closing.head?, m ∉ xs := by
    intro xs hxs m hm
    rw [closing_eq] at hm
    cases hm
    exact hxs
  have hbreak : ¬ closing <+: 0x0A :: ([0x20, 0x20, 0x20, 0x20] ++ r :: rs ++ (closing ++ rest)) := by
    rw [closing_eq]
    simp [List.cons_prefix_cons, Ne.symm hne]
  have hline : 0x0A ∉ [0x20, 0x20, 0x20, 0x20] ++ r :: rs := by
    rw [List.mem_append, not_or]
    exact ⟨by decide, hreaction⟩
  calc cut? closing (front ++ Utf8.ofString "\n    " ++ r :: rs ++ closing ++ rest)
      = cut? closing (front ++
          0x0A :: ([0x20, 0x20, 0x20, 0x20] ++ r :: rs ++ (closing ++ rest))) := by
        rw [hindent]
        simp only [List.append_assoc, List.cons_append, List.nil_append]
    _ = some (front ++ 0x0A :: ([0x20, 0x20, 0x20, 0x20] ++ r :: rs), rest) := by
        rw [cut?_append_of_not_mem (hhead _ hfront) hmarker, cut?_cons hbreak,
          cut?_append_of_not_mem (hhead _ hline) hmarker, cut?_append]
        simp
    _ = _ := by
        rw [hindent]
        simp only [List.append_assoc, List.cons_append, List.nil_append]

end Guarded

def OneLine (s : String) : Prop :=
  '\n' ∉ s.toList

instance (s : String) : Decidable (OneLine s) :=
  inferInstanceAs (Decidable ('\n' ∉ s.toList))

theorem OneLine.append {s t : String} (hs : OneLine s) (ht : OneLine t) : OneLine (s ++ t) := by
  rw [OneLine, String.toList_append, List.mem_append, not_or]
  exact ⟨hs, ht⟩

theorem OneLine.not_mem_ofString {s : String} (h : OneLine s) : 0x0A ∉ Utf8.ofString s := by
  intro hmem
  obtain ⟨c, hc, hbyte⟩ := List.mem_flatMap.1 hmem
  have hnat := Utf8.toNat_of_mem_utf8EncodeChar hbyte (by decide)
  exact h ((Char.ext (UInt32.toNat_inj.1 hnat) : c = '\n') ▸ hc)

theorem head?_ofString_append {s t : String} {b : UInt8} (h : (Utf8.ofString s).head? = some b) :
    (Utf8.ofString (s ++ t)).head? = some b := by
  rw [Utf8.ofString_append, List.head?_append, h, Option.some_or]

theorem ParamType.oneLine_name (t : ParamType) : OneLine t.name := by
  cases t <;> decide

theorem ParamType.oneLine_constructor {t : ParamType} {s : String} (h : t.constructor? = some s) :
    OneLine s := by
  cases t <;> cases h <;> decide

variable {p : Param} {mode : Mode} {constructor : String}

theorem Param.oneLine_mismatch (hname : OneLine p.name) : OneLine p.mismatch := by
  have hstart : OneLine "`" := by decide
  exact (((((hstart.append hname).append (by decide)).append p.type.oneLine_name).append
    (by decide)).append hname).append (by decide)

theorem Param.oneLine_reaction (hname : OneLine p.name) (hconstructor : OneLine constructor)
    (mode : Mode) : OneLine (p.reaction constructor mode) := by
  have hwarn : OneLine "console.warn(" := by decide
  have hthrow : OneLine "throw " := by decide
  have hmismatch := oneLine_mismatch hname
  cases mode with
  | warning => exact (hwarn.append hmismatch).append (by decide)
  | error => exact (hthrow.append hmismatch).append (by decide)
  | fix =>
    exact (((((((hwarn.append hmismatch).append (by decide)).append hname).append
      (by decide)).append hconstructor).append (by decide)).append hname).append (by decide)

theorem Param.head?_reaction (p : Param) (constructor : String) (mode : Mode) :
    (Utf8.ofString (p.reaction constructor mode)).head? =
      some (if mode = .error then 0x74 else 0x63) := by
  have hwarn : (Utf8.ofString "console.warn(").head? = some 0x63 := by decide
  have hthrow : (Utf8.ofString "throw ").head? = some 0x74 := by decide
  cases mode with
  | warning => exact head?_ofString_append (head?_ofString_append hwarn)
  | error => exact head?_ofString_append (head?_ofString_append hthrow)
  | fix =>
    refine head?_ofString_append (head?_ofString_append (head?_ofString_append ?_))
    refine head?_ofString_append (head?_ofString_append (head?_ofString_append ?_))
    exact head?_ofString_append (head?_ofString_append hwarn)

theorem Param.block_guard {text : String} (hname : OneLine p.name)
    (h : p.guard? mode = some text) : Guarded.Block (Utf8.ofString text) := by
  obtain ⟨constructor, hconstructor, rfl⟩ := Option.map_eq_some_iff.1 h
  have hfront : OneLine (p.name ++ " !== '" ++ p.type.name ++ "')\x7b") :=
    ((hname.append (by decide)).append p.type.oneLine_name).append (by decide)
  have hreaction := oneLine_reaction hname (ParamType.oneLine_constructor hconstructor) mode
  have hblock := Guarded.block_of_reaction hfront.not_mem_ofString hreaction.not_mem_ofString
    (p.head?_reaction constructor mode) (by cases mode <;> decide)
  have hbreak : "')\x7b\n    " = "')\x7b" ++ "\n    " := by decide
  simp only [Guarded.opening, Guarded.closing, ← Utf8.ofString_append] at hblock
  simpa only [hbreak, String.append_assoc] using hblock

/-- A source without the opening marker comes back from its guarded text, and as many guards are
dropped as were inserted. -/
theorem strip_guardSource {c : Config} {source : List UInt8} {d : Declarations} {g : Guarded}
    (hsource : ¬ Guarded.opening <:+: source)
    (hnames : ∀ f ∈ d.all, ∀ p ∈ f.params, p.isTested → OneLine p.name)
    (h : (c.guardSource source d).value = .ok g) :
    Guarded.strip g.bytes = some (source, g.guards) := by
  obtain ⟨hlimit, hle, rfl⟩ := Config.of_guardSource_eq_ok h
  rw [← c.length_collect]
  apply Guarded.strip_weave _ hle hsource
  intro p hp
  obtain ⟨f, hf, -, q, hq, text, htext, hbytes⟩ := Config.exists_guard_of_mem_collect hp
  rw [hbytes]
  have htested : q.isTested := by
    rw [← q.isSome_guard? c.mode, htext]
    rfl
  exact Param.block_guard (hnames f hf q hq htested) htext

/-- The source begins with half a closing marker and ends in the middle of an opening one; one guard
is inserted at its start, two at its end. -/
theorem strip_guardSource_fragments :
    ¬ Guarded.opening <:+: Utf8.ofString "\x7d\n    \n    if(type" ∧
    ∃ g, (Config.guardSource { mode := .fix } (Utf8.ofString "\x7d\n    \n    if(type")
        ⟨[⟨"f", [⟨"a", .number⟩, ⟨"b", .string⟩], 18⟩, ⟨"g", [⟨"c", .number⟩], 0⟩], []⟩).value =
          .ok g ∧
      Guarded.strip g.bytes = some (Utf8.ofString "\x7d\n    \n    if(type", 3) := by
  have hsource : ¬ Guarded.opening <:+: Utf8.ofString "\x7d\n    \n    if(type" := by
    decide +kernel
  have hg := @Config.guardSource_of_le { mode := .fix } (Utf8.ofString "\x7d\n    \n    if(type")
    ⟨[⟨"f", [⟨"a", .number⟩, ⟨"b", .string⟩], 18⟩, ⟨"g", [⟨"c", .number⟩], 0⟩], []⟩
    (by decide) (by decide +kernel)
  exact ⟨hsource, _, hg, strip_guardSource hsource (by decide) hg⟩

end TypeGuard
