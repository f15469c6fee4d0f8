import TypeGuard.Proofs.Boundary
import TypeGuard.Proofs.Guarding

namespace TypeGuard

namespace TypeScript

variable {src cs : List Char} {items : List (Item src)} {f : FunctionDecl}

theorem Scan.head?_of_startsWith {s : String} {x : Char} (h : startsWith cs s)
    (hs : s.toList.head? = some x) : cs.head? = some x := by
  obtain ⟨rest, rfl⟩ := List.isPrefixOf_iff_prefix.1 h
  rw [List.head?_append, hs, Option.some_or]

theorem Scan.head?_of_isLineSign (h : isLineSign cs) :
    ∃ x b, cs.head? = some x ∧ String.utf8EncodeChar x = [b] ∧ b ≠ 0x7b := by
  unfold isLineSign lineSign? at h
  simp only [Bool.not_false, Bool.true_and, Bool.not_true, Bool.false_eq_true, ↓reduceIte] at h
  split at h
  · next hs => exact ⟨'<', 0x3c, head?_of_startsWith hs rfl, rfl, by decide⟩
  · split at h
    · next hs => exact ⟨'-', 0x2d, head?_of_startsWith hs rfl, rfl, by decide⟩
    · split at h
      · next hs =>
        rcases Bool.or_eq_true_iff.1 hs with hs | hs
        · exact ⟨'<', 0x3c, head?_of_startsWith hs rfl, rfl, by decide⟩
        · exact ⟨'>', 0x3e, head?_of_startsWith hs rfl, rfl, by decide⟩
      · split at h
        · next hs => exact ⟨'=', 0x3d, head?_of_startsWith hs rfl, rfl, by decide⟩
        · simp at h

/-- A markup comment or a marker of an unfinished merge begins at an offset of a text. -/
def SignAt (src : List Char) (offset : Nat) : Prop :=
  ∃ c : Cursor src, c.offset = offset ∧ Scan.isLineSign c.rest

namespace Brace

variable (b : Brace src)

theorem signAt_iff : SignAt src b.start.offset ↔ Scan.isLineSign b.start.rest := by
  constructor
  · rintro ⟨c, hc, hsign⟩
    rwa [← Cursor.rest_eq_of_offset_eq hc]
  · intro hsign
    exact ⟨b.start, rfl, hsign⟩

theorem head?_start (h : ¬ SignAt src b.start.offset) : b.start.rest.head? = some '\x7b' := by
  rw [b.signAt_iff] at h
  have hsame : b.start.offset = b.place.offset :=
    Nat.le_antisymm b.start_le_place (Nat.le_of_not_lt fun hlt => h (b.sign hlt))
  rw [Cursor.rest_eq_of_offset_eq hsame]
  exact b.opens

theorem exists_byte : ∃ x byte, b.start.rest.head? = some x ∧ String.utf8EncodeChar x = [byte] ∧
    (byte = 0x7b ↔ ¬ SignAt src b.start.offset) := by
  by_cases h : SignAt src b.start.offset
  · obtain ⟨x, byte, hx, hbyte, hne⟩ := Scan.head?_of_isLineSign (b.signAt_iff.1 h)
    exact ⟨x, byte, hx, hbyte, fun he => absurd he hne, fun hn => absurd h hn⟩
  · exact ⟨'\x7b', 0x7b, b.head?_start h, rfl, fun _ => h, fun _ => rfl⟩

theorem byte_iff : (Utf8.encode src)[b.bodyStart - 1]? = some 0x7b ↔
    ¬ SignAt src (b.bodyStart - 1) := by
  obtain ⟨x, byte, hx, hbyte, hiff⟩ := b.exists_byte
  rw [bodyStart, Nat.add_sub_cancel, Cursor.getElem?_encode hx hbyte, Option.some_inj]
  exact hiff

theorem bodyStart_eq : b.bodyStart = (b.start.advance 1).offset := by
  obtain ⟨x, byte, hx, hbyte, -⟩ := b.exists_byte
  obtain ⟨rest, hrest⟩ := List.head?_eq_some_iff.1 hx
  have hsize : x.utf8Size = 1 := by
    rw [← String.length_utf8EncodeChar, hbyte, List.length_singleton]
  simp [bodyStart, Cursor.advance, hrest, hsize]

theorem boundary_bodyStart : Utf8.Boundary src b.bodyStart := by
  rw [b.bodyStart_eq]
  exact Cursor.boundary _

end Brace

theorem Routine.exists_brace {name : String} {r : Routine src} (h : r.function? name = some f) :
    ∃ b : Brace src, f.bodyStart = b.bodyStart := by
  obtain ⟨b, -, rfl⟩ := Option.map_eq_some_iff.1 h
  exact ⟨b, rfl⟩

theorem Member.exists_brace {m : Member src} (h : m.function? = some f) :
    ∃ b : Brace src, f.bodyStart = b.bodyStart := by
  obtain ⟨⟨name, r⟩, -, hm⟩ := Option.bind_eq_some_iff.1 h
  obtain ⟨n, -, hr⟩ := Option.bind_eq_some_iff.1 hm
  exact r.exists_brace hr

theorem exists_brace_of_mem_functionsOf (h : f ∈ functionsOf items) :
    ∃ b : Brace src, f.bodyStart = b.bodyStart := by
  obtain ⟨item, -, hf⟩ := List.mem_filterMap.1 h
  cases item with
  | function name r => exact r.exists_brace hf
  | class_ => cases hf
  | useStrict => cases hf
  | other => cases hf

theorem exists_brace_of_mem_classesOf {c : ClassDecl} (hc : c ∈ classesOf items)
    (hf : f ∈ c.methods) : ∃ b : Brace src, f.bodyStart = b.bodyStart := by
  obtain ⟨item, -, hi⟩ := List.mem_filterMap.1 hc
  cases item with
  | function => cases hi
  | class_ name members =>
    cases hi
    obtain ⟨m, -, hm⟩ := List.mem_filterMap.1 hf
    exact m.exists_brace hm
  | useStrict => cases hi
  | other => cases hi

end TypeScript

open TypeScript

variable {source : List Char} {d : Declarations} {f : FunctionDecl}

theorem exists_items_of_extract (h : (extract source).value = .ok d) :
    ∃ items s, (Parser.items (grammar (depthOf source))).run (State.initial source) =
      .value items s ∧ d = ⟨functionsOf items, classesOf items⟩ := by
  unfold extract at h
  split at h
  · cases h
  · unfold TypeScript.read at h
    cases hrun : (Parser.items (grammar (depthOf source))).run (State.initial source) with
    | value items s =>
      rw [hrun] at h
      cases h
      exact ⟨items, s, rfl, rfl⟩
    | failure fault s =>
      rw [hrun] at h
      cases h

theorem exists_brace_of_extract (h : (extract source).value = .ok d) (hf : f ∈ d.all) :
    ∃ b : Brace source, f.bodyStart = b.bodyStart := by
  obtain ⟨items, s, -, rfl⟩ := exists_items_of_extract h
  rcases List.mem_append.1 hf with hf | hf
  · exact exists_brace_of_mem_functionsOf hf
  · obtain ⟨c, hc, hm⟩ := List.mem_flatMap.1 hf
    exact exists_brace_of_mem_classesOf hc hm

theorem boundary_of_extract (h : (extract source).value = .ok d) (hf : f ∈ d.all) :
    Utf8.Boundary source f.bodyStart := by
  obtain ⟨b, hb⟩ := exists_brace_of_extract h hf
  rw [hb]
  exact b.boundary_bodyStart

theorem bodyStart_of_extract (h : (extract source).value = .ok d) (hf : f ∈ d.all) :
    1 ≤ f.bodyStart ∧ f.bodyStart ≤ (Utf8.encode source).length ∧
      ((Utf8.encode source)[f.bodyStart - 1]? = some 0x7b ↔ ¬ SignAt source (f.bodyStart - 1)) := by
  obtain ⟨b, hb⟩ := exists_brace_of_extract h hf
  have hle := (boundary_of_extract h hf).le
  rw [← Utf8.length_encode] at hle
  refine ⟨?_, hle, ?_⟩
  · rw [hb]
    exact Nat.succ_pos _
  · rw [hb]
    exact b.byte_iff

/-- Once a source has been read, only the limit can keep its guards out of it. -/
theorem Config.guardTypeScript_of_ok (c : Config) (h : (extract source).value = .ok d) :
    (c.guardTypeScript source).value =
      if c.limit < d.testedCount then .error (.tooManyPatches d.testedCount c.limit)
      else .ok ⟨weave (bytesAt (c.collect d).value) (Utf8.encode source), d.testedCount,
        d.guardBytes c.mode⟩ := by
  have hguard : (c.guardTypeScript source).value =
      (c.guardSource (Utf8.encode source) d).value := by
    unfold guardTypeScript
    simp only [h]
    rfl
  have hle : ∀ p ∈ (c.collect d).value, p.offset ≤ (Utf8.encode source).length := by
    intro p hp
    obtain ⟨f, hf, hoffset, -⟩ := Config.mem_collect hp
    rw [hoffset]
    exact (bodyStart_of_extract h hf).2.1
  rw [hguard]
  by_cases hlimit : c.limit < d.testedCount
  · rw [if_pos hlimit, Config.guardSource_of_limit hlimit]
  · rw [if_neg hlimit, Config.guardSource_of_le hlimit hle]

theorem Config.guardTypeScript_of_error (c : Config) {e : GuardError}
    (h : (extract source).value = .error e) : (c.guardTypeScript source).value = .error e := by
  unfold guardTypeScript
  simp only [h]

theorem extract_ne_offsetOutOfBounds (source : List Char) (offset length : Nat) :
    (extract source).value ≠ .error (.offsetOutOfBounds offset length) := by
  unfold extract
  split
  · exact nofun
  · split <;> exact nofun

/-- The byte in front of the start of a body is its opening brace unless a markup comment or a
marker begins there, and then the brace stands further on. In both cases all guards fit into the
source and leave it a text. -/
theorem bodyStart_past_brace_iff (source : List Char) :
    (∀ d, (extract source).value = .ok d → ∀ f ∈ d.all,
      1 ≤ f.bodyStart ∧ f.bodyStart ≤ (Utf8.encode source).length ∧
      ((Utf8.encode source)[f.bodyStart - 1]? = some 0x7b ↔ ¬ SignAt source (f.bodyStart - 1)) ∧
      ∃ brace, (Utf8.encode source)[brace]? = some 0x7b ∧ f.bodyStart ≤ brace + 1 ∧
        (f.bodyStart = brace + 1 ↔ ¬ SignAt source (f.bodyStart - 1))) ∧
    ∀ c : Config,
      (∀ offset length,
        (c.guardTypeScript source).value ≠ .error (.offsetOutOfBounds offset length)) ∧
      ∀ g, (c.guardTypeScript source).value = .ok g → Utf8.Valid g.bytes := by
  constructor
  · intro d h f hf
    obtain ⟨hpos, hle, hbyte⟩ := bodyStart_of_extract h hf
    refine ⟨hpos, hle, hbyte, ?_⟩
    obtain ⟨b, hb⟩ := exists_brace_of_extract h hf
    have hbrace : (Utf8.encode source)[b.place.offset]? = some 0x7b :=
      Cursor.getElem?_encode b.opens rfl
    rw [hb]
    refine ⟨b.place.offset, hbrace, Nat.succ_le_succ b.start_le_place, ?_⟩
    constructor
    · intro he
      rwa [← b.byte_iff, he, Nat.add_sub_cancel]
    · intro hsign
      have hlt : ¬ b.start.offset < b.place.offset := fun hlt =>
        hsign ⟨b.start, rfl, b.sign hlt⟩
      rw [Brace.bodyStart, Nat.le_antisymm b.start_le_place (Nat.le_of_not_lt hlt)]
  · intro c
    cases h : (extract source).value with
    | error e =>
      rw [c.guardTypeScript_of_error h]
      refine ⟨fun offset length he => ?_, nofun⟩
      cases he
      exact extract_ne_offsetOutOfBounds source offset length h
    | ok d =>
      rw [c.guardTypeScript_of_ok h]
      split
      · exact ⟨nofun, nofun⟩
      · refine ⟨nofun, fun g hg => ?_⟩
        cases hg
        apply valid_weave_bytesAt
        · intro p hp
          obtain ⟨f, -, -, text, hbytes⟩ := Config.mem_collect hp
          rw [hbytes]
          exact Utf8.valid_encode _
        · intro p hp
          obtain ⟨f, hf, hoffset, -⟩ := Config.mem_collect hp
          rw [hoffset]
          exact boundary_of_extract h hf

/-- Offsets count the bytes, not the characters, in front of a body. -/
theorem bodyStart_past_brace_accented :
    (extract "/*é*/class K \x7b set x(v: string) \x7b\x7d \x7d".toList).value =
      .ok ⟨[], [⟨"K", [⟨"x", [⟨"v", .string⟩], 34⟩]⟩]⟩ ∧
    ((Utf8.encode "/*é*/class K \x7b set x(v: string) \x7b\x7d \x7d".toList)[33]? = some 0x7b ↔
      ¬ SignAt "/*é*/class K \x7b set x(v: string) \x7b\x7d \x7d".toList 33) := by
  have h : (extract "/*é*/class K \x7b set x(v: string) \x7b\x7d \x7d".toList).value =
      .ok ⟨[], [⟨"K", [⟨"x", [⟨"v", .string⟩], 34⟩]⟩]⟩ := by rfl
  exact ⟨h, ((bodyStart_past_brace_iff _).1 _ h ⟨"x", [⟨"v", .string⟩], 34⟩ (by decide)).2.2.1⟩

-- A markup comment in front of a brace is part of the body, which then starts inside the comment.
example : (extract "function f() <!--\n\x7b\x7d".toList).value = .ok ⟨[⟨"f", [], 14⟩], []⟩ := by rfl

end TypeGuard
