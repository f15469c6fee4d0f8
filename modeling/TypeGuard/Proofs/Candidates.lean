import TypeGuard.Proofs.Rerooting

namespace TypeGuard.Path

variable {word text path file inputRoot outputRoot p q s a b : List Char} {x : Char}
  {ss : List (List Char)}

theorem contains_iff_occurs : contains word text ↔ word <:+: text := by
  induction text with
  | nil => simp [contains]
  | cons c cs ih => rw [contains, Bool.or_eq_true, ih, List.isPrefixOf_iff_prefix,
      List.infix_cons_iff]

theorem prefix_append_cons_iff (h : x ∉ word) : word <+: a ++ x :: b ↔ word <+: a := by
  induction a generalizing word with
  | nil =>
    cases word with
    | nil => simp
    | cons c cs =>
      have hc : c ≠ x := fun hc => h (hc ▸ List.mem_cons_self)
      simp [List.cons_prefix_cons, hc]
  | cons y ys ih =>
    cases word with
    | nil => simp
    | cons c cs =>
      rw [List.cons_append, List.cons_prefix_cons, List.cons_prefix_cons,
        ih fun hx => h (List.mem_cons_of_mem c hx)]

theorem infix_append_cons_iff (hne : word ≠ []) (h : x ∉ word) :
    word <:+: a ++ x :: b ↔ word <:+: a ∨ word <:+: b := by
  induction a with
  | nil =>
    have hprefix : ¬ word <+: x :: b := by
      rw [← List.nil_append (x :: b), prefix_append_cons_iff h, List.prefix_nil]
      exact hne
    rw [List.nil_append, List.infix_cons_iff, List.infix_nil]
    exact or_congr_left (iff_of_false hprefix hne)
  | cons y ys ih =>
    rw [List.cons_append, List.infix_cons_iff, ih, List.infix_cons_iff, ← List.cons_append,
      prefix_append_cons_iff h, or_assoc]

theorem infix_joined_iff (hne : word ≠ []) (h : '/' ∉ word) :
    word <:+: joined ss ↔ ∃ s ∈ ss, word <:+: s := by
  induction ss with
  | nil => simpa [joined, Text.joined] using hne
  | cons s ss ih =>
    cases ss with
    | nil => simp [joined, Text.joined]
    | cons t ts =>
      change word <:+: s ++ '/' :: joined (t :: ts) ↔ _
      rw [infix_append_cons_iff hne h, ih]
      simp

theorem contains_iff_exists_segment (hne : word ≠ []) (h : '/' ∉ word) :
    contains word path ↔ ∃ s ∈ segments path, contains word s := by
  rw [contains_iff_occurs, ← joined_segments path, infix_joined_iff hne h, joined_segments]
  simp only [contains_iff_occurs]

theorem filterMap_segments_anchored (path : List Char) :
    (segments (anchored path).2).filterMap component? =
      (segments path).filterMap component? := by
  fun_cases anchored path <;> rfl

theorem name_of_component? {t : List Char} (h : component? t = some (.name s)) : t = s := by
  unfold component? at h
  split at h
  · cases h
  · split at h <;> cases h
    rfl

theorem name_mem_components_iff :
    .name s ∈ components path ↔ s ∈ segments path ∧ component? s = some (.name s) := by
  have hanchor : .name s ∉ (anchored path).1.toList := by
    fun_cases anchored path <;> simp
  rw [components, List.mem_append, filterMap_segments_anchored, List.mem_filterMap,
    or_iff_right hanchor]
  constructor
  · rintro ⟨t, ht, hname⟩
    cases name_of_component? hname
    exact ⟨ht, hname⟩
  · rintro ⟨hs, hname⟩
    exact ⟨s, hs, hname⟩

theorem component?_of_contains (h : contains checkedMark s) : component? s = some (.name s) := by
  unfold component?
  split
  · next hs => rcases hs with rfl | rfl <;> cases h
  · split
    · next hs =>
      subst hs
      cases h
    · rfl

/-- Whether the mark of guarded files occurs in a path can be told from its names. -/
theorem contains_mark_iff :
    contains checkedMark path ↔ ∃ s, .name s ∈ components path ∧ contains checkedMark s := by
  rw [contains_iff_exists_segment (by decide) (by decide)]
  constructor
  · rintro ⟨s, hs, hmark⟩
    exact ⟨s, name_mem_components_iff.2 ⟨hs, component?_of_contains hmark⟩, hmark⟩
  · rintro ⟨s, hs, hmark⟩
    exact ⟨s, (name_mem_components_iff.1 hs).1, hmark⟩

theorem contains_mark_of_components {rest : List Component}
    (h : components path = components q ++ rest) (hq : ¬ contains checkedMark q) :
    contains checkedMark path ↔ ∃ s, .name s ∈ rest ∧ contains checkedMark s := by
  rw [contains_mark_iff] at hq ⊢
  rw [h]
  constructor
  · rintro ⟨s, hs, hmark⟩
    rcases List.mem_append.1 hs with hs | hs
    · exact absurd ⟨s, hs, hmark⟩ hq
    · exact ⟨s, hs, hmark⟩
  · rintro ⟨s, hs, hmark⟩
    exact ⟨s, List.mem_append_right _ hs, hmark⟩

theorem extension?_congr (h : (components p).getLast? = (components q).getLast?) :
    extension? p = extension? q := by
  rw [extension?, extension?, h]

/-- If the roots are free of the mark of guarded files, a file other than the input root is a
candidate exactly if its output is one. -/
theorem isCandidate_output (h : output file inputRoot outputRoot = .ok p) (hinput : inputRoot ≠ [])
    (hunmarked : contains checkedMark inputRoot = false ∧ contains checkedMark outputRoot = false)
    (hfile : components file ≠ components inputRoot) : isCandidate p = isCandidate file := by
  obtain ⟨rest, hcomponents, hp⟩ := components_output h hinput
  have hrest : rest ≠ [] := by
    rintro rfl
    exact hfile (by rw [hcomponents, List.append_nil])
  have hmark : contains checkedMark p = contains checkedMark file := by
    rw [Bool.eq_iff_iff, contains_mark_of_components hp (by simp [hunmarked.2]),
      contains_mark_of_components hcomponents (by simp [hunmarked.1])]
  have hextension : extension? p = extension? file := by
    apply extension?_congr
    rw [hp, hcomponents, List.getLast?_append_of_ne_nil _ hrest,
      List.getLast?_append_of_ne_nil _ hrest]
  rw [isCandidate, isCandidate, hmark, hextension]

/-- The last name decides on the extension although separators and dots follow it, and the dots of a
name in front of it decide on nothing. -/
theorem isCandidate_output_dotted :
    output ".//src/.checks/../mod.d.ts/.".toList "./src/".toList "/out.d".toList =
      .ok "/out.d/.checks/../mod.d.ts".toList ∧
    "./src/".toList ≠ [] ∧
    (contains checkedMark "./src/".toList = false ∧
      contains checkedMark "/out.d".toList = false) ∧
    components ".//src/.checks/../mod.d.ts/.".toList ≠ components "./src/".toList ∧
    isCandidate "/out.d/.checks/../mod.d.ts".toList =
      isCandidate ".//src/.checks/../mod.d.ts/.".toList ∧
    isCandidate "/out.d/.checks/../mod.d.ts".toList = true := by
  have h : output ".//src/.checks/../mod.d.ts/.".toList "./src/".toList "/out.d".toList =
      .ok "/out.d/.checks/../mod.d.ts".toList := by decide +kernel
  have hunmarked : contains checkedMark "./src/".toList = false ∧
      contains checkedMark "/out.d".toList = false := by decide +kernel
  have hfile : components ".//src/.checks/../mod.d.ts/.".toList ≠ components "./src/".toList := by
    decide +kernel
  exact ⟨h, by decide, hunmarked, hfile, isCandidate_output h (by decide) hunmarked hfile,
    by decide +kernel⟩

end TypeGuard.Path
