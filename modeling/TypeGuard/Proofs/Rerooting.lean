import TypeGuard.Proofs.Components

namespace TypeGuard.Path

variable {file other inputRoot outputRoot p q : List Char}

theorem output_eq_ok_iff :
    output file inputRoot outputRoot = .ok p ↔
      ∃ rest, strip? inputRoot file = some rest ∧ under outputRoot rest = p := by
  unfold output
  cases strip? inputRoot file <;> simp

theorem output_isOk_iff :
    (∃ p, output file inputRoot outputRoot = .ok p) ↔
      components inputRoot <+: components file := by
  rw [← isSome_strip?_iff, Option.isSome_iff_exists]
  constructor
  · rintro ⟨p, hp⟩
    obtain ⟨rest, hrest, -⟩ := output_eq_ok_iff.1 hp
    exact ⟨rest, hrest⟩
  · rintro ⟨rest, hrest⟩
    exact ⟨_, output_eq_ok_iff.2 ⟨rest, hrest, rfl⟩⟩

theorem output_of_outside (h : ¬ components inputRoot <+: components file) :
    output file inputRoot outputRoot = .error (.outsideInputRoot (String.ofList file)) := by
  rw [← isSome_strip?_iff, Option.not_isSome_iff_eq_none] at h
  rw [output, h]

theorem components_output (h : output file inputRoot outputRoot = .ok p) (hinput : inputRoot ≠ []) :
    ∃ rest, components file = components inputRoot ++ rest ∧
      components p = components outputRoot ++ rest := by
  obtain ⟨rest, hrest, rfl⟩ := output_eq_ok_iff.1 h
  obtain ⟨hplain, hfile⟩ := components_of_strip? hrest hinput
  exact ⟨components rest, hfile, hplain.components_under outputRoot⟩

theorem components_output_inj (hp : output file inputRoot outputRoot = .ok p)
    (hq : output other inputRoot outputRoot = .ok q) (hinput : inputRoot ≠ [])
    (h : components p = components q) : components file = components other := by
  obtain ⟨rest, hfile, hrest⟩ := components_output hp hinput
  obtain ⟨rest', hother, hrest'⟩ := components_output hq hinput
  rw [hrest, hrest', List.append_cancel_left_eq] at h
  rw [hfile, hother, h]

theorem output_output (h : output file inputRoot outputRoot = .ok p) (hinput : inputRoot ≠ []) :
    ∃ q, output p outputRoot inputRoot = .ok q ∧ components q = components file := by
  obtain ⟨rest, hrest, rfl⟩ := output_eq_ok_iff.1 h
  obtain ⟨hplain, hfile⟩ := components_of_strip? hrest hinput
  have hp := hplain.components_under outputRoot
  have hback : components outputRoot <+: components (under outputRoot rest) :=
    ⟨components rest, hp.symm⟩
  obtain ⟨rest', hrest'⟩ := Option.isSome_iff_exists.1 (isSome_strip?_iff.2 hback)
  refine ⟨_, output_eq_ok_iff.2 ⟨rest', hrest', rfl⟩, ?_⟩
  -- The empty output root may keep the text as it is, so only the components are known again.
  have hsame : Unanchored rest' ∧ components rest' = components rest := by
    by_cases houtput : outputRoot = []
    · subst houtput
      have hsame : components rest' = components rest := by
        rw [components_of_strip?_nil hrest', hp]
        rfl
      exact ⟨by rwa [unanchored_iff, hsame, ← unanchored_iff], hsame⟩
    · obtain ⟨hplain', hp'⟩ := components_of_strip? hrest' houtput
      rw [hp, List.append_cancel_left_eq] at hp'
      exact ⟨hplain', hp'.symm⟩
  rw [hsame.1.components_under, hsame.2, hfile]

/-- Under an input root that is not empty, exactly the files with its components have an output. The
output has the components of the output root in their place; no two places share one, and the way
back leads to the file. Every other file is refused by its name. -/
theorem output_replaces_root (file inputRoot outputRoot : List Char) (hinput : inputRoot ≠ []) :
    ((∃ p, output file inputRoot outputRoot = .ok p) ↔
      components inputRoot <+: components file) ∧
    (∀ p, output file inputRoot outputRoot = .ok p →
      components p =
        components outputRoot ++ (components file).drop (components inputRoot).length) ∧
    (∀ p other q, output file inputRoot outputRoot = .ok p →
      output other inputRoot outputRoot = .ok q → components file ≠ components other →
        components p ≠ components q) ∧
    (∀ p, output file inputRoot outputRoot = .ok p →
      ∃ q, output p outputRoot inputRoot = .ok q ∧ components q = components file) ∧
    (¬ components inputRoot <+: components file →
      output file inputRoot outputRoot = .error (.outsideInputRoot (String.ofList file))) := by
  refine ⟨output_isOk_iff, fun p hp => ?_, fun p other q hp hq hne heq => ?_,
    fun p hp => output_output hp hinput, output_of_outside⟩
  · obtain ⟨rest, hfile, hrest⟩ := components_output hp hinput
    rw [hrest, hfile, List.drop_left]
  · exact hne (components_output_inj hp hq hinput heq)

theorem output_replaces_root_dotted :
    "./src/".toList ≠ [] ∧
    output ".//src/a/.././/mod.ts/.".toList "./src/".toList "/out".toList =
      .ok "/out/a/.././/mod.ts".toList ∧
    components "/out/a/.././/mod.ts".toList =
      [.root, .name "out".toList, .name "a".toList, .parent, .name "mod.ts".toList] ∧
    ∃ q, output "/out/a/.././/mod.ts".toList "/out".toList "./src/".toList = .ok q ∧
      components q = components ".//src/a/.././/mod.ts/.".toList := by
  have h : output ".//src/a/.././/mod.ts/.".toList "./src/".toList "/out".toList =
      .ok "/out/a/.././/mod.ts".toList := by decide +kernel
  exact ⟨by decide, h, by decide +kernel,
    (output_replaces_root _ _ _ (by decide)).2.2.2.1 _ h⟩

/-- The output lies under the output root, unless the input root is empty and the file absolute:
then the output is the file, and lies there only by chance. -/
theorem output_under_root_iff (h : output file inputRoot outputRoot = .ok p) :
    ((strip? outputRoot p).isSome ↔ components outputRoot <+: components p) ∧
    (components outputRoot <+: components p ↔
      (inputRoot = [] → file.head? = some '/' → components outputRoot <+: components file)) := by
  refine ⟨isSome_strip?_iff, ?_⟩
  by_cases hinput : inputRoot = []
  · subst hinput
    obtain ⟨rest, hrest, rfl⟩ := output_eq_ok_iff.1 h
    have hcomponents := components_of_strip?_nil hrest
    have habsolute : rest.head? = some '/' ↔ file.head? = some '/' := by
      rw [head?_eq_slash_iff, head?_eq_slash_iff, hcomponents]
    by_cases hfile : file.head? = some '/'
    · rw [under, if_pos (habsolute.2 hfile), hcomponents]
      simp [hfile]
    · refine iff_of_true ?_ fun _ hfile' => absurd hfile' hfile
      by_cases houtput : outputRoot = []
      · subst houtput
        exact List.nil_prefix
      · rw [components_under (mt habsolute.1 hfile) houtput]
        exact List.prefix_append _ _
  · obtain ⟨rest, -, hp⟩ := components_output h hinput
    exact iff_of_true ⟨rest, hp.symm⟩ fun hempty => absurd hempty hinput

theorem output_under_root_relative :
    output "./a//b.ts".toList [] "out/".toList = .ok "out/./a//b.ts".toList ∧
    components "out/".toList <+: components "out/./a//b.ts".toList := by
  have h : output "./a//b.ts".toList [] "out/".toList = .ok "out/./a//b.ts".toList := by
    decide +kernel
  exact ⟨h, (output_under_root_iff h).2.2 fun _ hfile => absurd hfile (by decide)⟩

/-- An absolute file leaves the output root behind if the input root is empty. -/
theorem output_outside_root :
    output "/etc/mod.ts".toList [] "out".toList = .ok "/etc/mod.ts".toList ∧
    ¬ components "out".toList <+: components "/etc/mod.ts".toList ∧
    strip? "out".toList "/etc/mod.ts".toList = none := by
  decide +kernel

end TypeGuard.Path
