import Mathlib.Algebra.BigOperators.Group.List.Basic
import Mathlib.Data.List.Perm.Basic
import TypeGuard.Proofs.Guarding

namespace TypeGuard

/-- Two lists with the same functions, in which those whose bodies start at the same offset come in
the same order. -/
def Reordered (fs gs : List FunctionDecl) : Prop :=
  ∀ i, (fs.filter fun f => f.bodyStart = i) = gs.filter fun f => f.bodyStart = i

variable {fs gs : List FunctionDecl} {c : Config} {source : List UInt8} {d d' : Declarations}

theorem Reordered.perm (h : Reordered fs gs) : fs.Perm gs := by
  rw [List.perm_iff_count]
  intro f
  have hf := congrArg (List.count f) (h f.bodyStart)
  rwa [List.count_filter (by simp), List.count_filter (by simp)] at hf

/-- What goes to an offset is decided by the order of the functions whose bodies start there. -/
theorem Reordered.bytesAt_eq (h : Reordered d.all d'.all) (c : Config) :
    bytesAt (c.collect d).value = bytesAt (c.collect d').value := by
  funext i
  rw [c.collect_value, c.collect_value, bytesAt_flatMap_patches, bytesAt_flatMap_patches, h i]

theorem Reordered.collect_perm (h : Reordered d.all d'.all) (c : Config) :
    (c.collect d).value.Perm (c.collect d').value := by
  rw [c.collect_value, c.collect_value]
  exact h.perm.flatMap_right _

theorem Reordered.testedCount_eq (h : Reordered d.all d'.all) : d.testedCount = d'.testedCount :=
  (h.perm.map _).sum_eq

theorem Reordered.guardBytes_eq (h : Reordered d.all d'.all) (mode : Mode) :
    d.guardBytes mode = d'.guardBytes mode :=
  ((h.perm.flatMap_right _).map _).sum_eq

/-- Whatever the order of declarations with different starts, guarding gives the same, or it refuses
the same number of guards, or some start is out of bounds each time. -/
theorem guardSource_reordered (h : Reordered d.all d'.all) (c : Config) (source : List UInt8) :
    (∃ g, (c.guardSource source d).value = .ok g ∧ (c.guardSource source d').value = .ok g) ∨
    (∃ n, (c.guardSource source d).value = .error (.tooManyPatches n c.limit) ∧
      (c.guardSource source d').value = .error (.tooManyPatches n c.limit)) ∨
    ∃ f ∈ d.all, ∃ f' ∈ d'.all,
      (c.guardSource source d).value = .error (.offsetOutOfBounds f.bodyStart source.length) ∧
      (c.guardSource source d').value = .error (.offsetOutOfBounds f'.bodyStart source.length) := by
  by_cases hlimit : c.limit < d.testedCount
  · have hlimit' : c.limit < d'.testedCount := h.testedCount_eq ▸ hlimit
    right
    left
    refine ⟨d.testedCount, Config.guardSource_of_limit hlimit, ?_⟩
    rw [Config.guardSource_of_limit hlimit', h.testedCount_eq]
  have hlimit' : ¬ c.limit < d'.testedCount := h.testedCount_eq ▸ hlimit
  have hmem : ∀ p, p ∈ (c.collect d).value ↔ p ∈ (c.collect d').value :=
    fun p => (h.collect_perm c).mem_iff
  by_cases hbad : ∃ p ∈ (c.collect d).value, source.length < p.offset
  · have hbad' : ∃ p ∈ (c.collect d').value, source.length < p.offset := by
      obtain ⟨p, hp, hlt⟩ := hbad
      exact ⟨p, (hmem p).1 hp, hlt⟩
    obtain ⟨f, hf, hvalue⟩ := Config.guardSource_of_bad hlimit hbad
    obtain ⟨f', hf', hvalue'⟩ := Config.guardSource_of_bad hlimit' hbad'
    exact .inr (.inr ⟨f, hf, f', hf', hvalue, hvalue'⟩)
  · have hle : ∀ p ∈ (c.collect d).value, p.offset ≤ source.length := by
      simpa using hbad
    have hle' : ∀ p ∈ (c.collect d').value, p.offset ≤ source.length := fun p hp =>
      hle p ((hmem p).2 hp)
    left
    refine ⟨_, Config.guardSource_of_le hlimit hle, ?_⟩
    rw [Config.guardSource_of_le hlimit' hle', h.bytesAt_eq c, h.testedCount_eq,
      h.guardBytes_eq c.mode]

theorem guardSource_reordered_mixed :
    Reordered
      (Declarations.all ⟨[⟨"f", [⟨"a", .number⟩], 1⟩, ⟨"g", [⟨"b", .string⟩], 1⟩],
        [⟨"K", [⟨"m", [⟨"c", .string⟩], 0⟩]⟩]⟩)
      (Declarations.all ⟨[⟨"m", [⟨"c", .string⟩], 0⟩, ⟨"f", [⟨"a", .number⟩], 1⟩],
        [⟨"K", [⟨"g", [⟨"b", .string⟩], 1⟩]⟩]⟩) ∧
    ∃ g, (Config.guardSource {} [0x7b]
        ⟨[⟨"f", [⟨"a", .number⟩], 1⟩, ⟨"g", [⟨"b", .string⟩], 1⟩],
          [⟨"K", [⟨"m", [⟨"c", .string⟩], 0⟩]⟩]⟩).value = .ok g ∧
      (Config.guardSource {} [0x7b]
        ⟨[⟨"m", [⟨"c", .string⟩], 0⟩, ⟨"f", [⟨"a", .number⟩], 1⟩],
          [⟨"K", [⟨"g", [⟨"b", .string⟩], 1⟩]⟩]⟩).value = .ok g := by
  have h : Reordered
      (Declarations.all ⟨[⟨"f", [⟨"a", .number⟩], 1⟩, ⟨"g", [⟨"b", .string⟩], 1⟩],
        [⟨"K", [⟨"m", [⟨"c", .string⟩], 0⟩]⟩]⟩)
      (Declarations.all ⟨[⟨"m", [⟨"c", .string⟩], 0⟩, ⟨"f", [⟨"a", .number⟩], 1⟩],
        [⟨"K", [⟨"g", [⟨"b", .string⟩], 1⟩]⟩]⟩) := by
    intro i
    match i with
    | 0 => rfl
    | 1 => rfl
    | _ + 2 => rfl
  refine ⟨h, ?_⟩
  rcases guardSource_reordered h {} [0x7b] with hok | ⟨n, hmany, -⟩ | ⟨f, -, f', -, hbad, -⟩
  · exact hok
  · cases hmany
  · cases hbad

end TypeGuard
