import TypeGuard.Guard.Service
import TypeGuard.Proofs.Weaving

namespace TypeGuard

/-- Whether the type of a parameter is one that `typeof` can tell. -/
def Param.isTested (p : Param) : Bool :=
  p.type = .number ∨ p.type = .string

/-- The guards of a function, one for each parameter that has one, in the order of the
parameters. -/
def FunctionDecl.guardTexts (f : FunctionDecl) (mode : Mode) : List String :=
  f.params.filterMap (Param.guard? · mode)

def Declarations.testedCount (d : Declarations) : Nat :=
  (d.all.map fun f => f.params.countP Param.isTested).sum

def Declarations.guardBytes (d : Declarations) (mode : Mode) : Nat :=
  ((d.all.flatMap (·.guardTexts mode)).map fun text => (Utf8.ofString text).length).sum

variable {f : FunctionDecl} {mode : Mode}

theorem Param.isGuardable_eq (p : Param) : p.type.isGuardable = p.isTested := by
  obtain ⟨name, type⟩ := p
  cases type <;> rfl

theorem Param.isSome_guard? (p : Param) (mode : Mode) : (p.guard? mode).isSome = p.isTested := by
  obtain ⟨name, type⟩ := p
  cases type <;> rfl

theorem FunctionDecl.length_guardTexts (f : FunctionDecl) (mode : Mode) :
    (f.guardTexts mode).length = f.params.countP Param.isTested := by
  unfold guardTexts
  induction f.params with
  | nil => rfl
  | cons p ps ih =>
    have hp := p.isSome_guard? mode
    cases hg : p.guard? mode <;> simp_all

/-- Choosing the parameters by their type and asking each for its guard come to the same. -/
theorem FunctionDecl.patches_eq (f : FunctionDecl) (mode : Mode) :
    f.patches mode = (f.guardTexts mode).map fun text => ⟨f.bodyStart, Utf8.ofString text⟩ := by
  unfold patches guardTexts guardedParams
  rw [List.filterMap_filter]
  congr 2
  funext p
  have hp := p.isSome_guard? mode
  rw [p.isGuardable_eq, ← hp]
  cases p.guard? mode <;> rfl

theorem Config.collect_value (c : Config) (d : Declarations) :
    (c.collect d).value = d.all.flatMap (·.patches c.mode) := by
  simp only [collect, Declarations.all, List.flatMap_append, List.flatMap_assoc]
  rfl

theorem Config.length_collect (c : Config) (d : Declarations) :
    (c.collect d).value.length = d.testedCount := by
  simp only [collect_value, List.length_flatMap, FunctionDecl.patches_eq, List.length_map,
    FunctionDecl.length_guardTexts, Declarations.testedCount]

theorem length_bytes_patches (fs : List FunctionDecl) (mode : Mode) :
    ((fs.flatMap (·.patches mode)).map fun p => p.bytes.length).sum =
      ((fs.flatMap (·.guardTexts mode)).map fun text => (Utf8.ofString text).length).sum := by
  simp only [List.map_flatMap, FunctionDecl.patches_eq, List.map_map]
  rfl

theorem Config.bytes_collect (c : Config) (d : Declarations) :
    ((c.collect d).value.map fun p => p.bytes.length).sum = d.guardBytes c.mode := by
  rw [c.collect_value, length_bytes_patches]
  rfl

theorem Config.exists_guard_of_mem_collect {c : Config} {d : Declarations} {p : Patch}
    (h : p ∈ (c.collect d).value) :
    ∃ f ∈ d.all, p.offset = f.bodyStart ∧ ∃ q ∈ f.params, ∃ text,
      q.guard? c.mode = some text ∧ p.bytes = Utf8.ofString text := by
  rw [c.collect_value, List.mem_flatMap] at h
  obtain ⟨f, hf, hp⟩ := h
  rw [f.patches_eq, List.mem_map] at hp
  obtain ⟨text, htext, rfl⟩ := hp
  obtain ⟨q, hq, hguard⟩ := List.mem_filterMap.1 htext
  exact ⟨f, hf, rfl, q, hq, text, hguard, rfl⟩

theorem Config.mem_collect {c : Config} {d : Declarations} {p : Patch}
    (h : p ∈ (c.collect d).value) :
    ∃ f ∈ d.all, p.offset = f.bodyStart ∧ ∃ text, p.bytes = Utf8.ofString text := by
  obtain ⟨f, hf, hoffset, q, -, text, -, hbytes⟩ := exists_guard_of_mem_collect h
  exact ⟨f, hf, hoffset, text, hbytes⟩

theorem Config.guardSource_of_limit {c : Config} {source : List UInt8} {d : Declarations}
    (h : c.limit < d.testedCount) :
    (c.guardSource source d).value = .error (.tooManyPatches d.testedCount c.limit) := by
  change (c.insert source (c.collect d).value).value = _
  rw [Config.insert, c.length_collect, if_pos h]

theorem Config.guardSource_of_le {c : Config} {source : List UInt8} {d : Declarations}
    (hlimit : ¬ c.limit < d.testedCount)
    (h : ∀ p ∈ (c.collect d).value, p.offset ≤ source.length) :
    (c.guardSource source d).value =
      .ok ⟨weave (bytesAt (c.collect d).value) source, d.testedCount, d.guardBytes c.mode⟩ := by
  have hlen := length_weave_of_le h
  rw [c.bytes_collect] at hlen
  change (c.insert source (c.collect d).value).value = _
  rw [Config.insert, c.length_collect, if_neg hlimit, applyPatches_of_le h]
  simp only [hlen, Nat.add_sub_cancel_left]

theorem Config.guardSource_of_bad {c : Config} {source : List UInt8} {d : Declarations}
    (hlimit : ¬ c.limit < d.testedCount)
    (h : ∃ p ∈ (c.collect d).value, source.length < p.offset) :
    ∃ f ∈ d.all, (c.guardSource source d).value =
      .error (.offsetOutOfBounds f.bodyStart source.length) := by
  rcases bounded_or_first source (c.collect d).value with
    hle | ⟨before, bad, after, hsplit, hbefore, hbad⟩
  · obtain ⟨p, hp, hlt⟩ := h
    exact absurd (hle p hp) (Nat.not_le_of_lt hlt)
  · have hmem : bad ∈ (c.collect d).value := by
      rw [hsplit]
      simp
    obtain ⟨f, hf, hoffset, -⟩ := mem_collect hmem
    refine ⟨f, hf, ?_⟩
    change (c.insert source (c.collect d).value).value = _
    rw [Config.insert, c.length_collect, if_neg hlimit, hsplit, applyPatches_of_first hbefore hbad,
      hoffset]

/-- Guarding succeeds only within the limit and the bounds, and then gives a walk over the source. -/
theorem Config.of_guardSource_eq_ok {c : Config} {source : List UInt8} {d : Declarations}
    {g : Guarded} (h : (c.guardSource source d).value = .ok g) :
    ¬ c.limit < d.testedCount ∧ (∀ p ∈ (c.collect d).value, p.offset ≤ source.length) ∧
      g = ⟨weave (bytesAt (c.collect d).value) source, d.testedCount, d.guardBytes c.mode⟩ := by
  by_cases hlimit : c.limit < d.testedCount
  · rw [guardSource_of_limit hlimit] at h
    cases h
  by_cases hbad : ∃ p ∈ (c.collect d).value, source.length < p.offset
  · obtain ⟨f, -, hvalue⟩ := guardSource_of_bad hlimit hbad
    rw [hvalue] at h
    cases h
  · have hle : ∀ p ∈ (c.collect d).value, p.offset ≤ source.length := by
      simpa using hbad
    rw [guardSource_of_le hlimit hle] at h
    cases h
    exact ⟨hlimit, hle, rfl⟩

theorem FunctionDecl.filter_patches (f : FunctionDecl) (mode : Mode) (i : Nat) :
    ((f.patches mode).filter fun p => p.offset = i) =
      if f.bodyStart = i then f.patches mode else [] := by
  have hoffset : ∀ p ∈ f.patches mode, p.offset = f.bodyStart := by
    rw [f.patches_eq, List.forall_mem_map]
    exact fun _ _ => rfl
  by_cases h : f.bodyStart = i
  · rw [if_pos h, List.filter_eq_self]
    exact fun p hp => decide_eq_true ((hoffset p hp).trans h)
  · rw [if_neg h, List.filter_eq_nil_iff]
    intro p hp
    simpa [hoffset p hp] using h

theorem filter_flatMap_patches (fs : List FunctionDecl) (mode : Mode) (i : Nat) :
    ((fs.flatMap (·.patches mode)).filter fun p => p.offset = i) =
      (fs.filter fun f => f.bodyStart = i).flatMap (·.patches mode) := by
  induction fs with
  | nil => rfl
  | cons f fs ih =>
    rw [List.flatMap_cons, List.filter_append, f.filter_patches, ih]
    by_cases h : f.bodyStart = i
    · rw [if_pos h, List.filter_cons_of_pos (by simpa using h), List.flatMap_cons]
    · rw [if_neg h, List.filter_cons_of_neg (by simpa using h), List.nil_append]

theorem bytesAt_flatMap_patches (fs : List FunctionDecl) (mode : Mode) (i : Nat) :
    bytesAt (fs.flatMap (·.patches mode)) i =
      (fs.filter fun f => f.bodyStart = i).flatMap fun f =>
        (f.guardTexts mode).flatMap Utf8.ofString := by
  rw [bytesAt, filter_flatMap_patches, List.flatMap_assoc]
  apply List.flatMap_congr
  intro f _
  rw [f.patches_eq, List.flatMap_map]

theorem FunctionDecl.find?_patches (f : FunctionDecl) (mode : Mode) (n : Nat) :
    ((f.patches mode).find? fun p => n < p.offset).map Patch.offset =
      if f.params.any Param.isTested ∧ n < f.bodyStart then some f.bodyStart else none := by
  have hlen := f.length_guardTexts mode
  rw [f.patches_eq]
  cases ht : f.guardTexts mode with
  | nil =>
    have hnone : f.params.any Param.isTested = false := by
      rw [ht, List.length_nil, eq_comm, List.countP_eq_zero] at hlen
      rw [List.any_eq_false]
      exact hlen
    simp [hnone]
  | cons text texts =>
    have hsome : f.params.any Param.isTested = true := by
      rw [List.any_eq_true, ← List.countP_pos_iff, ← hlen, ht]
      exact Nat.succ_pos _
    by_cases hn : n < f.bodyStart
    · simp [hsome, hn]
    · simp [hn]

theorem find?_flatMap_patches (fs : List FunctionDecl) (mode : Mode) (n : Nat) :
    ((fs.flatMap (·.patches mode)).find? fun p => n < p.offset).map Patch.offset =
      (fs.find? fun f => f.params.any Param.isTested && n < f.bodyStart).map
        FunctionDecl.bodyStart := by
  induction fs with
  | nil => rfl
  | cons f fs ih =>
    have hf := f.find?_patches mode n
    rw [List.flatMap_cons, List.find?_append, List.find?_cons]
    by_cases hbad : f.params.any Param.isTested ∧ n < f.bodyStart
    · rw [if_pos hbad] at hf
      obtain ⟨p, hp, hoffset⟩ := Option.map_eq_some_iff.1 hf
      simp [hp, hoffset, hbad.1, hbad.2]
    · rw [if_neg hbad, Option.map_eq_none_iff] at hf
      rw [hf, Option.none_or, ih]
      have hfalse : (f.params.any Param.isTested && decide (n < f.bodyStart)) = false := by
        simpa using hbad
      rw [hfalse]

/-- The limit is checked before the offsets, and only functions with tested parameters are asked for
theirs. If neither check fails, one guard is inserted for each tested parameter. -/
theorem guardSource_outcome (c : Config) (source : List UInt8) (d : Declarations) :
    (c.guardSource source d).value.map
        (fun g => (g.guards, g.bytesInserted, g.bytes.length)) =
      if c.limit < d.testedCount then .error (.tooManyPatches d.testedCount c.limit)
      else
        match d.all.find? fun f => f.params.any Param.isTested && source.length < f.bodyStart with
        | some f => .error (.offsetOutOfBounds f.bodyStart source.length)
        | none =>
          .ok (d.testedCount, d.guardBytes c.mode, source.length + d.guardBytes c.mode) := by
  have hfind := find?_flatMap_patches d.all c.mode source.length
  rw [← c.collect_value] at hfind
  by_cases hlimit : c.limit < d.testedCount
  · rw [if_pos hlimit, Config.guardSource_of_limit hlimit]
    rfl
  rw [if_neg hlimit]
  cases hbad : d.all.find? fun f => f.params.any Param.isTested && source.length < f.bodyStart with
  | some f =>
    rw [hbad] at hfind
    obtain ⟨p, hp, hoffset⟩ := Option.map_eq_some_iff.1 hfind
    have happly : applyPatches source (c.collect d).value =
        .error (.offsetOutOfBounds f.bodyStart source.length) := by
      rw [applyPatches, hp, ← hoffset]
    change (c.insert source (c.collect d).value).value.map _ = _
    rw [Config.insert, c.length_collect, if_neg hlimit, happly]
    rfl
  | none =>
    rw [hbad, Option.map_none, Option.map_eq_none_iff, List.find?_eq_none] at hfind
    have hle : ∀ p ∈ (c.collect d).value, p.offset ≤ source.length := by
      intro p hp
      simpa using hfind p hp
    have hlen := length_weave_of_le hle
    rw [c.bytes_collect] at hlen
    rw [Config.guardSource_of_le hlimit hle]
    simp only [Except.map, hlen]

end TypeGuard
