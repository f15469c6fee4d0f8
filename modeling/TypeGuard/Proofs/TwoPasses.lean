import TypeGuard.Proofs.Weaving

namespace TypeGuard

def Patch.drifted (d : Drift) (p : Patch) : Patch :=
  { p with offset := d.drifted p.offset }

variable {source mid : List UInt8} {ps qs : List Patch} {d : Drift} {b b' : Buffer}

/-- Two buffers with the same bytes, the first on the whole record of insertions, the second on what
came after a first pass. -/
def Buffer.Continues (first : Drift) (b b' : Buffer) : Prop :=
  b.bytes = b'.bytes ∧ ∀ i, b.drift.drifted i = b'.drift.drifted (first.drifted i)

theorem Buffer.Continues.splice (h : Buffer.Continues d b b') (p : Patch) :
    Buffer.Continues d (b.splice p) (b'.splice (p.drifted d)) := by
  obtain ⟨hbytes, hdrift⟩ := h
  refine ⟨?_, fun i => ?_⟩
  · simp only [Buffer.splice, Patch.drifted, hbytes, hdrift]
  · simp only [Buffer.splice, Patch.drifted, Drift.drifted_register, hdrift, Drift.drifted_le_iff]

theorem Buffer.Continues.foldl (h : Buffer.Continues d b b') (qs : List Patch) :
    Buffer.Continues d (qs.foldl Buffer.splice b)
      ((qs.map (Patch.drifted d)).foldl Buffer.splice b') := by
  induction qs generalizing b b' with
  | nil => exact h
  | cons q qs ih => exact ih (h.splice q)

theorem applyPatches_eq_foldl (h : ∀ p ∈ ps, p.offset ≤ source.length) :
    applyPatches source ps = .ok (ps.foldl Buffer.splice { bytes := source }).bytes := by
  rw [applyPatches_of_le h, foldl_splice h]

theorem le_of_applyPatches (h : applyPatches source ps = .ok mid) :
    ∀ p ∈ ps, p.offset ≤ source.length := by
  rcases bounded_or_first source ps with hle | ⟨before, bad, after, rfl, hbefore, hbad⟩
  · exact hle
  · rw [applyPatches_of_first hbefore hbad] at h
    cases h

theorem foldl_splice_of_applyPatches (h : applyPatches source ps = .ok mid) :
    ps.foldl Buffer.splice { bytes := source } = ⟨mid, Drift.after ps⟩ := by
  have hle := le_of_applyPatches h
  rw [applyPatches_of_le hle] at h
  cases h
  exact foldl_splice hle

theorem length_of_applyPatches (h : applyPatches source ps = .ok mid) :
    mid.length = (Drift.after ps).drifted source.length := by
  have hmid := applyPatches_of_le (le_of_applyPatches h)
  rw [h] at hmid
  cases hmid
  exact length_weave_bytesAt ps source

/-- Inserting patches after others is one pass with both, or two passes of which the second has its
offsets moved by the record of the first. Both succeed with the same bytes, or both refuse the same
patch, each at the offset and for the length that it knows. -/
theorem applyPatches_append (h : applyPatches source ps = .ok mid) (qs : List Patch) :
    (∃ bytes, applyPatches source (ps ++ qs) = .ok bytes ∧
      applyPatches mid (qs.map (Patch.drifted (Drift.after ps))) = .ok bytes) ∨
    ∃ q ∈ qs, applyPatches source (ps ++ qs) =
        .error (.offsetOutOfBounds q.offset source.length) ∧
      applyPatches mid (qs.map (Patch.drifted (Drift.after ps))) =
        .error (.offsetOutOfBounds ((Drift.after ps).drifted q.offset) mid.length) := by
  have hps := le_of_applyPatches h
  have hlen := length_of_applyPatches h
  rcases bounded_or_first source qs with hqs | ⟨before, bad, after, rfl, hbefore, hbad⟩
  · left
    have hboth : ∀ p ∈ ps ++ qs, p.offset ≤ source.length :=
      List.forall_mem_append.2 ⟨hps, hqs⟩
    have hmoved : ∀ q ∈ qs.map (Patch.drifted (Drift.after ps)), q.offset ≤ mid.length := by
      rw [List.forall_mem_map, hlen]
      intro q hq
      exact (Drift.drifted_le_iff _).2 (hqs q hq)
    refine ⟨_, applyPatches_eq_foldl hboth, ?_⟩
    have hstart : Buffer.Continues (Drift.after ps) ⟨mid, Drift.after ps⟩ { bytes := mid } :=
      ⟨rfl, fun _ => rfl⟩
    rw [applyPatches_eq_foldl hmoved, List.foldl_append, foldl_splice_of_applyPatches h,
      (hstart.foldl qs).1]
  · right
    refine ⟨bad, by simp, ?_, ?_⟩
    · rw [← List.append_assoc]
      exact applyPatches_of_first (List.forall_mem_append.2 ⟨hps, hbefore⟩) hbad
    · rw [List.map_append, List.map_cons]
      apply applyPatches_of_first
      · rw [List.forall_mem_map, hlen]
        intro q hq
        exact (Drift.drifted_le_iff _).2 (hbefore q hq)
      · rw [hlen]
        exact (Drift.drifted_strictMono _) hbad

/-- The first pass inserts at both ends, the second in between and, again, at the end. -/
theorem applyPatches_append_shared_end :
    applyPatches [1, 2] [⟨2, [9]⟩, ⟨0, [8, 8]⟩] = .ok [8, 8, 1, 2, 9] ∧
    applyPatches [8, 8, 1, 2, 9] [⟨3, [7]⟩, ⟨5, [6]⟩] = .ok [8, 8, 1, 7, 2, 9, 6] ∧
    ∃ bytes, applyPatches [1, 2] [⟨2, [9]⟩, ⟨0, [8, 8]⟩, ⟨1, [7]⟩, ⟨2, [6]⟩] = .ok bytes ∧
      applyPatches [8, 8, 1, 2, 9] [⟨3, [7]⟩, ⟨5, [6]⟩] = .ok bytes := by
  have h : applyPatches [1, 2] [⟨2, [9]⟩, ⟨0, [8, 8]⟩] = .ok [8, 8, 1, 2, 9] := by rfl
  refine ⟨h, rfl, ?_⟩
  rcases applyPatches_append h [⟨1, [7]⟩, ⟨2, [6]⟩] with hok | ⟨q, -, herror, -⟩
  · exact hok
  · cases herror

end TypeGuard
