import TypeGuard.Proofs.Weaving

namespace TypeGuard

structure Chunk where
  start : Nat
  bytes : List UInt8
deriving Repr, DecidableEq

def Chunk.Covers (c : Chunk) (j : Nat) : Prop :=
  c.start ≤ j ∧ j < c.start + c.bytes.length

/-- No position belongs to both chunks. -/
def Chunk.Apart (c c' : Chunk) : Prop :=
  ∀ j, ¬(c.Covers j ∧ c'.Covers j)

/-- Where a position goes when so many bytes are inserted at a place. -/
def shifted (place size j : Nat) : Nat :=
  if place ≤ j then j + size else j

/-- Where a chunk goes when so many bytes are inserted at a place outside of it. -/
def Chunk.moved (place size : Nat) (c : Chunk) : Chunk :=
  { c with start := shifted place size c.start }

def Chunk.spliced (place : Nat) (bytes : List UInt8) (chunks : List Chunk) : List Chunk :=
  chunks.map (Chunk.moved place bytes.length) ++ [⟨place, bytes⟩]

/-- The layout of a buffer: the bytes of the source at their moved offsets, and chunks that take up
all other positions, no position twice. -/
structure Buffer.Laid (source : List UInt8) (chunks : List Chunk) (b : Buffer) : Prop where
  length_eq : b.bytes.length = source.length + b.drift.total
  drifted_length : b.drift.drifted source.length = b.bytes.length
  source_at : ∀ i < source.length, b.bytes[b.drift.drifted i]? = source[i]?
  chunk_at : ∀ c ∈ chunks, ∀ k < c.bytes.length, b.bytes[c.start + k]? = c.bytes[k]?
  covers_iff : ∀ j < b.bytes.length,
    (∃ c ∈ chunks, c.Covers j) ↔ ∀ i < source.length, b.drift.drifted i ≠ j
  apart : chunks.Pairwise Chunk.Apart

variable {source xs ys : List UInt8} {chunks : List Chunk} {b : Buffer} {p : Patch} {c c' : Chunk}
  {place size i j k : Nat}

theorem shifted_inj : shifted place size i = shifted place size j ↔ i = j := by
  unfold shifted
  split <;> split <;> omega

theorem shifted_lt_iff (h : place ≤ k) : shifted place size j < k + size ↔ j < k := by
  unfold shifted
  split <;> omega

theorem not_covers_shifted : ¬(⟨place, xs⟩ : Chunk).Covers (shifted place xs.length j) := by
  unfold Chunk.Covers shifted
  dsimp only
  split <;> omega

theorem covers_or_shifted (place : Nat) (xs : List UInt8) (j : Nat) :
    (⟨place, xs⟩ : Chunk).Covers j ∨ ∃ i, shifted place xs.length i = j := by
  unfold Chunk.Covers shifted
  dsimp only
  rcases Nat.lt_or_ge j place with hlt | hge
  · exact .inr ⟨j, if_neg (Nat.not_le_of_lt hlt)⟩
  · rcases Nat.lt_or_ge j (place + xs.length) with hin | hpast
    · exact .inl ⟨hge, hin⟩
    · refine .inr ⟨j - xs.length, ?_⟩
      rw [if_pos (by omega)]
      omega

/-- All offsets of the source move as positions of the buffer do. -/
theorem Drift.drifted_register_eq_shifted (d : Drift) (offset size k : Nat) :
    (d.register offset size).drifted k = shifted (d.drifted offset) size (d.drifted k) := by
  rw [drifted_register, shifted]
  simp only [drifted_le_iff]
  split <;> rfl

theorem getElem?_inserted_shifted (h : place ≤ xs.length) :
    (xs.take place ++ ys ++ xs.drop place)[shifted place ys.length j]? = xs[j]? := by
  have hlen : (xs.take place).length = place := List.length_take_of_le h
  unfold shifted
  split
  case isTrue hj =>
    rw [List.getElem?_append_right (by rw [List.length_append, hlen]; omega), List.length_append,
      hlen, List.getElem?_drop]
    congr 1
    omega
  case isFalse hj =>
    rw [List.append_assoc, List.getElem?_append_left (by omega),
      List.getElem?_take_of_lt (by omega)]

theorem getElem?_inserted (h : place ≤ xs.length) (hk : k < ys.length) :
    (xs.take place ++ ys ++ xs.drop place)[place + k]? = ys[k]? := by
  have hlen : (xs.take place).length = place := List.length_take_of_le h
  rw [List.append_assoc, List.getElem?_append_right (by omega), hlen, Nat.add_sub_cancel_left,
    List.getElem?_append_left hk]

/-- A place is no inner position of a chunk. -/
def Chunk.Spares (place : Nat) (c : Chunk) : Prop :=
  place ≤ c.start ∨ c.start + c.bytes.length ≤ place

theorem Chunk.Spares.shifted_add (h : c.Spares place) (hk : k < c.bytes.length) :
    shifted place size (c.start + k) = (c.moved place size).start + k := by
  unfold Chunk.Spares at h
  unfold Chunk.moved shifted
  dsimp only
  split <;> split <;> omega

theorem Chunk.Spares.covers_moved_iff (h : c.Spares place) :
    (c.moved place size).Covers (shifted place size j) ↔ c.Covers j := by
  unfold Chunk.Spares at h
  unfold Chunk.Covers Chunk.moved shifted
  dsimp only
  split <;> split <;> omega

theorem Chunk.Spares.not_covers (h : c.Spares place) (hj : (⟨place, xs⟩ : Chunk).Covers j) :
    ¬(c.moved place xs.length).Covers j := by
  unfold Chunk.Spares at h
  unfold Chunk.Covers Chunk.moved shifted at *
  dsimp only at hj ⊢
  split <;> omega

theorem Chunk.mem_spliced :
    c ∈ Chunk.spliced place xs chunks ↔
      (∃ before ∈ chunks, before.moved place xs.length = c) ∨ c = ⟨place, xs⟩ := by
  rw [Chunk.spliced, List.mem_append, List.mem_map, List.mem_singleton]

theorem Chunk.covered_spliced (chunks : List Chunk) (h : (⟨place, xs⟩ : Chunk).Covers j) :
    ∃ c ∈ Chunk.spliced place xs chunks, c.Covers j :=
  ⟨_, mem_spliced.2 (.inr rfl), h⟩

theorem Chunk.covered_spliced_shifted_iff (h : ∀ c ∈ chunks, c.Spares place) :
    (∃ c ∈ Chunk.spliced place xs chunks, c.Covers (shifted place xs.length j)) ↔
      ∃ c ∈ chunks, c.Covers j := by
  constructor
  · rintro ⟨c, hc, hcover⟩
    rcases mem_spliced.1 hc with ⟨before, hmem, rfl⟩ | rfl
    · exact ⟨before, hmem, (h before hmem).covers_moved_iff.1 hcover⟩
    · exact absurd hcover not_covers_shifted
  · rintro ⟨c, hc, hcover⟩
    exact ⟨_, mem_spliced.2 (.inl ⟨c, hc, rfl⟩), (h c hc).covers_moved_iff.2 hcover⟩

theorem Chunk.Apart.moved (hapart : c.Apart c') (h : c.Spares place) (h' : c'.Spares place) :
    (c.moved place xs.length).Apart (c'.moved place xs.length) := by
  rintro j ⟨hcover, hcover'⟩
  rcases covers_or_shifted place xs j with hnew | ⟨j, rfl⟩
  · exact h.not_covers hnew hcover
  · exact hapart j ⟨h.covers_moved_iff.1 hcover, h'.covers_moved_iff.1 hcover'⟩

theorem Chunk.apart_spliced (hapart : chunks.Pairwise Chunk.Apart)
    (h : ∀ c ∈ chunks, c.Spares place) : (Chunk.spliced place xs chunks).Pairwise Chunk.Apart := by
  rw [Chunk.spliced, List.pairwise_append]
  refine ⟨?old, List.pairwise_singleton _ _, ?new⟩
  case old =>
    rw [List.pairwise_map]
    exact hapart.imp_of_mem fun hc hc' hcc' => hcc'.moved (h _ hc) (h _ hc')
  case new =>
    intro c hold c' hnew j
    obtain ⟨before, hmem, rfl⟩ := List.mem_map.1 hold
    cases List.mem_singleton.1 hnew
    rintro ⟨hcover, hcover'⟩
    exact (h before hmem).not_covers hcover' hcover

theorem Buffer.Laid.lt_length (h : b.Laid source chunks) (hc : c ∈ chunks) (hj : c.Covers j) :
    j < b.bytes.length := by
  obtain ⟨hstart, hend⟩ := hj
  have hk : j - c.start < c.bytes.length := by omega
  have hat := h.chunk_at c hc _ hk
  rw [Nat.add_sub_cancel' hstart, List.getElem?_eq_getElem hk] at hat
  exact (List.getElem?_eq_some_iff.1 hat).1

theorem Buffer.Laid.drifted_le_length (h : b.Laid source chunks) (hi : i ≤ source.length) :
    b.drift.drifted i ≤ b.bytes.length := by
  rw [← h.drifted_length]
  exact (Drift.drifted_le_iff _).2 hi

theorem Buffer.Laid.spares (h : b.Laid source chunks) (hi : i ≤ source.length) (hc : c ∈ chunks) :
    c.Spares (b.drift.drifted i) := by
  rcases Nat.lt_or_ge c.start (b.drift.drifted i) with hstart | hstart
  · rcases Nat.lt_or_ge (b.drift.drifted i) (c.start + c.bytes.length) with hend | hend
    · have hcover : c.Covers (b.drift.drifted i) := ⟨Nat.le_of_lt hstart, hend⟩
      have hlt := h.lt_length hc hcover
      rcases Nat.lt_or_eq_of_le hi with hi | rfl
      · exact absurd rfl ((h.covers_iff _ hlt).1 ⟨c, hc, hcover⟩ i hi)
      · exact absurd h.drifted_length (Nat.ne_of_lt hlt)
    · exact .inr hend
  · exact .inl hstart

theorem Buffer.laid_source (source : List UInt8) : Buffer.Laid source [] { bytes := source } where
  length_eq := rfl
  drifted_length := rfl
  source_at := fun _ _ => rfl
  chunk_at := nofun
  covers_iff := by
    intro j hj
    exact ⟨nofun, fun h => absurd rfl (h j hj)⟩
  apart := .nil

theorem Buffer.drifted_splice (b : Buffer) (p : Patch) (i : Nat) :
    (b.splice p).drift.drifted i =
      shifted (b.drift.drifted p.offset) p.bytes.length (b.drift.drifted i) :=
  b.drift.drifted_register_eq_shifted p.offset p.bytes.length i

theorem Buffer.length_splice (h : b.drift.drifted p.offset ≤ b.bytes.length) :
    (b.splice p).bytes.length = b.bytes.length + p.bytes.length := by
  simp only [Buffer.splice, List.length_append, List.length_take_of_le h, List.length_drop]
  omega

/-- One more patch moves what stands at or after its place, and is a chunk of its own. -/
theorem Buffer.Laid.splice (h : b.Laid source chunks) (hp : p.offset ≤ source.length) :
    (b.splice p).Laid source (Chunk.spliced (b.drift.drifted p.offset) p.bytes chunks) := by
  have hplace := h.drifted_le_length hp
  have hspares : ∀ c ∈ chunks, c.Spares (b.drift.drifted p.offset) := fun c hc => h.spares hp hc
  constructor
  case length_eq =>
    have htotal : (b.splice p).drift.total = b.drift.total + p.bytes.length :=
      b.drift.total_register p.offset p.bytes.length
    rw [length_splice hplace, htotal, h.length_eq, Nat.add_assoc]
  case drifted_length =>
    rw [drifted_splice, h.drifted_length, length_splice hplace, shifted, if_pos hplace]
  case source_at =>
    intro i hi
    rw [drifted_splice, ← h.source_at i hi]
    exact getElem?_inserted_shifted hplace
  case chunk_at =>
    intro c hc k hk
    rcases Chunk.mem_spliced.1 hc with ⟨before, hmem, rfl⟩ | rfl
    · rw [← (hspares before hmem).shifted_add hk]
      exact (getElem?_inserted_shifted hplace).trans (h.chunk_at before hmem k hk)
    · exact getElem?_inserted hplace hk
  case covers_iff =>
    intro j hj
    -- a position of the patch has no offset of the source; any other was a position before
    rcases covers_or_shifted (b.drift.drifted p.offset) p.bytes j with hnew | ⟨j, rfl⟩
    · refine iff_of_true (Chunk.covered_spliced chunks hnew) fun i _ heq => ?_
      rw [← heq, drifted_splice] at hnew
      exact not_covers_shifted hnew
    · rw [length_splice hplace, shifted_lt_iff hplace] at hj
      rw [Chunk.covered_spliced_shifted_iff hspares, h.covers_iff j hj]
      simp only [drifted_splice, ne_eq, shifted_inj]
  case apart => exact Chunk.apart_spliced h.apart hspares

theorem exists_laid_foldl {ps : List Patch} (h : ∀ p ∈ ps, p.offset ≤ source.length) :
    ∃ chunks : List Chunk, chunks.map Chunk.bytes = ps.map Patch.bytes ∧
      (ps.foldl Buffer.splice { bytes := source }).Laid source chunks := by
  induction ps using List.reverseRecOn with
  | nil => exact ⟨[], rfl, Buffer.laid_source source⟩
  | append_singleton ps p ih =>
    obtain ⟨chunks, hbytes, hlaid⟩ := ih fun q hq => h q (List.mem_append_left _ hq)
    rw [List.foldl_append]
    refine ⟨_, ?_, hlaid.splice (h p (by simp))⟩
    rw [Chunk.spliced, List.map_append, List.map_map, List.map_append, ← hbytes]
    rfl

/-- Whatever part of the patches with bytes has been inserted, the buffer has grown by what is on
record, each byte of the source stands where the record says, the place of any offset of the source
lies within the buffer, and the positions that are not those of bytes of the source are those of one
chunk for each patch, with its bytes, no position in two of them. What is left of the patches leads
from there to the result. -/
theorem applyPatches_layout {source : List UInt8} {patches done rest : List Patch}
    (hle : ∀ p ∈ patches, p.offset ≤ source.length)
    (hsplit : (patches.filter fun p => !p.bytes.isEmpty) = done ++ rest) :
    let b := done.foldl Buffer.splice { bytes := source }
    applyPatches source patches = .ok (rest.foldl Buffer.splice b).bytes ∧
    b.bytes.length = source.length + b.drift.total ∧
    (∀ i < source.length, b.bytes[b.drift.drifted i]? = source[i]?) ∧
    (∀ i ≤ source.length, b.drift.drifted i ≤ b.bytes.length) ∧
    ∃ chunks : List Chunk, chunks.map Chunk.bytes = done.map Patch.bytes ∧
      (∀ c ∈ chunks, ∀ k < c.bytes.length, b.bytes[c.start + k]? = c.bytes[k]?) ∧
      (∀ j < b.bytes.length,
        (∃ c ∈ chunks, c.Covers j) ↔ ∀ i < source.length, b.drift.drifted i ≠ j) ∧
      chunks.Pairwise Chunk.Apart := by
  intro b
  have hdone : ∀ p ∈ done, p.offset ≤ source.length := by
    intro p hp
    have hmem : p ∈ patches.filter fun p => !p.bytes.isEmpty := by
      rw [hsplit]
      exact List.mem_append_left _ hp
    exact hle p (List.mem_of_mem_filter hmem)
  obtain ⟨chunks, hbytes, hlaid⟩ := exists_laid_foldl hdone
  refine ⟨?_, hlaid.length_eq, hlaid.source_at, fun i hi => hlaid.drifted_le_length hi,
    chunks, hbytes, hlaid.chunk_at, hlaid.covers_iff, hlaid.apart⟩
  rw [applyPatches_eq_loop hle, hsplit, List.foldl_append]

/-- Two patches are in, the second in front of the first; a third is to follow at its offset. -/
theorem applyPatches_layout_shared :
    let b := [⟨2, [9]⟩, ⟨1, [7, 8]⟩].foldl Buffer.splice { bytes := [1, 2] }
    b.bytes = [1, 7, 8, 2, 9] ∧
      applyPatches [1, 2] [⟨2, [9]⟩, ⟨0, []⟩, ⟨1, [7, 8]⟩, ⟨1, [6]⟩] =
        .ok (b.splice ⟨1, [6]⟩).bytes ∧
      (∀ i < 2, b.bytes[b.drift.drifted i]? = [1, 2][i]?) ∧
      ∃ chunks : List Chunk, chunks.map Chunk.bytes = [[9], [7, 8]] ∧
        (∀ j < 5, (∃ c ∈ chunks, c.Covers j) ↔ ∀ i < 2, b.drift.drifted i ≠ j) ∧
        chunks.Pairwise Chunk.Apart := by
  obtain ⟨hresult, -, hsource, -, chunks, hbytes, -, hcovers, hapart⟩ :=
    @applyPatches_layout [1, 2] [⟨2, [9]⟩, ⟨0, []⟩, ⟨1, [7, 8]⟩, ⟨1, [6]⟩]
      [⟨2, [9]⟩, ⟨1, [7, 8]⟩] [⟨1, [6]⟩] (by decide) (by decide)
  exact ⟨rfl, hresult, hsource, chunks, hbytes, hcovers, hapart⟩

end TypeGuard
