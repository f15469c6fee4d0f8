import TypeGuard.Text.Utf8

namespace TypeGuard.TypeScript

/-- A place between two characters of `src`. -/
structure Cursor (src : List Char) where
  offset : Nat
  rest : List Char
  splits : ∃ before, before ++ rest = src ∧ Utf8.byteLength before = offset

namespace Cursor

variable {src : List Char}

def start (src : List Char) : Cursor src :=
  ⟨0, src, [], rfl, rfl⟩

/-- The place `n` characters further on, or the end of the text. -/
def advance (c : Cursor src) (n : Nat) : Cursor src where
  offset := c.offset + Utf8.byteLength (c.rest.take n)
  rest := c.rest.drop n
  splits := by
    obtain ⟨before, hsrc, hlen⟩ := c.splits
    refine ⟨before ++ c.rest.take n, ?_, ?_⟩
    · rw [List.append_assoc, List.take_append_drop, hsrc]
    · rw [Utf8.byteLength_append, hlen]

/-- The place before the character in front of `d`, seen from `c`; `c` itself, if `d` is not
further on. -/
def before (c d : Cursor src) : Cursor src :=
  c.advance (c.rest.length - d.rest.length - 1)

def stop (c : Cursor src) : Cursor src :=
  c.advance c.rest.length

theorem offset_le_advance (c : Cursor src) (n : Nat) : c.offset ≤ (c.advance n).offset :=
  Nat.le_add_right _ _

theorem offset_lt_advance_one {c : Cursor src} {x : Char} (h : c.rest.head? = some x) :
    c.offset < (c.advance 1).offset := by
  change c.offset < c.offset + Utf8.byteLength (c.rest.take 1)
  cases hr : c.rest with
  | nil => simp [hr] at h
  | cons y ys => simpa using y.utf8Size_pos

theorem offset_le (c : Cursor src) : c.offset ≤ Utf8.byteLength src := by
  obtain ⟨before, hsrc, hlen⟩ := c.splits
  have := Utf8.byteLength_append before c.rest
  rw [hsrc] at this
  omega

end Cursor

end TypeGuard.TypeScript
