namespace TypeGuard.Text

/-- The parts of a text between separators. There is at least one. -/
def parts (separator : Char) : List Char → List (List Char)
  | [] => [[]]
  | c :: cs =>
    if c = separator then [] :: parts separator cs
    else match parts separator cs with
      | [] => [[c]]
      | p :: ps => (c :: p) :: ps

def joined (separator : Char) : List (List Char) → List Char
  | [] => []
  | [p] => p
  | p :: q :: ps => p ++ separator :: joined separator (q :: ps)

theorem parts_ne_nil (separator : Char) (cs : List Char) : parts separator cs ≠ [] := by
  induction cs with
  | nil => simp [parts]
  | cons c cs ih =>
    rw [parts]
    split
    · simp
    · split <;> simp

theorem joined_parts (separator : Char) (cs : List Char) :
    joined separator (parts separator cs) = cs := by
  induction cs with
  | nil => rfl
  | cons c cs ih =>
    obtain ⟨p, ps, h⟩ := List.exists_cons_of_ne_nil (parts_ne_nil separator cs)
    rw [parts]
    split
    · next hc => rw [h] at ih ⊢; simp [joined, ih, hc]
    · rw [h] at ih ⊢
      cases ps with
      | nil => simpa [joined] using ih
      | cons q ps => simpa [joined] using ih

theorem parts_append (separator : Char) (cs ds : List Char) :
    parts separator (cs ++ separator :: ds) = parts separator cs ++ parts separator ds := by
  induction cs with
  | nil => simp [parts]
  | cons c cs ih =>
    rw [List.cons_append, parts, parts, ih]
    split
    · rfl
    · obtain ⟨p, ps, h⟩ := List.exists_cons_of_ne_nil (parts_ne_nil separator cs)
      rw [h]
      rfl

theorem not_mem_of_mem_parts {separator : Char} {cs p : List Char}
    (h : p ∈ parts separator cs) : separator ∉ p := by
  induction cs generalizing p with
  | nil =>
    cases List.mem_singleton.1 h
    exact List.not_mem_nil
  | cons c cs ih =>
    rw [parts] at h
    split at h
    · rcases List.mem_cons.1 h with rfl | h
      · exact List.not_mem_nil
      · exact ih h
    · next hc =>
      obtain ⟨q, qs, hq⟩ := List.exists_cons_of_ne_nil (parts_ne_nil separator cs)
      rw [hq] at h ih
      rcases List.mem_cons.1 h with rfl | h
      · exact List.not_mem_cons_of_ne_of_not_mem (Ne.symm hc) (ih List.mem_cons_self)
      · exact ih (List.mem_cons_of_mem _ h)

theorem parts_of_not_mem {separator : Char} {p : List Char} (h : separator ∉ p) :
    parts separator p = [p] := by
  induction p with
  | nil => rfl
  | cons c cs ih =>
    rw [List.mem_cons, not_or] at h
    rw [parts, if_neg (Ne.symm h.1), ih h.2]

theorem parts_joined {separator : Char} {ps : List (List Char)} (hne : ps ≠ [])
    (h : ∀ p ∈ ps, separator ∉ p) : parts separator (joined separator ps) = ps := by
  induction ps with
  | nil => exact absurd rfl hne
  | cons p ps ih =>
    rw [List.forall_mem_cons] at h
    cases ps with
    | nil => exact parts_of_not_mem h.1
    | cons q ps =>
      rw [joined, parts_append, parts_of_not_mem h.1, ih (List.cons_ne_nil _ _) h.2]
      rfl

end TypeGuard.Text
