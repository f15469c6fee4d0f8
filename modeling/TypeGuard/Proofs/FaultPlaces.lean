import TypeGuard.Proofs.Accounting
import TypeGuard.Proofs.Boundary

namespace TypeGuard

open Log (Event)
open TypeScript (Fault)

variable {source : List Char} {e : Event}

theorem TypeScript.Fault.offset_le_length (f : Fault source) :
    f.offset ≤ (Utf8.encode source).length := by
  rw [Utf8.length_encode]
  exact f.offset_le

theorem exists_fault_of_mem_events (he : e ∈ (extract source).events)
    (hmessage : e.message = "Recovered from TypeScript syntax error") :
    ∃ f : Fault source, e = f.recovered := by
  rcases extract_cases source with ⟨error, h⟩ | ⟨reading, -, h⟩
  · rw [h] at he
    cases he
  · rw [h] at he
    rcases List.mem_append.1 he with hf | hcount
    · obtain ⟨f, -, rfl⟩ := List.mem_map.1 hf
      exact ⟨f, rfl⟩
    · rw [List.mem_singleton.1 hcount] at hmessage
      have hne : "Extracted declarations" ≠ "Recovered from TypeScript syntax error" := by decide
      exact absurd hmessage hne

theorem exists_fault_of_parse {offset : Nat} {message : String}
    (h : (extract source).value = .error (.parse offset message)) :
    ∃ f : Fault source, f.offset = offset := by
  unfold extract at h
  split at h
  · cases h
  · split at h
    · next fault _ =>
      cases h
      exact ⟨fault, rfl⟩
    · cases h

/-- The offset of an error that ends the reading of a source, and that of each error that does not,
is at most the number of bytes of the source. -/
theorem extract_offsets_le (source : List Char) :
    (∀ offset message, (extract source).value = .error (.parse offset message) →
      offset ≤ (Utf8.encode source).length) ∧
    ∀ d, (extract source).value = .ok d → ∀ e ∈ (extract source).events,
      e.message = "Recovered from TypeScript syntax error" →
        ∃ offset text, e.fields = [("offset", .number offset), ("message", .text text)] ∧
          offset ≤ (Utf8.encode source).length := by
  constructor
  · intro offset message h
    obtain ⟨f, rfl⟩ := exists_fault_of_parse h
    exact f.offset_le_length
  · intro d _ e he hmessage
    obtain ⟨f, rfl⟩ := exists_fault_of_mem_events he hmessage
    exact ⟨f.offset, f.cause.message, rfl, f.offset_le_length⟩

/-- Both kinds of errors are found at the very end of a text with a character of two bytes. -/
theorem extract_offsets_le_at_end :
    (extract "f(é".toList).value = .error (.parse 4 "Unexpected eof") ∧
    4 ≤ (Utf8.encode "f(é".toList).length ∧
    ∃ e offset text, e ∈ (extract "typeof é.".toList).events ∧
      e.fields = [("offset", .number offset), ("message", .text text)] ∧ offset = 10 ∧
      offset ≤ (Utf8.encode "typeof é.".toList).length := by
  have hfatal : (extract "f(é".toList).value = .error (.parse 4 "Unexpected eof") := by rfl
  have hvalue : (extract "typeof é.".toList).value = .ok ⟨[], []⟩ := by rfl
  have hmem : (⟨.warn, readerTarget, "Recovered from TypeScript syntax error",
      [("offset", .number 10), ("message", .text "Unexpected eof")]⟩ : Event) ∈
        (extract "typeof é.".toList).events := by
    have hevents : (extract "typeof é.".toList).events = [⟨.warn, readerTarget,
        "Recovered from TypeScript syntax error",
        [("offset", .number 10), ("message", .text "Unexpected eof")]⟩,
        Declarations.counted readerTarget "Extracted declarations" ⟨[], []⟩] := by rfl
    rw [hevents]
    exact List.mem_cons_self
  obtain ⟨offset, text, hfields, hle⟩ :=
    (extract_offsets_le "typeof é.".toList).2 _ hvalue _ hmem rfl
  refine ⟨hfatal, (extract_offsets_le _).1 _ _ hfatal, _, offset, text, hmem, hfields, ?_, hle⟩
  cases hfields
  rfl

end TypeGuard
