import TypeGuard.Log.Config

namespace TypeGuard

namespace Text

variable {c : Char} {before cs letters : List Char}

theorem toNat_ofNat {n : Nat} (h : n.isValidChar) : (Char.ofNat n).toNat = n := by
  rw [Char.ofNat, dif_pos h]
  rfl

theorem toLower_past_ascii (h : 0x80 ≤ c.toNat) : c.toLower = c := by
  unfold Char.toLower
  rw [dif_neg]
  rintro ⟨-, hle⟩
  have hz : c.toNat ≤ 'Z'.toNat := hle
  exact absurd (Nat.le_trans h hz) (by decide)

theorem lowercaseRuns_past_ascii : ∀ r ∈ lowercaseRuns,
    (0x80 ≤ r.lo + r.shift ∧ r.hi + r.shift < 0xD800) ∨
      (0xDFFF < r.lo + r.shift ∧ r.hi + r.shift < 0x110000) ∨
      (r.lo = 0x212A ∧ r.hi = 0x212A ∧ r.shift = -8383) := by
  decide +kernel

theorem lowercaseChar_past_ascii (h : 0x80 ≤ c.toNat) :
    ∃ x xs, lowercaseChar c = x :: xs ∧ (0x80 ≤ x.toNat ∨ x = 'i' ∨ x = 'k') := by
  unfold lowercaseChar
  rw [if_neg (Nat.not_lt_of_le h)]
  split
  · exact ⟨'i', ['\u0307'], rfl, .inr (.inl rfl)⟩
  · split
    · next r hr =>
      refine ⟨_, [], rfl, ?_⟩
      have hcovers := List.find?_some hr
      simp only [CaseRun.covers, Bool.and_eq_true, decide_eq_true_eq] at hcovers
      obtain ⟨⟨hlo, hhi⟩, -⟩ := hcovers
      rcases lowercaseRuns_past_ascii r (List.mem_of_find?_eq_some hr) with
        ⟨hlow, hhigh⟩ | ⟨hlow, hhigh⟩ | ⟨hlow, hhigh, hshift⟩
      · left
        rw [toNat_ofNat (.inl (by omega))]
        omega
      · left
        rw [toNat_ofNat (.inr (by omega))]
        omega
      · right
        right
        have hc : c.toNat = 0x212A := by omega
        rw [hc, hshift]
        rfl
    · exact ⟨c, [], rfl, .inl h⟩

theorem lowercaseBetween_past_ascii (before after : List Char) (h : 0x80 ≤ c.toNat) :
    ∃ x xs, lowercaseBetween before c after = x :: xs ∧ (0x80 ≤ x.toNat ∨ x = 'i' ∨ x = 'k') := by
  unfold lowercaseBetween
  split
  · refine ⟨_, [], rfl, .inl ?_⟩
    split <;> decide
  · exact lowercaseChar_past_ascii h

theorem lowercaseBetween_ascii (before after : List Char) (h : c.toNat < 0x80) :
    lowercaseBetween before c after = [c.toLower] := by
  have hne : c ≠ 'Σ' := by
    rintro rfl
    exact absurd h (by decide)
  rw [lowercaseBetween, if_neg hne, lowercaseChar, if_pos h]

/-- For a word of ASCII letters other than `i` and `k` the full mapping finds no more spellings than
the one that only knows ASCII. -/
theorem lowercaseAfter_eq_iff (h : ∀ x ∈ letters, x.toNat < 0x80 ∧ x ≠ 'i' ∧ x ≠ 'k') :
    lowercaseAfter before cs = letters ↔ cs.map Char.toLower = letters := by
  induction cs generalizing before letters with
  | nil => rfl
  | cons c cs ih =>
    rw [lowercaseAfter, List.map_cons]
    rcases Nat.lt_or_ge c.toNat 0x80 with hc | hc
    · rw [lowercaseBetween_ascii before cs hc, List.singleton_append]
      cases letters with
      | nil => simp
      | cons x xs =>
        have hxs := fun y hy => h y (List.mem_cons_of_mem x hy)
        rw [List.cons_eq_cons, List.cons_eq_cons, ih hxs]
    · obtain ⟨y, ys, hy, hcases⟩ := lowercaseBetween_past_ascii before cs hc
      rw [hy, toLower_past_ascii hc, List.cons_append]
      constructor
      · rintro rfl
        obtain ⟨hlt, hi, hk⟩ := h y List.mem_cons_self
        rcases hcases with hle | rfl | rfl
        · exact absurd hlt (Nat.not_lt_of_le hle)
        · exact absurd rfl hi
        · exact absurd rfl hk
      · rintro rfl
        exact absurd (h c List.mem_cons_self).1 (Nat.not_lt_of_le hc)

end Text

namespace Log

variable {text : String}

theorem asksForJson_iff : asksForJson text ↔
    text = "1" ∨ (text.length = 4 ∧ text.toList.map Char.toLower = "true".toList) := by
  have hlower : Text.lowercase text = "true" ↔ text.toList.map Char.toLower = "true".toList := by
    rw [Text.lowercase, ← String.toList_inj, String.toList_ofList]
    exact Text.lowercaseAfter_eq_iff (by simp)
  have hlength (h : text.toList.map Char.toLower = "true".toList) : text.length = 4 := by
    rw [← String.length_toList, ← List.length_map Char.toLower, h]
    rfl
  rw [asksForJson, Bool.or_eq_true, beq_iff_eq, beq_iff_eq, hlower, or_comm]
  constructor
  · rintro (h | h)
    · exact .inl h
    · exact .inr ⟨hlength h, h⟩
  · rintro (h | ⟨-, h⟩)
    · exact .inl h
    · exact .inr h

/-- JSON lines are turned on by `1` and by the spellings of `true` in ASCII letters, and by nothing
else. The filter is the first of two variables that is set, be it to the empty text. -/
theorem ofLookup_settings (lookup : String → Option String) :
    ((Config.ofLookup lookup).json = true ↔ ∃ text, lookup "ACT_JSON_LOGS" = some text ∧
      (text = "1" ∨ (text.length = 4 ∧ text.toList.map Char.toLower = "true".toList))) ∧
    (Config.ofLookup lookup).filter =
      match lookup "ACT_LOG_LEVEL", lookup "RUST_LOG" with
      | some text, _ => text
      | none, some text => text
      | none, none => "info" := by
  constructor
  · change ((lookup "ACT_JSON_LOGS").map asksForJson).getD false = true ↔ _
    cases lookup "ACT_JSON_LOGS" with
    | none => simp
    | some text =>
      rw [Option.map_some, Option.getD_some, asksForJson_iff]
      simp
  · change ((lookup "ACT_LOG_LEVEL").or (lookup "RUST_LOG")).getD "info" = _
    cases lookup "ACT_LOG_LEVEL" with
    | none => cases lookup "RUST_LOG" <;> rfl
    | some text => rfl

end Log

end TypeGuard
