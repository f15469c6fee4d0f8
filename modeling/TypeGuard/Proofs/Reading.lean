import Mathlib.Data.List.Basic
import Mathlib.Data.List.TakeDrop
import Mathlib.Data.List.TakeWhile
import TypeGuard.Json.Schema

namespace TypeGuard.Json

variable {α β : Type} {s t rest cs : List Char} {c : Char} {n fuel : Nat}

def Reads (r : Reader α) (text : List Char) (a : α) (rest : List Char) : Prop :=
  StateT.run r text = .ok (a, rest)

namespace Reads

variable {r : Reader α} {f : α → Reader β} {a : α} {b : β}

theorem pure (a : α) (s : List Char) : Reads (pure a) s a s := rfl

theorem bind (h : Reads r s a t) (h' : Reads (f a) t b rest) : Reads (r >>= f) s b rest := by
  unfold Reads at *
  rw [StateT.run_bind, h]
  exact h'

theorem map (f : α → β) (h : Reads r s a rest) : Reads (f <$> r) s (f a) rest := by
  unfold Reads at *
  rw [StateT.run_map, h]
  rfl

end Reads

namespace Reader

theorem reads_peek (s : List Char) : Reads peek s s.head? s := rfl

theorem reads_next (c : Char) (cs : List Char) : Reads next (c :: cs) c cs := rfl

theorem reads_advance (c : Char) (cs : List Char) : Reads advance (c :: cs) () cs := rfl

theorem reads_steps (s : List Char) : Reads steps s (2 * s.length + 2) s := rfl

theorem reads_peekToken (h : isBlank c = false) (cs : List Char) :
    Reads peekToken (c :: cs) (some c) (c :: cs) := by
  have hcs : (c :: cs).dropWhile isBlank = c :: cs := List.dropWhile_cons_of_neg (by simp [h])
  change Except.ok (((c :: cs).dropWhile isBlank).head?, (c :: cs).dropWhile isBlank) = _
  rw [hcs]
  rfl

theorem hexDigit?_digitChar (h : n < 16) : hexDigit? (Nat.digitChar n) = some n := by
  revert n
  decide

theorem utf8Size_digitChar (h : n < 16) : (Nat.digitChar n).utf8Size = 1 := by
  revert n
  decide

theorem reads_codeUnit (h : n < 256) (rest : List Char) :
    Reads codeUnit ('0' :: '0' :: Nat.digitChar (n / 16) :: Nat.digitChar (n % 16) :: rest) n
      rest := by
  have hhigh : n / 16 < 16 := by omega
  have hlow : n % 16 < 16 := by omega
  have hzero : hexDigit? '0' = some 0 := rfl
  have hsize : ('0' : Char).utf8Size = 1 := rfl
  have hlength : Utf8.byteLength ['0', '0', Nat.digitChar (n / 16), Nat.digitChar (n % 16)] = 4 := by
    simp [hsize, utf8Size_digitChar hhigh, utf8Size_digitChar hlow]
  have hvalues : ['0', '0', Nat.digitChar (n / 16), Nat.digitChar (n % 16)].mapM hexDigit? =
      some [0, 0, n / 16, n % 16] := by
    simp [hzero, hexDigit?_digitChar hhigh, hexDigit?_digitChar hlow]
  have hn : ((0 * 16 + 0) * 16 + n / 16) * 16 + n % 16 = n := by omega
  unfold codeUnit
  refine Reads.bind rfl ?_
  simp only [List.take_succ_cons, List.take_zero, hlength, hvalues, List.drop_succ_cons,
    List.drop_zero, Nat.lt_irrefl, ↓reduceIte, hn]
  exact Reads.bind rfl (.pure n rest)

theorem reads_unicodeEscape (h : n < 256) (rest : List Char) :
    Reads unicodeEscape ('0' :: '0' :: Nat.digitChar (n / 16) :: Nat.digitChar (n % 16) :: rest)
      (Char.ofNat n) rest := by
  have htrailing : isTrailing n = false := by simp [isTrailing]; omega
  have hleading : isLeading n = false := by simp [isLeading]; omega
  unfold unicodeEscape
  refine (reads_codeUnit h rest).bind ?_
  simp only [htrailing, hleading, Bool.false_eq_true, ↓reduceIte]
  exact .pure _ rest

theorem reads_escape_simple {d : Char} (h : simpleEscape? c = some d) (hc : c ≠ 'u')
    (s : List Char) : Reads escape (c :: s) d s := by
  unfold escape
  refine (reads_next c s).bind ?_
  rw [if_neg hc, h]
  exact .pure d s

theorem reads_escape_unicode (h : n < 256) (rest : List Char) :
    Reads escape ('u' :: '0' :: '0' :: Nat.digitChar (n / 16) :: Nat.digitChar (n % 16) :: rest)
      (Char.ofNat n) rest :=
  (reads_next 'u' _).bind (reads_unicodeEscape h rest)

theorem reads_textRest_escape {u : List Char} (hc : Reads escape u c s)
    (h : Reads (textRest fuel) s cs rest) :
    Reads (textRest (fuel + 1)) ('\\' :: u) (c :: cs) rest :=
  (reads_next '\\' u).bind (hc.bind (h.bind (.pure _ rest)))

theorem reads_textRest_plain (hquote : c ≠ '"') (hslash : c ≠ '\\') (hcontrol : ¬ c.toNat < 0x20)
    (h : Reads (textRest fuel) s cs rest) :
    Reads (textRest (fuel + 1)) (c :: s) (c :: cs) rest := by
  rw [textRest]
  refine (reads_next c s).bind ?_
  rw [if_neg hquote, if_neg hslash, if_neg hcontrol]
  exact h.bind (.pure _ rest)

/-- A character is written as an escape with a letter of its own, by its number or as it is. -/
theorem escaped_cases (c : Char) :
    (∃ e, escaped c = ['\\', e] ∧ simpleEscape? e = some c ∧ e ≠ 'u') ∨
    (c.toNat < 0x20 ∧ escaped c =
      ['\\', 'u', '0', '0', Nat.digitChar (c.toNat / 16), Nat.digitChar (c.toNat % 16)]) ∨
    (c ≠ '"' ∧ c ≠ '\\' ∧ ¬ c.toNat < 0x20 ∧ escaped c = [c]) := by
  unfold escaped
  iterate 7
    split
    · next hc =>
      subst hc
      exact .inl ⟨_, rfl, rfl, by decide⟩
  split
  · next hc => exact .inr (.inl ⟨hc, rfl⟩)
  · next hquote hslash _ _ _ _ _ hcontrol => exact .inr (.inr ⟨hquote, hslash, hcontrol, rfl⟩)

theorem reads_textRest_cons (c : Char) (h : Reads (textRest fuel) s cs rest) :
    Reads (textRest (fuel + 1)) (escaped c ++ s) (c :: cs) rest := by
  obtain ⟨e, heq, he, hu⟩ | ⟨hc, heq⟩ | ⟨hquote, hslash, hcontrol, heq⟩ := escaped_cases c
  · rw [heq]
    exact reads_textRest_escape (reads_escape_simple he hu s) h
  · have hescape := reads_escape_unicode (Nat.lt_trans hc (by decide)) s
    rw [Char.ofNat_toNat] at hescape
    rw [heq]
    exact reads_textRest_escape hescape h
  · rw [heq]
    exact reads_textRest_plain hquote hslash hcontrol h

theorem reads_textRest (cs : List Char) (h : cs.length < fuel) (rest : List Char) :
    Reads (textRest fuel) (cs.flatMap escaped ++ '"' :: rest) cs rest := by
  -- One step of fuel for each character, and one for the quotation mark at the end.
  induction cs generalizing fuel with
  | nil =>
    obtain ⟨fuel, rfl⟩ := Nat.exists_eq_add_one.2 h
    exact (reads_next '"' rest).bind (.pure [] rest)
  | cons c cs ih =>
    obtain ⟨fuel, rfl⟩ := Nat.exists_eq_add_one.2 (Nat.zero_lt_of_lt h)
    rw [List.flatMap_cons, List.append_assoc]
    exact reads_textRest_cons c (ih (Nat.lt_of_succ_lt_succ h))

theorem length_le_flatMap_escaped (cs : List Char) : cs.length ≤ (cs.flatMap escaped).length := by
  induction cs with
  | nil => exact Nat.le_refl _
  | cons c cs ih =>
    have hc : 1 ≤ (escaped c).length := by
      obtain ⟨e, heq, -, -⟩ | ⟨-, heq⟩ | ⟨-, -, -, heq⟩ := escaped_cases c <;> simp [heq]
    rw [List.flatMap_cons, List.length_append, List.length_cons]
    omega

theorem reads_textBody (str : String) (rest : List Char) :
    Reads textBody (str.toList.flatMap escaped ++ '"' :: rest) str rest := by
  unfold textBody
  refine (reads_steps _).bind ((reads_textRest str.toList ?_ rest).bind ?_)
  · have hlength := length_le_flatMap_escaped str.toList
    rw [List.length_append]
    omega
  · rw [String.ofList_toList]
    exact .pure str rest

theorem writeText_append (str : String) (rest : List Char) :
    writeText str ++ rest = '"' :: (str.toList.flatMap escaped ++ '"' :: rest) := by
  simp [writeText]

theorem reads_text (str : String) (rest : List Char) :
    Reads text (writeText str ++ rest) str rest := by
  rw [writeText_append]
  exact (reads_peekToken rfl _).bind ((reads_advance '"' _).bind (reads_textBody str rest))

theorem isBlank_of_isDigit (h : c.isDigit) : isBlank c = false := by
  have hne : ∀ d : Char, d.isDigit = false → (c == d) = false := by
    intro d hd
    rw [beq_eq_false_iff_ne]
    rintro rfl
    rw [hd] at h
    cases h
  simp [isBlank, hne]

/-- Whether a text that follows a number does not go on with it. -/
def EndsNumber (rest : List Char) : Prop :=
  ∀ c ∈ rest.head?, c.isDigit = false ∧ c ≠ '.' ∧ c ≠ 'e' ∧ c ≠ 'E'

theorem valueOf_toDigits (n : Nat) : Numeral.valueOf (Nat.toDigits 10 n) = n :=
  Nat.ofDigitChars_toDigits (by decide) (by decide)

theorem isDigit_of_mem_toDigits (hc : c ∈ Nat.toDigits 10 n) : c.isDigit :=
  Nat.isDigit_of_mem_toDigits (by decide) (by decide) hc

theorem toDigits_eq_cons (n : Nat) : ∃ d ds, Nat.toDigits 10 n = d :: ds ∧ d.isDigit := by
  obtain ⟨d, ds, hds⟩ := List.exists_cons_of_ne_nil (Nat.toDigits_ne_nil (n := n) (b := 10))
  refine ⟨d, ds, hds, isDigit_of_mem_toDigits (n := n) ?_⟩
  rw [hds]
  exact List.mem_cons_self

theorem head?_toDigits_ne_zero (h : 0 < n) : (Nat.toDigits 10 n).head? ≠ some '0' := by
  induction n using Nat.strongRecOn with
  | ind n ih =>
    by_cases hn : n < 10
    · have hdigit : ∀ k < 10, 0 < k → [Nat.digitChar k].head? ≠ some '0' := by decide
      rw [Nat.toDigits_of_lt_base hn]
      exact hdigit n hn h
    · rw [Nat.toDigits_of_base_le (by decide) (Nat.le_of_not_lt hn),
        List.head?_append_of_ne_nil _ Nat.toDigits_ne_nil]
      exact ih (n / 10) (by omega) (by omega)

theorem le_foldl_digits (ds : List Char) (m : Nat) :
    m ≤ ds.foldl (fun n c => 10 * n + Numeral.digitValue c) m := by
  induction ds generalizing m with
  | nil => exact Nat.le_refl m
  | cons d ds ih =>
    have hm : m ≤ 10 * m + Numeral.digitValue d := by omega
    exact Nat.le_trans hm (ih _)

theorem absorb_of_lt {ds : List Char} {m : Nat}
    (h : ds.foldl (fun n c => 10 * n + Numeral.digitValue c) m < Nat.pow 2 64) :
    Numeral.absorb m ds = (ds.foldl (fun n c => 10 * n + Numeral.digitValue c) m, []) := by
  induction ds generalizing m with
  | nil => rfl
  | cons d ds ih =>
    rw [List.foldl_cons] at h ⊢
    rw [Numeral.absorb, if_pos (Nat.lt_of_le_of_lt (le_foldl_digits ds _) h), ih h]

/-- No digit of a number of 64 bits is left out, so nothing scales it. -/
theorem isTooLarge_toDigits (h : n < Nat.pow 2 64) :
    Numeral.isTooLarge ⟨Nat.toDigits 10 n, [], none⟩ = false := by
  have hvalue : (Nat.toDigits 10 n).foldl (fun n c => 10 * n + Numeral.digitValue c) 0 = n :=
    valueOf_toDigits n
  have habsorb : Numeral.absorb 0 (Nat.toDigits 10 n) = (n, []) := by
    rw [absorb_of_lt (by rwa [hvalue]), hvalue]
  have hscaled : Numeral.scaled ⟨Nat.toDigits 10 n, [], none⟩ = (n, 0) := by
    simp [Numeral.scaled, habsorb, Numeral.absorb]
  simp only [Numeral.isTooLarge, hscaled, Int.lt_irrefl, decide_false, Bool.and_false,
    Bool.false_and]

theorem reads_digits {ds : List Char} (hds : ∀ d ∈ ds, d.isDigit) (h : EndsNumber rest) :
    Reads digits (ds ++ rest) ds rest := by
  have hspan : (ds ++ rest).span Char.isDigit = (ds, rest) := by
    cases rest with
    | nil => simpa [List.span_eq_takeWhile_dropWhile, List.takeWhile_eq_self_iff] using hds
    | cons c cs =>
      have hc : c.isDigit = false := (h c rfl).1
      simp [List.span_eq_takeWhile_dropWhile, List.takeWhile_append_of_pos hds,
        List.dropWhile_append_of_pos hds, hc]
  unfold digits
  refine Reads.bind rfl ?_
  rw [hspan]
  exact Reads.bind rfl (.pure ds rest)

theorem reads_exponent?_none (h : EndsNumber rest) : Reads exponent? rest none rest := by
  unfold exponent?
  refine (reads_peek rest).bind ?_
  split
  · next he => exact absurd rfl (h _ he).2.2.1
  · next he => exact absurd rfl (h _ he).2.2.2
  · exact .pure none rest

theorem reads_numeral (n : Nat) (h : EndsNumber rest) :
    Reads numeral (Nat.toDigits 10 n ++ rest) ⟨Nat.toDigits 10 n, [], none⟩ rest := by
  have hdigits : ∀ d ∈ Nat.toDigits 10 n, d.isDigit := fun _ => isDigit_of_mem_toDigits
  have hzero : (Nat.toDigits 10 n).head? = some '0' → (Nat.toDigits 10 n).tail = [] := by
    intro hhead
    rcases Nat.eq_zero_or_pos n with rfl | hn
    · rfl
    · exact absurd hhead (head?_toDigits_ne_zero hn)
  obtain ⟨d, ds, hds, -⟩ := toDigits_eq_cons n
  rw [hds] at hdigits hzero ⊢
  rw [List.forall_mem_cons] at hdigits
  have hnone : ¬ (d = '0' ∧ ds ≠ []) := by
    rintro ⟨rfl, hne⟩
    exact hne (hzero rfl)
  have hdot : ¬ rest.head? = some '.' := fun hdot => (h _ hdot).2.1 rfl
  unfold numeral
  refine (reads_next d (ds ++ rest)).bind ?_
  simp only [hdigits.1, Bool.not_true, Bool.false_eq_true, ↓reduceIte]
  refine (reads_digits hdigits.2 h).bind ?_
  rw [if_neg hnone]
  refine (reads_peek rest).bind ?_
  rw [if_neg hdot]
  exact (reads_exponent?_none h).bind (.pure _ rest)

theorem reads_natural {bound : Nat} (hbound : n < bound) (hn : n < Nat.pow 2 64)
    (h : EndsNumber rest) : Reads (natural bound) (Nat.toDigits 10 n ++ rest) n rest := by
  obtain ⟨d, ds, hds, hdigit⟩ := toDigits_eq_cons n
  have hnumber : Reads number (Nat.toDigits 10 n ++ rest) ⟨Nat.toDigits 10 n, [], none⟩ rest := by
    unfold number
    refine (reads_numeral n h).bind ?_
    rw [isTooLarge_toDigits hn]
    exact .pure _ rest
  have hpeek : Reads peekToken (Nat.toDigits 10 n ++ rest) (some d) (Nat.toDigits 10 n ++ rest) := by
    rw [hds]
    exact reads_peekToken (isBlank_of_isDigit hdigit) _
  unfold natural
  refine hpeek.bind ?_
  split
  · next heq => cases heq
  · next heq =>
    cases heq
    cases hdigit
  · next heq =>
    cases heq
    rw [if_pos hdigit]
    refine hnumber.bind ?_
    simp only [valueOf_toDigits]
    rw [if_pos ⟨rfl, hbound⟩]
    exact .pure n rest

end Reader

end TypeGuard.Json
