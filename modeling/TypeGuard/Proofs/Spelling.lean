import Mathlib.Data.List.Chain
import Mathlib.Data.List.Range
import Mathlib.Data.List.TakeWhile
import TypeGuard.TypeScript.Token

namespace TypeGuard

namespace Text

variable {ranges rs : List (Nat × Nat)} {r : Nat × Nat} {n : Nat} {c : Char}

/-- Whether each of some ranges lies inside one of others, all of them in ascending order. -/
def coveredBy : List (Nat × Nat) → List (Nat × Nat) → Bool
  | rs, [] => rs.isEmpty
  | rs, (lo, hi) :: ranges => coveredBy (rs.dropWhile fun r => lo ≤ r.1 && r.2 ≤ hi) ranges

theorem exists_of_coveredBy (h : coveredBy rs ranges) (hr : r ∈ rs) :
    ∃ r' ∈ ranges, r'.1 ≤ r.1 ∧ r.2 ≤ r'.2 := by
  induction ranges generalizing rs with
  | nil =>
    rw [coveredBy, List.isEmpty_iff] at h
    rw [h] at hr
    cases hr
  | cons r' ranges ih =>
    obtain ⟨lo, hi⟩ := r'
    rw [← List.takeWhile_append_dropWhile (p := fun r => lo ≤ r.1 && r.2 ≤ hi) (l := rs)] at hr
    rcases List.mem_append.1 hr with hr | hr
    · have hinside := List.mem_takeWhile_imp hr
      rw [Bool.and_eq_true, decide_eq_true_eq, decide_eq_true_eq] at hinside
      exact ⟨(lo, hi), List.mem_cons_self, hinside⟩
    · obtain ⟨r', hr', hinside⟩ := ih h hr
      exact ⟨r', List.mem_cons_of_mem _ hr', hinside⟩

theorem exists_of_inRanges (h : inRanges ranges n) : ∃ r ∈ ranges, r.1 ≤ n ∧ n ≤ r.2 := by
  induction ranges with
  | nil => cases h
  | cons r ranges ih =>
    rw [inRanges] at h
    split at h
    · cases h
    · next hlo =>
      rcases Bool.or_eq_true_iff.1 h with hhi | h
      · exact ⟨r, List.mem_cons_self, Nat.le_of_not_lt hlo, of_decide_eq_true hhi⟩
      · obtain ⟨r', hr', hn⟩ := ih h
        exact ⟨r', List.mem_cons_of_mem _ hr', hn⟩

theorem inRanges_of_mem (hsorted : (ranges.map Prod.fst).Pairwise (· ≤ ·)) (hr : r ∈ ranges)
    (hlo : r.1 ≤ n) (hhi : n ≤ r.2) : inRanges ranges n := by
  induction ranges with
  | nil => cases hr
  | cons r' ranges ih =>
    rw [List.map_cons, List.pairwise_cons] at hsorted
    rw [inRanges]
    rcases List.mem_cons.1 hr with rfl | hr
    · rw [if_neg (Nat.not_lt_of_le hlo), decide_eq_true hhi, Bool.true_or]
    · have hle := Nat.le_trans (hsorted.1 r.1 (List.mem_map_of_mem hr)) hlo
      rw [if_neg (Nat.not_lt_of_le hle), ih hsorted.2 hr, Bool.or_true]

theorem idStartRanges_covered : coveredBy idStartRanges idContinueRanges := by
  decide +kernel

theorem idContinueRanges_sorted : (idContinueRanges.map Prod.fst).Pairwise (· ≤ ·) := by
  rw [← List.isChain_iff_pairwise]
  decide +kernel

theorem isIdentifierPart_of_isIdentifierStart (h : isIdentifierStart c) : isIdentifierPart c := by
  unfold isIdentifierStart at h
  unfold isIdentifierPart
  split at h
  · next hc =>
    rw [if_pos hc]
    simp only [Char.isAlphanum, Bool.or_eq_true] at h ⊢
    tauto
  · next hc =>
    rw [if_neg hc]
    obtain ⟨r, hr, hlo, hhi⟩ := exists_of_inRanges h
    obtain ⟨r', hr', hlo', hhi'⟩ := exists_of_coveredBy idStartRanges_covered hr
    rw [inRanges_of_mem idContinueRanges_sorted hr' (Nat.le_trans hlo' hlo)
      (Nat.le_trans hhi hhi'), Bool.or_true]

def IsIdentifier : List Char → Prop
  | [] => False
  | c :: cs => isIdentifierStart c ∧ ∀ x ∈ cs, isIdentifierPart x

theorem isIdentifier_append_iff {front back : List Char} (hne : front ≠ []) :
    IsIdentifier (front ++ back) ↔ IsIdentifier front ∧ ∀ x ∈ back, Text.isIdentifierPart x := by
  cases front with
  | nil => exact absurd rfl hne
  | cons c cs =>
    rw [List.cons_append, IsIdentifier, IsIdentifier, List.forall_mem_append, and_assoc]

end Text

namespace TypeScript

namespace Scan

variable {cs name value : List Char} {c : Char} {pending pos : Nat} {escaped : Bool}
  {remarks : List Remark} {w : Word}

/-- No remark says that a character does not belong into a name. -/
def Fitting (remarks : List Remark) : Prop :=
  ∀ r ∈ remarks, r.cause ≠ .badNameCharacter

/-- Characters that an escape may stand for: one, or those with which it is written. -/
def Resolved (value : List Char) : Prop :=
  ∃ x xs, value = x :: xs ∧ (xs = [] ∨ x = '\\')

theorem resolved_bracedEscape (h : (bracedEscape cs).value = .ok value) : Resolved value := by
  unfold bracedEscape at h
  dsimp only at h
  repeat' split at h
  all_goals cases h
  · exact ⟨_, [], rfl, .inl rfl⟩
  · exact ⟨'\\', _, rfl, .inr rfl⟩

theorem resolved_unicodeEscape (h : (unicodeEscape cs).value = .ok value) : Resolved value := by
  unfold unicodeEscape at h
  split at h
  · exact resolved_bracedEscape h
  · dsimp only at h
    repeat' split at h
    all_goals cases h
    · exact ⟨_, [], rfl, .inl rfl⟩
    · exact ⟨'\\', _, rfl, .inr rfl⟩
  · cases h

theorem cause_of_mem_bracedEscape {r : Remark} (h : r ∈ (bracedEscape cs).remarks) :
    r.cause = .misplacedSeparator := by
  unfold bracedEscape at h
  dsimp only at h
  repeat' split at h
  all_goals rw [List.eq_of_mem_replicate h]

theorem cause_of_mem_unicodeEscape {r : Remark} (h : r ∈ (unicodeEscape cs).remarks) :
    r.cause = .misplacedSeparator := by
  unfold unicodeEscape at h
  split at h
  · exact cause_of_mem_bracedEscape h
  · dsimp only at h
    repeat' split at h
    all_goals rw [List.eq_of_mem_replicate h]
  · cases h

theorem fitting_unicodeEscape (n : Nat) :
    Fitting (((unicodeEscape cs).remarks.map (·.shift n)).reverse ++ remarks) ↔
      Fitting remarks := by
  constructor
  · intro h r hr
    exact h r (List.mem_append_right _ hr)
  · intro h r hr
    rcases List.mem_append.1 hr with hr | hr
    · obtain ⟨r', hr', rfl⟩ := List.mem_map.1 (List.mem_reverse.1 hr)
      rw [Remark.shift, cause_of_mem_unicodeEscape hr']
      exact nofun
    · exact h r hr

theorem Resolved.ne_nil (h : Resolved value) : value ≠ [] := by
  obtain ⟨x, xs, rfl, -⟩ := h
  exact List.cons_ne_nil x xs

theorem Resolved.all_fits_iff (h : Resolved value) :
    value.head?.all Text.isIdentifierPart ↔ ∀ x ∈ value, Text.isIdentifierPart x := by
  obtain ⟨x, xs, rfl, rfl | rfl⟩ := h
  · simp
  · have hslash : Text.isIdentifierPart '\\' = false := by decide
    simp [hslash]

theorem Resolved.isIdentifier_iff (h : Resolved value) :
    value.head?.all Text.isIdentifierStart ↔ Text.IsIdentifier value := by
  obtain ⟨x, xs, rfl, rfl | rfl⟩ := h
  · simp [Text.IsIdentifier]
  · have hslash : Text.isIdentifierStart '\\' = false := by decide
    simp [Text.IsIdentifier, hslash]

theorem fitting_reverse : Fitting remarks.reverse ↔ Fitting remarks := by
  simp [Fitting]

theorem fitting_ite (b : Bool) : Fitting
    (if b then remarks else ⟨pos, .badNameCharacter⟩ :: remarks) ↔ b ∧ Fitting remarks := by
  cases b <;> simp [Fitting]

/-- The scan of a name that has begun adds characters to it, and remarks upon those that cannot go
on an identifier. -/
theorem wordFrom_goes_on (hne : name ≠ [])
    (h : (wordFrom pending pos name escaped remarks cs).value = .ok w) :
    ∃ added, w.name = name.reverse ++ added ∧
      (Fitting (wordFrom pending pos name escaped remarks cs).remarks ↔
        Fitting remarks ∧ ∀ x ∈ added, Text.isIdentifierPart x) := by
  fun_induction wordFrom pending pos name escaped remarks cs with
  | case1 pending pos name escaped remarks =>
    cases h
    exact ⟨[], (List.append_nil _).symm, by simp [fitting_reverse]⟩
  | case2 pos name escaped remarks c cs k ih => exact ih hne h
  | case3 pos name escaped remarks c cs hc ih =>
    obtain ⟨added, hname, hfitting⟩ := ih (List.cons_ne_nil c name) h
    refine ⟨c :: added, by simp [hname], ?_⟩
    rw [hfitting, List.forall_mem_cons, and_iff_right hc]
  | case4 => cases h
  | case5 pos name escaped remarks c cs hc hslash e remarks' value hvalue fits remarks'' ih =>
    have hresolved := resolved_unicodeEscape hvalue
    have hfits : fits = Text.isIdentifierPart := if_neg (by simpa using hne)
    obtain ⟨added, hname, hfitting⟩ := ih (by simp [hne]) h
    refine ⟨value ++ added, by simp [hname], ?_⟩
    rw [hfitting, fitting_ite, fitting_unicodeEscape, hfits, hresolved.all_fits_iff,
      List.forall_mem_append, and_left_comm, and_assoc]
  | case6 pos name escaped remarks c cs hc hslash =>
    cases h
    exact ⟨[], (List.append_nil _).symm, by simp [fitting_reverse]⟩

theorem pos_le_length_wordFrom :
    pos ≤ (wordFrom pending pos name escaped remarks cs).length := by
  fun_induction wordFrom pending pos name escaped remarks cs with
  | case1 => exact Nat.le_refl _
  | case2 _ _ _ _ _ _ _ ih => exact Nat.le_of_succ_le ih
  | case3 _ _ _ _ _ _ _ ih => exact Nat.le_of_succ_le ih
  | case4 => exact Nat.le_trans (Nat.le_succ _) (Nat.le_add_right _ _)
  | case5 _ _ _ _ _ _ _ _ _ _ _ _ _ _ ih => exact Nat.le_of_succ_le ih
  | case6 => exact Nat.le_refl _

/-- A word begins with a plain character of an identifier or with an escape. -/
theorem word_cases (hbegins : beginsWord cs) (h : (word cs).value = .ok w) :
    (∃ c rest, Text.isIdentifierStart c ∧ word cs = wordFrom 0 1 [c] false [] rest) ∨
    ∃ value rest escape, Resolved value ∧ Fitting escape ∧ word cs =
      wordFrom (unicodeEscape rest).length 1 value.reverse true
        (if value.head?.all Text.isIdentifierStart then escape
        else ⟨0, .badNameCharacter⟩ :: escape) rest := by
  cases cs with
  | nil => cases hbegins
  | cons c rest =>
    rw [word, wordFrom] at h ⊢
    by_cases hpart : Text.isIdentifierPart c
    · have hslash : c ≠ '\\' := by
        rintro rfl
        exact absurd hpart (by decide)
      have hstart : Text.isIdentifierStart c := by simpa [beginsWord, hslash] using hbegins
      exact .inl ⟨c, rest, hstart, if_pos hpart⟩
    · have hslash : c == '\\' := by
        rcases Bool.or_eq_true_iff.1 hbegins with hstart | hslash
        · exact absurd (Text.isIdentifierPart_of_isIdentifierStart hstart) hpart
        · exact hslash
      rw [if_neg hpart, if_pos hslash] at h ⊢
      dsimp only at h ⊢
      right
      split at h
      · cases h
      · next value hvalue =>
        have hempty : Fitting [] := nofun
        have hescape : Fitting (((unicodeEscape rest).remarks.map (·.shift 1)).reverse ++ []) :=
          (fitting_unicodeEscape 1).2 hempty
        refine ⟨value, rest, _, resolved_unicodeEscape hvalue, hescape, ?_⟩
        rw [List.append_nil value.reverse]
        rfl

theorem length_word_pos (hbegins : beginsWord cs) (h : (word cs).value = .ok w) :
    0 < (word cs).length := by
  rcases word_cases hbegins h with ⟨c, rest, -, hword⟩ | ⟨value, rest, escape, -, -, hword⟩
  · rw [hword]
    exact pos_le_length_wordFrom
  · rw [hword]
    exact pos_le_length_wordFrom

theorem isIdentifier_word_iff (hbegins : beginsWord cs) (h : (word cs).value = .ok w) :
    w.name ≠ [] ∧ (Text.IsIdentifier w.name ↔ Fitting (word cs).remarks) := by
  rcases word_cases hbegins h with
    ⟨c, rest, hstart, hword⟩ | ⟨value, rest, escape, hresolved, hescape, hword⟩
  · rw [hword] at h ⊢
    obtain ⟨added, hname, hfitting⟩ := wordFrom_goes_on (List.cons_ne_nil c []) h
    have hempty : Fitting [] := nofun
    rw [hname, hfitting, and_iff_right hempty]
    exact ⟨List.cons_ne_nil c added, and_iff_right hstart⟩
  · have hne : value ≠ [] := hresolved.ne_nil
    rw [hword] at h ⊢
    obtain ⟨added, hname, hfitting⟩ := wordFrom_goes_on (by simpa using hne) h
    rw [hname, hfitting, fitting_ite, and_iff_left hescape, hresolved.isIdentifier_iff,
      List.reverse_reverse, Text.isIdentifier_append_iff hne]
    exact ⟨List.append_ne_nil_of_left_ne_nil hne added, Iff.rfl⟩

/-- The characters that the escapes of a name stand for; `pending` characters belong to an escape
that was resolved already. -/
def escapedFrom (pending : Nat) : List Char → List Char
  | [] => []
  | c :: cs =>
    match pending with
    | k + 1 => escapedFrom k cs
    | 0 =>
      if Text.isIdentifierPart c then escapedFrom 0 cs
      else if c == '\\' then
        match (unicodeEscape cs).value with
        | .error _ => []
        | .ok value => value ++ escapedFrom (unicodeEscape cs).length cs
      else []

/-- What does not belong into a name comes from its escapes. -/
theorem mem_wordFrom_iff {x : Char} (hx : Text.isIdentifierPart x = false)
    (h : (wordFrom pending pos name escaped remarks cs).value = .ok w) :
    x ∈ w.name ↔ x ∈ name ∨ x ∈ escapedFrom pending cs := by
  fun_induction wordFrom pending pos name escaped remarks cs with
  | case1 pending pos name escaped remarks =>
    cases h
    simp [escapedFrom]
  | case2 pos name escaped remarks c cs k ih => exact ih h
  | case3 pos name escaped remarks c cs hc ih =>
    have hne : x ≠ c := by
      rintro rfl
      rw [hx] at hc
      cases hc
    rw [ih h, List.mem_cons, or_iff_right hne, escapedFrom, if_pos hc]
  | case4 => cases h
  | case5 pos name escaped remarks c cs hc hslash e remarks' value hvalue fits remarks'' ih =>
    have hescaped : escapedFrom 0 (c :: cs) = value ++ escapedFrom e.length cs := by
      rw [escapedFrom, if_neg hc, if_pos hslash, hvalue]
    rw [ih h, hescaped, List.mem_append, List.mem_append, List.mem_reverse, or_assoc, or_left_comm]
  | case6 pos name escaped remarks c cs hc hslash =>
    cases h
    simp [escapedFrom, hc, hslash]

/-- Whether a character is white space, ends a line, or is a sign that a string, a template, a
group, a block or a statement begins or ends with. -/
def isDelimiter (c : Char) : Bool :=
  isBlank c || isLineBreak c ||
    ['\x27', '"', '\x60', '\\', '(', ')', '\x7b', '\x7d', ';'].contains c

def delimiters : List Nat :=
  [0x09, 0x0A, 0x0B, 0x0C, 0x0D, 0x20, 0x85, 0xA0, 0x1680, 0x2028, 0x2029, 0x202F, 0x205F, 0x3000,
    0xFEFF] ++ List.range' 0x2000 11 ++
  ['\x27', '"', '\x60', '\\', '(', ')', '\x7b', '\x7d', ';'].map Char.toNat

theorem mem_delimiters (h : isDelimiter c) : c.toNat ∈ delimiters := by
  simp only [isDelimiter, isBlank, isLineBreak, Bool.or_eq_true, Bool.and_eq_true, beq_iff_eq,
    decide_eq_true_eq, List.contains_iff_mem] at h
  rw [delimiters, List.mem_append, List.mem_append, List.mem_range'_1]
  simp only [List.mem_cons, List.not_mem_nil]
  rcases h with (hblank | hbreak) | hsign
  · left
    rcases hblank with ((((((((((((rfl | rfl) | h) | h) | h) | h) | h) | h) | h) | h) | h) | h)) <;>
      first | omega | decide
  · left
    rcases hbreak with ((rfl | rfl) | h) | h <;> first | omega | decide
  · exact .inr (List.mem_map_of_mem (by simpa using hsign))

theorem isIdentifierPart_of_isDelimiter (h : isDelimiter c) : Text.isIdentifierPart c = false := by
  have hnone : ∀ n ∈ delimiters, Text.isIdentifierPart (Char.ofNat n) = false := by decide +kernel
  have hpart := hnone c.toNat (mem_delimiters h)
  rwa [Char.ofNat_toNat] at hpart

end Scan

theorem exists_word_of_nameAt? {cs : List Char} {name : String} (h : nameAt? cs = some name) :
    beginsWord cs ∧ ∃ w, (Scan.word cs).value = .ok w := by
  unfold nameAt? at h
  split at h
  · next hbegins =>
    split at h
    · cases h
    · next w hw => exact ⟨hbegins, w, hw⟩
  · cases h

theorem isIdentifier_nameOf_iff (word : String) :
    Text.IsIdentifier (nameOf word).toList ↔ Text.IsIdentifier word.toList := by
  unfold nameOf
  split
  · next h =>
    rw [beq_iff_eq] at h
    subst h
    simp [Text.IsIdentifier]
    decide
  · rfl

theorem mem_nameOf_iff {x : Char} (hx : Text.isIdentifierPart x = false) (word : String) :
    x ∈ (nameOf word).toList ↔ x ∈ word.toList := by
  unfold nameOf
  split
  · next h =>
    have hparts : ∀ c ∈ "package".toList ++ "pacakge".toList, Text.isIdentifierPart c :=
      List.all_eq_true.1 (by decide)
    rw [beq_iff_eq] at h
    subst h
    constructor
    · intro hmem
      have hpart := hparts x (List.mem_append_left _ hmem)
      rw [hx] at hpart
      cases hpart
    · intro hmem
      have hpart := hparts x (List.mem_append_right _ hmem)
      rw [hx] at hpart
      cases hpart
  · rfl

theorem nameOf_ne_empty {word : String} (h : word ≠ "") : nameOf word ≠ "" := by
  unfold nameOf
  split
  · decide
  · exact h

theorem isIdentifier_nameAt_iff {cs : List Char} {name : String} (h : nameAt? cs = some name) :
    name ≠ "" ∧ (Text.IsIdentifier name.toList ↔ Scan.Fitting (Scan.word cs).remarks) := by
  obtain ⟨hbegins, w, hw⟩ := exists_word_of_nameAt? h
  obtain ⟨hne, hiff⟩ := Scan.isIdentifier_word_iff hbegins hw
  have hword : String.ofList w.name ≠ "" := by simpa using hne
  rw [nameAt?_of_word hbegins hw] at h
  rw [← hiff, ← String.toList_ofList (l := w.name)]
  split at h
  · cases h
    exact ⟨hword, Iff.rfl⟩
  · cases h
    rw [isIdentifier_nameOf_iff]
    exact ⟨nameOf_ne_empty hword, Iff.rfl⟩

theorem mem_nameAt_iff {cs : List Char} {name : String} {x : Char}
    (hx : Text.isIdentifierPart x = false) (h : nameAt? cs = some name) :
    x ∈ name.toList ↔ x ∈ Scan.escapedFrom 0 cs := by
  obtain ⟨hbegins, w, hw⟩ := exists_word_of_nameAt? h
  have hword : x ∈ w.name ↔ x ∈ Scan.escapedFrom 0 cs := by
    rw [Scan.mem_wordFrom_iff hx hw, or_iff_right List.not_mem_nil]
  rw [nameAt?_of_word hbegins hw] at h
  rw [← hword, ← String.toList_ofList (l := w.name)]
  split at h
  · cases h
    rfl
  · cases h
    exact mem_nameOf_iff hx _

/-- A name is free of white space and of the signs that would end what it is pasted into exactly if
no escape in it stands for one. -/
theorem not_isDelimiter_nameAt_iff {cs : List Char} {name : String} (h : nameAt? cs = some name) :
    (∀ c ∈ name.toList, Scan.isDelimiter c = false) ↔
      ∀ c ∈ Scan.escapedFrom 0 cs, Scan.isDelimiter c = false := by
  refine forall_congr' fun c => ?_
  cases hc : Scan.isDelimiter c with
  | false => exact iff_of_true (fun _ => rfl) fun _ => rfl
  | true => rw [mem_nameAt_iff (Scan.isIdentifierPart_of_isDelimiter hc) h]

end TypeScript

end TypeGuard
