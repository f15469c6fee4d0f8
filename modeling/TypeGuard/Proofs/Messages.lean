import TypeGuard.Proofs.ParameterNames

namespace TypeGuard

namespace TypeScript.Scan

variable {front rest hole : List Char} {pos : Nat}

/-- The texts of the substitutions in a template literal behind its opening mark, if nothing
follows its closing mark and no escape in it is bad. A substitution is taken up to the next brace,
which closes it if it has no braces of its own. -/
def substitutionsFrom : Nat → List Char → Option (List (List Char))
  | 0, _ => none
  | n + 1, cs =>
    let piece := template cs
    if piece.bad.isSome then none
    else
      let after := cs.drop piece.length
      match piece.ending with
      | .unclosed => none
      | .closed => if after.isEmpty then some [] else none
      | .hole =>
        let hole := after.takeWhile (· != '\x7d')
        (substitutionsFrom n (after.drop (hole.length + 1))).map (hole :: ·)

def substitutions? : List Char → Option (List (List Char))
  | [] => none
  | c :: cs => if c == '\x60' then substitutionsFrom (cs.length + 1) cs else none

/-- Characters that neither end a piece of a template nor begin an escape in it. -/
def Plain (cs : List Char) : Prop :=
  ∀ c ∈ cs, c ≠ '\x60' ∧ c ≠ '\\' ∧ c ≠ '\x7b'

theorem templateFrom_plain (hfront : Plain front) (hrest : rest.head? ≠ some '\x7b') :
    templateFrom 0 pos none [] (front ++ rest) =
      templateFrom 0 (pos + front.length) none [] rest := by
  induction front generalizing pos with
  | nil => rfl
  | cons c front ih =>
    obtain ⟨⟨hmark, hslash, -⟩, hplain⟩ := List.forall_mem_cons.1 hfront
    have hhole : (front ++ rest).head? ≠ some '\x7b' := by
      cases front with
      | nil => exact hrest
      | cons d front => simpa using (hplain d List.mem_cons_self).2.2
    rw [List.cons_append, templateFrom]
    simp only [beq_iff_eq, hmark, hslash, hhole, ↓reduceIte, Bool.and_eq_true, and_false]
    rw [ih hplain, List.length_cons]
    congr 1
    omega

theorem template_hole (hfront : Plain front) (rest : List Char) :
    template (front ++ '$' :: '\x7b' :: rest) = ⟨.hole, front.length + 2, none, []⟩ := by
  rw [template, templateFrom_plain hfront (by simp)]
  simp [templateFrom]

theorem substitutions?_one (hfront : Plain front) (hhole : '\x7d' ∉ hole) :
    substitutions? ('\x60' :: (front ++ '$' :: '\x7b' :: (hole ++ ['\x7d', '\x60']))) =
      some [hole] := by
  have hfirst := template_hole hfront (hole ++ ['\x7d', '\x60'])
  have hlength : (front ++ '$' :: '\x7b' :: (hole ++ ['\x7d', '\x60'])).length + 1 =
      (front.length + hole.length + 3) + 1 + 1 := by
    simp
    omega
  have hpiece : (front ++ '$' :: '\x7b' :: (hole ++ ['\x7d', '\x60'])).drop (front.length + 2) =
      hole ++ ['\x7d', '\x60'] := by
    rw [← List.drop_drop, List.drop_left]
    rfl
  have hinside : (hole ++ ['\x7d', '\x60']).takeWhile (· != '\x7d') = hole := by
    rw [List.takeWhile_append_of_pos]
    · simp
    · intro c hc
      rw [bne_iff_ne]
      rintro rfl
      exact hhole hc
  have hbehind : (hole ++ ['\x7d', '\x60']).drop (hole.length + 1) = ['\x60'] := by
    rw [← List.drop_drop, List.drop_left]
    rfl
  rw [substitutions?, if_pos (beq_self_eq_true _), hlength, substitutionsFrom]
  simp only [hfirst, hpiece, hinside, hbehind]
  rfl

theorem Plain.append {cs ds : List Char} (h : Plain cs) (h' : Plain ds) : Plain (cs ++ ds) := by
  intro c hc
  rcases List.mem_append.1 hc with hc | hc
  · exact h c hc
  · exact h' c hc

theorem plain_of_not_isDelimiter {cs : List Char} (h : ∀ c ∈ cs, isDelimiter c = false) :
    Plain cs := by
  intro c hc
  have hne : ∀ d : Char, isDelimiter d → c ≠ d := by
    rintro d hd rfl
    rw [h c hc] at hd
    cases hd
  exact ⟨hne _ (by decide), hne _ (by decide), hne _ (by decide)⟩

end TypeScript.Scan

open TypeScript

variable {source : List Char} {d : Declarations} {f : FunctionDecl} {p : Param}

theorem ParamType.plain_name (t : ParamType) : Scan.Plain t.name.toList := by
  cases t <;> simp [Scan.Plain, name]

/-- The substitution of a message is what `typeof` tests, unless the name has a sign of its own. -/
theorem Param.substitutions?_mismatch (h : ∀ c ∈ p.name.toList, Scan.isDelimiter c = false) :
    Scan.substitutions? p.mismatch.toList = some [("typeof " ++ p.name).toList] := by
  have hfront :
      Scan.Plain (p.name ++ " isn't of type " ++ p.type.name ++ " but of type ").toList := by
    simp only [String.toList_append]
    refine ((((Scan.plain_of_not_isDelimiter h).append ?_).append p.type.plain_name).append ?_)
    all_goals simp [Scan.Plain]
  have hhole : '\x7d' ∉ ("typeof " ++ p.name).toList := by
    rw [String.toList_append, List.mem_append, not_or]
    refine ⟨by decide, fun hmem => ?_⟩
    exact absurd (h _ hmem) (by decide)
  have hmismatch : p.mismatch.toList = '\x60' ::
      ((p.name ++ " isn't of type " ++ p.type.name ++ " but of type ").toList ++
        '$' :: '\x7b' :: (("typeof " ++ p.name).toList ++ ['\x7d', '\x60'])) := by
    simp [Param.mismatch]
  rw [hmismatch]
  exact Scan.substitutions?_one hfront hhole

theorem Param.exists_mismatch_reaction (p : Param) (constructor : String) (mode : Mode) :
    ∃ front back, p.reaction constructor mode = front ++ p.mismatch ++ back := by
  cases mode with
  | warning => exact ⟨"console.warn(", ");", rfl⟩
  | error => exact ⟨"throw ", ";", rfl⟩
  | fix =>
    refine ⟨"console.warn(", ",\" and was casted\"); " ++ p.assignment constructor, ?_⟩
    rw [p.reaction_fix]
    simp only [String.append_assoc]

theorem Param.exists_mismatch_guard? (h : p.type.isGuardable) (mode : Mode) :
    ∃ front back, p.guard? mode = some (front ++ p.mismatch ++ back) := by
  obtain ⟨constructor, hconstructor⟩ := ParamType.exists_constructor h
  obtain ⟨front, back, hreaction⟩ := p.exists_mismatch_reaction constructor mode
  rw [guard?, hconstructor, Option.map_some, hreaction]
  refine ⟨"\n    if(typeof " ++ p.name ++ " !== '" ++ p.type.name ++ "')\x7b\n    " ++ front,
    back ++ "\n    \x7d\n    ", ?_⟩
  simp only [String.append_assoc]

/-- The name of a guarded parameter is the one written in front of the body, and it is an identifier
unless the scanner remarks upon its spelling. It is free of white space, quotation marks, brackets
and semicolons exactly if no escape in its spelling stands for one; then the message of its guard
has one substitution, in every mode. -/
theorem guarded_name_clean_iff (h : (extract source).value = .ok d) (hf : f ∈ d.all)
    (hp : p ∈ f.guardedParams) :
    p.name ≠ "" ∧ ∃ w : Cursor source, w.offset < f.bodyStart ∧ nameAt? w.rest = some p.name ∧
      (Text.IsIdentifier p.name.toList ↔ Scan.Fitting (Scan.word w.rest).remarks) ∧
      ((∀ x ∈ p.name.toList, Scan.isDelimiter x = false) ↔
        ∀ x ∈ Scan.escapedFrom 0 w.rest, Scan.isDelimiter x = false) ∧
      ((∀ x ∈ Scan.escapedFrom 0 w.rest, Scan.isDelimiter x = false) →
        ∀ (c : Config) (g : Guarded), (c.guardTypeScript source).value = .ok g →
          ∃ front back, p.guard? c.mode = some (front ++ p.mismatch ++ back) ∧
            Utf8.ofString (front ++ p.mismatch ++ back) <:+: g.bytes ∧
            Scan.substitutions? p.mismatch.toList = some [("typeof " ++ p.name).toList]) := by
  obtain ⟨w, -, hw, hname, -⟩ := (paramsWritten_of_extract h hf).named hp
  obtain ⟨hne, hidentifier⟩ := isIdentifier_nameAt_iff hname
  have hclean := not_isDelimiter_nameAt_iff hname
  refine ⟨hne, w, hw, hname, hidentifier, hclean, fun hescaped c g hg => ?_⟩
  obtain ⟨front, back, hguard⟩ :=
    Param.exists_mismatch_guard? (List.mem_filter.1 hp).2 c.mode
  have hinfix := c.guard_infix h hg hf (Param.mem_guardTexts hp hguard)
  exact ⟨front, back, hguard, hinfix, Param.substitutions?_mismatch (hclean.2 hescaped)⟩

/-- An escape that stands for a letter makes a name like any other. -/
theorem guarded_name_clean_letter :
    (extract "function f(\\u0061b:number)\x7b\x7d".toList).value =
      .ok ⟨[⟨"f", [⟨"ab", .number⟩], 27⟩], []⟩ ∧
    ∃ g front back, (Config.guardTypeScript {}
        "function f(\\u0061b:number)\x7b\x7d".toList).value = .ok g ∧
      Utf8.ofString (front ++ Param.mismatch ⟨"ab", .number⟩ ++ back) <:+: g.bytes ∧
      Scan.substitutions? (Param.mismatch ⟨"ab", .number⟩).toList =
        some [("typeof " ++ "ab").toList] := by
  have h : (extract "function f(\\u0061b:number)\x7b\x7d".toList).value =
      .ok ⟨[⟨"f", [⟨"ab", .number⟩], 27⟩], []⟩ := by rfl
  have hg := Config.guardTypeScript_of_ok {} h
  rw [if_neg (by decide)] at hg
  obtain ⟨-, w, -, -, -, hclean, hmessage⟩ := guarded_name_clean_iff h
    (f := ⟨"f", [⟨"ab", .number⟩], 27⟩) (by decide) (p := ⟨"ab", .number⟩) (by decide)
  have hletters : ∀ x ∈ "ab".toList, Scan.isDelimiter x = false := by
    simp [Scan.isDelimiter, Scan.isBlank, Scan.isLineBreak]
  obtain ⟨front, back, -, hinfix, hone⟩ := hmessage (hclean.1 hletters) _ _ hg
  exact ⟨h, _, front, back, hg, hinfix, hone⟩

/-- Escapes that stand for braces add a substitution to the message. -/
theorem guarded_name_not_clean : ¬ ∀ source d, (extract source).value = .ok d →
    ∀ f ∈ d.all, ∀ p ∈ f.guardedParams,
      p.name ≠ "" ∧ (∀ x ∈ p.name.toList, Scan.isDelimiter x = false) ∧
      Scan.substitutions? p.mismatch.toList = some [("typeof " ++ p.name).toList] := by
  intro h
  have hextract : (extract "function f(a$\\u007bb\\u007d:number)\x7b\x7d".toList).value =
      .ok ⟨[⟨"f", [⟨"a$\x7bb\x7d", .number⟩], 35⟩], []⟩ := by rfl
  have hone := (h _ _ hextract ⟨"f", [⟨"a$\x7bb\x7d", .number⟩], 35⟩ (by decide)
    ⟨"a$\x7bb\x7d", .number⟩ (by decide)).2.2
  have htwo : Scan.substitutions? (Param.mismatch ⟨"a$\x7bb\x7d", .number⟩).toList =
      some ["b".toList, "typeof a$\x7bb".toList] := by decide +kernel
  rw [htwo] at hone
  exact absurd hone (by decide)

end TypeGuard
