import TypeGuard.Proofs.Completeness
import TypeGuard.Proofs.OwnGuards
import TypeGuard.Proofs.Spelling

namespace TypeGuard

namespace TypeScript

variable {src : List Char} {low mid high : Nat}

theorem Cursor.offset_lt_advance {c : Cursor src} {n : Nat} (hc : c.rest ≠ []) (hn : 0 < n) :
    c.offset < (c.advance n).offset := by
  obtain ⟨x, xs, hrest⟩ := List.exists_cons_of_ne_nil hc
  obtain ⟨m, rfl⟩ := Nat.exists_eq_add_one.2 hn
  change c.offset < c.offset + Utf8.byteLength (c.rest.take (m + 1))
  rw [hrest, List.take_succ_cons, Utf8.byteLength_cons]
  have hx := x.utf8Size_pos
  omega

theorem Token.place_lt_stop {t : Token src} {name : String} (h : name ∈ t.lexeme.text?) :
    t.place.offset < t.stop.offset := by
  obtain ⟨hname, hstop⟩ := t.spelled name h
  obtain ⟨hbegins, w, hw⟩ := exists_word_of_nameAt? hname
  have hne : t.place.rest ≠ [] := by
    intro hnil
    rw [hnil] at hbegins
    cases hbegins
  rw [hstop]
  exact Cursor.offset_lt_advance hne (Scan.length_word_pos hbegins hw)

/-- A name is written somewhere between two offsets. -/
def Named (src : List Char) (low : Nat) (name : String) (high : Nat) : Prop :=
  ∃ c : Cursor src, low ≤ c.offset ∧ c.offset < high ∧ nameAt? c.rest = some name ∧
    (isReservedWord name → name = "this" ∨ name = "enum" ∨ c.rest.head? = some '\\')

/-- The name of what is bound, if it has one, is written between two offsets. -/
def Binding.Named (low : Nat) (b : Binding src) (high : Nat) : Prop :=
  ∀ name ∈ b.name, TypeScript.Named src low name high

theorem Named.mono {name : String} (h : Named src low name mid) (hle : mid ≤ high) :
    Named src low name high := by
  obtain ⟨c, hlow, hlt, hname⟩ := h
  exact ⟨c, hlow, Nat.lt_of_lt_of_le hlt hle, hname⟩

theorem Binding.Named.mono {b : Binding src} (h : b.Named low mid) (hle : mid ≤ high) :
    b.Named low high :=
  fun name hname => (h name hname).mono hle

/-- The names of patterns are written where the patterns are read. -/
def Rules.NamesPatterns (g : Rules src) : Prop :=
  ∀ low, Parser.Ensures low (g .pattern) (Binding.Named low)

theorem isReservedWord_of_nameOf {word : String} (h : isReservedWord (nameOf word)) :
    nameOf word = word := by
  unfold nameOf at h ⊢
  split at h
  · cases h
  · next hne => rw [if_neg hne]

theorem this_or_enum_of_isReservedWord {word : String} (h : isReservedWord word)
    (hkeyword : isKeyword word → word ≠ "this" → word ≠ "let" → word = "yield") :
    word = "this" ∨ word = "enum" := by
  by_contra hne
  rw [not_or] at hne
  have hlet : word ≠ "let" := by
    rintro rfl
    exact absurd h (by decide)
  have hyield := hkeyword (by simp [isKeyword, h, hne.2]) hne.1 hlet
  subst hyield
  exact absurd h (by decide)

namespace Parser

variable {g : Rules src}

theorem exists_token_of_require {β : Type} {k : Token src → Parser src β} {s s' : State src}
    {b : β} (h : (require >>= k).run s = .value b s') :
    ∃ t : State src, s.position ≤ t.position ∧ t.token.isStop = false ∧
      (k t.token).run t = .value b s' := by
  obtain ⟨token, t, htoken, hk⟩ := exists_run_of_bind h
  have hle := position_le_of_run htoken
  obtain ⟨u, t', -, hnext⟩ := exists_run_of_bind htoken
  obtain ⟨_, t'', hlook, hreturn⟩ := exists_run_of_bind hnext
  cases hlook
  split at hreturn
  · cases hreturn
  · next hstop =>
    cases hreturn
    exact ⟨_, hle, by simpa using hstop, hk⟩

theorem ensures_failAt {α : Type} {P : α → Nat → Prop} (place : Cursor src) (cause : Cause) :
    Ensures low (failAt place cause : Parser src α) P :=
  .skip fun _ => .throw _

theorem ensures_checkName (place : Cursor src) (word : String) (yieldAllowed : Bool) :
    Ensures low (checkName place word yieldAllowed) fun _ _ =>
      isReservedWord word → word = "this" ∨ word = "enum" := by
  refine .ite (.skip fun _ => .skip fun s => ?_) (.whether fun _ => .skip fun s => ?_)
  all_goals
    dsimp only
    split
    · next hawait =>
      rw [beq_iff_eq] at hawait
      subst hawait
      exact (Ensures.idle _).mono fun _ _ _ hreserved => absurd hreserved (by decide)
    · refine .ite (ensures_failAt _ _) ?_
      split
      · exact ensures_failAt _ _
      · next hkeyword =>
        exact (Ensures.idle _).mono fun _ _ _ hreserved =>
          this_or_enum_of_isReservedWord hreserved (by simpa using hkeyword)

theorem ensures_identifier (yieldAllowed : Bool) :
    Ensures low (identifier yieldAllowed : Parser src (Cursor src × String)) fun found =>
      Named src low found.2 := by
  refine .skip fun start => ?_
  intro s found s' hlow hrun
  obtain ⟨t, hle, hstop, hread⟩ := exists_token_of_require hrun
  -- The name is the next token, and reading it goes past it.
  have hplace := Nat.le_trans (Nat.le_trans hlow hle) t.lastStop_le_token_place
  have hnamed : ∀ name, t.token.lexeme.text? = some name →
      (isReservedWord name → name = "this" ∨ name = "enum" ∨
        t.token.place.rest.head? = some '\\') → Named src low name t.bump.position := by
    intro name hname hreserved
    have hlt := Token.place_lt_stop hname
    rw [← t.position_bump hstop] at hlt
    exact ⟨t.token.place, hplace, hlt, (t.token.spelled name hname).1, hreserved⟩
  cases hlexeme : t.token.lexeme with
  | word word =>
    rw [hlexeme] at hread
    obtain ⟨_, _, hbump, hread⟩ := exists_run_of_bind hread
    cases hbump
    obtain ⟨_, _, hcheck, hreturn⟩ := exists_run_of_bind hread
    cases hreturn
    have hname := hnamed (nameOf word) (by rw [hlexeme, Lexeme.text?]) fun hreserved => by
      have hsame := isReservedWord_of_nameOf hreserved
      rw [hsame] at hreserved ⊢
      exact (ensures_checkName _ _ _ _ _ _ (Nat.zero_le _) hcheck hreserved).imp_right .inl
    exact hname.mono (position_le_of_run hcheck)
  | name text =>
    rw [hlexeme] at hread
    obtain ⟨_, _, hbump, hread⟩ := exists_run_of_bind hread
    cases hbump
    obtain ⟨_, _, hcheck, hreturn⟩ := exists_run_of_bind hread
    cases hreturn
    have hname := hnamed text (by rw [hlexeme, Lexeme.text?]) fun _ =>
      .inr (.inr (t.token.escape text hlexeme))
    exact hname.mono (position_le_of_run hcheck)
  | _ =>
    rw [hlexeme] at hread
    have hfail : Ensures 0 (fail .expectedName : Parser src (Cursor src × String))
        fun _ _ => False := ensures_fail _
    exact (hfail _ _ _ (Nat.zero_le _) hread).elim

theorem ensures_bindingName :
    Ensures low (bindingName : Parser src (Cursor src × String)) fun found =>
      Named src low found.2 := by
  refine (ensures_identifier true).bind fun found mid _ hfound => ?_
  refine .whether fun _ => .skip fun s => .whether fun _ => .whether fun _ => ?_
  exact .pure fun high hle => hfound.mono hle

theorem ensures_pattern : Ensures low (pattern g) (Binding.Named low) := by
  refine .skip fun t => ?_
  dsimp only
  split
  · exact ensures_bindingName.map fun _ _ h _ hname => Option.some_inj.1 hname ▸ h
  · exact ensures_bindingName.map fun _ _ h _ hname => Option.some_inj.1 hname ▸ h
  · exact .skip fun _ => .skip fun _ => .skip fun _ => .pure fun _ _ => nofun
  · exact .skip fun _ => .pure fun _ _ => nofun
  · exact ensures_unexpected _

theorem namesPatterns_grammar (depth : Nat) : (grammar depth : Rules src).NamesPatterns := by
  intro low
  cases depth with
  | zero => exact ensures_fail _
  | succ depth => exact ensures_pattern

theorem ensures_bindingElement (hpattern : g.NamesPatterns) :
    Ensures low (bindingElement g) (Binding.Named low) := by
  refine .skip fun start => (hpattern low).bind fun b mid _ hb => .skip fun _ => ?_
  refine .ite (.skip fun _ => .skip fun _ => .whether fun _ => ?_) ?_
  · exact .pure fun high hle => hb.mono hle
  · exact .pure fun high hle => hb.mono hle

theorem ensures_parameter (hpattern : g.NamesPatterns) :
    Ensures low (parameter g) (Binding.Named low) := by
  refine .skip fun start => .skip fun modified => ?_
  refine (ensures_bindingElement hpattern).bind fun b mid _ hb => ?_
  refine .skip fun isOptional => .skip fun s => .whetherAt fun _ => .skip fun type => ?_
  -- Whether the binding has a value before its type or not, the rest is read alike.
  refine .ite (.whether fun _ => .known ?_) (.known ?_)
  all_goals
    refine .skip fun _ => .ite (.whether fun _ => ?_) ?_
    case' refine_1 => refine .skip fun _ => .skip fun _ => .whether fun _ => ?_
    all_goals exact .known (.whether fun _ => .pure fun high hle => hb.mono hle)

theorem ensures_constructorParameter (hpattern : g.NamesPatterns) :
    Ensures low (constructorParameter g) (Binding.Named low) := by
  refine .skip fun start => .skip fun access => .skip fun override => .skip fun readonly => ?_
  refine (ensures_parameter hpattern).bind fun b mid _ hb => ?_
  refine .ite (.pure fun high hle => hb.mono hle) (.ite (ensures_failAt _ _) ?_)
  exact .pure fun high hle => hb.mono hle

theorem ensures_restParameter (dots : Cursor src) (initializer : Bool) :
    Ensures low (restParameter g dots initializer) fun b _ => b.name = none := by
  refine .skip fun b => .ite (.skip fun _ => .ite (.skip fun _ => .skip fun _ => ?_) ?_) ?_
  all_goals
    refine .skip fun _ => .ite (.skip fun _ => .whetherAt fun _ => ?_) ?_
    all_goals exact .pure fun _ _ => rfl

end Parser

variable {g : Rules src} {one : Parser src (Binding src)}

/-- A parameter as it is reported is written between two offsets, unless it is a pattern or takes
all the rest. -/
def Written (src : List Char) (low : Nat) (p : Param) (high : Nat) : Prop :=
  (p = ⟨"<pattern>", .unknown⟩ ∧ low ≤ high) ∨ Named src low p.name high

theorem Binding.Stands.written {b : Binding src} (h : b.Stands g one low high)
    (hone : ∀ low, Parser.Ensures low one (Binding.Named low)) :
    Written src low b.param high := by
  have hle := h.le
  rcases h with h | ⟨dots, initializer, h⟩
  · have hnamed := (hone low).of_reads (fun hle h => h.mono hle) h
    unfold Binding.param
    split
    · next name hname => exact .inr (hnamed name hname)
    · exact .inl ⟨rfl, hle⟩
  · have hnone := (Parser.ensures_restParameter dots initializer).of_reads (fun _ h => h) h
    rw [Binding.param, hnone]
    exact .inl ⟨rfl, hle⟩

/-- The parameters of a function are written one after another, in front of its body. -/
def ParamsWritten (src : List Char) (f : FunctionDecl) : Prop :=
  ∃ low high, high < f.bodyStart ∧ InTurn (Written src) low f.params high

theorem Routine.Stands.written {r : Routine src} {name : String} {f : FunctionDecl}
    (h : r.Stands g one low high) (hone : ∀ low, Parser.Ensures low one (Binding.Named low))
    (hf : r.function? name = some f) : ParamsWritten src f := by
  obtain ⟨mid, hparams, async, generator, hbody⟩ := h
  obtain ⟨b, hb, rfl⟩ := Option.map_eq_some_iff.1 hf
  have hrising := (Parser.rising_functionBody async generator _).of_reads
    (fun hle h => h.mono hle) hbody
  rw [hb] at hrising
  exact ⟨low, mid, Nat.lt_succ_of_le hrising.1, hparams.map fun hp => hp.written hone⟩

theorem MemberForm.Stands.written {form : MemberForm src} {r : Routine src} {name : String}
    {f : FunctionDecl} (h : form.Stands g low high)
    (hpattern : g.NamesPatterns)
    (hr : form.routine? = some r) (hf : r.function? name = some f) : ParamsWritten src f := by
  cases h with
  | constructor _ _ h =>
    cases hr
    exact h.written (fun _ => Parser.ensures_constructorParameter hpattern) hf
  | method _ h | getter _ _ h | setter _ _ h =>
    cases hr
    exact h.written (fun _ => Parser.ensures_parameter hpattern) hf
  | property | signature | block => cases hr

theorem Member.Stands.written {m : Member src} {f : FunctionDecl} (h : m.Stands g low high)
    (hpattern : g.NamesPatterns)
    (hf : m.function? = some f) : ParamsWritten src f := by
  obtain ⟨form, hform, hkeeps⟩ := h
  rw [hkeeps.function?_eq] at hf
  obtain ⟨r, hr, hf⟩ := Option.bind_eq_some_iff.1 hf
  obtain ⟨name, -, hf⟩ := Option.bind_eq_some_iff.1 hf
  exact hform.written hpattern hr hf

theorem Item.Stands.written {item : Item src} {f : FunctionDecl} (h : item.Stands g low high)
    (hpattern : g.NamesPatterns)
    (hf : f ∈ item.functions ∨ f ∈ item.methods) : ParamsWritten src f := by
  cases item with
  | function name r =>
    obtain hf | hf := hf
    · have hstands : r.Stands g (Parser.parameter g) low high := h
      exact hstands.written (fun _ => Parser.ensures_parameter hpattern) (Option.mem_toList.1 hf)
    · cases hf
  | class_ name members =>
    obtain hf | hf := hf
    · cases hf
    · obtain ⟨m, hm, hf⟩ := List.mem_filterMap.1 hf
      have hmembers : InTurn (Member.Stands g) low members high := h
      obtain ⟨start, stop, hstands, -⟩ := hmembers.exists_of_mem (fun h => h.rising.le) hm
      exact hstands.written hpattern hf
  | useStrict start =>
    obtain hf | hf := hf <;> cases hf
  | other =>
    obtain hf | hf := hf <;> cases hf

theorem Written.le {p : Param} (h : Written src low p high) : low ≤ high := by
  rcases h with ⟨-, hle⟩ | ⟨c, hlow, hlt, -⟩
  · exact hle
  · exact Nat.le_trans hlow (Nat.le_of_lt hlt)

theorem ParamsWritten.named {f : FunctionDecl} {p : Param} (h : ParamsWritten src f)
    (hp : p ∈ f.guardedParams) : Named src 0 p.name f.bodyStart := by
  obtain ⟨low, high, hlt, hparams⟩ := h
  obtain ⟨hmem, hguardable⟩ := List.mem_filter.1 hp
  obtain ⟨start, stop, hp, hle⟩ := hparams.exists_of_mem Written.le hmem
  rcases hp with ⟨rfl, -⟩ | ⟨c, -, hc, hname⟩
  · cases hguardable
  · exact ⟨c, Nat.zero_le _, by omega, hname⟩

end TypeScript

open TypeScript

variable {source : List Char} {d : Declarations} {f : FunctionDecl} {p : Param} {c : Config}
  {g : Guarded} {text : String}

theorem paramsWritten_of_extract (h : (extract source).value = .ok d) (hf : f ∈ d.all) :
    ParamsWritten source f := by
  obtain ⟨items, s, hrun, rfl⟩ := exists_items_of_extract h
  have hstands := Parser.ensures_items _ items s (Nat.zero_le _) hrun
  obtain ⟨item, hitem, hf⟩ : ∃ item ∈ items, f ∈ item.functions ∨ f ∈ item.methods := by
    rw [Declarations.all, functionsOf_eq, flatMap_methods_classesOf] at hf
    rcases List.mem_append.1 hf with hf | hf
    · obtain ⟨item, hitem, hf⟩ := List.mem_flatMap.1 hf
      exact ⟨item, hitem, .inl hf⟩
    · obtain ⟨item, hitem, hf⟩ := List.mem_flatMap.1 hf
      exact ⟨item, hitem, .inr hf⟩
  obtain ⟨start, stop, hitem, -⟩ := hstands.exists_of_mem (fun h => h.rising.le) hitem
  exact hitem.written (Parser.namesPatterns_grammar _) hf

/-- Every guard of a declaration is in the guarded text. -/
theorem Config.guard_infix (h : (extract source).value = .ok d)
    (hg : (c.guardTypeScript source).value = .ok g) (hf : f ∈ d.all)
    (htext : text ∈ f.guardTexts c.mode) : Utf8.ofString text <:+: g.bytes := by
  have hle := (bodyStart_of_extract h hf).2.1
  rw [c.guardTypeScript_of_ok h, c.collect_value] at hg
  split at hg
  · cases hg
  cases hg
  have hown : Utf8.ofString text <:+: (f.guardTexts c.mode).flatMap Utf8.ofString :=
    List.infix_of_mem_flatten (List.mem_map_of_mem htext)
  rw [weave_at_bodyStart (nodup_bodyStart h) hf hle]
  exact hown.trans (List.infix_append _ _ _)

/-- The statement of a guard that gives the converted value to the parameter. -/
def Param.assignment (p : Param) (constructor : String) : String :=
  p.name ++ " = " ++ constructor ++ "(" ++ p.name ++ ");"

theorem Param.reaction_fix (p : Param) (constructor : String) : p.reaction constructor .fix =
    "console.warn(" ++ p.mismatch ++ ",\" and was casted\"); " ++ p.assignment constructor := by
  unfold reaction assignment
  simp only [String.append_assoc]

theorem Param.assignment_inj {q : Param} {constructor : String}
    (h : p.assignment constructor = q.assignment constructor) : p.name = q.name := by
  have hlist := congrArg String.toList h
  have hlength := congrArg List.length hlist
  simp only [assignment, String.toList_append, List.length_append] at hlength
  simp only [assignment, String.toList_append, List.append_assoc] at hlist
  exact String.toList_inj.1 (List.append_inj hlist (by omega)).1

theorem ParamType.exists_constructor {t : ParamType} (h : t.isGuardable) :
    ∃ constructor, t.constructor? = some constructor := by
  cases t with
  | number => exact ⟨"Number", rfl⟩
  | string => exact ⟨"String", rfl⟩
  | unknown => cases h

theorem Param.guard?_fix {constructor : String} (h : p.type.constructor? = some constructor) :
    ∃ front back, p.guard? .fix = some (front ++ p.assignment constructor ++ back) := by
  rw [guard?, h, Option.map_some, p.reaction_fix]
  refine ⟨"\n    if(typeof " ++ p.name ++ " !== '" ++ p.type.name ++ "')\x7b\n    " ++
    ("console.warn(" ++ p.mismatch ++ ",\" and was casted\"); "), "\n    \x7d\n    ", ?_⟩
  simp only [String.append_assoc]

theorem Param.mem_guardTexts {mode : Mode} (hp : p ∈ f.guardedParams)
    (htext : p.guard? mode = some text) : text ∈ f.guardTexts mode :=
  List.mem_filterMap.2 ⟨p, (List.mem_filter.1 hp).1, htext⟩

/-- Fix mode assigns to the names that are written in front of a body, each guard to its own, so it
assigns to `this` exactly if a parameter with a tested type is written so. Of the other words that
can never be names it assigns only to `enum`, which is an error, and to those that an escape
hides. -/
theorem fix_assigns_written_names (h : (extract source).value = .ok d) (hf : f ∈ d.all) :
    ParamsWritten source f ∧
    ∀ p ∈ f.guardedParams, ∃ (w : Cursor source) (constructor front back : String),
      w.offset < f.bodyStart ∧ nameAt? w.rest = some p.name ∧
      (isReservedWord p.name → p.name = "this" ∨ p.name = "enum" ∨ w.rest.head? = some '\\') ∧
      p.type.constructor? = some constructor ∧
      p.guard? .fix = some (front ++ p.assignment constructor ++ back) ∧
      (p.assignment constructor = "this = " ++ constructor ++ "(this);" ↔
        nameAt? w.rest = some "this") ∧
      ∀ (c : Config) (g : Guarded), c.mode = .fix → (c.guardTypeScript source).value = .ok g →
        Utf8.ofString (front ++ p.assignment constructor ++ back) <:+: g.bytes := by
  have hwritten := paramsWritten_of_extract h hf
  refine ⟨hwritten, fun p hp => ?_⟩
  obtain ⟨w, -, hw, hname, hreserved⟩ := hwritten.named hp
  obtain ⟨constructor, hconstructor⟩ := ParamType.exists_constructor (List.mem_filter.1 hp).2
  obtain ⟨front, back, hguard⟩ := Param.guard?_fix hconstructor
  refine ⟨w, constructor, front, back, hw, hname, hreserved, hconstructor, hguard, ?_, ?_⟩
  · have hthis : "this = " ++ constructor ++ "(this);" =
        (⟨"this", p.type⟩ : Param).assignment constructor :=
      String.toList_inj.1 (by simp [Param.assignment])
    rw [hthis, hname, Option.some_inj]
    constructor
    · exact Param.assignment_inj
    · intro he
      rw [Param.assignment, he, Param.assignment]
  · intro c g hmode hg
    exact c.guard_infix h hg hf (hmode ▸ Param.mem_guardTexts hp hguard)

/-- A parameter that only declares what `this` is gets an assignment to `this`. -/
theorem fix_assigns_written_names_this :
    (extract "function f(this:number,a:string)\x7b\x7d".toList).value =
      .ok ⟨[⟨"f", [⟨"this", .number⟩, ⟨"a", .string⟩], 33⟩], []⟩ ∧
    ∃ (w : Cursor "function f(this:number,a:string)\x7b\x7d".toList) (front back : String)
        (g : Guarded),
      w.offset < 33 ∧ nameAt? w.rest = some "this" ∧
      (Config.guardTypeScript { mode := .fix }
        "function f(this:number,a:string)\x7b\x7d".toList).value = .ok g ∧
      Utf8.ofString (front ++ "this = Number(this);" ++ back) <:+: g.bytes := by
  have h : (extract "function f(this:number,a:string)\x7b\x7d".toList).value =
      .ok ⟨[⟨"f", [⟨"this", .number⟩, ⟨"a", .string⟩], 33⟩], []⟩ := by rfl
  have hg := Config.guardTypeScript_of_ok { mode := .fix } h
  rw [if_neg (by decide)] at hg
  obtain ⟨w, constructor, front, back, hw, hname, -, hconstructor, -, hiff, hbytes⟩ :=
    (fix_assigns_written_names h (f := ⟨"f", [⟨"this", .number⟩, ⟨"a", .string⟩], 33⟩)
      (by decide)).2 ⟨"this", .number⟩ (by decide)
  cases hconstructor
  have hinfix := hbytes _ _ rfl hg
  rw [hiff.2 hname] at hinfix
  exact ⟨h, w, front, back, _, hw, hname, hg, hinfix⟩

theorem guarded_name_eq_this : ¬ ∀ source d, (extract source).value = .ok d →
    ∀ f ∈ d.all, ∀ p ∈ f.guardedParams, p.name ≠ "this" := by
  intro h
  have hextract : (extract "function f(this:number)\x7b\x7d".toList).value =
      .ok ⟨[⟨"f", [⟨"this", .number⟩], 24⟩], []⟩ := by rfl
  exact h _ _ hextract ⟨"f", [⟨"this", .number⟩], 24⟩ (by decide) ⟨"this", .number⟩ (by decide) rfl

end TypeGuard
