import TypeGuard.Proofs.Ensuring

namespace TypeGuard.TypeScript

variable {src : List Char} {low mid high : Nat}

/-- A parameter stands where it is read; `one` reads a parameter that is not a rest parameter. -/
def Binding.Stands (g : Rules src) (one : Parser src (Binding src)) (low : Nat) (b : Binding src)
    (high : Nat) : Prop :=
  one.Reads low b high ∨
    ∃ dots initializer, (Parser.restParameter g dots initializer).Reads low b high

def Routine.Stands (g : Rules src) (one : Parser src (Binding src)) (low : Nat) (r : Routine src)
    (high : Nat) : Prop :=
  ∃ mid, InTurn (Binding.Stands g one) low r.params mid ∧ ∃ async generator,
    (Parser.functionBody g async generator (r.params.all Binding.isSimple)).Reads mid r.body high

/-- A key stands where it is read as one, and so does a word that turns out to be no modifier. -/
def Key.Stands (g : Rules src) (low : Nat) (key : Key src) (high : Nat) : Prop :=
  (Parser.memberKey g).Reads low key high ∨ ∃ place name, key = .name place name ∧
    (Parser.eatWord name : Parser src Bool).Reads low true high

/-- What a member of a class can be, whether it is static or not. -/
inductive MemberForm (src : List Char) where
  | constructor (r : Routine src)
  | method (key : Key src) (r : Routine src)
  | getter (key : Key src) (r : Routine src)
  | setter (key : Key src) (r : Routine src)
  | property (key : Key src)
  | signature
  | block

namespace MemberForm

/-- A form of member stands where its parts are read one after another. -/
inductive Stands (g : Rules src) : Nat → MemberForm src → Nat → Prop
  | constructor {low mid high : Nat} {key : Key src} {r : Routine src}
      (hkey : (Parser.memberKey g).Reads low key mid) (hname : key.isConstructor)
      (hr : r.Stands g (Parser.constructorParameter g) mid high) :
      Stands g low (.constructor r) high
  | method {low mid high : Nat} {key : Key src} {r : Routine src} (hkey : key.Stands g low mid)
      (hr : r.Stands g (Parser.parameter g) mid high) : Stands g low (.method key r) high
  | getter {low mid mid' high : Nat} {place : Cursor src} {key : Key src} {r : Routine src}
      (hword : (Parser.memberKey g).Reads low (.name place "get") mid)
      (hkey : (Parser.memberKey g).Reads mid key mid')
      (hr : r.Stands g (Parser.parameter g) mid' high) : Stands g low (.getter key r) high
  | setter {low mid mid' high : Nat} {place : Cursor src} {key : Key src} {r : Routine src}
      (hword : (Parser.memberKey g).Reads low (.name place "set") mid)
      (hkey : (Parser.memberKey g).Reads mid key mid')
      (hr : r.Stands g (Parser.parameter g) mid' high) : Stands g low (.setter key r) high
  | property {low mid high : Nat} {key : Key src} {m : Parser.Modifiers src} {isOptional : Bool}
      {found : Member src} (hkey : key.Stands g low mid)
      (h : (Parser.property g m key isOptional).Reads mid found high) :
      Stands g low (.property key) high
  | signature {low high : Nat} (h : (Parser.indexSignature? g).Reads low true high) :
      Stands g low .signature high
  | block {low high : Nat} {b : Brace src} (h : (Parser.block g).Reads low b high) :
      Stands g low .block high

def routine? : MemberForm src → Option (Routine src)
  | .constructor r | .method _ r | .getter _ r | .setter _ r => some r
  | .property _ | .signature | .block => none

/-- The name under which a function is reported, unless it is private. -/
def name? : MemberForm src → Option String
  | .constructor _ => some "constructor"
  | .method key _ | .getter key _ | .setter key _ => key.method?
  | .property _ | .signature | .block => none

end MemberForm

/-- What is kept of a member that has a form is the function of that form and its name. -/
def Member.Keeps (m : Member src) (form : MemberForm src) : Prop :=
  m.method = form.routine?.map fun r => (form.name?, r)

def Member.Stands (g : Rules src) (low : Nat) (m : Member src) (high : Nat) : Prop :=
  ∃ form : MemberForm src, form.Stands g low high ∧ m.Keeps form

theorem Routine.Stands.mono {g : Rules src} {one : Parser src (Binding src)} {r : Routine src}
    (h : r.Stands g one low mid) (hle : mid ≤ high) : r.Stands g one low high := by
  obtain ⟨stop, hparams, async, generator, hbody⟩ := h
  exact ⟨stop, hparams, async, generator, hbody.mono hle⟩

namespace Parser

variable {g : Rules src} {one : Parser src (Binding src)}

theorem ensures_fail {α : Type} {P : α → Nat → Prop} (cause : Cause) :
    Ensures low (fail cause : Parser src α) P :=
  .skip fun _ => .skip fun _ => .throw _

theorem ensures_unexpected {α : Type} {P : α → Nat → Prop} (wanted : String) :
    Ensures low (unexpected wanted : Parser src α) P :=
  .skip fun _ => ensures_fail _

theorem ensures_parameterList (initializers : Bool) :
    Ensures low (parameterList g initializers one) (InTurn (Binding.Stands g one) low) := by
  refine .gather fun ps rest mid hps => ?_
  refine .skip fun _ => .ite (.pure fun high hle => hps.mono hle) ?_
  -- A rest parameter in front of another one is reported and changes nothing else.
  cases rest
  case' some => refine .skip fun _ => ?_
  all_goals
    refine .skip fun _ => .skip fun isRest => .either (P := Binding.Stands g one mid) ?_ ?_ ?_
    · exact fun _ => (Ensures.reads _).mono fun _ _ h => .inr ⟨_, _, h⟩
    · exact (Ensures.reads _).mono fun _ _ h => .inl h
    · intro b stop hle hb
      refine .skip fun _ => .ite (.skip fun _ => .skip fun _ => .whetherAt fun _ => ?_) ?_
      all_goals exact .pure fun high hhigh => hps.push hb hhigh

theorem ensures_parameters :
    Ensures low (parameters g) (InTurn (Binding.Stands g (parameter g)) low) :=
  ensures_parameterList true

theorem ensures_accessorParameters (kind : String) (place : Cursor src) :
    Ensures low (accessorParameters g kind place)
      (InTurn (Binding.Stands g (parameter g)) low) := by
  refine .ite ?_ ?_
  · exact ensures_parameters.bind fun ps mid _ hps =>
      .whether fun _ => .pure fun high hle => hps.mono hle
  · refine ensures_parameters.bind fun ps mid _ hps => .whether fun _ => ?_
    cases ps.head? with
    | none => exact .pure fun high hle => hps.mono hle
    | some p => exact .whether fun _ => .pure fun high hle => hps.mono hle

theorem ensures_routine {params : Parser src (List (Binding src))}
    (hparams : ∀ low, Ensures low params (InTurn (Binding.Stands g one) low))
    (async generator : Bool) :
    Ensures low (routine g params async generator) (Routine.Stands g one low) := by
  rw [routine]
  refine .within (.skip fun _ => .skip fun _ => (hparams low).within.bind fun ps mid _ hps => ?_)
  refine .skip fun _ => .skip fun _ => .read fun body stop hbody => ?_
  exact .whether fun _ => .pure fun high hle => ⟨mid, hps, async, generator, hbody.mono hle⟩

variable {m : Modifiers src} {key : Key src}

theorem ensures_method {params : Parser src (List (Binding src))} {async generator : Bool}
    (hparams : ∀ low, Ensures low params (InTurn (Binding.Stands g one) low)) :
    Ensures low (method g m key params async generator) fun found high =>
      ∃ r, r.Stands g one low high ∧ found.method = some (key.method?, r) := by
  refine (ensures_routine hparams _ _).within.bind fun r mid _ hr => ?_
  exact .whether fun _ => .pure fun high hle => ⟨r, hr.mono hle, rfl⟩

theorem ensures_plainMethod {async generator : Bool} (hkey : key.Stands g low mid) :
    Ensures mid (method g m key (parameters g) async generator) (Member.Stands g low) :=
  (ensures_method fun _ => ensures_parameters).mono fun _ _ ⟨r, hr, hm⟩ =>
    ⟨.method key r, .method hkey hr, hm⟩

theorem ensures_property {isOptional : Bool} (hkey : key.Stands g low mid) :
    Ensures mid (property g m key isOptional) (Member.Stands g low) := by
  -- The property is kept as a whole; of its parts only that it is no function matters.
  have hnone : Ensures mid (property g m key isOptional) fun found _ => found.method = none := by
    refine .skip fun _ => .whetherRead (.skip fun _ => .within (.skip fun _ => ?_))
    refine .whetherRead (.skip fun _ => .whetherAt fun _ => ?_)
    exact .whether fun _ => .pure fun _ _ => rfl
  exact ((Ensures.reads _).and hnone).mono fun _ _ ⟨h, hm⟩ => ⟨.property key, .property hkey h, hm⟩

theorem ensures_constructor (hkey : (memberKey g).Reads low key mid) (hname : key.isConstructor) :
    Ensures mid (constructor g m) (Member.Stands g low) := by
  refine .whether fun _ => .skip fun _ => .skip fun _ => ?_
  refine (ensures_parameterList false).bind fun ps stop _ hps => .skip fun _ => .skip fun _ => ?_
  refine .read fun body stop' hbody => .whetherAt fun _ => ?_
  have hstands : ∀ high, stop' ≤ high →
      Member.Stands g low ⟨m.start, some (some "constructor", ⟨ps, body⟩), true, false⟩ high :=
    fun high hle => ⟨.constructor ⟨ps, body⟩,
      .constructor hkey hname ⟨stop, hps, _, _, hbody.mono hle⟩, rfl⟩
  cases m.staticPlace with
  | none =>
    cases m.last with
    | none => exact .pure hstands
    | some place => exact .whether fun _ => .pure hstands
  | some place =>
    cases m.last with
    | none => exact .skip fun _ => .pure hstands
    | some place => exact .skip fun _ => .whether fun _ => .pure hstands

theorem ensures_accessor {kind : String} {start place : Cursor src}
    (hword : (memberKey g).Reads low (.name start kind) mid) (hkind : kind = "get" ∨ kind = "set") :
    Ensures mid (accessor g m kind place) (Member.Stands g low) := by
  refine .read fun key stop hkey => .whether fun _ => .whether fun _ => ?_
  refine (ensures_method fun _ => ensures_accessorParameters kind place).mono ?_
  rintro found high ⟨r, hr, hm⟩
  rcases hkind with rfl | rfl
  · exact ⟨.getter key r, .getter hword hkey hr, hm⟩
  · exact ⟨.setter key r, .setter hword hkey hr, hm⟩

theorem ensures_asyncMethod {isOptional : Bool} :
    Ensures low (asyncMethod g m isOptional) (Member.Stands g low) := by
  refine .skip fun _ => .whetherAt fun _ => .skip fun _ => .read fun key mid hkey => ?_
  refine .whether fun _ => .whether fun _ => .skip fun _ => ?_
  exact ensures_plainMethod (.inl hkey)

theorem ensures_keyedMember : Ensures low (keyedMember g m) (Member.Stands g low) := by
  refine .read fun key mid hkey => .skip fun isOptional => .skip fun _ => .ite ?_ ?_
  · refine .whether fun _ => .whether fun _ => ?_
    split
    · next hname => exact ensures_constructor hkey hname
    · exact ensures_plainMethod (.inl hkey)
  · let isKind := key.word? = some "get" ∨ key.word? = some "set"
    refine .skip fun _ => .either (P := IfTrue fun _ => isKind) ?_ ?_ ?_
    · exact fun hkind => (Ensures.idle _).mono fun _ _ _ _ => by simpa [isKind] using hkind
    · exact .pure fun _ _ => nofun
    · intro isAccessor stop hle hkind
      refine .skip fun _ => .ite ((ensures_property (.inl hkey)).later hle) ?_
      refine .skip fun _ => .ite (ensures_asyncMethod.later (Nat.le_trans hkey.le hle)) ?_
      split
      · next place kind =>
        split
        · next hacc =>
          have hkind : kind = "get" ∨ kind = "set" := by simpa [isKind, Key.word?] using hkind hacc
          exact (ensures_accessor hkey hkind).later hle
        · exact ensures_unexpected _
      · exact ensures_unexpected _

theorem ensures_staticBlock : Ensures low (staticBlock g m) (Member.Stands g low) := by
  have hblock : Ensures low (block g) fun b high => (block g).Reads low b high := .reads _
  exact hblock.within.bind fun b mid _ hb => .pure fun high hle =>
    ⟨.block, .block (hb.mono hle), rfl⟩

theorem ensures_staticBlock? : Ensures low (staticBlock? g m)
    (IfFound (Member.Stands g low)) := by
  refine .skip fun _ => .ite (.whether fun _ => .whetherAt fun _ => ensures_staticBlock.isFound) ?_
  refine .skip fun _ => .ite ?_ .notFound
  exact .skip fun _ => .skip fun _ => .skip fun _ => .whetherAt fun _ => ensures_staticBlock.isFound

theorem ensures_modifiedMember : Ensures low (modifiedMember g m) (Member.Stands g low) := by
  refine .skip fun m => .skip fun _ => .found ensures_staticBlock? (fun _ => rfl) rfl ?_
  have hindex : Ensures low (pure (!m.isAbstract && !m.hasAccess) <&&> indexSignature? g)
      (IfTrue ((indexSignature? g).Reads low true)) :=
    .both ((Ensures.reads _).mono fun _ _ h hb => hb ▸ h)
  refine hindex.bind fun isIndex mid hle h => ?_
  split
  · next hfound =>
    exact .pure fun high hhigh => ⟨.signature, .signature ((h hfound).mono hhigh), rfl⟩
  · refine .skip fun _ => .ite (.read fun key stop hkey => ?_) (ensures_keyedMember.later hle)
    have hkey' := hkey.after hle
    exact .whether fun _ => .whether fun _ => ensures_plainMethod (.inl hkey')

/-- A word that has been read as a modifier is the key if parameters or a property follow. -/
theorem ensures_memberNamed? {name : String} {place : Cursor src} {lines : Bool}
    (hword : (eatWord name : Parser src Bool).Reads low true mid) :
    Ensures mid (memberNamed? g m name place lines) (IfFound (Member.Stands g low)) := by
  have hkey : (Key.name place name).Stands g low mid := .inr ⟨place, name, rfl, hword⟩
  refine .skip fun _ => .ite (ensures_plainMethod hkey).isFound ?_
  exact .skip fun _ => .ite (.skip fun _ => (ensures_property hkey).isFound) .notFound

theorem ensures_member : Ensures low (member g) (Member.Stands g low) := by
  refine .skip fun start => .read fun declared mid hfirst => .skip fun _ => ?_
  have hdeclared : Ensures mid (pure declared <||> eatWord "declare" : Parser src Bool)
      (IfTrue ((eatWord "declare" : Parser src Bool).Reads low true)) := by
    refine .orElse (fun hle h => h.mono hle) ?_ ?_
    · exact .pure fun high hle hb => (hb ▸ hfirst).mono hle
    · exact (Ensures.reads _).mono fun _ _ h hb => (hb ▸ h).after hfirst.le
  refine hdeclared.bind fun declared mid' hle h => ?_
  refine .whetherFound (fun hc => ensures_memberNamed? (h hc)) (fun _ => rfl) rfl ?_
  refine .later (.skip fun _ => .read fun isStatic mid hstatic => ?_) (Nat.le_trans hfirst.le hle)
  refine .whetherFound (fun hc => ensures_memberNamed? (hc ▸ hstatic)) (fun _ => rfl) rfl ?_
  refine .later (.skip fun _ => .read fun isAccessor mid haccessor => ?_) hstatic.le
  refine .whetherFound (fun hc => ensures_memberNamed? (hc ▸ haccessor)) (fun _ => rfl) rfl ?_
  exact ensures_modifiedMember.later haccessor.le

theorem ensures_members : Ensures low (members g) (InTurn (Member.Stands g) low) := by
  refine .gather fun found constructed mid hfound => ?_
  refine .skip fun _ => .ite (.pure fun high hle => hfound.mono hle) ?_
  refine .skip fun _ => .ite (.pure fun high hle => hfound.mono hle) ?_
  refine ensures_member.bind fun member stop _ hmember => .skip fun _ => .whether fun _ => ?_
  exact .pure fun high hhigh => hfound.push hmember hhigh

end Parser

end TypeGuard.TypeScript
