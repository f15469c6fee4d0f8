import TypeGuard.Proofs.Members

namespace TypeGuard.TypeScript

variable {src : List Char} {low mid high : Nat}

def Item.Stands (g : Rules src) (low : Nat) (item : Item src) (high : Nat) : Prop :=
  match item with
  | .function _ r => r.Stands g (Parser.parameter g) low high
  | .class_ _ members => InTurn (Member.Stands g) low members high
  | .useStrict _ | .other => low ≤ high

theorem Item.Stands.mono {g : Rules src} {item : Item src} (h : item.Stands g low mid)
    (hle : mid ≤ high) : item.Stands g low high := by
  cases item with
  | function name r => exact Routine.Stands.mono h hle
  | class_ name members => exact InTurn.mono h hle
  | useStrict start => exact Nat.le_trans h hle
  | other => exact Nat.le_trans h hle

namespace Parser

variable {g : Rules src}

theorem ensures_functionDeclaration (async : Bool) :
    Ensures low (functionDeclaration g async) (Item.Stands g low) :=
  .skip fun _ => .skip fun _ => (ensures_routine (fun _ => ensures_parameters) _ _).map
    fun _ _ h => h

theorem ensures_defaultFunction (async : Bool) :
    Ensures low (defaultFunction g async) (Item.Stands g low) :=
  .skip fun _ => .skip fun _ => (ensures_routine (fun _ => ensures_parameters) _ _).map
    fun _ _ h => h

theorem ensures_classTail : Ensures low (classTail g) (InTurn (Member.Stands g) low) := by
  refine .skip fun _ => .skip fun _ => .skip fun _ => ensures_members.within.bind
    fun found mid _ hfound => ?_
  have hstands : ∀ high, mid ≤ high → InTurn (Member.Stands g) low found high :=
    fun high hle => hfound.mono hle
  refine .skip fun _ => .ite (.skip fun _ => .skip fun _ => .skip fun _ => .pure hstands) ?_
  exact .skip fun _ => .pure hstands

theorem ensures_classWith {α : Type} (isAbstract : Bool) (name : Parser src α) :
    Ensures low (classWith g isAbstract name) fun found high =>
      InTurn (Member.Stands g) low found.2 high := by
  refine .skip fun _ => ?_
  have hclass : Ensures low (within (fun c => { c with strict := true, inClass := true }) do
      expectWord "class"
      let found ← name
      return (found, ← classTail g)) fun found high =>
        InTurn (Member.Stands g) low found.2 high :=
    .within (.skip fun _ => .skip fun _ => ensures_classTail.map fun _ _ h => h)
  refine hclass.bind fun found mid _ hfound => ?_
  exact .whether fun _ => .pure fun high hle => hfound.mono hle

theorem ensures_classDeclaration (isAbstract : Bool) :
    Ensures low (classDeclaration g isAbstract) (Item.Stands g low) :=
  (ensures_classWith isAbstract className).map fun _ _ h => h

theorem ensures_defaultClass (isAbstract : Bool) :
    Ensures low (defaultClass g isAbstract) (Item.Stands g low) :=
  (ensures_classWith isAbstract className?).map fun _ _ h => h

theorem ensures_other : Ensures low (pure .other : Parser src (Item src)) (Item.Stands g low) :=
  .pure fun _ hle => hle

theorem ensures_otherFound : Ensures low (pure (some .other) : Parser src (Option (Item src)))
    (IfFound (Item.Stands g low)) :=
  ensures_other.isFound

theorem ensures_nothing (p : Parser src Unit) : Ensures low (nothing p) (Item.Stands g low) :=
  .skip fun _ => ensures_other

theorem ensures_variableStatement : Ensures low (variableStatement g) (Item.Stands g low) :=
  .skip fun _ => ensures_other

theorem ensures_constantEnumeration : Ensures low (constantEnumeration g) (Item.Stands g low) :=
  .skip fun _ => .skip fun _ => .skip fun _ => ensures_other

theorem ensures_wordDeclaration? (name : String) (pending : Bool) :
    Ensures low (wordDeclaration? g name pending) (IfFound (Item.Stands g low)) := by
  unfold wordDeclaration?
  dsimp only
  split
  · exact .skip fun _ => .ite (.skip fun _ => (ensures_classDeclaration true).isFound)
      .notFound
  · exact .skip fun _ => .ite (.skip fun _ => .skip fun _ => ensures_otherFound) .notFound
  · exact .skip fun _ => .ite (.skip fun _ => .skip fun _ => ensures_otherFound) .notFound
  · refine .skip fun _ => .ite .notFound (.skip fun _ => .skip fun t => ?_)
    split
    · exact .skip fun _ => ensures_otherFound
    · exact .skip fun _ => .ite (.skip fun _ => ensures_otherFound) .notFound
  · exact .skip fun _ => .ite (.skip fun _ => .skip fun _ => ensures_otherFound) .notFound
  · exact .skip fun _ => .ite (.skip fun _ => .skip fun _ => ensures_otherFound) .notFound
  · exact .notFound

theorem ensures_ambientDeclaration? (start : Cursor src) :
    Ensures low (ambientDeclaration? g start) (IfFound (Item.Stands g low)) := by
  refine .skip fun _ => .whether fun _ => .within ?_
  refine .skip fun _ => .ite (ensures_functionDeclaration false).isFound ?_
  refine .skip fun _ => .ite (ensures_classDeclaration false).isFound ?_
  refine .skip fun _ => .ite ensures_constantEnumeration.isFound ?_
  refine .skip fun _ => .ite ensures_variableStatement.isFound ?_
  refine .skip fun _ => .ite (.skip fun _ => ensures_otherFound) (.skip fun t => ?_)
  split
  · exact ensures_wordDeclaration? _ true
  · exact .notFound

theorem ensures_declarationAfter? (start : Cursor src) (name : String) :
    Ensures low (declarationAfter? g start name) (IfFound (Item.Stands g low)) := by
  unfold declarationAfter?
  split
  · exact ensures_ambientDeclaration? start
  · exact .skip fun _ => .ite (.skip fun _ => ensures_otherFound) .notFound
  · exact ensures_wordDeclaration? name false

theorem ensures_namedStatement (e : Expr src) (name : String) :
    Ensures low (namedStatement g e name) (Item.Stands g low) := by
  refine .skip fun _ => .ite (ensures_nothing _) ?_
  refine .skip fun _ => .ite (.skip fun _ => .skip fun _ => ensures_other) ?_
  refine .found (ensures_declarationAfter? e.start name) (fun _ => rfl) rfl ?_
  exact .whether fun _ => .skip fun _ => .ite ensures_other (ensures_nothing _)

theorem ensures_expressionStatement : Ensures low (expressionStatement g) (Item.Stands g low) := by
  refine .skip fun start => .skip fun e => ?_
  split
  · exact ensures_namedStatement e _
  · refine .skip fun _ => .pure fun high hle => ?_
    split <;> exact hle
  · exact ensures_nothing _

theorem ensures_awaitStatement (topLevel : Bool) :
    Ensures low (awaitStatement g topLevel) (Item.Stands g low) := by
  refine .skip fun start => .whetherAt fun _ => .skip fun _ => ?_
  refine .ite ensures_expressionStatement (.skip fun _ => .skip fun _ => .ite ensures_other ?_)
  exact .skip fun _ => .skip fun _ => .skip fun _ => ensures_other

theorem ensures_typeStatement (declaration : Parser src Unit) :
    Ensures low (typeStatement g declaration) (Item.Stands g low) :=
  .skip fun _ => .ite (.skip fun _ => ensures_nothing _) ensures_expressionStatement

theorem ensures_statement (declarations topLevel : Bool) :
    Ensures low (statement g declarations topLevel) (Item.Stands g low) := by
  refine .skip fun _ => .ite ensures_constantEnumeration (.skip fun t => ?_)
  split
  · exact ensures_nothing _
  · exact ensures_nothing _
  · exact .ite (ensures_awaitStatement _) ensures_expressionStatement
  · exact ensures_nothing _
  · exact ensures_nothing _
  · exact .skip fun _ => ensures_nothing _
  · exact ensures_nothing _
  · exact ensures_nothing _
  · exact .skip fun _ => ensures_functionDeclaration _
  · exact .skip fun _ => ensures_classDeclaration _
  · exact ensures_nothing _
  · exact ensures_nothing _
  · exact ensures_nothing _
  · exact ensures_nothing _
  · exact ensures_nothing _
  · exact ensures_nothing _
  · exact ensures_nothing _
  · exact ensures_nothing _
  · exact ensures_nothing _
  · exact ensures_variableStatement
  · exact .ite ensures_variableStatement ensures_expressionStatement
  · exact .skip fun _ => .ite ensures_variableStatement ensures_expressionStatement
  · exact .skip fun _ => .ite ensures_other ensures_expressionStatement
  · exact ensures_typeStatement _
  · exact ensures_typeStatement _
  · exact ensures_typeStatement _
  · exact .skip fun _ => .ite (.skip fun _ => ensures_functionDeclaration _)
      ensures_expressionStatement
  · exact ensures_expressionStatement

theorem ensures_importStatement : Ensures low (importStatement g) (Item.Stands g low) :=
  .skip fun _ => .skip fun _ => ensures_other

theorem ensures_importItem : Ensures low (importItem g) (Item.Stands g low) := by
  refine .skip fun _ => .ite ensures_importStatement ?_
  refine .skip fun _ => .skip fun _ => .skip fun _ => .skip fun _ => .skip fun t => ?_
  split
  · exact .skip fun _ => .skip fun _ => ensures_nothing _
  · exact ensures_nothing _

theorem ensures_defaultExport : Ensures low (defaultExport g) (Item.Stands g low) := by
  have hrest : Ensures low (do
      if ← eatWord "interface" then nothing (interface g)
      else if ← isWord "class" then defaultClass g false
      else if ← isWord "async" <&&> peekIsWordOnLine "function" then
        bump
        defaultFunction g true
      else if ← isWord "function" then defaultFunction g false
      else
        let _ ← assignment g
        nothing semicolon) (Item.Stands g low) := by
    refine .skip fun _ => .ite (ensures_nothing _) ?_
    refine .skip fun _ => .ite (ensures_defaultClass false) ?_
    refine .skip fun _ => .ite (.skip fun _ => ensures_defaultFunction true) ?_
    refine .skip fun _ => .ite (ensures_defaultFunction false) ?_
    exact .skip fun _ => ensures_nothing _
  refine .skip fun _ => .ite (.skip fun _ => .skip fun _ => ensures_defaultClass true) ?_
  exact .skip fun _ => .ite (.skip fun _ => .skip fun _ => .skip fun _ => hrest) hrest

theorem ensures_exportedItem : Ensures low (exportedItem g) (Item.Stands g low) := by
  refine .skip fun _ => .skip fun _ => .ite (ensures_nothing _) ?_
  refine .skip fun _ => .ite ensures_defaultExport ?_
  refine .skip fun _ => .ite (ensures_classDeclaration false) ?_
  refine .skip fun _ => .ite (.skip fun _ => ensures_functionDeclaration true) ?_
  refine .skip fun _ => .ite (ensures_functionDeclaration false) ?_
  refine .skip fun _ => .ite ensures_constantEnumeration ?_
  exact .skip fun _ => .ite ensures_variableStatement (ensures_nothing _)

theorem ensures_exportItem : Ensures low (exportItem g) (Item.Stands g low) := by
  have hrest : Ensures low (do
      if ← eatWord "import" then
        let _ ← isWord "type" <&&> (afterNext >>= isNameToken) <&&> eatWord "type"
        let _ ← anyWord
        nothing importAlias
      else if ← eat .assign then
        let _ ← expression g
        nothing semicolon
      else if ← eatWord "as" then
        expectWord "namespace"
        let _ ← identifier false
        nothing semicolon
      else exportedItem g) (Item.Stands g low) := by
    refine .skip fun _ => .ite (.skip fun _ => .skip fun _ => ensures_nothing _) ?_
    refine .skip fun _ => .ite (.skip fun _ => ensures_nothing _) ?_
    refine .skip fun _ => .ite (.skip fun _ => .skip fun _ => ensures_nothing _) ?_
    exact ensures_exportedItem
  refine .skip fun _ => .skip fun _ => .skip fun start => .skip fun _ => ?_
  refine .either (fun _ => ensures_ambientDeclaration? start) .notFound
    fun ambient mid hle hambient => ?_
  cases ambient with
  | some item => exact .pure fun high hhigh => (hambient item rfl).mono hhigh
  | none =>
    refine .later (.skip fun t => ?_) hle
    dsimp only
    split
    · exact .found (ensures_wordDeclaration? _ true).attempt (fun _ => rfl) rfl hrest
    · exact .found .notFound (fun _ => rfl) rfl hrest

theorem ensures_item (declarations topLevel : Bool) :
    Ensures low (item g declarations topLevel) (Item.Stands g low) := by
  refine .skip fun _ => .skip fun _ => .ite ?_ (ensures_statement _ _).within
  refine .ite (.skip fun _ => .ite ensures_importItem ensures_exportItem) ?_
  exact .skip fun _ => .ite ensures_importStatement (ensures_fail _)

theorem ensures_items : Ensures low (items g) (InTurn (Item.Stands g) low) := by
  refine .gather fun found directives mid hfound => ?_
  refine .skip fun _ => .skip fun _ =>
    .ite (.pure fun high hle => hfound.mono hle) ?_
  refine (ensures_item true true).bind fun item stop _ hitem => ?_
  have hagain : Ensures stop
      (pure (.again (item :: found, false)) : Parser src (Round _ (List (Item src))))
      (Ensures.Gathered (Item.Stands g) low) :=
    .pure fun high hhigh => hfound.push hitem hhigh
  refine .ite ?_ hagain
  cases item with
  | useStrict start => exact .skip fun _ => hagain
  | function name r => exact hagain
  | class_ name members => exact hagain
  | other => exact hagain

end Parser

end TypeGuard.TypeScript
