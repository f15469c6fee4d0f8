import TypeGuard.TypeScript.Scan.Basic

namespace TypeGuard.TypeScript.Scan

/-- What was found between two tokens. -/
structure Trivia where
  length : Nat
  breaks : Bool
  remarks : List Remark
  /-- What is wrong in it, from a place on: a block comment without an end or a marker of bars. -/
  fault : Option Remark := none

/-- Place of the first markup comment or marker; the token after it is said to start there. -/
def Trivia.first? (t : Trivia) : Option Nat :=
  t.remarks.head?.map (·.place)

inductive TriviaState where
  | blank
  | line
  | block (start : Nat)

/-- What makes a sign at the front of a text the beginning of a line to be skipped: a markup comment,
or the marker of an unfinished merge. -/
def lineSign? (single breaks : Bool) (cs : List Char) : Option (Nat × Cause) :=
  if !single && startsWith cs "<!--" then some (4, .legacyComment)
  else if !breaks then none
  else if startsWith cs "-->" then some (3, .legacyComment)
  else if !single && (startsWith cs "<<<<<<< " || startsWith cs ">>>>>>> ") then
    some (8, .conflictMarker)
  else if startsWith cs "=======" then some (7, .conflictMarker)
  else none

/-- Whether such a sign stands at the front of a text, wherever it would count. -/
def isLineSign (cs : List Char) : Bool :=
  (lineSign? false true cs).isSome

theorem isLineSign_of_lineSign? {single breaks : Bool} {cs : List Char} {sign : Nat × Cause}
    (h : lineSign? single breaks cs = some sign) : isLineSign cs := by
  cases single <;> cases breaks <;> grind [lineSign?, isLineSign]

def isBars (breaks : Bool) (cs : List Char) : Bool :=
  breaks && startsWith cs "||||||| "

/-- Reads on from `pos`; `pending` characters belong to a comment sign that was seen already, and
`bars` is the place of a marker of bars. -/
def triviaFrom (single : Bool) (state : TriviaState) (pending : Nat) (breaks : Bool) (pos : Nat)
    (remarks : List Remark) (bars : Option Nat) : List Char → Trivia
  | [] =>
    let fault : Option Remark := match state with
      | .block start => some ⟨start, .unclosedComment⟩
      | _ => bars.map fun place => ⟨place, .conflictMarker⟩
    ⟨pos, breaks, remarks.reverse, fault⟩
  | c :: cs =>
    match pending with
    | k + 1 => triviaFrom single state k breaks (pos + 1) remarks bars cs
    | 0 =>
      match state with
      | .line =>
        if isLineBreak c then triviaFrom single .blank 0 true (pos + 1) remarks bars cs
        else triviaFrom single .line 0 breaks (pos + 1) remarks bars cs
      | .block start =>
        if c == '*' && cs.head? == some '/' then
          triviaFrom single .blank 1 breaks (pos + 1) remarks bars cs
        else
          triviaFrom single (.block start) 0 (breaks || isLineBreak c) (pos + 1) remarks bars cs
      | .blank =>
        if isLineBreak c then triviaFrom single .blank 0 true (pos + 1) remarks bars cs
        else if isBlank c then triviaFrom single .blank 0 breaks (pos + 1) remarks bars cs
        else if c == '/' && cs.head? == some '/' then
          triviaFrom single .line 1 breaks (pos + 1) remarks bars cs
        else if c == '/' && cs.head? == some '*' then
          triviaFrom single (.block pos) 1 breaks (pos + 1) remarks bars cs
        else
          match bars with
          | some place => ⟨pos, breaks, remarks.reverse, some ⟨place, .conflictMarker⟩⟩
          | none =>
            if isBars breaks (c :: cs) then
              triviaFrom single .line 7 breaks (pos + 1) (⟨pos, .conflictMarker⟩ :: remarks)
                (some pos) cs
            else
              match lineSign? single breaks (c :: cs) with
              | some (n, cause) =>
                triviaFrom single .line (n - 1) breaks (pos + 1) (⟨pos, cause⟩ :: remarks) none cs
              | none => ⟨pos, breaks, remarks.reverse, none⟩

/-- Unless something is wrong, each remark stands at the sign of a line that is skipped. -/
def Trivia.Signed (text : List Char) (t : Trivia) : Prop :=
  t.fault = none → ∀ r ∈ t.remarks, isLineSign (text.drop r.place)

theorem drop_succ_of_drop {text cs : List Char} {c : Char} {pos : Nat}
    (h : text.drop pos = c :: cs) : text.drop (pos + 1) = cs := by
  rw [← List.tail_drop, h, List.tail_cons]

theorem signed_triviaFrom {single : Bool} {state : TriviaState} {pending : Nat} {breaks : Bool}
    {pos : Nat} {remarks : List Remark} {bars : Option Nat} {text cs : List Char}
    (hcs : text.drop pos = cs)
    (hold : bars = none → ∀ r ∈ remarks, isLineSign (text.drop r.place)) :
    (triviaFrom single state pending breaks pos remarks bars cs).Signed text := by
  fun_induction triviaFrom single state pending breaks pos remarks bars cs with
  | case1 state pending breaks pos remarks bars fault =>
    intro hfault r hr
    refine hold ?_ r (List.mem_reverse.1 hr)
    cases state <;> simp_all [fault]
  | case11 => exact nofun
  | case12 breaks pos remarks c cs _ _ _ _ _ ih => exact ih (drop_succ_of_drop hcs) nofun
  | case13 breaks pos remarks c cs _ _ _ _ _ n cause hsign ih =>
    refine ih (drop_succ_of_drop hcs) fun _ => ?_
    rw [List.forall_mem_cons]
    refine ⟨?_, hold rfl⟩
    rw [hcs]
    exact isLineSign_of_lineSign? hsign
  | case14 => exact fun _ r hr => hold rfl r (List.mem_reverse.1 hr)
  | _ => rename_i ih; exact ih (drop_succ_of_drop hcs) hold

/-- The trivia in front of a text; `breaks` says whether the text begins a line. -/
def trivia (single breaks : Bool) (cs : List Char) : Trivia :=
  triviaFrom single .blank 0 breaks 0 [] none cs

theorem signed_trivia (single breaks : Bool) (cs : List Char) :
    (trivia single breaks cs).Signed cs :=
  signed_triviaFrom rfl nofun

/-- Length of the interpreter line that a file may begin with. -/
def interpreterLine (cs : List Char) : Nat :=
  if startsWith cs "#!" then (cs.takeWhile fun c => !isLineBreak c).length else 0

end TypeGuard.TypeScript.Scan
