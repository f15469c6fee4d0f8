import TypeGuard.Proofs.Statements

namespace TypeGuard.TypeScript

/-- Offsets that rise, all of them at or after one offset and in front of another. -/
def Rising : Nat → List Nat → Nat → Prop
  | low, [], high => low ≤ high
  | low, x :: xs, high => low ≤ x ∧ Rising (x + 1) xs high

namespace Rising

variable {low low' mid high n : Nat} {xs ys : List Nat}

theorem le (h : Rising low xs high) : low ≤ high := by
  induction xs generalizing low with
  | nil => exact h
  | cons x xs ih => exact Nat.le_trans h.1 (Nat.le_of_succ_le (ih h.2))

theorem append (h : Rising low xs mid) (h' : Rising mid ys high) :
    Rising low (xs ++ ys) high := by
  induction xs generalizing low with
  | nil =>
    cases ys with
    | nil => exact Nat.le_trans h h'
    | cons y ys => exact ⟨Nat.le_trans h h'.1, h'.2⟩
  | cons x xs ih => exact ⟨h.1, ih h.2⟩

theorem mono (h : Rising low xs mid) (hle : mid ≤ high) : Rising low xs high := by
  have h' := h.append (show Rising mid [] high from hle)
  rwa [List.append_nil] at h'

theorem after (h : Rising low xs high) (hle : low' ≤ low) : Rising low' xs high :=
  append (show Rising low' [] low from hle) h

theorem low_le (h : Rising low xs high) (hn : n ∈ xs) : low ≤ n := by
  induction xs generalizing low with
  | nil => cases hn
  | cons x xs ih =>
    rcases List.mem_cons.1 hn with rfl | hn
    · exact h.1
    · exact Nat.le_trans h.1 (Nat.le_of_succ_le (ih h.2 hn))

theorem pairwise (h : Rising low xs high) : xs.Pairwise (· < ·) := by
  induction xs generalizing low with
  | nil => exact .nil
  | cons x xs ih => exact .cons (fun n hn => h.2.low_le hn) (ih h.2)

end Rising

theorem InTurn.le {α : Type} {Stands : Nat → α → Nat → Prop} {low high : Nat} {as : List α}
    (h : InTurn Stands low as high)
    (hle : ∀ {start a stop}, Stands start a stop → start ≤ stop) : low ≤ high := by
  induction as generalizing low with
  | nil => exact h
  | cons a as ih =>
    obtain ⟨start, stop, hstart, ha, has⟩ := h
    exact Nat.le_trans hstart (Nat.le_trans (hle ha) (ih has))

/-- If the offsets that belong to each thing rise, then so do those of all things in turn. -/
theorem InTurn.rising {α : Type} {Stands : Nat → α → Nat → Prop} {offsets : α → List Nat}
    {low high : Nat} {as : List α} (h : InTurn Stands low as high)
    (hrising : ∀ {start a stop}, Stands start a stop → Rising start (offsets a) stop) :
    Rising low (as.flatMap offsets) high := by
  induction as generalizing low with
  | nil => exact h
  | cons a as ih =>
    obtain ⟨start, stop, hstart, ha, has⟩ := h
    exact ((hrising ha).append (ih has)).after hstart

theorem InTurn.exists_of_mem {α : Type} {Stands : Nat → α → Nat → Prop} {low high : Nat}
    {as : List α} {a : α} (h : InTurn Stands low as high)
    (hle : ∀ {start a stop}, Stands start a stop → start ≤ stop) (ha : a ∈ as) :
    ∃ start stop, Stands start a stop ∧ stop ≤ high := by
  induction as generalizing low with
  | nil => cases ha
  | cons b bs ih =>
    obtain ⟨start, stop, -, hb, hbs⟩ := h
    rcases List.mem_cons.1 ha with rfl | ha
    · exact ⟨start, stop, hb, hbs.le hle⟩
    · exact ih hbs ha

theorem InTurn.map {α β : Type} {Stands : Nat → α → Nat → Prop} {Stands' : Nat → β → Nat → Prop}
    {f : α → β} {low high : Nat} {as : List α} (h : InTurn Stands low as high)
    (hf : ∀ {start a stop}, Stands start a stop → Stands' start (f a) stop) :
    InTurn Stands' low (as.map f) high := by
  induction as generalizing low with
  | nil => exact h
  | cons a as ih =>
    obtain ⟨start, stop, hstart, ha, has⟩ := h
    exact ⟨start, stop, hstart, hf ha, ih has⟩

variable {src : List Char} {low high : Nat}

/-- Where the body of a function starts, if it has one. -/
def Routine.bodies (r : Routine src) : List Nat :=
  (r.body.map fun b => b.start.offset).toList

/-- Where the body of a member starts, whether it is reported or not. -/
def Member.bodies (m : Member src) : List Nat :=
  match m.method with
  | some (_, r) => r.bodies
  | none => []

def Item.bodies : Item src → List Nat
  | .function _ r => r.bodies
  | .class_ _ members => members.flatMap Member.bodies
  | .useStrict _ => []
  | .other => []

theorem State.position_bump {s : State src} (h : s.token.isStop = false) :
    s.bump.position = s.token.stop.offset := by
  cases ha : s.ahead with
  | nil =>
    rw [State.token, ha] at h
    cases h
  | cons t ts =>
    have htoken : s.token = t := by
      rw [State.token, ha]
    have hlook : s.look.ahead = t :: ts := by
      rw [State.look, ha]
      simp only [State.noteLook]
      split <;> exact ha
    rw [htoken] at h ⊢
    unfold State.bump
    dsimp only
    split
    · next t' ts' ha' =>
      rw [hlook] at ha'
      cases ha'
      rw [h]
      rfl
    · next ha' =>
      rw [hlook] at ha'
      cases ha'

namespace Parser

variable {g : Rules src}

theorem rising_openBrace :
    Ensures low (openBrace : Parser src (Brace src)) fun b => Rising low [b.start.offset] := by
  refine .skip fun _ => ?_
  intro s b s' h hrun
  change Parser.run _ s.look = _ at hrun
  rw [← s.position_look] at h
  split at hrun
  · next hbrace =>
    cases hrun
    have hstop : s.look.token.isStop = false := by
      rw [Token.isStop, hbrace]
    have hlt := (s.look.token.brace hbrace).2
    -- Nothing read so far reaches into the brace, and reading it goes past its start.
    refine ⟨Nat.le_trans h s.look.lastStop_le_token_start, ?_⟩
    change s.look.token.start.offset + 1 ≤ s.look.bump.position
    rw [State.position_bump hstop]
    exact Nat.lt_of_le_of_lt s.look.token.start_le_place hlt
  · have hfail : Ensures low ((next : Parser src (Token src)) >>= fun t =>
        fail (.expected Symbol.braceOpen.text t.lexeme.shown))
        fun b : Brace src => Rising low [b.start.offset] := .skip fun _ => ensures_fail _
    exact hfail s.look b s' h hrun

theorem rising_functionBlock (directives simple : Bool) :
    Ensures low (functionBlock g directives simple) fun b => Rising low [b.start.offset] := by
  have hblock : Ensures low (directedBlock g directives) fun found =>
      Rising low [found.1.start.offset] :=
    rising_openBrace.bind fun _ _ _ hb => .skip fun _ => .pure fun _ hle => hb.mono hle
  refine hblock.bind fun found mid _ hb => ?_
  obtain ⟨brace, directive⟩ := found
  cases directive with
  | none => exact .pure fun _ hle => hb.mono hle
  | some place => exact .whether fun _ => .pure fun _ hle => hb.mono hle

theorem rising_functionBody (async generator simple : Bool) :
    Ensures low (functionBody g async generator simple) fun body =>
      Rising low (body.map fun b => b.start.offset).toList := by
  have hbody : Ensures low (do
      if ← notM (is .braceOpen) <&&> eatSemicolon then return none
      else
        return some (← within (fun c => { c with inAllowed := true })
          (functionBlock g true simple))) fun body =>
      Rising low (body.map fun b => b.start.offset).toList :=
    .skip fun _ => .ite (.pure fun _ hle => hle)
      ((rising_functionBlock true simple).within.map fun _ _ h => h)
  refine .skip fun s => .skip fun _ => ?_
  exact .ite (.skip fun _ => .skip fun _ => hbody.within.unlabelled) hbody.within.unlabelled

end Parser

variable {g : Rules src}

theorem Binding.Stands.le {one : Parser src (Binding src)} {b : Binding src}
    (h : b.Stands g one low high) : low ≤ high := by
  rcases h with h | ⟨dots, initializer, h⟩
  · exact h.le
  · exact h.le

theorem Routine.Stands.rising {one : Parser src (Binding src)} {r : Routine src}
    (h : r.Stands g one low high) : Rising low r.bodies high := by
  obtain ⟨mid, hparams, async, generator, hbody⟩ := h
  have hbodies := (Parser.rising_functionBody async generator _).of_reads
    (fun hle h => h.mono hle) hbody
  exact hbodies.after (hparams.le Binding.Stands.le)

theorem Key.Stands.le {key : Key src} (h : key.Stands g low high) : low ≤ high := by
  rcases h with h | ⟨place, name, -, h⟩
  · exact h.le
  · exact h.le

theorem Member.Stands.rising {m : Member src} (h : m.Stands g low high) :
    Rising low m.bodies high := by
  obtain ⟨form, hstands, hm⟩ := h
  rw [Member.bodies, hm]
  cases hstands with
  | constructor hkey hname hr => exact hr.rising.after hkey.le
  | method hkey hr => exact hr.rising.after hkey.le
  | getter hword hkey hr => exact hr.rising.after (Nat.le_trans hword.le hkey.le)
  | setter hword hkey hr => exact hr.rising.after (Nat.le_trans hword.le hkey.le)
  | property hkey h => exact Nat.le_trans hkey.le h.le
  | signature h => exact h.le
  | block h => exact h.le

theorem Item.Stands.rising {item : Item src} (h : item.Stands g low high) :
    Rising low item.bodies high := by
  cases item with
  | function name r => exact Routine.Stands.rising h
  | class_ name members => exact InTurn.rising h Member.Stands.rising
  | useStrict start => exact h
  | other => exact h

end TypeGuard.TypeScript
