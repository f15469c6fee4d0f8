import TypeGuard.TypeScript.Extract

namespace TypeGuard.TypeScript

variable {src : List Char} {α β γ : Type}

/-- One thing after another, all of them at or after one offset and in front of another; `Stands`
says which of them begin and end where. -/
def InTurn (Stands : Nat → α → Nat → Prop) : Nat → List α → Nat → Prop
  | low, [], high => low ≤ high
  | low, a :: as, high =>
    ∃ start stop, low ≤ start ∧ Stands start a stop ∧ InTurn Stands stop as high

namespace InTurn

variable {Stands : Nat → α → Nat → Prop} {low low' mid high high' : Nat} {a : α} {as bs : List α}

theorem mono (h : InTurn Stands low as mid) (hle : mid ≤ high) : InTurn Stands low as high := by
  induction as generalizing low with
  | nil => exact Nat.le_trans h hle
  | cons a as ih =>
    obtain ⟨start, stop, hstart, ha, has⟩ := h
    exact ⟨start, stop, hstart, ha, ih has⟩

theorem after (h : InTurn Stands low as high) (hle : low' ≤ low) : InTurn Stands low' as high := by
  cases as with
  | nil => exact Nat.le_trans hle h
  | cons a as =>
    obtain ⟨start, stop, hstart, h⟩ := h
    exact ⟨start, stop, Nat.le_trans hle hstart, h⟩

theorem append (h : InTurn Stands low as mid) (h' : InTurn Stands mid bs high) :
    InTurn Stands low (as ++ bs) high := by
  induction as generalizing low with
  | nil => exact h'.after h
  | cons a as ih =>
    obtain ⟨start, stop, hstart, ha, has⟩ := h
    exact ⟨start, stop, hstart, ha, ih has⟩

theorem push (h : InTurn Stands low as.reverse mid) (ha : Stands mid a high) (hle : high ≤ high') :
    InTurn Stands low (a :: as).reverse high' := by
  rw [List.reverse_cons]
  exact h.append ⟨mid, high, Nat.le_refl _, ha, hle⟩

end InTurn

namespace Parser

/-- A parser that starts at or after one offset gives a value and ends at or in front of another. -/
def Reads (p : Parser src α) (low : Nat) (a : α) (high : Nat) : Prop :=
  ∃ s s', low ≤ s.position ∧ p.run s = .value a s' ∧ s'.position ≤ high

/-- Whenever a parser starts at or after `low` and gives a value, `Q` holds of the value and of the
offset at which the parser ends. -/
def Ensures (low : Nat) (p : Parser src α) (Q : α → Nat → Prop) : Prop :=
  ∀ s a s', low ≤ s.position → p.run s = .value a s' → Q a s'.position

def IfFound (Q : α → Nat → Prop) (found : Option α) (high : Nat) : Prop :=
  ∀ a ∈ found, Q a high

def IfTrue (P : Nat → Prop) (b : Bool) (high : Nat) : Prop :=
  b = true → P high

variable {low low' mid high : Nat} {a : α} {p q : Parser src α} {k : α → Parser src β}
  {P : α → Nat → Prop} {Q : β → Nat → Prop} {R : α → Nat → Prop}

theorem position_le_of_run {s s' : State src} (h : p.run s = .value a s') :
    s.position ≤ s'.position := by
  have hle := p.advances s
  rwa [h] at hle

theorem exists_run_of_bind {s s' : State src} {b : β} (h : (p >>= k).run s = .value b s') :
    ∃ a t, p.run s = .value a t ∧ (k a).run t = .value b s' := by
  change (andThen p k).run s = _ at h
  unfold andThen at h
  dsimp only at h
  split at h
  · next a t hrun => exact ⟨a, t, hrun, h⟩
  · cases h

theorem IfFound.nothing : IfFound Q none high :=
  fun b hb => absurd hb (Option.not_mem_none b)

theorem Reads.le (h : p.Reads low a high) : low ≤ high := by
  obtain ⟨s, s', hlow, hrun, hhigh⟩ := h
  exact Nat.le_trans hlow (Nat.le_trans (position_le_of_run hrun) hhigh)

theorem Reads.mono (h : p.Reads low a mid) (hle : mid ≤ high) : p.Reads low a high := by
  obtain ⟨s, s', hlow, hrun, hhigh⟩ := h
  exact ⟨s, s', hlow, hrun, Nat.le_trans hhigh hle⟩

theorem Reads.after (h : p.Reads low a high) (hle : low' ≤ low) : p.Reads low' a high := by
  obtain ⟨s, s', hlow, hrun, hhigh⟩ := h
  exact ⟨s, s', Nat.le_trans hle hlow, hrun, hhigh⟩

namespace Ensures

theorem mono (hp : Ensures low p P) (h : ∀ a high, P a high → R a high) : Ensures low p R :=
  fun s a s' hlow hrun => h _ _ (hp s a s' hlow hrun)

theorem and (hp : Ensures low p P) (hp' : Ensures low p R) :
    Ensures low p fun a high => P a high ∧ R a high :=
  fun s a s' hlow hrun => ⟨hp s a s' hlow hrun, hp' s a s' hlow hrun⟩

theorem later (hp : Ensures low p P) (hle : low ≤ low') : Ensures low' p P :=
  fun s a s' hlow hrun => hp s a s' (Nat.le_trans hle hlow) hrun

theorem of_reads (hp : Ensures low p P) (hmono : ∀ {a mid high}, mid ≤ high → P a mid → P a high)
    (h : p.Reads low a high) : P a high := by
  obtain ⟨s, s', hlow, hrun, hhigh⟩ := h
  exact hmono hhigh (hp s a s' hlow hrun)

theorem reads (p : Parser src α) : Ensures low p (p.Reads low) :=
  fun s _ s' hlow hrun => ⟨s, s', hlow, hrun, Nat.le_refl _⟩

theorem idle (p : Parser src α) : Ensures low p fun _ high => low ≤ high :=
  (reads p).mono fun _ _ h => h.le

theorem pure {b : β} (h : ∀ high, low ≤ high → Q b high) :
    Ensures low (pure b : Parser src β) Q := by
  intro s b s' hlow hrun
  cases hrun
  exact h _ hlow

theorem known {a : α} (h : Ensures low (k a) Q) : Ensures low (Pure.pure a >>= k) Q :=
  h

theorem throw (f : Fault src) : Ensures low (throw f : Parser src β) Q := by
  intro s b s' hlow hrun
  cases hrun

theorem bind (hp : Ensures low p P) (hk : ∀ a mid, low ≤ mid → P a mid → Ensures mid (k a) Q) :
    Ensures low (p >>= k) Q := by
  intro s b s' hlow hrun
  obtain ⟨a, t, ha, hb⟩ := exists_run_of_bind hrun
  have hle := Nat.le_trans hlow (position_le_of_run ha)
  exact hk a t.position hle (hp s a t hlow ha) t b s' (Nat.le_refl _) hb

theorem skip (hk : ∀ a, Ensures low (k a) Q) : Ensures low (p >>= k) Q :=
  bind (idle p) fun a _ hle _ => (hk a).later hle

theorem read (hk : ∀ a mid, p.Reads low a mid → Ensures mid (k a) Q) : Ensures low (p >>= k) Q :=
  bind (reads p) fun a mid _ => hk a mid

theorem map {f : α → β} (hp : Ensures low p P) (h : ∀ a high, P a high → Q (f a) high) :
    Ensures low (p >>= fun a => Pure.pure (f a)) Q := by
  intro s b s' hlow hrun
  obtain ⟨a, t, ha, hb⟩ := exists_run_of_bind hrun
  cases hb
  exact h a _ (hp s a _ hlow ha)

theorem isFound (hp : Ensures low p P) :
    Ensures low (p >>= fun a => Pure.pure (some a)) (IfFound P) :=
  hp.map fun _ _ h _ ha => Option.some_inj.1 ha ▸ h

theorem notFound : Ensures low (Pure.pure none : Parser src (Option α)) (IfFound P) :=
  pure fun _ _ => IfFound.nothing

theorem ite {c : Prop} [Decidable c] (hp : Ensures low p P) (hq : Ensures low q P) :
    Ensures low (if c then p else q) P := by
  split
  · exact hp
  · exact hq

theorem whether {c : Prop} [Decidable c] {p : Parser src Unit} {k : Unit → Parser src β}
    (hk : ∀ u, Ensures low (k u) Q) : Ensures low (if c then p >>= k else k ()) Q :=
  ite (skip hk) (hk ())

theorem whetherAt {c : Prop} [Decidable c] {q : Parser src γ} {p : γ → Parser src Unit}
    {k : Unit → Parser src β} (hk : ∀ u, Ensures low (k u) Q) :
    Ensures low (if c then q >>= fun x => p x >>= k else k ()) Q :=
  ite (skip fun _ => skip hk) (hk ())

theorem whetherRead {c : Prop} [Decidable c] {q : Parser src γ} {r : Parser src β}
    (hr : Ensures low r Q) : Ensures low (if c then q >>= fun _ => r else r) Q :=
  ite (skip fun _ => hr) hr

theorem either {c : Prop} [Decidable c] (hp : c → Ensures low p P) (hq : Ensures low q P)
    (hk : ∀ a mid, low ≤ mid → P a mid → Ensures mid (k a) Q) :
    Ensures low (if c then p >>= k else q >>= k) Q := by
  split
  · next hc => exact (hp hc).bind hk
  · exact hq.bind hk

theorem found {q : Parser src (Option β)} {k : Option β → Parser src β} {r : Parser src β}
    (hq : Ensures low q (IfFound Q))
    (hsome : ∀ b, k (some b) = Pure.pure b) (hnone : k none = r) (hr : Ensures low r Q) :
    Ensures low (q >>= k) Q := by
  intro s b s' hlow hrun
  obtain ⟨found, t, hfound, hb⟩ := exists_run_of_bind hrun
  cases found with
  | some b' =>
    rw [hsome] at hb
    cases hb
    exact hq s _ _ hlow hfound _ rfl
  | none =>
    rw [hnone] at hb
    exact hr t b s' (Nat.le_trans hlow (position_le_of_run hfound)) hb

theorem whetherFound {c : Prop} [Decidable c] {q : Parser src (Option β)}
    {k : Option β → Parser src β} {r : Parser src β}
    (hq : c → Ensures low q (IfFound Q))
    (hsome : ∀ b, k (some b) = Pure.pure b) (hnone : k none = r) (hr : Ensures low r Q) :
    Ensures low (if c then q >>= k else r) Q := by
  split
  · next hc => exact found (hq hc) hsome hnone hr
  · exact hr

theorem both {p q : Parser src Bool} {P : Nat → Prop} (hq : Ensures low q (IfTrue P)) :
    Ensures low (p <&&> q) (IfTrue P) := by
  refine skip fun b => ?_
  cases b with
  | true => exact hq
  | false => exact pure fun _ _ => nofun

theorem orElse {p q : Parser src Bool} {P : Nat → Prop}
    (hmono : ∀ {mid high}, mid ≤ high → P mid → P high)
    (hp : Ensures low p (IfTrue P)) (hq : Ensures low q (IfTrue P)) :
    Ensures low (p <||> q) (IfTrue P) := by
  refine hp.bind fun b mid hle hb => ?_
  cases b with
  | true => exact pure fun high hle h => hmono hle (hb h)
  | false => exact hq.later hle

theorem within {change : Context → Context} (hp : Ensures low p P) :
    Ensures low (p.within change) P := by
  intro s a s' hlow hrun
  unfold Parser.within at hrun
  dsimp only at hrun
  split at hrun
  · next b t hrun' =>
    cases hrun
    exact hp (s.setContext (change s.context)) _ t hlow hrun'
  · cases hrun

theorem unlabelled (hp : Ensures low p P) : Ensures low p.unlabelled P := by
  intro s a s' hlow hrun
  unfold Parser.unlabelled at hrun
  dsimp only at hrun
  split at hrun
  · next b t hrun' =>
    cases hrun
    exact hp { s with labels := [], arrowStart := none } _ t hlow hrun'
  · cases hrun

/-- A trial that comes to nothing has read nothing. -/
theorem attempt {p : Parser src (Option α)} (hp : Ensures low p (IfFound P)) :
    Ensures low p.attempt (IfFound P) := by
  intro s a s' hlow hrun
  unfold Parser.attempt at hrun
  dsimp only at hrun
  split at hrun
  · next b t hrun' =>
    cases hrun
    exact hp (s.setContext { s.context with trial := true }) _ t hlow hrun'
  · cases hrun
    exact IfFound.nothing
  · cases hrun
    exact IfFound.nothing

/-- What one round of a loop leaves to the next one or, if it is the last, as the result. -/
def AfterRound (I : α → Nat → Prop) (Q : β → Nat → Prop) : Round α β → Nat → Prop
  | .again a, high => I a high
  | .done b, high => Q b high

/-- One round after another keeps an invariant, from which the last round makes the result. -/
theorem loop {round : α → Parser src (Round α β)} {a : α} (I : α → Nat → Prop)
    (hstart : ∀ mid, low ≤ mid → I a mid)
    (hround : ∀ a mid, I a mid → Ensures mid (round a) (AfterRound I Q)) :
    Ensures low (loop a round) Q := by
  intro s b s' hlow hrun
  change rounds round s.bound a s = _ at hrun
  have ha := hstart _ hlow
  -- The bound only says how many rounds there may be, so the induction is on any bound.
  generalize s.bound = n at hrun
  clear hstart
  induction n generalizing a s with
  | zero => cases hrun
  | succ n ih =>
    unfold rounds at hrun
    split at hrun
    · next a' t hrun' =>
      have hle := Nat.le_trans hlow (position_le_of_run hrun')
      exact ih t hle (hround a _ ha s _ t (Nat.le_refl _) hrun') hrun
    · next b' t hrun' =>
      cases hrun
      exact hround a _ ha s _ _ (Nat.le_refl _) hrun'
    · cases hrun

/-- What a round leaves that adds to a list in reverse. -/
def Gathered (Stands : Nat → α → Nat → Prop) (low : Nat) :
    Round (List α × γ) (List α) → Nat → Prop :=
  AfterRound (fun carried high => InTurn Stands low carried.1.reverse high) (InTurn Stands low)

theorem gather {Stands : Nat → α → Nat → Prop} {c : γ}
    {round : List α × γ → Parser src (Round (List α × γ) (List α))}
    (hround : ∀ found c mid, InTurn Stands low found.reverse mid →
      Ensures mid (round (found, c)) (Gathered Stands low)) :
    Ensures low (Parser.loop ([], c) round) (InTurn Stands low) :=
  loop (fun carried high => InTurn Stands low carried.1.reverse high) (fun _ hle => hle)
    fun carried mid => hround carried.1 carried.2 mid

end Ensures

end Parser

end TypeGuard.TypeScript
