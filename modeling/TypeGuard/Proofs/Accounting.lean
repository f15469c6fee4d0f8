import TypeGuard.Proofs.Guarding

namespace TypeGuard

open Log (Event)

def Log.Event.number? (e : Event) (field : String) : Option Nat :=
  match e.fields.lookup field with
  | some (.number n) => some n
  | _ => none

/-- The sum of the numbers that debug events have in a field. -/
def Log.debugSum (field : String) (events : List Event) : Nat :=
  ((events.filter fun e => e.level = .debug).filterMap fun e => e.number? field).sum

def ClassDecl.testedCount (k : ClassDecl) : Nat :=
  (k.methods.map fun m => m.params.countP Param.isTested).sum

/-- What is to be logged for a function: its name and the number of its tested parameters. -/
def FunctionDecl.account (f : FunctionDecl) : Event :=
  ⟨.debug, serviceTarget, "Collected function guards",
    [("function", .text f.name), ("guards", .number (f.params.countP Param.isTested))]⟩

def ClassDecl.account (k : ClassDecl) : Event :=
  ⟨.debug, serviceTarget, "Collected class guards",
    [("class", .text k.name), ("guards", .number k.testedCount)]⟩

/-- The log of an attempt to guard declarations: an event for each function, one for each class, and
one for the outcome, unless a patch lies out of bounds. -/
def Config.Accounts (c : Config) (d : Declarations) (outcome : Except GuardError Guarded)
    (events : List Event) : Prop :=
  ∃ last : List Event,
    events = d.functions.map FunctionDecl.account ++ d.classes.map ClassDecl.account ++ last ∧
    match outcome with
    | .ok g =>
      g.guards = Log.debugSum "guards" events ∧ g.guards ≤ c.limit ∧
      last = [⟨.info, serviceTarget, "Guarded source", [("mode", .text c.mode.name),
        ("guards", .number g.guards), ("bytes_inserted", .number g.bytesInserted)]⟩]
    | .error (.tooManyPatches count limit) =>
      count = Log.debugSum "guards" events ∧ limit = c.limit ∧ limit < count ∧
      last = [⟨.warn, serviceTarget, "Patch limit exceeded",
        [("count", .number count), ("max", .number limit)]⟩]
    | .error (.offsetOutOfBounds _ _) =>
      Log.debugSum "guards" events ≤ c.limit ∧ last = []
    | .error _ => False

variable {c : Config} {d : Declarations} {events : List Event} {field : String}

theorem FunctionDecl.length_patches (f : FunctionDecl) (mode : Mode) :
    (f.patches mode).length = f.params.countP Param.isTested := by
  rw [f.patches_eq, List.length_map, f.length_guardTexts]

theorem ClassDecl.length_patches (k : ClassDecl) (mode : Mode) :
    (k.patches mode).length = k.testedCount := by
  simp only [patches, List.length_flatMap, FunctionDecl.length_patches, testedCount]

theorem Declarations.testedCount_eq (d : Declarations) :
    d.testedCount = (d.functions.map fun f => f.params.countP Param.isTested).sum +
      (d.classes.map ClassDecl.testedCount).sum := by
  rw [testedCount, all, List.map_append, List.sum_append, List.map_flatMap, List.flatMap_def,
    List.sum_flatten, List.map_map]
  rfl

theorem Log.debugSum_append (field : String) (events events' : List Event) :
    debugSum field (events ++ events') = debugSum field events + debugSum field events' := by
  simp [debugSum]

theorem Log.debugSum_map {α : Type} (f : α → Event) {n : α → Nat}
    (hlevel : ∀ x, (f x).level = .debug) (hnumber : ∀ x, (f x).number? field = some (n x))
    (xs : List α) :
    debugSum field (xs.map f) = (xs.map n).sum := by
  induction xs with
  | nil => rfl
  | cons x xs ih =>
    rw [List.map_cons, ← List.singleton_append, debugSum_append, ih]
    simp [debugSum, hlevel, hnumber]

theorem Config.collect_events (c : Config) (d : Declarations) :
    (c.collect d).events =
      d.functions.map FunctionDecl.account ++ d.classes.map ClassDecl.account := by
  simp only [collect, FunctionDecl.collected, ClassDecl.collected, FunctionDecl.length_patches,
    ClassDecl.length_patches]
  rfl

theorem Config.debugSum_collect (c : Config) (d : Declarations) :
    Log.debugSum "guards" (c.collect d).events = d.testedCount := by
  rw [c.collect_events, Log.debugSum_append, d.testedCount_eq,
    Log.debugSum_map FunctionDecl.account (fun _ => rfl) (fun _ => rfl),
    Log.debugSum_map ClassDecl.account (fun _ => rfl) (fun _ => rfl)]

theorem Config.insert_cases (c : Config) (source : List UInt8) (patches : List Patch) :
    (c.limit < patches.length ∧ c.insert source patches =
      ⟨.error (.tooManyPatches patches.length c.limit),
        [⟨.warn, serviceTarget, "Patch limit exceeded",
          [("count", .number patches.length), ("max", .number c.limit)]⟩]⟩) ∨
    (patches.length ≤ c.limit ∧ ∃ offset, c.insert source patches =
      ⟨.error (.offsetOutOfBounds offset source.length), []⟩) ∨
    (patches.length ≤ c.limit ∧ ∃ bytes inserted, c.insert source patches =
      ⟨.ok ⟨bytes, patches.length, inserted⟩,
        [⟨.info, serviceTarget, "Guarded source", [("mode", .text c.mode.name),
          ("guards", .number patches.length), ("bytes_inserted", .number inserted)]⟩]⟩) := by
  by_cases hlimit : c.limit < patches.length
  · exact .inl ⟨hlimit, by rw [insert, if_pos hlimit]⟩
  have hle := Nat.le_of_not_lt hlimit
  right
  rcases bounded_or_first source patches with h | ⟨before, bad, after, hsplit, hbefore, hbad⟩
  · right
    refine ⟨hle, weave (bytesAt patches) source,
      (weave (bytesAt patches) source).length - source.length, ?_⟩
    rw [insert, if_neg hlimit, applyPatches_of_le h]
  · left
    refine ⟨hle, bad.offset, ?_⟩
    rw [insert, if_neg hlimit, hsplit, applyPatches_of_first hbefore hbad]

theorem Config.accounts_guardSource (c : Config) (source : List UInt8) (d : Declarations) :
    c.Accounts d (c.guardSource source d).value (c.guardSource source d).events := by
  change c.Accounts d (c.insert source (c.collect d).value).value
    ((c.collect d).events ++ (c.insert source (c.collect d).value).events)
  have hcount := c.length_collect d
  have hsum := c.debugSum_collect d
  refine ⟨(c.insert source (c.collect d).value).events, by rw [c.collect_events], ?_⟩
  rcases c.insert_cases source (c.collect d).value with
    ⟨hlimit, h⟩ | ⟨hlimit, offset, h⟩ | ⟨hlimit, bytes, inserted, h⟩ <;>
  rw [h, Log.debugSum_append, hsum, ← hcount]
  · exact ⟨rfl, rfl, hlimit, rfl⟩
  · exact ⟨hlimit, rfl⟩
  · exact ⟨rfl, hlimit, rfl⟩

theorem Log.countP_message {α : Type} (f : α → Event) {text : String}
    (h : ∀ x, (f x).message = text) (xs : List α) (message : String) :
    ((xs.map f).countP fun e => e.message = message) = if text = message then xs.length else 0 := by
  rw [List.countP_map]
  split
  · next heq =>
    rw [List.countP_eq_length]
    exact fun x _ => decide_eq_true ((h x).trans heq)
  · next hne =>
    rw [List.countP_eq_zero]
    intro x _ hx
    exact hne ((h x).symm.trans (of_decide_eq_true hx))

theorem Config.Accounts.countP_message {outcome : Except GuardError Guarded}
    (h : c.Accounts d outcome events) :
    (events.countP fun e => e.message = "Collected function guards") = d.functions.length ∧
    (events.countP fun e => e.message = "Collected class guards") = d.classes.length := by
  obtain ⟨last, rfl, hlast⟩ := h
  have hother : ∀ e ∈ last, e.message ≠ "Collected function guards" ∧
      e.message ≠ "Collected class guards" := by
    split at hlast
    · rw [hlast.2.2]
      simp
    · rw [hlast.2.2.2]
      simp
    · rw [hlast.2]
      exact nofun
    · exact hlast.elim
  have hfunctions : (last.countP fun e => e.message = "Collected function guards") = 0 := by
    rw [List.countP_eq_zero]
    exact fun e he => by simpa using (hother e he).1
  have hclasses : (last.countP fun e => e.message = "Collected class guards") = 0 := by
    rw [List.countP_eq_zero]
    exact fun e he => by simpa using (hother e he).2
  have hf := Log.countP_message FunctionDecl.account (fun _ => rfl) d.functions
  have hk := Log.countP_message ClassDecl.account (fun _ => rfl) d.classes
  simp [List.countP_append, hfunctions, hclasses, hf, hk]

theorem Config.guardTypeScript_recorded (c : Config) {source : List Char}
    (h : (extract source).value = .ok d) :
    (c.guardTypeScript source).value = (c.guardSource (Utf8.encode source) d).value ∧
    (c.guardTypeScript source).events =
      (extract source).events ++ [d.counted serviceTarget "Guarding parsed source"] ++
        (c.guardSource (Utf8.encode source) d).events := by
  unfold guardTypeScript
  simp only [h]
  exact ⟨rfl, rfl⟩

/-- A source is read without an event if reading it fails, and otherwise with one for each error
that did not stop the reader and one that counts the declarations. -/
theorem extract_cases (source : List Char) :
    (∃ e, extract source = ⟨.error e, []⟩) ∨
      ∃ reading, TypeScript.read source = .ok reading ∧ extract source =
        ⟨.ok reading.declarations, reading.faults.map TypeScript.Fault.recovered ++
          [reading.declarations.counted readerTarget "Extracted declarations"]⟩ := by
  unfold extract
  split
  · exact .inl ⟨_, rfl⟩
  · cases hread : TypeScript.read source with
    | error fault => exact .inl ⟨_, rfl⟩
    | ok reading => exact .inr ⟨reading, rfl, rfl⟩

/-- Inserting guards is accounted for. Before that stands what was noted while the source was read:
the errors that did not stop the reader, and then twice the numbers of the functions and classes
that the account goes through. A source that cannot be read leaves no event. -/
theorem guardSource_accounts (c : Config) :
    (∀ source d, c.Accounts d (c.guardSource source d).value (c.guardSource source d).events) ∧
    ∀ source : List Char,
      match (extract source).value with
      | .error e => c.guardTypeScript source = ⟨.error e, []⟩
      | .ok d =>
        ∃ reading account, TypeScript.read source = .ok reading ∧ reading.declarations = d ∧
          (c.guardTypeScript source).events =
            reading.faults.map (fun f =>
              ⟨.warn, readerTarget, "Recovered from TypeScript syntax error",
                [("offset", .number f.offset), ("message", .text f.cause.message)]⟩) ++
            [⟨.debug, readerTarget, "Extracted declarations",
                [("functions", .number d.functions.length), ("classes", .number d.classes.length)]⟩,
              ⟨.debug, serviceTarget, "Guarding parsed source",
                [("functions", .number d.functions.length),
                  ("classes", .number d.classes.length)]⟩] ++
            account ∧
          c.Accounts d (c.guardTypeScript source).value account ∧
          (account.countP fun e => e.message = "Collected function guards") =
            d.functions.length ∧
          (account.countP fun e => e.message = "Collected class guards") = d.classes.length := by
  refine ⟨c.accounts_guardSource, fun source => ?_⟩
  rcases extract_cases source with ⟨e, h⟩ | ⟨reading, hread, h⟩
  · simp only [h]
    rw [Config.guardTypeScript, h]
  · have hvalue : (extract source).value = .ok reading.declarations := by rw [h]
    have haccount := c.accounts_guardSource (Utf8.encode source) reading.declarations
    obtain ⟨hresult, hevents⟩ := c.guardTypeScript_recorded hvalue
    simp only [hvalue]
    refine ⟨reading, _, hread, rfl, ?_, hresult ▸ haccount, haccount.countP_message⟩
    rw [hevents, h, List.append_assoc, List.append_assoc, List.append_assoc]
    rfl

end TypeGuard
