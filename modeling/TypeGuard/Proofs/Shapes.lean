import Mathlib.Data.List.Nodup
import TypeGuard.Proofs.Reading

namespace TypeGuard.Json

mutual

/-- Values of a shape whose numbers have 64 bits. -/
inductive Fits : Schema → Json → Prop
  | text (s : String) : Fits .text (.text s)
  | natural {bound n : Nat} (hbound : n < bound) (hword : n < Nat.pow 2 64) :
      Fits (.natural bound) (.natural n)
  | choice {names : List String} {name : String} (h : name ∈ names) :
      Fits (.choice names) (.text name)
  | list {item : Schema} {vs : List Json} (h : ∀ v ∈ vs, Fits item v) :
      Fits (.list item) (.list vs)
  | record {fields : List (String × Schema)} {ms : List (String × Json)}
      (hnames : (ms.map Prod.fst).Nodup) (h : FitMembers fields ms) :
      Fits (.record fields) (.record ms)

inductive FitMembers : List (String × Schema) → List (String × Json) → Prop
  | nil : FitMembers [] []
  | cons {name : String} {s : Schema} {v : Json} {fields : List (String × Schema)}
      {ms : List (String × Json)} (h : Fits s v) (hs : FitMembers fields ms) :
      FitMembers ((name, s) :: fields) ((name, v) :: ms)

end

/-- A reader takes back a value that was written, unless a number in it goes on behind it. -/
def ReadsBack (r : Reader Json) (v : Json) : Prop :=
  ∀ rest, Reader.EndsNumber rest → Reads r (v.write ++ rest) v rest

def writeMember (m : String × Json) : List Char :=
  writeText m.1 ++ ':' :: m.2.write

variable {r : Reader Json} {v : Json} {vs : List Json} {m : String × Json}
  {ms found all : List (String × Json)} {fields : List (String × Reader Json)}
  {s t rest cs : List Char}
  {c : Char} {fuel : Nat} {first : Bool}

theorem writeItems_cons (v : Json) (vs : List Json) :
    writeItems (v :: vs) = v.write ++ vs.flatMap fun w => ',' :: w.write := by
  induction vs generalizing v with
  | nil => simp [writeItems]
  | cons w vs ih => rw [writeItems, ih, List.flatMap_cons, List.cons_append]

theorem writeMembers_cons (m : String × Json) (ms : List (String × Json)) :
    writeMembers (m :: ms) = writeMember m ++ ms.flatMap fun m => ',' :: writeMember m := by
  induction ms generalizing m with
  | nil => simp [writeMembers, writeMember]
  | cons m' ms ih =>
    rw [writeMembers, ih, List.flatMap_cons]
    simp [writeMember]

theorem length_le_flatMap {α : Type} (f : α → List Char) (xs : List α) :
    xs.length ≤ (xs.flatMap fun x => ',' :: f x).length := by
  induction xs with
  | nil => exact Nat.le_refl _
  | cons x xs ih =>
    rw [List.flatMap_cons, List.length_append, List.length_cons, List.length_cons]
    omega

theorem write_eq_cons (v : Json) :
    ∃ c cs, v.write = c :: cs ∧ Reader.isBlank c = false ∧ c ≠ ']' := by
  cases v with
  | text s => exact ⟨_, _, rfl, rfl, by decide⟩
  | natural n =>
    obtain ⟨d, ds, hds, hdigit⟩ := Reader.toDigits_eq_cons n
    refine ⟨d, ds, by rw [write, hds], Reader.isBlank_of_isDigit hdigit, ?_⟩
    rintro rfl
    cases hdigit
  | flag b =>
    cases b with
    | false => exact ⟨'f', _, rfl, rfl, by decide⟩
    | true => exact ⟨'t', _, rfl, rfl, by decide⟩
  | list items => exact ⟨'[', _, by rw [write, List.cons_append], rfl, by decide⟩
  | record members => exact ⟨'\x7b', _, by rw [write, List.cons_append], rfl, by decide⟩

namespace Reader

theorem endsNumber_flatMap {α : Type} (f : α → List Char) (xs : List α)
    (hc : c = ']' ∨ c = '\x7d') (rest : List Char) :
    EndsNumber ((xs.flatMap fun x => ',' :: f x) ++ c :: rest) := by
  intro d hd
  cases xs with
  | nil =>
    cases hd
    rcases hc with rfl | rfl <;> decide
  | cons x xs =>
    cases hd
    decide

theorem reads_hasItem_first (v : Json) (cs : List Char) :
    Reads (hasItem true) (v.write ++ cs) true (v.write ++ cs) := by
  obtain ⟨c, ds, hwrite, hblank, hc⟩ := write_eq_cons v
  rw [hwrite, List.cons_append]
  unfold hasItem
  refine (reads_peekToken hblank _).bind ?_
  split
  · next heq => cases heq
  · next heq =>
    cases heq
    exact absurd rfl hc
  · exact .pure true _
  · exact .pure true _

theorem reads_hasItem_next (v : Json) (cs : List Char) :
    Reads (hasItem false) (',' :: (v.write ++ cs)) true (v.write ++ cs) := by
  obtain ⟨c, ds, hwrite, hblank, hc⟩ := write_eq_cons v
  rw [hwrite, List.cons_append]
  unfold hasItem
  refine (reads_peekToken rfl _).bind ((reads_advance ',' _).bind
    ((reads_peekToken hblank _).bind ?_))
  split
  · next heq => cases heq
  · next heq =>
    cases heq
    exact absurd rfl hc
  · exact .pure true _

theorem reads_hasItem_end (first : Bool) (cs : List Char) :
    Reads (hasItem first) (']' :: cs) false (']' :: cs) :=
  (reads_peekToken rfl cs).bind (.pure false _)

theorem reads_endArray (cs : List Char) : Reads endArray (']' :: cs) () cs :=
  (reads_peekToken rfl cs).bind (reads_advance ']' cs)

theorem reads_item (hv : ReadsBack r v) (hitem : Reads (hasItem first) s true (v.write ++ t))
    (ht : EndsNumber t) (hnext : Reads (items r false fuel) t vs rest) :
    Reads (items r first (fuel + 1)) s (v :: vs) rest :=
  hitem.bind ((hv t ht).bind (hnext.bind (.pure _ rest)))

theorem reads_items_next (h : ∀ v ∈ vs, ReadsBack r v) (hfuel : vs.length < fuel)
    (rest : List Char) :
    Reads (items r false fuel) ((vs.flatMap fun v => ',' :: v.write) ++ ']' :: rest) vs
      (']' :: rest) := by
  induction vs generalizing fuel with
  | nil =>
    obtain ⟨fuel, rfl⟩ := Nat.exists_eq_add_one.2 hfuel
    exact (reads_hasItem_end false rest).bind (.pure [] _)
  | cons v vs ih =>
    obtain ⟨fuel, rfl⟩ := Nat.exists_eq_add_one.2 (Nat.zero_lt_of_lt hfuel)
    rw [List.forall_mem_cons] at h
    rw [List.flatMap_cons, List.append_assoc]
    exact reads_item h.1 (reads_hasItem_next v _)
      (endsNumber_flatMap Json.write vs (.inl rfl) rest) (ih h.2 (Nat.lt_of_succ_lt_succ hfuel))

theorem reads_items_first (h : ∀ v ∈ vs, ReadsBack r v) (hfuel : vs.length < fuel)
    (rest : List Char) :
    Reads (items r true fuel) (writeItems vs ++ ']' :: rest) vs (']' :: rest) := by
  obtain ⟨fuel, rfl⟩ := Nat.exists_eq_add_one.2 (Nat.zero_lt_of_lt hfuel)
  cases vs with
  | nil => exact (reads_hasItem_end true rest).bind (.pure [] _)
  | cons v vs =>
    rw [List.forall_mem_cons] at h
    rw [writeItems_cons, List.append_assoc]
    exact reads_item h.1 (reads_hasItem_first v _)
      (endsNumber_flatMap Json.write vs (.inl rfl) rest)
      (reads_items_next h.2 (Nat.lt_of_succ_lt_succ hfuel) rest)

theorem length_le_writeItems (vs : List Json) : vs.length ≤ (writeItems vs).length + 1 := by
  cases vs with
  | nil => exact Nat.zero_le _
  | cons v vs =>
    have hlength := length_le_flatMap Json.write vs
    rw [writeItems_cons, List.length_append, List.length_cons]
    omega

theorem reads_list (h : ∀ v ∈ vs, ReadsBack r v) (rest : List Char) :
    Reads (list r) ((Json.list vs).write ++ rest) vs rest := by
  have hwrite : (Json.list vs).write ++ rest = '[' :: (writeItems vs ++ ']' :: rest) := by
    simp [Json.write]
  have hlength := length_le_writeItems vs
  rw [hwrite]
  refine (reads_peekToken rfl _).bind ((reads_advance '[' _).bind ((reads_steps _).bind
    ((reads_items_first h ?_ rest).bind ((reads_endArray rest).bind (.pure vs rest)))))
  rw [List.length_append]
  omega

theorem reads_key?_first (name : String) (cs : List Char) :
    Reads (key? true) (writeText name ++ cs) (some name) cs := by
  rw [writeText_append]
  exact (reads_peekToken rfl _).bind
    ((reads_advance '"' _).bind ((reads_textBody name cs).bind (.pure _ cs)))

theorem reads_key?_next (name : String) (cs : List Char) :
    Reads (key? false) (',' :: (writeText name ++ cs)) (some name) cs := by
  rw [writeText_append]
  exact (reads_peekToken rfl _).bind ((reads_advance ',' _).bind ((reads_peekToken rfl _).bind
    ((reads_advance '"' _).bind ((reads_textBody name cs).bind (.pure _ cs)))))

theorem reads_key?_end (first : Bool) (cs : List Char) :
    Reads (key? first) ('\x7d' :: cs) none ('\x7d' :: cs) :=
  (reads_peekToken rfl cs).bind (.pure none _)

theorem reads_colon (cs : List Char) : Reads colon (':' :: cs) () cs :=
  (reads_peekToken rfl cs).bind (reads_advance ':' cs)

theorem reads_endObject (cs : List Char) : Reads endObject ('\x7d' :: cs) () cs :=
  (reads_peekToken rfl cs).bind (reads_advance '\x7d' cs)

/-- Members that are still to be read after others were found: their names are new, each has a
field that reads it, and together with those found they make up all fields. -/
structure Awaited (fields : List (String × Reader Json)) (found ms all : List (String × Json)) :
    Prop where
  names : (ms.map Prod.fst).Nodup
  new : ∀ m ∈ ms, found.lookup m.1 = none
  readable : ∀ m ∈ ms, ∃ r, fields.lookup m.1 = some r ∧ ReadsBack r m.2
  complete : arranged? (ms.reverse ++ found) fields = some all

theorem Awaited.tail (h : Awaited fields found (m :: ms) all) :
    Awaited fields (m :: found) ms all := by
  obtain ⟨hm, hms⟩ := List.nodup_cons.1 h.names
  refine ⟨hms, fun m' hm' => ?_, (List.forall_mem_cons.1 h.readable).2, ?_⟩
  · have hne : m'.1 ≠ m.1 := fun heq => hm (heq ▸ List.mem_map_of_mem hm')
    rw [List.lookup_cons, beq_false_of_ne hne]
    exact h.new m' (List.mem_cons_of_mem _ hm')
  · have hcomplete := h.complete
    rwa [List.reverse_cons, List.append_assoc] at hcomplete

/-- One member is read, and the members after it are left. -/
theorem reads_member (h : Awaited fields found (m :: ms) all)
    (hkey : Reads (key? first) s (some m.1) (':' :: (m.2.write ++ t)))
    (ht : EndsNumber t) (hnext : Reads (members fields false (m :: found) fuel) t all rest) :
    Reads (members fields first found (fuel + 1)) s all rest := by
  obtain ⟨r, hfield, hm⟩ := h.readable m List.mem_cons_self
  rw [members]
  refine hkey.bind ?_
  simp only [hfield, h.new m List.mem_cons_self]
  exact (reads_colon _).bind ((hm t ht).bind hnext)

theorem reads_members_end (h : Awaited fields found [] all) (rest : List Char) :
    Reads (members fields first found (fuel + 1)) ('\x7d' :: rest) all ('\x7d' :: rest) := by
  have hcomplete : arranged? found fields = some all := h.complete
  rw [members]
  refine (reads_key?_end first rest).bind ?_
  simp only [hcomplete]
  exact .pure all _

theorem reads_members_next (h : Awaited fields found ms all) (hfuel : ms.length < fuel)
    (rest : List Char) :
    Reads (members fields false found fuel)
      ((ms.flatMap fun m => ',' :: writeMember m) ++ '\x7d' :: rest) all ('\x7d' :: rest) := by
  induction ms generalizing found fuel with
  | nil =>
    obtain ⟨fuel, rfl⟩ := Nat.exists_eq_add_one.2 hfuel
    exact reads_members_end h rest
  | cons m ms ih =>
    obtain ⟨fuel, rfl⟩ := Nat.exists_eq_add_one.2 (Nat.zero_lt_of_lt hfuel)
    rw [List.flatMap_cons, List.append_assoc, writeMember, List.cons_append, List.append_assoc]
    exact reads_member h (reads_key?_next m.1 _)
      (endsNumber_flatMap writeMember ms (.inr rfl) rest)
      (ih h.tail (Nat.lt_of_succ_lt_succ hfuel))

theorem reads_members_first (h : Awaited fields [] ms all) (hfuel : ms.length < fuel)
    (rest : List Char) :
    Reads (members fields true [] fuel) (writeMembers ms ++ '\x7d' :: rest) all
      ('\x7d' :: rest) := by
  obtain ⟨fuel, rfl⟩ := Nat.exists_eq_add_one.2 (Nat.zero_lt_of_lt hfuel)
  cases ms with
  | nil => exact reads_members_end h rest
  | cons m ms =>
    rw [writeMembers_cons, List.append_assoc, writeMember, List.append_assoc]
    exact reads_member h (reads_key?_first m.1 _)
      (endsNumber_flatMap writeMember ms (.inr rfl) rest)
      (reads_members_next h.tail (Nat.lt_of_succ_lt_succ hfuel) rest)

theorem length_le_writeMembers (ms : List (String × Json)) :
    ms.length ≤ (writeMembers ms).length + 1 := by
  cases ms with
  | nil => exact Nat.zero_le _
  | cons m ms =>
    have hlength := length_le_flatMap writeMember ms
    rw [writeMembers_cons, List.length_append, List.length_cons]
    omega

theorem reads_record (h : Awaited fields [] ms ms) (rest : List Char) :
    Reads (record fields) ((Json.record ms).write ++ rest) ms rest := by
  -- The text is longer than the number of its members, so the fuel suffices.
  have hwrite : (Json.record ms).write ++ rest =
      '\x7b' :: (writeMembers ms ++ '\x7d' :: rest) := by
    simp [Json.write]
  have hlength := length_le_writeMembers ms
  rw [hwrite]
  refine (reads_peekToken rfl _).bind ((reads_advance '\x7b' _).bind ((reads_steps _).bind
    ((reads_members_first h ?_ rest).bind ((reads_endObject rest).bind (.pure ms rest)))))
  rw [List.length_append]
  omega

theorem reads_choice {names : List String} {name : String} (h : name ∈ names) (rest : List Char) :
    Reads (choice names) (writeText name ++ rest) name rest := by
  have hchosen : Reads (chosen names) (writeText name ++ rest) name rest := by
    unfold chosen
    refine (reads_text name rest).bind ?_
    rw [if_pos (List.contains_iff_mem.2 h)]
    exact .pure name rest
  rw [writeText_append] at hchosen ⊢
  exact (reads_peekToken rfl _).bind hchosen

end Reader

theorem lookup_of_mem {β : Type} {ps : List (String × β)} {p : String × β}
    (hnames : (ps.map Prod.fst).Nodup) (hp : p ∈ ps) : ps.lookup p.1 = some p.2 := by
  induction ps with
  | nil => cases hp
  | cons q ps ih =>
    rw [List.map_cons, List.nodup_cons] at hnames
    rcases List.mem_cons.1 hp with rfl | hp
    · rw [List.lookup_cons, beq_self_eq_true]
    · have hne : p.1 ≠ q.1 := fun heq => hnames.1 (heq ▸ List.mem_map_of_mem hp)
      rw [List.lookup_cons, beq_false_of_ne hne]
      exact ih hnames.2 hp

theorem arranged?_of_lookup (hnames : fields.map Prod.fst = ms.map Prod.fst)
    (h : ∀ m ∈ ms, found.lookup m.1 = some m.2) : Reader.arranged? found fields = some ms := by
  induction fields generalizing ms with
  | nil =>
    cases List.map_eq_nil_iff.1 hnames.symm
    rfl
  | cons field fields ih =>
    cases ms with
    | nil => cases hnames
    | cons m ms =>
      obtain ⟨hname, hnames⟩ := List.cons.inj hnames
      rw [List.forall_mem_cons] at h
      rw [Reader.arranged?, hname, h.1, ih hnames h.2]
      rfl

mutual

/-- The reader of a shape reads every value that fits. -/
theorem Fits.readsBack {shape : Schema} {value : Json} (h : Fits shape value) :
    ReadsBack shape.reader value := by
  intro rest hrest
  cases h with
  | text str =>
    rw [Schema.reader, Json.write]
    exact (Reader.reads_text str rest).map Json.text
  | natural hbound hword =>
    rw [Schema.reader, Json.write]
    exact (Reader.reads_natural hbound hword hrest).map Json.natural
  | choice h =>
    rw [Schema.reader, Json.write]
    exact (Reader.reads_choice h rest).map Json.text
  | list h =>
    rw [Schema.reader]
    exact (Reader.reads_list (fun v hv => Fits.readsBack (h v hv)) rest).map Json.list
  | @record _ members hnames h =>
    rw [Schema.reader]
    obtain ⟨hfields, hreaders⟩ := FitMembers.readsBack h
    -- Members are found latest first, which is the same where no name is given twice.
    have hreversed : ∀ m ∈ members, members.reverse.lookup m.1 = some m.2 := fun m hm =>
      lookup_of_mem (by rwa [List.map_reverse, List.nodup_reverse]) (List.mem_reverse.2 hm)
    refine (Reader.reads_record ⟨hnames, fun _ _ => rfl, fun m hm => ?_, ?_⟩ rest).map Json.record
    · obtain ⟨r, hr, hm⟩ := hreaders m hm
      exact ⟨r, lookup_of_mem (by rwa [hfields]) hr, hm⟩
    · rw [List.append_nil]
      exact arranged?_of_lookup hfields hreversed

theorem FitMembers.readsBack {shapes : List (String × Schema)} {members : List (String × Json)}
    (h : FitMembers shapes members) :
    (Schema.readers shapes).map Prod.fst = members.map Prod.fst ∧
      ∀ m ∈ members, ∃ r, (m.1, r) ∈ Schema.readers shapes ∧ ReadsBack r m.2 := by
  cases h with
  | nil => exact ⟨rfl, by simp⟩
  | cons h hs =>
    obtain ⟨hnames, hreaders⟩ := FitMembers.readsBack hs
    refine ⟨congrArg _ hnames,
      List.forall_mem_cons.2 ⟨⟨_, List.mem_cons_self, Fits.readsBack h⟩, fun m hm => ?_⟩⟩
    obtain ⟨r, hr, hm⟩ := hreaders m hm
    exact ⟨r, List.mem_cons_of_mem _ hr, hm⟩

end

theorem Fits.read {shape : Schema} (h : Fits shape v) :
    shape.read (String.ofList v.write) = .ok v := by
  have hread : Reads (shape.reader >>= fun a => Reader.finish >>= fun _ => pure a)
      (v.write ++ []) v [] :=
    (h.readsBack [] (by simp [Reader.EndsNumber])).bind (Reads.bind rfl (.pure v []))
  rw [List.append_nil] at hread
  unfold Schema.read Reader.run
  rw [String.toList_ofList]
  exact congrArg (Except.map Prod.fst) hread

end TypeGuard.Json
