import Mathlib.Data.List.Flatten
import Mathlib.Data.List.Nodup
import Mathlib.Data.List.Perm.Basic
import TypeGuard.Proofs.Braces
import TypeGuard.Proofs.SourceOrder

namespace TypeGuard

namespace TypeScript

variable {src : List Char}

def Item.functions : Item src → List FunctionDecl
  | .function name r => (r.function? name).toList
  | _ => []

def Item.methods : Item src → List FunctionDecl
  | .class_ _ members => members.filterMap Member.function?
  | _ => []

theorem bodyStart_flatMap_sublist {α : Type} {reported : α → List FunctionDecl}
    {bodies : α → List Nat}
    (h : ∀ a, ((reported a).map FunctionDecl.bodyStart).Sublist ((bodies a).map Nat.succ))
    (xs : List α) : ((xs.flatMap reported).map FunctionDecl.bodyStart).Sublist
      ((xs.flatMap bodies).map Nat.succ) := by
  rw [List.map_flatMap, List.map_flatMap]
  exact List.Sublist.flatMap_right xs fun a _ => h a

theorem Routine.bodyStart_sublist (r : Routine src) (name : String) :
    ((r.function? name).toList.map FunctionDecl.bodyStart).Sublist (r.bodies.map Nat.succ) := by
  obtain ⟨params, body⟩ := r
  cases body <;> exact .refl _

/-- A private method has a body, but is not reported. -/
theorem Member.bodyStart_sublist (m : Member src) :
    (m.function?.toList.map FunctionDecl.bodyStart).Sublist (m.bodies.map Nat.succ) := by
  obtain ⟨start, method⟩ := m
  cases method with
  | none => exact .slnil
  | some found =>
    obtain ⟨name, r⟩ := found
    cases name with
    | none => exact List.nil_sublist _
    | some name => exact r.bodyStart_sublist name

theorem Item.bodyStart_sublist (item : Item src) :
    ((item.functions ++ item.methods).map FunctionDecl.bodyStart).Sublist
      (item.bodies.map Nat.succ) := by
  cases item with
  | function name r =>
    change (((r.function? name).toList ++ []).map FunctionDecl.bodyStart).Sublist _
    rw [List.append_nil]
    exact r.bodyStart_sublist name
  | class_ name members =>
    rw [methods, List.filterMap_eq_flatMap_toList]
    exact bodyStart_flatMap_sublist Member.bodyStart_sublist members
  | useStrict => exact .slnil
  | other => exact .slnil

variable (items : List (Item src))

theorem functionsOf_eq : functionsOf items = items.flatMap Item.functions := by
  rw [functionsOf, List.filterMap_eq_flatMap_toList]
  apply List.flatMap_congr
  intro item _
  cases item <;> rfl

theorem flatMap_methods_classesOf :
    (classesOf items).flatMap ClassDecl.methods = items.flatMap Item.methods := by
  rw [classesOf, List.filterMap_eq_flatMap_toList, List.flatMap_assoc]
  apply List.flatMap_congr
  intro item _
  cases item <;> simp [Item.methods]

theorem functionsOf_sublist : ((functionsOf items).map FunctionDecl.bodyStart).Sublist
    ((items.flatMap Item.bodies).map Nat.succ) := by
  rw [functionsOf_eq]
  apply bodyStart_flatMap_sublist
  intro item
  exact ((List.sublist_append_left _ _).map _).trans item.bodyStart_sublist

theorem methods_sublist :
    (((classesOf items).flatMap ClassDecl.methods).map FunctionDecl.bodyStart).Sublist
      ((items.flatMap Item.bodies).map Nat.succ) := by
  rw [flatMap_methods_classesOf]
  apply bodyStart_flatMap_sublist
  intro item
  exact ((List.sublist_append_right _ _).map _).trans item.bodyStart_sublist

/-- The functions and the methods share the bodies out between them. -/
theorem all_subperm :
    ((functionsOf items ++ (classesOf items).flatMap ClassDecl.methods).map
      FunctionDecl.bodyStart).Subperm ((items.flatMap Item.bodies).map Nat.succ) := by
  rw [functionsOf_eq, flatMap_methods_classesOf]
  have hperm := List.flatMap_append_perm items Item.functions Item.methods
  refine (hperm.map _).subperm.trans ?_
  exact (bodyStart_flatMap_sublist Item.bodyStart_sublist items).subperm

end TypeScript

open TypeScript

variable {source : List Char} {d : Declarations} {f : FunctionDecl} {fs : List FunctionDecl}
  {mode : Mode} {i : Nat}

theorem bytesAt_of_ne (h : ∀ f ∈ fs, f.bodyStart ≠ i) :
    bytesAt (fs.flatMap (·.patches mode)) i = [] := by
  rw [bytesAt_flatMap_patches, List.filter_eq_nil_iff.2]
  · rfl
  · simpa using h

theorem filter_bodyStart_of_nodup (h : (fs.map FunctionDecl.bodyStart).Nodup) (hf : f ∈ fs) :
    (fs.filter fun k => k.bodyStart = f.bodyStart) = [f] := by
  induction fs with
  | nil => cases hf
  | cons g gs ih =>
    rw [List.map_cons, List.nodup_cons] at h
    rcases List.mem_cons.1 hf with rfl | hf
    · rw [List.filter_cons_of_pos (by simp), List.filter_eq_nil_iff.2]
      intro k hk he
      exact h.1 (of_decide_eq_true he ▸ List.mem_map_of_mem hk)
    · rw [List.filter_cons_of_neg, ih h.2 hf]
      intro he
      exact h.1 (of_decide_eq_true he ▸ List.mem_map_of_mem hf)

theorem bytesAt_of_nodup (h : (fs.map FunctionDecl.bodyStart).Nodup) (hf : f ∈ fs) :
    bytesAt (fs.flatMap (·.patches mode)) f.bodyStart =
      (f.guardTexts mode).flatMap Utf8.ofString := by
  rw [bytesAt_flatMap_patches, filter_bodyStart_of_nodup h hf, List.flatMap_singleton]

theorem bytesAt_filter_patches {keep : FunctionDecl → Bool} {i : Nat}
    (h : ∀ f, f.bodyStart = i → keep f) :
    bytesAt ((fs.filter keep).flatMap (·.patches mode)) i =
      bytesAt (fs.flatMap (·.patches mode)) i := by
  rw [bytesAt_flatMap_patches, bytesAt_flatMap_patches, List.filter_filter]
  congr 1
  apply List.filter_congr
  intro f _
  by_cases hi : f.bodyStart = i
  · simp [hi, h f hi]
  · simp [hi]

/-- A walk over a whole source, seen from the start of a body: what lies before it with the guards
of the bodies that start there, the guards of the body itself, and the rest. -/
theorem weave_at_bodyStart {xs : List UInt8} (h : (fs.map FunctionDecl.bodyStart).Nodup)
    (hf : f ∈ fs) (hle : f.bodyStart ≤ xs.length) :
    weave (bytesAt (fs.flatMap (·.patches mode))) xs =
      weave (bytesAt ((fs.filter fun k => k.bodyStart < f.bodyStart).flatMap (·.patches mode)))
          (xs.take f.bodyStart) ++
        (f.guardTexts mode).flatMap Utf8.ofString ++
        trail (bytesAt ((fs.filter fun k => f.bodyStart < k.bodyStart).flatMap (·.patches mode)))
          f.bodyStart (xs.drop f.bodyStart) := by
  have hlen : (xs.take f.bodyStart).length = f.bodyStart := List.length_take_of_le hle
  conv_lhs => rw [← List.take_append_drop f.bodyStart xs, weave_append, hlen]
  congr 1
  · apply weave_last
    · rw [hlen, bytesAt_of_nodup h hf, bytesAt_of_ne, List.nil_append]
      intro k hk
      exact Nat.ne_of_lt (of_decide_eq_true (List.mem_filter.1 hk).2)
    · intro i hi
      rw [hlen] at hi
      exact (bytesAt_filter_patches fun k hk => decide_eq_true (hk ▸ hi)).symm
  · apply trail_congr
    intro j hj
    exact (bytesAt_filter_patches fun k hk => decide_eq_true (hk ▸ hj)).symm

theorem pairwise_bodies_of_run {g : Rules source} {items : List (Item source)} {s s' : State source}
    (h : (Parser.items g).run s = .value items s') :
    ((items.flatMap Item.bodies).map Nat.succ).Pairwise (· < ·) := by
  have hstands := Parser.ensures_items s items s' (Nat.le_refl _) h
  have hrising := hstands.rising Item.Stands.rising
  exact hrising.pairwise.map _ fun _ _ => Nat.succ_lt_succ

theorem nodup_bodyStart (h : (extract source).value = .ok d) :
    (d.all.map FunctionDecl.bodyStart).Nodup := by
  obtain ⟨items, s, hrun, rfl⟩ := exists_items_of_extract h
  obtain ⟨bodies, hperm, hsub⟩ := all_subperm items
  exact hperm.nodup ((pairwise_bodies_of_run hrun).nodup.sublist hsub)

/-- Bodies start in source order, no two of them at the same offset, so the guards that follow the
start of a body are those of its own parameters, and nothing is inserted anywhere else. A byte of
the source is followed by what is inserted after it, and the byte that the guards of a body follow
is the opening brace unless a markup comment or a marker begins there. -/
theorem guardTypeScript_own_guards (h : (extract source).value = .ok d) :
    (d.functions.map FunctionDecl.bodyStart).Pairwise (· < ·) ∧
    ((d.classes.flatMap ClassDecl.methods).map FunctionDecl.bodyStart).Pairwise (· < ·) ∧
    (∀ f ∈ d.functions, ∀ k ∈ d.classes, ∀ m ∈ k.methods, f.bodyStart ≠ m.bodyStart) ∧
    ∀ (c : Config) (g : Guarded), (c.guardTypeScript source).value = .ok g →
      ∃ inserted : Nat → List UInt8,
        g.bytes = trail inserted 0 (Utf8.encode source) ∧
        (∀ f ∈ d.all, inserted f.bodyStart = (f.guardTexts c.mode).flatMap Utf8.ofString ∧
          1 ≤ f.bodyStart ∧ f.bodyStart ≤ (Utf8.encode source).length ∧
          ((Utf8.encode source)[f.bodyStart - 1]? = some 0x7b ↔
            ¬ SignAt source (f.bodyStart - 1))) ∧
        ∀ i, (∀ f ∈ d.all, f.bodyStart ≠ i) → inserted i = [] := by
  have hnodup := nodup_bodyStart h
  refine ⟨?_, ?_, ?_, fun c g hg => ?_⟩
  · obtain ⟨items, s, hrun, rfl⟩ := exists_items_of_extract h
    exact (pairwise_bodies_of_run hrun).sublist (functionsOf_sublist items)
  · obtain ⟨items, s, hrun, rfl⟩ := exists_items_of_extract h
    exact (pairwise_bodies_of_run hrun).sublist (methods_sublist items)
  · intro f hf k hk m hm he
    rw [Declarations.all, List.map_append] at hnodup
    have hmethod : m ∈ d.classes.flatMap ClassDecl.methods := List.mem_flatMap.2 ⟨k, hk, hm⟩
    exact List.disjoint_of_nodup_append hnodup (List.mem_map_of_mem hf)
      (he ▸ List.mem_map_of_mem hmethod)
  · have hpos : ∀ f ∈ d.all, f.bodyStart ≠ 0 := fun f hf =>
      Nat.ne_of_gt (bodyStart_of_extract h hf).1
    rw [c.guardTypeScript_of_ok h, c.collect_value] at hg
    split at hg
    · cases hg
    · cases hg
      refine ⟨bytesAt (d.all.flatMap (·.patches c.mode)), ?_, fun f hf => ?_, fun i hi => ?_⟩
      · rw [weave_eq_trail, bytesAt_of_ne hpos, List.nil_append]
      · exact ⟨bytesAt_of_nodup hnodup hf, bodyStart_of_extract h hf⟩
      · exact bytesAt_of_ne hi

/-- The patches of the function come before those of the method that stands in front of it. -/
theorem guardTypeScript_own_guards_interleaved :
    (extract "class K\x7bm(a:string)\x7b\x7d\x7dfunction f(b:number)\x7b\x7d".toList).value =
      .ok ⟨[⟨"f", [⟨"b", .number⟩], 43⟩], [⟨"K", [⟨"m", [⟨"a", .string⟩], 20⟩]⟩]⟩ ∧
    ∃ g inserted, (Config.guardTypeScript {}
        "class K\x7bm(a:string)\x7b\x7d\x7dfunction f(b:number)\x7b\x7d".toList).value = .ok g ∧
      g.bytes = trail inserted 0
        (Utf8.encode "class K\x7bm(a:string)\x7b\x7d\x7dfunction f(b:number)\x7b\x7d".toList) ∧
      inserted 20 = ["\n", "    if(typeof a !== 'string')\x7b\n",
        "    console.warn(`a isn't of type string but of type $\x7btypeof a\x7d`);\n",
        "    \x7d\n", "    "].flatMap Utf8.ofString ∧
      inserted 43 = ["\n", "    if(typeof b !== 'number')\x7b\n",
        "    console.warn(`b isn't of type number but of type $\x7btypeof b\x7d`);\n",
        "    \x7d\n", "    "].flatMap Utf8.ofString ∧
      g.bytes = ["class K\x7bm(a:string)\x7b\n", "    if(typeof a !== 'string')\x7b\n",
        "    console.warn(`a isn't of type string but of type $\x7btypeof a\x7d`);\n",
        "    \x7d\n", "    \x7d\x7dfunction f(b:number)\x7b\n", "    if(typeof b !== 'number')\x7b\n",
        "    console.warn(`b isn't of type number but of type $\x7btypeof b\x7d`);\n",
        "    \x7d\n", "    \x7d"].flatMap Utf8.ofString := by
  have h : (extract
      "class K\x7bm(a:string)\x7b\x7d\x7dfunction f(b:number)\x7b\x7d".toList).value =
      .ok ⟨[⟨"f", [⟨"b", .number⟩], 43⟩], [⟨"K", [⟨"m", [⟨"a", .string⟩], 20⟩]⟩]⟩ := by rfl
  have hg := Config.guardTypeScript_of_ok {} h
  rw [if_neg (by decide)] at hg
  obtain ⟨inserted, hbytes, hown, -⟩ := (guardTypeScript_own_guards h).2.2.2 _ _ hg
  have hm := (hown ⟨"m", [⟨"a", .string⟩], 20⟩ (by decide)).1
  have hf := (hown ⟨"f", [⟨"b", .number⟩], 43⟩ (by decide)).1
  exact ⟨h, _, inserted, hg, hbytes, hm.trans (by decide +kernel), hf.trans (by decide +kernel),
    by decide +kernel⟩

/-- Number of bytes of the guards of bodies that start in front of an offset. -/
def Declarations.guardBytesBefore (d : Declarations) (mode : Mode) (offset : Nat) : Nat :=
  (((d.all.filter fun f => f.bodyStart < offset).flatMap (·.guardTexts mode)).map
    fun text => (Utf8.ofString text).length).sum

def FunctionDecl.moved (d : Declarations) (mode : Mode) (f : FunctionDecl) : FunctionDecl :=
  { f with bodyStart := f.bodyStart + d.guardBytesBefore mode f.bodyStart }

def Declarations.moved (d : Declarations) (mode : Mode) : Declarations where
  functions := d.functions.map (FunctionDecl.moved d mode)
  classes := d.classes.map fun k => { k with methods := k.methods.map (FunctionDecl.moved d mode) }

/-- Reading a guarded text again need not give the moved declarations, even if the source has no
error at all: a name that begins with an escape is never a keyword, but its guard spells it out. -/
theorem extract_guarded_ne_moved : ¬ ∀ source d c g text,
    extract source = ⟨.ok d, [d.counted readerTarget "Extracted declarations"]⟩ →
    (Config.guardTypeScript c source).value = .ok g → Utf8.encode text = g.bytes →
    (extract text).value = .ok (d.moved c.mode) := by
  intro h
  have hextract : extract "function f(\\u0069f:number)\x7b\x7d".toList =
      ⟨.ok ⟨[⟨"f", [⟨"if", .number⟩], 27⟩], []⟩,
        [Declarations.counted readerTarget "Extracted declarations"
          ⟨[⟨"f", [⟨"if", .number⟩], 27⟩], []⟩]⟩ := by decide +kernel
  have hguard := Config.guardTypeScript_of_ok {} (congrArg Log.Recorded.value hextract)
  rw [if_neg (by decide)] at hguard
  obtain ⟨text, hbytes, herror⟩ : ∃ text : List Char, Utf8.encode text =
        weave (bytesAt (Config.collect {} ⟨[⟨"f", [⟨"if", .number⟩], 27⟩], []⟩).value)
          (Utf8.encode "function f(\\u0069f:number)\x7b\x7d".toList) ∧
      (extract text).value = .error (.parse 42 "Expected ')', got 'if'") :=
    ⟨["function f(\\u0069f:number)\x7b\n", "    if(typeof if !== 'number')\x7b\n",
        "    console.warn(`if isn't of type number but of type $\x7btypeof if\x7d`);\n",
        "    \x7d\n", "    \x7d"].flatMap String.toList, by decide +kernel, by decide +kernel⟩
  have hmoved := h _ _ _ _ _ hextract hguard hbytes
  rw [herror] at hmoved
  cases hmoved

end TypeGuard
