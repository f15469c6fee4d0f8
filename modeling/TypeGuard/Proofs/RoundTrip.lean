import TypeGuard.Json.Form
import TypeGuard.Proofs.Shapes

namespace TypeGuard

open Json (Fits FitMembers)
open HasForm (schema toJson ofJson?)

theorem HasForm.read_write_of_fits {α : Type} [HasForm α] {a : α}
    (hfits : Fits (schema α) (toJson a)) (hof : ofJson? (toJson a) = some a) :
    HasForm.read (HasForm.write a) = .ok a := by
  unfold HasForm.read HasForm.write
  rw [hfits.read]
  simp only [bind, Except.bind, hof]
  rfl

theorem mapM_map_some {α β : Type} {f : β → Option α} {g : α → β} {as : List α}
    (h : ∀ a ∈ as, f (g a) = some a) : (as.map g).mapM f = some as := by
  induction as with
  | nil => rfl
  | cons a as ih =>
    rw [List.forall_mem_cons] at h
    rw [List.map_cons, List.mapM_cons, h.1, ih h.2]
    rfl

theorem fits_list {α : Type} [HasForm α] {as : List α}
    (h : ∀ a ∈ as, Fits (schema α) (toJson a)) :
    Fits (.list (schema α)) (.list (as.map toJson)) :=
  .list (List.forall_mem_map.2 h)

theorem Mode.fits (m : Mode) : Fits (schema Mode) (toJson m) := by
  cases m <;> exact .choice (by decide)

theorem Mode.ofJson?_toJson (m : Mode) : ofJson? (toJson m) = some m := by
  cases m <;> rfl

theorem ParamType.fits (t : ParamType) : Fits (schema ParamType) (toJson t) := by
  cases t <;> exact .choice (by decide)

theorem ParamType.ofJson?_toJson (t : ParamType) : ofJson? (toJson t) = some t := by
  cases t <;> rfl

theorem NamedValue.fits (v : NamedValue) : Fits (schema NamedValue) (toJson v) :=
  .record (by simp) (.cons (.text v.name) .nil)

theorem Config.fits {c : Config} (h : c.limit < wordBound) : Fits (schema Config) (toJson c) :=
  .record (by simp) (.cons c.mode.fits (.cons (.natural h h) .nil))

theorem Config.ofJson?_toJson (c : Config) : ofJson? (toJson c) = some c := by
  change (ofJson? (toJson c.mode)).map _ = _
  rw [c.mode.ofJson?_toJson]
  rfl

theorem Param.fits (p : Param) : Fits (schema Param) (toJson p) :=
  .record (by simp) (.cons (.text p.name) (.cons p.type.fits .nil))

theorem Param.ofJson?_toJson (p : Param) : ofJson? (toJson p) = some p := by
  change (ofJson? (toJson p.type)).map _ = _
  rw [p.type.ofJson?_toJson]
  rfl

theorem FunctionDecl.fits {f : FunctionDecl} (h : f.bodyStart < wordBound) :
    Fits (schema FunctionDecl) (toJson f) :=
  .record (by simp) (.cons (.text f.name)
    (.cons (fits_list fun p _ => p.fits) (.cons (.natural h h) .nil)))

theorem FunctionDecl.ofJson?_toJson (f : FunctionDecl) : ofJson? (toJson f) = some f := by
  change ((f.params.map toJson).mapM ofJson?).map _ = _
  rw [mapM_map_some fun p _ => p.ofJson?_toJson]
  rfl

theorem ClassDecl.fits {c : ClassDecl} (h : ∀ f ∈ c.methods, f.bodyStart < wordBound) :
    Fits (schema ClassDecl) (toJson c) :=
  .record (by simp) (.cons (.text c.name)
    (.cons (fits_list fun f hf => FunctionDecl.fits (h f hf)) .nil))

theorem ClassDecl.ofJson?_toJson (c : ClassDecl) : ofJson? (toJson c) = some c := by
  change ((c.methods.map toJson).mapM ofJson?).map _ = _
  rw [mapM_map_some fun f _ => f.ofJson?_toJson]
  rfl

theorem byteOfJson?_natural (b : UInt8) : byteOfJson? (.natural b.toNat) = some b := by
  rw [byteOfJson?, if_pos b.toNat_lt]
  exact congrArg some UInt8.ofNat_toNat

theorem Patch.fits {p : Patch} (h : p.offset < wordBound) : Fits (schema Patch) (toJson p) := by
  refine .record (by simp) (.cons (.natural h h) (.cons (.list ?_) .nil))
  rw [List.forall_mem_map]
  exact fun b _ => .natural b.toNat_lt (Nat.lt_trans b.toNat_lt (by decide))

theorem Patch.ofJson?_toJson (p : Patch) : ofJson? (toJson p) = some p := by
  change ((p.bytes.map fun b => Json.natural b.toNat).mapM byteOfJson?).map _ = _
  rw [mapM_map_some fun b _ => byteOfJson?_natural b]
  rfl

/-- What is written is read back, for all texts and lists and for all numbers of 64 bits. -/
theorem read_write :
    (∀ v : NamedValue, HasForm.read (HasForm.write v) = .ok v) ∧
    (∀ m : Mode, HasForm.read (HasForm.write m) = .ok m) ∧
    (∀ c : Config, c.limit < wordBound → HasForm.read (HasForm.write c) = .ok c) ∧
    (∀ t : ParamType, HasForm.read (HasForm.write t) = .ok t) ∧
    (∀ p : Param, HasForm.read (HasForm.write p) = .ok p) ∧
    (∀ f : FunctionDecl, f.bodyStart < wordBound → HasForm.read (HasForm.write f) = .ok f) ∧
    (∀ c : ClassDecl, (∀ f ∈ c.methods, f.bodyStart < wordBound) →
      HasForm.read (HasForm.write c) = .ok c) ∧
    (∀ p : Patch, p.offset < wordBound → HasForm.read (HasForm.write p) = .ok p) :=
  ⟨fun v => HasForm.read_write_of_fits v.fits rfl,
    fun m => HasForm.read_write_of_fits m.fits m.ofJson?_toJson,
    fun c h => HasForm.read_write_of_fits (Config.fits h) c.ofJson?_toJson,
    fun t => HasForm.read_write_of_fits t.fits t.ofJson?_toJson,
    fun p => HasForm.read_write_of_fits p.fits p.ofJson?_toJson,
    fun f h => HasForm.read_write_of_fits (FunctionDecl.fits h) f.ofJson?_toJson,
    fun c h => HasForm.read_write_of_fits (ClassDecl.fits h) c.ofJson?_toJson,
    fun p h => HasForm.read_write_of_fits (Patch.fits h) p.ofJson?_toJson⟩

theorem read_write_escapes :
    18446744073709551615 < wordBound ∧
    HasForm.write (ClassDecl.mk "\"\\\n\x01é" [⟨"m", [⟨"", .number⟩], 18446744073709551615⟩]) =
      "\x7b\"name\":\"\\\"\\\\\\n\\u0001é\",\"methods\":[\x7b\"name\":\"m\",\"params\":[" ++
        "\x7b\"name\":\"\",\"param_type\":\"Number\"\x7d]," ++
        "\"body_start\":18446744073709551615\x7d]\x7d" ∧
    HasForm.read (HasForm.write
        (ClassDecl.mk "\"\\\n\x01é" [⟨"m", [⟨"", .number⟩], 18446744073709551615⟩])) =
      .ok (ClassDecl.mk "\"\\\n\x01é" [⟨"m", [⟨"", .number⟩], 18446744073709551615⟩]) := by
  have hbound : 18446744073709551615 < wordBound := by decide
  refine ⟨hbound, by decide +kernel, read_write.2.2.2.2.2.2.1 _ fun f hf => ?_⟩
  cases List.mem_singleton.1 hf
  exact hbound

end TypeGuard
