import Mathlib.Data.List.Basic
import TypeGuard.Path

namespace TypeGuard.Path

variable {base path root rest s : List Char} {ss rs : List (List Char)} {c : Component}
  {cs : List Component}

theorem component?_eq_none_iff : component? s = none ↔ s = [] ∨ s = ['.'] := by
  unfold component?
  split
  · next h => exact iff_of_true rfl h
  · next h => split <;> exact iff_of_false (by simp) h

theorem ne_anchor_of_component? (h : component? s = some c) : c ≠ .root ∧ c ≠ .current := by
  unfold component? at h
  split at h
  · cases h
  · split at h <;> cases h <;> simp

theorem filterMap_dropWhile {α β : Type} (f : α → Option β) (xs : List α) :
    (xs.dropWhile fun x => (f x).isNone).filterMap f = xs.filterMap f := by
  induction xs with
  | nil => rfl
  | cons x xs ih =>
    cases hx : f x with
    | none => rw [List.dropWhile_cons_of_pos (by simp [hx]), ih, List.filterMap_cons_none hx]
    | some y => rw [List.dropWhile_cons_of_neg (by simp [hx])]

theorem filterMap_trimmedRight (ss : List (List Char)) :
    (trimmedRight ss).filterMap component? = ss.filterMap component? := by
  rw [trimmedRight, List.filterMap_reverse, filterMap_dropWhile, List.filterMap_reverse,
    List.reverse_reverse]

theorem filterMap_trimmed (ss : List (List Char)) :
    (trimmed ss).filterMap component? = ss.filterMap component? := by
  rw [trimmed, filterMap_trimmedRight, filterMap_dropWhile]

theorem trimmedRight_isPrefix (ss : List (List Char)) : trimmedRight ss <+: ss := by
  have h := List.dropWhile_suffix (l := ss.reverse) fun s => (component? s).isNone
  rwa [← List.reverse_prefix, List.reverse_reverse] at h

theorem trimmed_subset (ss : List (List Char)) : trimmed ss ⊆ ss :=
  List.Subset.trans (trimmedRight_isPrefix _).subset (List.dropWhile_suffix _).subset

theorem mem_head?_of_trimmedRight (h : s ∈ (trimmedRight ss).head?) : s ∈ ss.head? := by
  obtain ⟨ts, hts⟩ := trimmedRight_isPrefix ss
  rw [← hts, List.head?_append, h, Option.some_or]
  rfl

theorem isSome_component?_head_trimmed (h : s ∈ (trimmed ss).head?) : (component? s).isSome := by
  have hs := List.head?_dropWhile_not (fun s => (component? s).isNone) ss
  rw [mem_head?_of_trimmedRight h] at hs
  simpa using hs

theorem joined_segments (path : List Char) : joined (segments path) = path :=
  Text.joined_parts '/' path

theorem segments_append (path path' : List Char) :
    segments (path ++ '/' :: path') = segments path ++ segments path' :=
  Text.parts_append '/' path path'

theorem eq_trimmed_of_stripSegments? (h : stripSegments? cs ss = some rs) :
    ∃ ts, ts ⊆ ss ∧ rs = trimmed ts ∧
      ss.filterMap component? = cs ++ ts.filterMap component? := by
  fun_induction stripSegments? cs ss with
  | case1 ss => exact ⟨ss, List.Subset.refl _, by simpa using h.symm, rfl⟩
  | case2 => cases h
  | case3 c cs s ss hs ih =>
    obtain ⟨ts, hts, hrs, heq⟩ := ih h
    exact ⟨ts, List.subset_cons_of_subset _ hts, hrs, by rw [List.filterMap_cons_none hs, heq]⟩
  | case4 cs s ss c hs ih =>
    obtain ⟨ts, hts, hrs, heq⟩ := ih h
    refine ⟨ts, List.subset_cons_of_subset _ hts, hrs, ?_⟩
    rw [List.filterMap_cons_some hs, heq, List.cons_append]
  | case5 => cases h

theorem isSome_stripSegments? :
    (stripSegments? cs ss).isSome ↔ cs <+: ss.filterMap component? := by
  fun_induction stripSegments? cs ss with
  | case1 => simp
  | case2 => simp
  | case3 c cs s ss hs ih => rw [ih, List.filterMap_cons_none hs]
  | case4 cs s ss c hs ih =>
    rw [ih, List.filterMap_cons_some hs, List.cons_prefix_cons, eq_self, true_and]
  | case5 c cs s ss d hs hne =>
    rw [List.filterMap_cons_some hs, List.cons_prefix_cons]
    simp [Ne.symm hne]

theorem filterMap_segments_joined (h : ∀ s ∈ ss, '/' ∉ s) :
    (segments (joined ss)).filterMap component? = ss.filterMap component? := by
  cases ss with
  | nil => rfl
  | cons s ss => rw [segments, joined, Text.parts_joined (List.cons_ne_nil _ _) h]

def Unanchored (path : List Char) : Prop :=
  (anchored path).1 = none

theorem Unanchored.anchored_eq (h : Unanchored path) : anchored path = (none, path) := by
  unfold Unanchored at h
  revert h
  fun_cases anchored path <;> simp

theorem unanchored_of_ne (hslash : ∀ cs, path = '/' :: cs → False) (hdot : path = ['.'] → False)
    (hcurrent : ∀ cs, path = '.' :: '/' :: cs → False) : Unanchored path := by
  rw [Unanchored, anchored.eq_4 path hslash hdot hcurrent]

theorem Unanchored.components_eq (h : Unanchored path) :
    components path = (segments path).filterMap component? := by
  rw [components, h.anchored_eq]
  rfl

theorem head?_components_of_anchored (h : (anchored path).1 = some c) :
    (components path).head? = some c ∧ (c = .root ∨ c = .current) := by
  refine ⟨by rw [components, h]; rfl, ?_⟩
  revert h
  fun_cases anchored path <;> simp +contextual [eq_comm]

/-- Whether a path has an anchor can be told from its components. -/
theorem unanchored_iff :
    Unanchored path ↔ ∀ c ∈ (components path).head?, c ≠ .root ∧ c ≠ .current := by
  constructor
  · intro h c hc
    rw [h.components_eq] at hc
    obtain ⟨s, -, hs⟩ := List.mem_filterMap.1 (List.mem_of_mem_head? hc)
    exact ne_anchor_of_component? hs
  · intro h
    unfold Unanchored
    cases hc : (anchored path).1 with
    | none => rfl
    | some c =>
      obtain ⟨hhead, hroot | hcurrent⟩ := head?_components_of_anchored hc
      · exact absurd hroot (h c hhead).1
      · exact absurd hcurrent (h c hhead).2

theorem head?_eq_slash_iff : path.head? = some '/' ↔ (components path).head? = some .root := by
  fun_cases anchored path with
  | case1 => exact iff_of_true rfl rfl
  | case2 => exact iff_of_false (by decide) (by decide)
  | case3 cs => exact iff_of_false (by simp) (by simp [components, anchored])
  | case4 _ hslash hdot hcurrent =>
    have h : Unanchored path := unanchored_of_ne hslash hdot hcurrent
    constructor
    · intro hhead
      obtain ⟨cs, rfl⟩ := List.head?_eq_some_iff.1 hhead
      exact (hslash cs rfl).elim
    · intro hhead
      exact absurd rfl (unanchored_iff.1 h .root hhead).1

theorem anchored_append (hroot : root ≠ []) (path : List Char) :
    anchored (root ++ '/' :: path) = ((anchored root).1, (anchored root).2 ++ '/' :: path) := by
  fun_cases anchored root with
  | case1 => rfl
  | case2 => rfl
  | case3 => rfl
  | case4 _ hslash hdot hcurrent =>
    obtain ⟨c, cs, rfl⟩ := List.exists_cons_of_ne_nil hroot
    apply anchored.eq_4
    · rintro ds ⟨⟩
      exact hslash _ rfl
    · simp
    · intro ds h
      cases cs with
      | nil =>
        cases h
        exact hdot rfl
      | cons d cs =>
        cases h
        exact hcurrent _ rfl

theorem components_append (hroot : root ≠ []) (path : List Char) :
    components (root ++ '/' :: path) =
      components root ++ (segments path).filterMap component? := by
  rw [components, components, anchored_append hroot, segments_append, List.filterMap_append,
    List.append_assoc]

theorem unanchored_joined_cons_iff (h : '/' ∉ s) :
    Unanchored (joined (s :: ss)) ↔ component? s ≠ none ∨ s = [] ∧ ss = [] := by
  by_cases hs : component? s = none
  · rcases component?_eq_none_iff.1 hs with rfl | rfl <;> cases ss <;>
      simp [Unanchored, joined, Text.joined, anchored, hs]
  · refine iff_of_true ?_ (.inl hs)
    rw [component?_eq_none_iff, not_or] at hs
    obtain ⟨c, cs, rfl⟩ := List.exists_cons_of_ne_nil hs.1
    rw [List.mem_cons, not_or] at h
    obtain ⟨tail, htail⟩ : ∃ tail, joined ((c :: cs) :: ss) = c :: cs ++ tail := by
      cases ss with
      | nil => exact ⟨[], (List.append_nil _).symm⟩
      | cons t ts => exact ⟨'/' :: joined (t :: ts), rfl⟩
    rw [htail]
    apply unanchored_of_ne
    · rintro ds ⟨⟩
      exact h.1 rfl
    · intro heq
      obtain ⟨rfl, hnil⟩ := List.cons.inj heq
      rw [(List.append_eq_nil_iff.1 hnil).1] at hs
      exact hs.2 rfl
    · intro ds heq
      obtain ⟨rfl, htl⟩ := List.cons.inj heq
      cases cs with
      | nil => exact hs.2 rfl
      | cons d cs =>
        cases htl
        exact h.2 List.mem_cons_self

theorem unanchored_joined (h : ∀ s ∈ ss, '/' ∉ s) (hhead : ∀ s ∈ ss.head?, (component? s).isSome) :
    Unanchored (joined ss) := by
  cases ss with
  | nil => rfl
  | cons s ss =>
    rw [unanchored_joined_cons_iff (h s List.mem_cons_self)]
    exact .inl (Option.isSome_iff_ne_none.1 (hhead s rfl))

theorem Unanchored.head_segments (h : Unanchored path) (hne : path ≠ []) :
    ∃ s ss, segments path = s :: ss ∧ (component? s).isSome := by
  obtain ⟨s, ss, hsegments⟩ : ∃ s ss, segments path = s :: ss :=
    List.exists_cons_of_ne_nil (Text.parts_ne_nil '/' path)
  have hs : '/' ∉ s := by
    have hmem : s ∈ segments path := by
      rw [hsegments]
      exact List.mem_cons_self
    exact Text.not_mem_of_mem_parts hmem
  have hpath : joined (s :: ss) = path := by
    rw [← hsegments]
    exact joined_segments path
  rw [← hpath, unanchored_joined_cons_iff hs] at h
  rcases h with h | ⟨rfl, rfl⟩
  · exact ⟨s, ss, hsegments, Option.isSome_iff_ne_none.2 h⟩
  · exact absurd hpath.symm hne

theorem components_eq_nil_iff : components path = [] ↔ path = [] := by
  constructor
  · intro h
    by_contra hne
    have hpath : Unanchored path := by
      rw [unanchored_iff, h]
      simp
    obtain ⟨s, ss, hsegments, hs⟩ := hpath.head_segments hne
    obtain ⟨c, hc⟩ := Option.isSome_iff_exists.1 hs
    rw [hpath.components_eq, hsegments, List.filterMap_cons_some hc] at h
    cases h
  · rintro rfl
    rfl

theorem components_under (hpath : path.head? ≠ some '/') (hroot : root ≠ []) :
    components (under root path) = components root ++ (segments path).filterMap component? := by
  rw [under, if_neg hpath]
  split
  · next h => exact absurd (List.getLast?_eq_none_iff.1 h) hroot
  · next h =>
    -- The separator at the end of the root is the one between root and path.
    obtain ⟨init, rfl⟩ := List.getLast?_eq_some_iff.1 h
    rw [List.append_assoc, List.singleton_append]
    cases init with
    | nil => rfl
    | cons c cs =>
      rw [components_append (List.cons_ne_nil _ _), components_append (List.cons_ne_nil _ _)]
      simp [segments, Text.parts, component?]
  · next h => exact components_append hroot path

theorem Unanchored.head?_ne (h : Unanchored path) : path.head? ≠ some '/' := by
  rw [Ne, head?_eq_slash_iff]
  intro hhead
  exact absurd rfl (unanchored_iff.1 h .root hhead).1

theorem Unanchored.components_under (h : Unanchored path) (root : List Char) :
    components (under root path) = components root ++ components path := by
  by_cases hroot : root = []
  · subst hroot
    simp [under, show components [] = [] from rfl]
  · rw [Path.components_under h.head?_ne hroot, h.components_eq]

theorem slash_not_mem_of_mem_segments (h : s ∈ segments path) : '/' ∉ s :=
  Text.not_mem_of_mem_parts h

theorem joined_of_stripSegments? (h : stripSegments? cs (segments path) = some rs) :
    Unanchored (joined rs) ∧
      (segments path).filterMap component? = cs ++ components (joined rs) := by
  obtain ⟨ts, hts, rfl, heq⟩ := eq_trimmed_of_stripSegments? h
  have hslash : ∀ s ∈ trimmed ts, '/' ∉ s := fun s hs =>
    slash_not_mem_of_mem_segments (hts (trimmed_subset ts hs))
  have hjoined := unanchored_joined hslash fun s hs => isSome_component?_head_trimmed hs
  refine ⟨hjoined, ?_⟩
  rw [heq, hjoined.components_eq, filterMap_segments_joined hslash, filterMap_trimmed]

theorem strip?_nil (path : List Char) :
    strip? [] path = some (anchorText (anchored path).1 ++
      joined (trimmedRight (segments (anchored path).2))) := rfl

theorem strip?_cons (h : components base = c :: cs) (path : List Char) :
    strip? base path =
      match (anchored path).1 with
      | some a =>
        if a = c then (stripSegments? cs (segments (anchored path).2)).map joined else none
      | none => (stripSegments? (c :: cs) (segments (anchored path).2)).map joined := by
  unfold strip?
  simp only [h]
  cases (anchored path).1 <;> rfl

/-- A base can be taken off exactly those paths that begin with its components. -/
theorem isSome_strip?_iff : (strip? base path).isSome ↔ components base <+: components path := by
  cases hbase : components base with
  | nil =>
    cases components_eq_nil_iff.1 hbase
    simp [strip?_nil]
  | cons c cs =>
    rw [strip?_cons hbase, components]
    cases hanchor : (anchored path).1 with
    | none => simp [isSome_stripSegments?]
    | some a =>
      rw [Option.toList_some, List.singleton_append, List.cons_prefix_cons,
        ← isSome_stripSegments?]
      by_cases ha : a = c
      · simp [ha]
      · simp [ha, Ne.symm ha]

theorem components_of_strip? (h : strip? base path = some rest) (hbase : base ≠ []) :
    Unanchored rest ∧ components path = components base ++ components rest := by
  obtain ⟨c, cs, hcs⟩ := List.exists_cons_of_ne_nil (mt components_eq_nil_iff.1 hbase)
  rw [strip?_cons hcs] at h
  rw [hcs, components]
  cases hanchor : (anchored path).1 with
  | none =>
    simp only [hanchor] at h
    obtain ⟨rs, hrs, rfl⟩ := Option.map_eq_some_iff.1 h
    obtain ⟨hrest, heq⟩ := joined_of_stripSegments? hrs
    exact ⟨hrest, heq⟩
  | some a =>
    simp only [hanchor] at h
    split at h
    · next ha =>
      obtain ⟨rs, hrs, rfl⟩ := Option.map_eq_some_iff.1 h
      obtain ⟨hrest, heq⟩ := joined_of_stripSegments? hrs
      refine ⟨hrest, ?_⟩
      rw [heq, ha]
      rfl
    · cases h

theorem filterMap_segments_trimmedRight (path : List Char) :
    (segments (joined (trimmedRight (segments path)))).filterMap component? =
      (segments path).filterMap component? := by
  rw [filterMap_segments_joined fun s hs =>
    slash_not_mem_of_mem_segments ((trimmedRight_isPrefix _).subset hs), filterMap_trimmedRight]

theorem components_current (h : path = [] ∨ path.head? = some '/') :
    components ('.' :: path) = .current :: (segments path).filterMap component? := by
  rcases h with rfl | h
  · rfl
  · obtain ⟨cs, rfl⟩ := List.head?_eq_some_iff.1 h
    rfl

theorem joined_trimmedRight_slash (path : List Char) :
    joined (trimmedRight (segments ('/' :: path))) = [] ∨
      (joined (trimmedRight (segments ('/' :: path)))).head? = some '/' := by
  have hfront : trimmedRight (segments ('/' :: path)) <+: [] :: segments path :=
    trimmedRight_isPrefix _
  rcases hss : trimmedRight (segments ('/' :: path)) with _ | ⟨s, _ | ⟨t, ts⟩⟩
  · exact .inl rfl
  · rw [hss, List.cons_prefix_cons] at hfront
    exact .inl hfront.1
  · rw [hss, List.cons_prefix_cons] at hfront
    exact .inr (by rw [hfront.1]; rfl)

theorem Unanchored.trimmedRight (h : Unanchored path) :
    Unanchored (joined (trimmedRight (segments path))) := by
  by_cases hne : path = []
  · subst hne
    rfl
  obtain ⟨s, ss, hsegments, hs⟩ := h.head_segments hne
  refine unanchored_joined (fun t ht =>
    slash_not_mem_of_mem_segments ((trimmedRight_isPrefix _).subset ht)) fun t ht => ?_
  have hhead := mem_head?_of_trimmedRight ht
  rw [hsegments, List.head?_cons, Option.mem_some] at hhead
  rwa [← hhead]

theorem components_of_strip?_nil (h : strip? [] path = some rest) :
    components rest = components path := by
  rw [strip?_nil, Option.some.injEq] at h
  subst h
  fun_cases anchored path with
  | case1 cs =>
    exact congrArg (Component.root :: ·) (filterMap_segments_trimmedRight cs)
  | case2 => rfl
  | case3 cs =>
    exact (components_current (joined_trimmedRight_slash cs)).trans
      (congrArg (Component.current :: ·) (filterMap_segments_trimmedRight ('/' :: cs)))
  | case4 _ hslash hdot hcurrent =>
    have hpath : Unanchored path := unanchored_of_ne hslash hdot hcurrent
    exact hpath.trimmedRight.components_eq.trans
      ((filterMap_segments_trimmedRight path).trans hpath.components_eq.symm)

end TypeGuard.Path
