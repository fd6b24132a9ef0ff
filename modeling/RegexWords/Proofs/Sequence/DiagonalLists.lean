import Mathlib.Data.List.Sections
import Mathlib.Data.Multiset.Bind
import RegexWords.Proofs.Sequence.DiagonalTuples

namespace RegexWords

variable {σ α β ε : Type}

def errorAt? (x : (ℕ × ℕ) × Except ε α) : Option ((ℕ × ℕ) × ε) :=
  match x.2 with
  | .ok _ => none
  | .error e => some (x.1, e)

def firstError? (lists : List (List (Except ε α))) : Option ((ℕ × ℕ) × ε) :=
  (placed lists).findSome? errorAt?

instance (stop : Option ((ℕ × ℕ) × ε)) (j i : ℕ) : Decidable (Diagonal.Before stop j i) :=
  inferInstanceAs (Decidable (∀ x ∈ stop, place j i < place x.1.1 x.1.2))

def vectorsBeforeError (lists : List (List (Except ε α))) : List (List ℕ) :=
  (diagonalOrder (lists.map List.length)).filter fun v ↦
    ∀ p ∈ v.zipIdx, Diagonal.Before (firstError? lists) p.1 p.2

/-- The tuples of the items of lists in the diagonal order, up to the first error. -/
def product (lists : List (List (Except ε α))) : List (Except ε (List α)) :=
  (vectorsBeforeError lists).map (fun v ↦ (pick lists v).mapM id) ++
    (firstError? lists).toList.map fun x ↦ .error x.2

def tuples (lists : List (List α)) : List (List α) :=
  (diagonalOrder (lists.map List.length)).map (pick lists)

theorem errorAt?_eq_some {x : (ℕ × ℕ) × Except ε α} {y : (ℕ × ℕ) × ε} :
    errorAt? x = some y ↔ x = (y.1, .error y.2) := by
  obtain ⟨p, a | e⟩ := x
  · simp [errorAt?, Prod.ext_iff, eq_comm]
  · simp [errorAt?]

theorem isFirstError_firstError? (lists : List (List (Except ε α))) :
    Diagonal.IsFirstError (fun i j ↦ itemAt lists j i) lists.length (firstError? lists) := by
  cases h : firstError? lists with
  | none =>
    intro i _ j e he
    have hn := List.findSome?_eq_none_iff.1 h _ (mem_placed.2 he)
    cases hn
  | some y =>
    obtain ⟨before, x, after, hx, hy, hb⟩ := List.findSome?_eq_some_iff.1 h
    obtain rfl := errorAt?_eq_some.1 hy
    have hmem : (y.1, .error y.2) ∈ placed lists := by simp [hx]
    have hy : itemAt lists y.1.1 y.1.2 = some (.error y.2) := mem_placed.1 hmem
    obtain ⟨l, hl, -⟩ := itemAt_eq_some.1 hy
    refine ⟨(List.getElem?_eq_some_iff.1 hl).1, hy, fun i _ j e he ↦ ?_⟩
    have hsorted := pairwise_placed lists
    have he := mem_placed.2 he
    rw [hx] at hsorted he
    rcases List.mem_append.1 he with he | he
    · cases hb _ he
    · rcases List.mem_cons.1 he with he | he
      · rw [← (Prod.ext_iff.1 he).1]
      · exact ((List.pairwise_cons.1 (List.pairwise_append.1 hsorted).2.1).1 _ he).le

theorem Diagonal.IsFirstError.unique {q : ℕ → ℕ → Option (Except ε α)} {n : ℕ}
    {stop stop' : Option ((ℕ × ℕ) × ε)} (h : Diagonal.IsFirstError q n stop)
    (h' : Diagonal.IsFirstError q n stop') : stop = stop' := by
  cases stop with
  | none =>
    cases stop' with
    | none => rfl
    | some y => exact absurd h'.2.1 (h _ h'.1 _ _)
  | some x =>
    cases stop' with
    | none => exact absurd h.2.1 (h' _ h.1 _ _)
    | some y =>
      obtain ⟨hx, hxe, hxle⟩ := h
      obtain ⟨hy, hye, hyle⟩ := h'
      obtain ⟨hj, hi⟩ := place_inj.1 (le_antisymm (hxle _ hy _ _ hye) (hyle _ hx _ _ hxe))
      obtain ⟨⟨j, i⟩, e⟩ := x
      obtain ⟨⟨l, k⟩, e'⟩ := y
      obtain rfl : j = l := hj
      obtain rfl : i = k := hi
      rw [hxe] at hye
      cases hye
      rfl

theorem mapM_id_map_ok (as : List α) : (as.map (.ok : α → Except ε α)).mapM id = .ok as := by
  induction as with
  | nil => rfl
  | cons a as ih =>
    rw [List.map_cons, List.mapM_cons, ih]
    rfl

theorem mem_vectorsBeforeError {lists : List (List (Except ε α))} {v : List ℕ} :
    v ∈ vectorsBeforeError lists ↔
      Diagonal.Listed (fun i j ↦ itemAt lists j i) lists.length (firstError? lists) v := by
  simp only [vectorsBeforeError, List.mem_filter, mem_diagonalOrder, forall₂_iff_getElem?,
    List.length_map, decide_eq_true_eq, Diagonal.Listed, and_assoc]
  apply and_congr_right
  intro hlen
  constructor
  · rintro ⟨hlt, hbefore⟩ i j hj
    have hi : i < lists.length := hlen ▸ (List.getElem?_eq_some_iff.1 hj).1
    have hji := hlt i j lists[i].length hj (by simp [hi])
    exact ⟨by simp [itemAt, hi, hji], hbefore (j, i) (List.mem_zipIdx_iff_getElem?.2 hj)⟩
  · intro h
    refine ⟨fun i j m hj hm ↦ ?_, fun p hp ↦ (h p.2 p.1 (List.mem_zipIdx_iff_getElem?.1 hp)).2⟩
    obtain ⟨l, hl, rfl⟩ := Option.map_eq_some_iff.1 (List.getElem?_map ▸ hm)
    simpa [itemAt, hl] using (h i j hj).1

theorem eq_map_ok_of_mapM_id {xs : List (Except ε α)} {as : List α} (h : xs.mapM id = .ok as) :
    xs = as.map .ok := by
  induction xs generalizing as with
  | nil => cases h; rfl
  | cons x xs ih =>
    rw [List.mapM_cons] at h
    cases x with
    | error e => cases h
    | ok a =>
      cases hxs : xs.mapM id with
      | error e => rw [hxs] at h; cases h
      | ok bs =>
        rw [hxs] at h
        cases h
        rw [ih hxs, List.map_cons]

theorem mapM_pick {lists : List (List (Except ε α))} {v : List ℕ} {as : List α}
    (hlen : v.length = lists.length)
    (h : IsTuple (fun i j ↦ (itemAt lists j i).bind Except.toOption) v as) :
    (pick lists v).mapM id = .ok as := by
  have hitem : ∀ i j, v[i]? = some j → ∃ a, as[i]? = some a ∧ itemAt lists j i = some (.ok a) := by
    intro i j hj
    have hi : i < as.length := h.1 ▸ (List.getElem?_eq_some_iff.1 hj).1
    refine ⟨as[i], List.getElem?_eq_getElem hi, ?_⟩
    have ha := (h.2 i j hj).symm.trans (List.getElem?_eq_getElem hi)
    obtain ⟨x, hx, hxa⟩ := Option.bind_eq_some_iff.1 ha
    cases x with
    | error e => cases hxa
    | ok a => cases hxa; exact hx
  have hbox : List.Forall₂ (fun j l ↦ j < l.length) v lists := by
    refine forall₂_iff_getElem?.2 ⟨hlen, fun i j l hj hl ↦ ?_⟩
    obtain ⟨a, -, ha⟩ := hitem i j hj
    rw [itemAt, hl, Option.bind_some] at ha
    exact (List.getElem?_eq_some_iff.1 ha).1
  have hpick : pick lists v = as.map .ok := by
    refine (isTuple_pick hbox).unique ⟨by simp [h.1], fun i j hj ↦ ?_⟩
    obtain ⟨a, ha, hx⟩ := hitem i j hj
    rw [List.getElem?_map, ha, Option.map_some]
    exact hx.symm
  rw [hpick, mapM_id_map_ok]

theorem forall₂_pick {lists : List (List α)} {v : List ℕ}
    (h : List.Forall₂ (fun j l ↦ j < l.length) v lists) :
    List.Forall₂ (fun l a ↦ a ∈ l) lists (pick lists v) := by
  induction h with
  | nil => exact .nil
  | @cons j l v lists hj _ ih =>
    have hp : pick (l :: lists) (j :: v) = l[j] :: pick lists v := by
      simp [pick, List.getElem?_eq_getElem hj]
    exact hp ▸ .cons (List.getElem_mem hj) ih

theorem forall₂_of_ok_mem_product {lists : List (List (Except ε α))} {as : List α}
    (h : .ok as ∈ product lists) : List.Forall₂ (fun l a ↦ .ok a ∈ l) lists as := by
  rcases List.mem_append.1 h with h | h
  · obtain ⟨v, hv, has⟩ := List.mem_map.1 h
    have hbox := mem_diagonalOrder.1 (List.mem_filter.1 hv).1
    rw [List.forall₂_map_right_iff] at hbox
    have hp := forall₂_pick hbox
    rw [eq_map_ok_of_mapM_id has, List.forall₂_map_right_iff] at hp
    exact hp
  · obtain ⟨x, -, hx⟩ := List.mem_map.1 h
    cases hx

theorem pick_map {f : α → β} (lists : List (List α)) (v : List ℕ) :
    pick (lists.map (List.map f)) v = (pick lists v).map f := by
  simp only [pick, List.zip_map_left, List.filterMap_map, List.map_filterMap]
  exact List.filterMap_congr fun p _ ↦ List.getElem?_map

theorem map_pick_cons (l : List α) (lists : List (List α)) (ranges : List (ℕ × ℕ)) :
    (Box.vectors ((0, l.length) :: ranges)).map (pick (l :: lists)) =
      l.flatMap fun a ↦ ((Box.vectors ranges).map (pick lists)).map (a :: ·) := by
  have hrow : (List.range l.length).map (fun j ↦
        (Box.vectors ranges).map fun v ↦ pick (l :: lists) (j :: v)) =
      l.map fun a ↦ (Box.vectors ranges).map fun v ↦ a :: pick lists v := by
    apply List.ext_getElem (by simp)
    intro j _ hj
    rw [List.length_map] at hj
    simp [pick, hj]
  simp only [Box.vectors, Nat.sub_zero, ← List.range_eq_range', List.map_flatMap, List.map_map,
    Function.comp_def]
  rw [List.flatMap_def, List.flatMap_def, hrow]

theorem flatMap_perm_sections (l : List α) (lists : List (List α)) :
    (l.flatMap fun a ↦ lists.sections.map (a :: ·)).Perm (l :: lists).sections := by
  have h := Multiset.bind_map_comm (l : Multiset α) (lists.sections : Multiset (List α))
    (f := fun a as ↦ a :: as)
  simpa [List.sections] using h

theorem map_pick_perm_sections (lists : List (List α)) :
    ((Box.vectors ((lists.map List.length).map (0, ·))).map (pick lists)).Perm
      lists.sections := by
  induction lists with
  | nil => rfl
  | cons l lists ih =>
    rw [List.map_cons, List.map_cons, map_pick_cons]
    exact (List.Perm.flatMap_left l fun a _ ↦ ih.map _).trans (flatMap_perm_sections l lists)

theorem tuples_perm_sections (lists : List (List α)) : (tuples lists).Perm lists.sections :=
  ((List.mergeSort_perm _ _).map _).trans (map_pick_perm_sections lists)

theorem tuples_nil : tuples ([] : List (List α)) = [[]] :=
  List.perm_singleton.1 (tuples_perm_sections [])

theorem mem_tuples {lists : List (List α)} {as : List α} :
    as ∈ tuples lists ↔ List.Forall₂ (· ∈ ·) as lists :=
  (tuples_perm_sections lists).mem_iff.trans List.mem_sections

theorem nodup_sections {lists : List (List α)} (h : ∀ l ∈ lists, l.Nodup) :
    lists.sections.Nodup := by
  induction lists with
  | nil => exact List.nodup_singleton _
  | cons l lists ih =>
    rw [List.forall_mem_cons] at h
    rw [List.sections, List.nodup_flatMap]
    constructor
    · intro as _
      exact h.1.map fun a b hab ↦ (List.cons_eq_cons.1 hab).1
    · refine (ih h.2).imp fun hne x hx hy ↦ ?_
      obtain ⟨a, -, rfl⟩ := List.mem_map.1 hx
      obtain ⟨b, -, hb⟩ := List.mem_map.1 hy
      exact hne (List.cons_eq_cons.1 hb).2.symm

theorem nodup_tuples {lists : List (List α)} (h : ∀ l ∈ lists, l.Nodup) : (tuples lists).Nodup :=
  (tuples_perm_sections lists).nodup_iff.2 (nodup_sections h)

theorem tuples_map (f : α → β) (lists : List (List α)) :
    tuples (lists.map (List.map f)) = (tuples lists).map (List.map f) := by
  have hlen : (lists.map (List.map f)).map List.length = lists.map List.length := by simp
  rw [tuples, tuples, hlen, List.map_map]
  exact List.map_congr_left fun v _ ↦ pick_map lists v

theorem product_map_ok (lists : List (List α)) :
    product (lists.map (List.map (.ok : α → Except ε α))) = (tuples lists).map .ok := by
  have hnone : firstError? (lists.map (List.map (.ok : α → Except ε α))) = none := by
    refine List.findSome?_eq_none_iff.2 fun x hx ↦ ?_
    obtain ⟨l, hl, ha⟩ := itemAt_eq_some.1 (mem_placed.1 hx)
    obtain ⟨l, -, rfl⟩ := Option.map_eq_some_iff.1 (List.getElem?_map ▸ hl)
    obtain ⟨a, -, ha⟩ := Option.map_eq_some_iff.1 (List.getElem?_map ▸ ha)
    simp [errorAt?, ← ha]
  have hsizes : (lists.map (List.map (.ok : α → Except ε α))).map List.length =
      lists.map List.length := by simp
  have hvectors : vectorsBeforeError (lists.map (List.map (.ok : α → Except ε α))) =
      diagonalOrder (lists.map List.length) := by
    rw [vectorsBeforeError, hnone, hsizes]
    exact List.filter_eq_self.2 fun v _ ↦ by simp [Diagonal.Before]
  simp only [product, hvectors, hnone, Option.toList_none, List.map_nil, List.append_nil, tuples,
    List.map_map, pick_map, mapM_id_map_ok, Function.comp_def]

namespace Diagonal

variable {next : σ → Step σ (Except ε α)}

theorem lists_step {factors : List σ} {lists : List (List (Except ε α))}
    (h : List.Forall₂ (Lists next) factors lists) :
    Lists (step (m := Id) next) (.ofFactors factors) (product lists) := by
  have hend : ∀ i < factors.length, itemAt lists ((lists.map List.length).foldr max 0) i = none := by
    intro i hi
    have hl : lists[i]? = some (lists.get ⟨i, h.length_eq ▸ hi⟩) := List.getElem?_eq_getElem _
    rw [itemAt, hl, Option.bind_some, List.getElem?_eq_none_iff]
    exact le_foldr_max (List.mem_map_of_mem (List.getElem_mem _))
  obtain ⟨E, stop, hf, hs, hm, ht, hl⟩ := exists_lists (gives_itemAt h) (.inl hend)
  rw [h.length_eq] at hf hm
  obtain rfl := hf.unique (isFirstError_firstError? lists)
  have hvectors : E.map Prod.fst = vectorsBeforeError lists := by
    refine List.Pairwise.eq_of_mem_iff hs ?_ fun v ↦ (hm v).trans mem_vectorsBeforeError.symm
    exact (pairwise_diagonalOrder _).filter _
  have htuples : E.map (fun x ↦ .ok x.2) =
      (vectorsBeforeError lists).map fun v ↦ (pick lists v).mapM id := by
    rw [← hvectors, List.map_map]
    refine List.map_congr_left fun x hx ↦ (mapM_pick ?_ (ht x hx)).symm
    exact ((hm x.1).1 (List.mem_map_of_mem hx)).1
  rwa [product, ← htuples]

end Diagonal

end RegexWords
