import Mathlib.Algebra.BigOperators.Ring.List
import Mathlib.Algebra.Ring.Nat
import RegexWords.Proofs.Sequence.DiagonalLists

namespace RegexWords

variable {α β : Type}

/-- The members of a sorted list that satisfy a condition come first when smaller members satisfy it
too. -/
theorem filter_isPrefix {R : α → α → Prop} {p : α → Bool} {as : List α} (h : as.Pairwise R)
    (hp : ∀ a b, R a b → p b → p a) : as.filter p <+: as := by
  induction as with
  | nil => exact List.prefix_refl _
  | cons a as ih =>
    obtain ⟨ha, has⟩ := List.pairwise_cons.1 h
    by_cases hpa : p a
    · rw [List.filter_cons_of_pos hpa]
      exact List.cons_prefix_cons.2 ⟨rfl, ih has⟩
    · have hnil : as.filter p = [] :=
        List.filter_eq_nil_iff.2 fun b hb hpb ↦ hpa (hp a b (ha b hb) hpb)
      rw [List.filter_cons_of_neg hpa, hnil]
      exact List.nil_prefix

variable {lists : List (List α)}

theorem itemAt_take {k j i : ℕ} {a : α} :
    itemAt (lists.map (List.take k)) j i = some a ↔ itemAt lists j i = some a ∧ j < k := by
  simp only [itemAt, List.getElem?_map]
  cases lists[i]? with
  | none => simp
  | some l => simp [List.getElem?_take, and_comm]

theorem placed_take (k : ℕ) :
    placed (lists.map (List.take k)) = (placed lists).filter fun x ↦ x.1.1 < k := by
  refine List.Pairwise.eq_of_mem_iff (pairwise_placed _) ((pairwise_placed lists).filter _) ?_
  rintro ⟨⟨j, i⟩, a⟩
  rw [mem_placed, List.mem_filter, mem_placed, itemAt_take, decide_eq_true_eq]

theorem roundRobin_take_isPrefix (k : ℕ) :
    roundRobin (lists.map (List.take k)) <+: roundRobin lists := by
  rw [roundRobin, placed_take]
  refine (filter_isPrefix (pairwise_placed lists) fun x y hxy hy ↦ ?_).map Prod.snd
  rw [decide_eq_true_eq] at hy ⊢
  rw [place_lt_place] at hxy
  omega

def located (lists : List (List α)) : List ((ℕ × ℕ) × α) :=
  lists.zipIdx.flatMap fun l ↦ l.1.zipIdx.map fun x ↦ ((x.2, l.2), x.1)

theorem mem_located {j i : ℕ} {a : α} :
    ((j, i), a) ∈ located lists ↔ itemAt lists j i = some a := by
  simp only [located, List.mem_flatMap, List.mem_map, Prod.exists, Prod.mk.injEq,
    List.mem_zipIdx_iff_getElem?, itemAt_eq_some]
  constructor
  · rintro ⟨l, i', hl, a', j', ha, ⟨rfl, rfl⟩, rfl⟩
    exact ⟨l, hl, ha⟩
  · rintro ⟨l, hl, ha⟩
    exact ⟨l, i, hl, a, j, ha, ⟨rfl, rfl⟩, rfl⟩

theorem nodup_map_snd_zipIdx (as : List α) : (as.zipIdx.map Prod.snd).Nodup := by
  rw [List.zipIdx_map_snd]
  exact List.nodup_range'

theorem nodup_located (lists : List (List α)) : (located lists).Nodup := by
  rw [located, List.nodup_flatMap]
  constructor
  · intro l _
    refine List.Nodup.of_map (fun y : (ℕ × ℕ) × α ↦ y.1.1) ?_
    rw [List.map_map]
    exact nodup_map_snd_zipIdx l.1
  · refine (List.pairwise_map.1 (nodup_map_snd_zipIdx lists)).imp fun hne x hx hy ↦ hne ?_
    obtain ⟨y, -, rfl⟩ := List.mem_map.1 hx
    obtain ⟨z, -, hz⟩ := List.mem_map.1 hy
    simp only [Prod.mk.injEq] at hz
    exact hz.1.2.symm

theorem roundRobin_perm_flatten (lists : List (List α)) :
    (roundRobin lists).Perm lists.flatten := by
  have hplaced : (placed lists).Nodup :=
    (pairwise_placed lists).imp fun hlt he ↦ by simp [he] at hlt
  have hperm : (placed lists).Perm (located lists) :=
    (List.perm_ext_iff_of_nodup hplaced (nodup_located lists)).2
      fun _ ↦ mem_placed.trans mem_located.symm
  have hrow (l : List α × ℕ) :
      (l.1.zipIdx.map fun x ↦ ((x.2, l.2), x.1)).map Prod.snd = l.1 := by
    rw [List.map_map]
    exact List.zipIdx_map_fst 0 l.1
  have hvalues : (located lists).map Prod.snd = lists.flatten := by
    rw [located, List.map_flatMap, List.flatMap_congr fun l _ ↦ hrow l, List.flatMap_def,
      List.zipIdx_map_fst]
  rw [← hvalues]
  exact hperm.map Prod.snd

theorem length_roundRobin (lists : List (List α)) :
    (roundRobin lists).length = (lists.map List.length).sum := by
  rw [(roundRobin_perm_flatten lists).length_eq, List.length_flatten]

theorem length_le_length_roundRobin {l : List α} (h : l ∈ lists) :
    l.length ≤ (roundRobin lists).length := by
  rw [(roundRobin_perm_flatten lists).length_eq]
  exact (List.sublist_flatten_of_mem h).length_le

theorem roundRobin_take_enough (k : ℕ) :
    k ≤ (roundRobin (lists.map (List.take k))).length ∨
      roundRobin (lists.map (List.take k)) = roundRobin lists := by
  by_cases h : ∃ l ∈ lists, k ≤ l.length
  · obtain ⟨l, hl, hk⟩ := h
    have hle := length_le_length_roundRobin (List.mem_map_of_mem (f := List.take k) hl)
    rw [List.length_take, min_eq_left hk] at hle
    exact .inl hle
  · push Not at h
    refine .inr (congrArg roundRobin ?_)
    exact (List.map_congr_left fun l hl ↦ List.take_of_length_le (h l hl).le).trans (List.map_id _)

theorem length_vectors (ranges : List (ℕ × ℕ)) :
    (Box.vectors ranges).length = (ranges.map fun r ↦ r.2 - r.1).prod := by
  induction ranges with
  | nil => rfl
  | cons r ranges ih =>
    rw [Box.vectors, List.length_flatMap, List.map_cons, List.prod_cons, ← ih]
    simp only [List.length_map, List.map_const', List.sum_replicate_nat, List.length_range']

theorem length_tuples (lists : List (List α)) :
    (tuples lists).length = (lists.map List.length).prod := by
  rw [(tuples_perm_sections lists).length_eq]
  induction lists with
  | nil => rfl
  | cons l lists ih =>
    rw [List.sections, List.length_flatMap, List.map_cons, List.prod_cons, ← ih]
    simp only [List.length_map, List.map_const', List.sum_replicate_nat, mul_comm]

theorem pick_take {k : ℕ} {v : List ℕ} (h : ∀ j ∈ v, j < k) :
    pick (lists.map (List.take k)) v = pick lists v := by
  rw [pick, List.zip_map_left, List.filterMap_map]
  apply List.filterMap_congr
  intro x hx
  exact List.getElem?_take_of_lt (h x.2 (List.of_mem_zip hx).2)

theorem diagonalOrder_take (k : ℕ) :
    diagonalOrder ((lists.map (List.take k)).map List.length) =
      (diagonalOrder (lists.map List.length)).filter fun v ↦ ∀ j ∈ v, j < k := by
  refine List.Pairwise.eq_of_mem_iff (pairwise_diagonalOrder _)
    ((pairwise_diagonalOrder _).filter _) fun v ↦ ?_
  have hlen : (lists.map (List.take k)).map List.length =
      (lists.map List.length).map (min k) := by
    simp
  rw [List.mem_filter, mem_diagonalOrder, mem_diagonalOrder, hlen, List.forall₂_map_right_iff,
    decide_eq_true_eq, and_comm, ← List.forall₂_and_left]
  simp only [lt_min_iff]

theorem lt_of_key_lt {k : ℕ} {v w : List ℕ} (h : key v < key w) (hw : ∀ j ∈ w, j < k) :
    ∀ j ∈ v, j < k := by
  intro j hj
  obtain ⟨i, hi⟩ := List.mem_iff_getElem?.1 hj
  have hbelow : ∀ l m, w[l]? = some m → place m l < place k 0 :=
    fun l m hm ↦ place_lt_place.2 (.inl (hw m (List.mem_of_getElem? hm)))
  have hplace := place_lt_of_key_lt h hbelow i j hi
  rw [place_lt_place] at hplace
  omega

theorem tuples_take_isPrefix (k : ℕ) : tuples (lists.map (List.take k)) <+: tuples lists := by
  have hpick : tuples (lists.map (List.take k)) =
      ((diagonalOrder (lists.map List.length)).filter fun v ↦ ∀ j ∈ v, j < k).map
        (pick lists) := by
    rw [tuples, diagonalOrder_take]
    refine List.map_congr_left fun v hv ↦ pick_take ?_
    simpa using (List.mem_filter.1 hv).2
  rw [hpick]
  refine (filter_isPrefix (pairwise_diagonalOrder _) fun v w hvw hw ↦ ?_).map (pick lists)
  simp only [decide_eq_true_eq] at hw ⊢
  exact lt_of_key_lt hvw hw

theorem length_le_length_tuples {l : List α} (h : l ∈ lists) (hne : ∀ l ∈ lists, l ≠ []) :
    l.length ≤ (tuples lists).length := by
  rw [length_tuples]
  have hprod : 0 < (lists.map List.length).prod := by
    refine Nat.pos_of_ne_zero (List.prod_ne_zero fun hm ↦ ?_)
    obtain ⟨m, hm, hzero⟩ := List.mem_map.1 hm
    exact hne m hm (List.length_eq_zero_iff.1 hzero)
  exact Nat.le_of_dvd hprod (List.dvd_prod (List.mem_map_of_mem h))

theorem tuples_eq_nil_of_nil_mem (h : [] ∈ lists) : tuples lists = [] := by
  rw [← List.length_eq_zero_iff, length_tuples]
  exact List.prod_eq_zero (List.mem_map.2 ⟨[], h, List.length_nil⟩)

theorem tuples_take_enough (k : ℕ) :
    k ≤ (tuples (lists.map (List.take k))).length ∨
      tuples (lists.map (List.take k)) = tuples lists := by
  rcases Nat.eq_zero_or_pos k with rfl | hk
  · exact .inl (Nat.zero_le _)
  by_cases hnil : [] ∈ lists
  · refine .inr ?_
    rw [tuples_eq_nil_of_nil_mem hnil, tuples_eq_nil_of_nil_mem]
    exact List.mem_map.2 ⟨[], hnil, List.take_nil⟩
  by_cases h : ∃ l ∈ lists, k ≤ l.length
  · obtain ⟨l, hl, hkl⟩ := h
    have hne : ∀ l ∈ lists.map (List.take k), l ≠ [] := by
      intro m hm
      obtain ⟨l', hl', rfl⟩ := List.mem_map.1 hm
      rw [Ne, List.take_eq_nil_iff, not_or]
      exact ⟨hk.ne', fun he ↦ hnil (he ▸ hl')⟩
    have hle := length_le_length_tuples (List.mem_map_of_mem (f := List.take k) hl) hne
    rw [List.length_take, min_eq_left hkl] at hle
    exact .inl hle
  · push Not at h
    refine .inr (congrArg tuples ?_)
    exact (List.map_congr_left fun l hl ↦ List.take_of_length_le (h l hl).le).trans (List.map_id _)

end RegexWords
