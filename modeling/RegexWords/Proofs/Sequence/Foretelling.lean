import RegexWords.Proofs.Sequence.FirstError

namespace RegexWords

variable {α β ε : Type}

/-- What stands before the first error of a list also begins the other list, and without an error
the lists are the same. -/
inductive Foretells : List (Except ε α) → List (Except ε α) → Prop
  | nil : Foretells [] []
  | ok {a : α} {as bs : List (Except ε α)} :
      Foretells as bs → Foretells (.ok a :: as) (.ok a :: bs)
  | error {e : ε} {as bs : List (Except ε α)} : Foretells (.error e :: as) bs

theorem roundRobin_eq_append {lists : List (List (Except ε α))} {x : (ℕ × ℕ) × ε}
    (hx : firstError? lists = some x) :
    ∃ cs, roundRobin lists =
      ((placed lists).filter fun y ↦ place y.1.1 y.1.2 < place x.1.1 x.1.2).map Prod.snd ++
        .error x.2 :: cs := by
  obtain ⟨before, y, after, hplaced, hy, -⟩ := List.findSome?_eq_some_iff.1 hx
  obtain rfl := errorAt?_eq_some.1 hy
  have hsorted := pairwise_placed lists
  rw [hplaced, List.pairwise_append, List.pairwise_cons] at hsorted
  obtain ⟨-, ⟨hafter, -⟩, hbefore⟩ := hsorted
  refine ⟨after.map Prod.snd, ?_⟩
  have hleft : before.filter (fun y ↦ place y.1.1 y.1.2 < place x.1.1 x.1.2) = before := by
    apply List.filter_eq_self.2
    intro z hz
    exact decide_eq_true (hbefore z hz _ List.mem_cons_self)
  have hright : after.filter (fun y ↦ place y.1.1 y.1.2 < place x.1.1 x.1.2) = [] := by
    apply List.filter_eq_nil_iff.2
    intro z hz
    simpa using (hafter z hz).le
  rw [roundRobin, hplaced, List.filter_append, hleft, List.filter_cons_of_neg (by simp), hright]
  simp

namespace Foretells

variable {as bs : List (Except ε α)}

theorem refl (as : List (Except ε α)) : Foretells as as := by
  induction as with
  | nil => exact .nil
  | cons a as ih =>
    cases a with
    | ok a => exact .ok ih
    | error e => exact .error

theorem append_error (as : List (Except ε α)) (e : ε) (cs bs : List (Except ε α)) :
    Foretells (as ++ .error e :: cs) (as ++ bs) := by
  induction as with
  | nil => exact .error
  | cons a as ih =>
    cases a with
    | ok a => exact .ok ih
    | error e => exact .error

theorem map (f : α → β) (h : Foretells as bs) :
    Foretells (as.map (Except.map f)) (bs.map (Except.map f)) := by
  induction h with
  | nil => exact .nil
  | ok _ ih => exact .ok ih
  | error => exact .error

theorem upToError (h : Foretells as bs) : Foretells (upToError as) (upToError bs) := by
  induction h with
  | nil => exact .nil
  | ok _ ih => exact .ok ih
  | error => exact .error

theorem eq_of_notMem (h : Foretells as bs) (has : ∀ e, .error e ∉ as) : as = bs := by
  induction h with
  | nil => rfl
  | ok _ ih => rw [ih fun e he ↦ has e (List.mem_cons_of_mem _ he)]
  | error => exact absurd List.mem_cons_self (has _)

theorem getElem? {j : ℕ} (h : Foretells as bs) (has : ∀ k ≤ j, ∀ e, as[k]? ≠ some (.error e)) :
    bs[j]? = as[j]? := by
  induction h generalizing j with
  | nil => rfl
  | ok _ ih =>
    cases j with
    | zero => rfl
    | succ j => exact ih fun k hk ↦ has (k + 1) (by omega)
  | error => exact absurd rfl (has 0 (Nat.zero_le j) _)

section Lists

variable {lists lists' : List (List (Except ε α))} {x : (ℕ × ℕ) × ε}
  (h : List.Forall₂ Foretells lists lists')
include h

theorem eq_of_forall₂ (hnone : firstError? lists = none) : lists = lists' := by
  have hok : ∀ l ∈ lists, ∀ e, .error e ∉ l := by
    intro l hl e he
    obtain ⟨x, hx⟩ := exists_firstError?_iff.2 ⟨l, hl, e, he⟩
    rw [hnone] at hx
    cases hx
  clear hnone
  induction h with
  | nil => rfl
  | cons hl _ ih =>
    obtain ⟨hfirst, hrest⟩ := List.forall_mem_cons.1 hok
    rw [hl.eq_of_notMem hfirst, ih hrest]

theorem itemAt_eq {j i : ℕ} (hlt : ∀ x ∈ firstError? lists, place j i < place x.1.1 x.1.2) :
    itemAt lists' j i = itemAt lists j i := by
  obtain ⟨hlen, hall⟩ := forall₂_iff_getElem?.1 h
  by_cases hi : i < lists.length
  · have hl : lists[i]? = some lists[i] := List.getElem?_eq_getElem hi
    have hl' : lists'[i]? = some lists'[i] := List.getElem?_eq_getElem (hlen ▸ hi)
    rw [itemAt, itemAt, hl, hl', Option.bind_some, Option.bind_some]
    apply (hall i _ _ hl hl').getElem?
    intro k hk e he
    obtain ⟨x, hx, hle⟩ := exists_firstError?_le (itemAt_eq_some.2 ⟨_, hl, he⟩)
    have hkj : place k i ≤ place j i := place_le_place.2 (by omega)
    exact absurd (hle.trans hkj) (hlt x hx).not_ge
  · rw [itemAt, itemAt, List.getElem?_eq_none (by omega), List.getElem?_eq_none (by omega)]

theorem place_le_of_firstError? (hx : firstError? lists = some x) {y : (ℕ × ℕ) × ε}
    (hy : firstError? lists' = some y) : place x.1.1 x.1.2 ≤ place y.1.1 y.1.2 := by
  by_contra hlt
  have hitem : itemAt lists' y.1.1 y.1.2 = itemAt lists y.1.1 y.1.2 := by
    apply itemAt_eq h
    intro z hz
    obtain rfl := Option.some.inj (hx.symm.trans hz)
    exact not_le.1 hlt
  have hfirst := isFirstError_firstError? lists'
  rw [hy] at hfirst
  obtain ⟨z, hz, hle⟩ := exists_firstError?_le (hitem.symm.trans hfirst.2.1)
  obtain rfl := Option.some.inj (hx.symm.trans hz)
  exact hlt hle

theorem filter_placed_eq (hx : firstError? lists = some x) :
    ((placed lists').filter fun y ↦ place y.1.1 y.1.2 < place x.1.1 x.1.2) =
      (placed lists).filter fun y ↦ place y.1.1 y.1.2 < place x.1.1 x.1.2 := by
  refine List.Pairwise.eq_of_mem_iff ((pairwise_placed _).filter _)
    ((pairwise_placed _).filter _) ?_
  intro ⟨⟨j, i⟩, a⟩
  rw [List.mem_filter, List.mem_filter, mem_placed, mem_placed, decide_eq_true_eq]
  apply and_congr_left
  intro hlt
  rw [itemAt_eq h]
  intro y hy
  obtain rfl := Option.some.inj (hx.symm.trans hy)
  exact hlt

theorem filter_vectorsBeforeError_eq (hx : firstError? lists = some x) :
    ((vectorsBeforeError lists').filter fun v ↦
        ∀ p ∈ v.zipIdx, place p.1 p.2 < place x.1.1 x.1.2) = vectorsBeforeError lists := by
  refine List.Pairwise.eq_of_mem_iff (((pairwise_diagonalOrder _).filter _).filter _)
    ((pairwise_diagonalOrder _).filter _) ?_
  intro v
  rw [List.mem_filter, mem_vectorsBeforeError, mem_vectorsBeforeError, Diagonal.Listed,
    Diagonal.Listed, h.length_eq, decide_eq_true_eq, and_assoc]
  apply and_congr_right
  intro _
  constructor
  · intro hv i j hj
    obtain ⟨hlisted, hbelow⟩ := hv
    have hlt : Diagonal.Before (firstError? lists) j i := by
      intro y hy
      obtain rfl := Option.some.inj (hx.symm.trans hy)
      exact hbelow (j, i) (List.mem_zipIdx_iff_getElem?.2 hj)
    exact ⟨itemAt_eq h hlt ▸ (hlisted i j hj).1, hlt⟩
  · intro hlisted
    refine ⟨fun i j hj ↦ ?_, fun p hp ↦ ?_⟩
    · obtain ⟨hitem, hlt⟩ := hlisted i j hj
      refine ⟨(itemAt_eq h hlt).symm ▸ hitem, fun y hy ↦ ?_⟩
      exact (hlt x hx).trans_le (place_le_of_firstError? h hx hy)
    · exact (hlisted p.2 p.1 (List.mem_zipIdx_iff_getElem?.1 hp)).2 x hx

theorem vectorsBeforeError_isPrefix (hx : firstError? lists = some x) :
    vectorsBeforeError lists <+: vectorsBeforeError lists' := by
  rw [← filter_vectorsBeforeError_eq h hx]
  apply filter_isPrefix ((pairwise_diagonalOrder _).filter _)
  intro v w hvw hw
  rw [decide_eq_true_eq] at hw ⊢
  intro p hp
  exact place_lt_of_key_lt hvw (fun i j hj ↦ hw (j, i) (List.mem_zipIdx_iff_getElem?.2 hj)) p.2 p.1
    (List.mem_zipIdx_iff_getElem?.1 hp)

theorem pick_eq {v : List ℕ} (hv : v ∈ vectorsBeforeError lists)
    (hv' : v ∈ vectorsBeforeError lists') : pick lists' v = pick lists v := by
  refine (isTuple_pick_of_mem hv').unique ⟨(isTuple_pick_of_mem hv).1, fun i j hj ↦ ?_⟩
  have hlt := ((mem_vectorsBeforeError.1 hv).2 i j hj).2
  exact ((isTuple_pick_of_mem hv).2 i j hj).trans (itemAt_eq h hlt).symm

theorem roundRobin : Foretells (roundRobin lists) (roundRobin lists') := by
  cases hx : firstError? lists with
  | none =>
    rw [eq_of_forall₂ h hx]
    exact refl _
  | some x =>
    obtain ⟨cs, hcs⟩ := roundRobin_eq_append hx
    obtain ⟨bs, hbs⟩ : ((placed lists).filter fun y ↦
        place y.1.1 y.1.2 < place x.1.1 x.1.2).map Prod.snd <+: RegexWords.roundRobin lists' := by
      rw [← filter_placed_eq h hx]
      apply List.IsPrefix.map
      apply filter_isPrefix (pairwise_placed _)
      intro y z hyz hz
      rw [decide_eq_true_eq] at hz ⊢
      exact hyz.trans hz
    rw [hcs, ← hbs]
    exact append_error _ _ _ _

theorem product : Foretells (product lists) (product lists') := by
  cases hx : firstError? lists with
  | none =>
    rw [eq_of_forall₂ h hx]
    exact refl _
  | some x =>
    obtain ⟨vs, hvs⟩ := vectorsBeforeError_isPrefix h hx
    have hpick : (vectorsBeforeError lists).map (fun v ↦ (pick lists' v).mapM id) =
        (vectorsBeforeError lists).map fun v ↦ (pick lists v).mapM id := by
      apply List.map_congr_left
      intro v hv
      rw [pick_eq h hv (hvs ▸ List.mem_append_left vs hv)]
    rw [RegexWords.product, RegexWords.product, hx, ← hvs, List.map_append, hpick,
      List.append_assoc]
    exact append_error _ _ _ _

end Lists

end Foretells

end RegexWords
