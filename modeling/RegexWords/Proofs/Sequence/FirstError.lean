import RegexWords.Proofs.Sequence.Prefixes

namespace RegexWords

variable {α β ε : Type}

/-- The items of a list up to the first error, which is the last of them. -/
def upToError : List (Except ε α) → List (Except ε α)
  | [] => []
  | .ok a :: as => .ok a :: upToError as
  | .error e :: _ => [.error e]

theorem upToError_map_ok_append (as : List α) (bs : List (Except ε α)) :
    upToError (as.map .ok ++ bs) = as.map .ok ++ upToError bs := by
  induction as with
  | nil => rfl
  | cons a as ih => rw [List.map_cons, List.cons_append, upToError, ih, List.cons_append]

theorem upToError_map_ok (as : List α) :
    upToError (as.map (.ok : α → Except ε α)) = as.map .ok := by
  simpa [upToError] using upToError_map_ok_append as ([] : List (Except ε α))

theorem exists_map_ok_append (as : List (Except ε α)) :
    (∃ bs : List α, as = bs.map .ok) ∨
      ∃ (bs : List α) (e : ε) (cs : List (Except ε α)), as = bs.map .ok ++ .error e :: cs := by
  induction as with
  | nil => exact .inl ⟨[], rfl⟩
  | cons a as ih =>
    cases a with
    | error e => exact .inr ⟨[], e, as, rfl⟩
    | ok a =>
      obtain ⟨bs, rfl⟩ | ⟨bs, e, cs, rfl⟩ := ih
      · exact .inl ⟨a :: bs, rfl⟩
      · exact .inr ⟨a :: bs, e, cs, rfl⟩

theorem exists_eq_map_ok {as : List (Except ε α)} (h : ∀ e, .error e ∉ as) :
    ∃ bs : List α, as = bs.map .ok := by
  obtain hok | ⟨bs, e, cs, rfl⟩ := exists_map_ok_append as
  · exact hok
  · exact absurd (by simp) (h e)

theorem error_notMem_map_ok (as : List α) (e : ε) : .error e ∉ as.map (.ok : α → Except ε α) := by
  intro h
  obtain ⟨a, -, ha⟩ := List.mem_map.1 h
  cases ha

theorem upToError_isPrefix (as : List (Except ε α)) : upToError as <+: as := by
  obtain ⟨bs, rfl⟩ | ⟨bs, e, cs, rfl⟩ := exists_map_ok_append as
  · rw [upToError_map_ok]
  · rw [upToError_map_ok_append, upToError, List.prefix_append_right_inj]
    exact List.prefix_append [.error e] cs

theorem upToError_eq_of_isPrefix {as bs : List (Except ε α)} (h : as <+: bs) {e : ε}
    (he : .error e ∈ as) : upToError as = upToError bs := by
  obtain ⟨ds, rfl⟩ := h
  obtain ⟨bs, rfl⟩ | ⟨bs, e', cs, rfl⟩ := exists_map_ok_append as
  · exact absurd he (error_notMem_map_ok bs e)
  · rw [List.append_assoc, List.cons_append, upToError_map_ok_append, upToError_map_ok_append]
    rfl

theorem upToError_map (f : α → β) (as : List (Except ε α)) :
    upToError (as.map (Except.map f)) = (upToError as).map (Except.map f) := by
  induction as with
  | nil => rfl
  | cons a as ih =>
    cases a with
    | error e => rfl
    | ok a => exact congrArg (.ok (f a) :: ·) ih

theorem getElem?_upToError {as : List (Except ε α)} {j : ℕ}
    (h : ∀ k < j, ∀ e, as[k]? ≠ some (.error e)) : (upToError as)[j]? = as[j]? := by
  induction as generalizing j with
  | nil => rfl
  | cons a as ih =>
    cases j with
    | zero => cases a <;> rfl
    | succ j =>
      cases a with
      | error e => exact absurd rfl (h 0 (by omega) e)
      | ok a => exact ih fun k hk ↦ h (k + 1) (by omega)

section Lists

variable {lists : List (List (Except ε α))} {j i : ℕ}

theorem itemAt_of_itemAt_upToError {a : Except ε α}
    (h : itemAt (lists.map upToError) j i = some a) : itemAt lists j i = some a := by
  obtain ⟨l', hl', ha⟩ := itemAt_eq_some.1 h
  rw [List.getElem?_map] at hl'
  obtain ⟨l, hl, rfl⟩ := Option.map_eq_some_iff.1 hl'
  obtain ⟨hj, rfl⟩ := List.getElem?_eq_some_iff.1 ha
  exact itemAt_eq_some.2 ⟨l, hl, List.prefix_iff_getElem?.1 (upToError_isPrefix l) j hj⟩

theorem itemAt_upToError_of_forall (h : ∀ k < j, ∀ e, itemAt lists k i ≠ some (.error e)) :
    itemAt (lists.map upToError) j i = itemAt lists j i := by
  simp only [itemAt, List.getElem?_map] at h ⊢
  cases hl : lists[i]? with
  | none => rfl
  | some l =>
    rw [hl] at h
    exact getElem?_upToError h

theorem exists_firstError?_le {e : ε} (h : itemAt lists j i = some (.error e)) :
    ∃ x, firstError? lists = some x ∧ place x.1.1 x.1.2 ≤ place j i := by
  obtain ⟨l, hl, -⟩ := itemAt_eq_some.1 h
  have hi : i < lists.length := (List.getElem?_eq_some_iff.1 hl).1
  have hfirst := isFirstError_firstError? lists
  cases hx : firstError? lists with
  | none =>
    rw [hx] at hfirst
    exact absurd h (hfirst i hi j e)
  | some x =>
    rw [hx] at hfirst
    exact ⟨x, rfl, hfirst.2.2 i hi j e h⟩

theorem itemAt_upToError (h : ∀ x ∈ firstError? lists, place j i ≤ place x.1.1 x.1.2) :
    itemAt (lists.map upToError) j i = itemAt lists j i := by
  apply itemAt_upToError_of_forall
  intro k hk e he
  obtain ⟨x, hx, hle⟩ := exists_firstError?_le he
  exact absurd (hle.trans_lt (place_lt_place.2 (.inl hk))) (h x hx).not_gt

theorem firstError?_upToError (lists : List (List (Except ε α))) :
    firstError? (lists.map upToError) = firstError? lists := by
  have hcut := isFirstError_firstError? (lists.map upToError)
  rw [List.length_map] at hcut
  refine hcut.unique ?_
  have hfirst := isFirstError_firstError? lists
  cases hx : firstError? lists with
  | none =>
    rw [hx] at hfirst
    exact fun i hi j e he ↦ hfirst i hi j e (itemAt_of_itemAt_upToError he)
  | some x =>
    rw [hx] at hfirst
    refine ⟨hfirst.1, ?_, fun i hi j e he ↦ hfirst.2.2 i hi j e (itemAt_of_itemAt_upToError he)⟩
    have hle : ∀ y ∈ firstError? lists, place x.1.1 x.1.2 ≤ place y.1.1 y.1.2 := by
      intro y hy
      obtain rfl := Option.some.inj (hx.symm.trans hy)
      exact le_rfl
    exact (itemAt_upToError hle).trans hfirst.2.1

theorem exists_firstError?_iff :
    (∃ x, firstError? lists = some x) ↔ ∃ l ∈ lists, ∃ e, .error e ∈ l := by
  constructor
  · rintro ⟨x, hx⟩
    have hfirst := isFirstError_firstError? lists
    rw [hx] at hfirst
    obtain ⟨l, hl, he⟩ := itemAt_eq_some.1 hfirst.2.1
    exact ⟨l, List.mem_of_getElem? hl, x.2, List.mem_of_getElem? he⟩
  · rintro ⟨l, hl, e, he⟩
    obtain ⟨i, hi⟩ := List.mem_iff_getElem?.1 hl
    obtain ⟨j, hj⟩ := List.mem_iff_getElem?.1 he
    obtain ⟨x, hx, -⟩ := exists_firstError?_le (itemAt_eq_some.2 ⟨l, hi, hj⟩)
    exact ⟨x, hx⟩

end Lists

section RoundRobin

variable (lists : List (List (Except ε α)))

theorem filter_placed_upToError {x : (ℕ × ℕ) × ε} (hx : firstError? lists = some x) :
    (placed (lists.map upToError)).filter (fun y ↦ place y.1.1 y.1.2 ≤ place x.1.1 x.1.2) =
      (placed lists).filter fun y ↦ place y.1.1 y.1.2 ≤ place x.1.1 x.1.2 := by
  refine List.Pairwise.eq_of_mem_iff ((pairwise_placed _).filter _)
    ((pairwise_placed _).filter _) ?_
  rintro ⟨⟨j, i⟩, a⟩
  rw [List.mem_filter, List.mem_filter, mem_placed, mem_placed, decide_eq_true_eq]
  refine and_congr_left fun hle ↦ ?_
  rw [itemAt_upToError fun y hy ↦ ?_]
  obtain rfl := Option.some.inj (hx.symm.trans hy)
  exact hle

theorem upToError_roundRobin_eq_filter {x : (ℕ × ℕ) × ε} (hx : firstError? lists = some x) :
    upToError (roundRobin lists) =
      upToError (((placed lists).filter fun y ↦
        place y.1.1 y.1.2 ≤ place x.1.1 x.1.2).map Prod.snd) := by
  have hfirst := isFirstError_firstError? lists
  rw [hx] at hfirst
  have hfront : (placed lists).filter (fun y ↦ place y.1.1 y.1.2 ≤ place x.1.1 x.1.2) <+:
      placed lists := by
    refine filter_isPrefix (pairwise_placed lists) fun y z hyz hz ↦ ?_
    rw [decide_eq_true_eq] at hz ⊢
    exact hyz.le.trans hz
  refine (upToError_eq_of_isPrefix (hfront.map Prod.snd) (e := x.2) ?_).symm
  refine List.mem_map.2 ⟨(x.1, .error x.2), List.mem_filter.2 ⟨?_, by simp⟩, rfl⟩
  exact mem_placed.2 hfirst.2.1

/-- Round robin reaches the first error before anything behind an error. -/
theorem upToError_roundRobin :
    upToError (roundRobin (lists.map upToError)) = upToError (roundRobin lists) := by
  cases hx : firstError? lists with
  | some x =>
    rw [upToError_roundRobin_eq_filter lists hx, ← filter_placed_upToError lists hx,
      ← upToError_roundRobin_eq_filter _ ((firstError?_upToError lists).trans hx)]
  | none =>
    have hcut : lists.map upToError = lists := by
      refine (List.map_congr_left fun l hl ↦ ?_).trans (List.map_id lists)
      have hok : ∀ e, .error e ∉ l := by
        intro e he
        obtain ⟨x, hx'⟩ := exists_firstError?_iff.2 ⟨l, hl, e, he⟩
        rw [hx] at hx'
        cases hx'
      obtain ⟨as, rfl⟩ := exists_eq_map_ok hok
      exact upToError_map_ok as
    rw [hcut]

end RoundRobin

section Product

variable {lists : List (List (Except ε α))} {v : List ℕ}

theorem vectorsBeforeError_upToError (lists : List (List (Except ε α))) :
    vectorsBeforeError (lists.map upToError) = vectorsBeforeError lists := by
  refine List.Pairwise.eq_of_mem_iff ((pairwise_diagonalOrder _).filter _)
    ((pairwise_diagonalOrder _).filter _) fun v ↦ ?_
  refine mem_vectorsBeforeError.trans (Iff.trans ?_ mem_vectorsBeforeError.symm)
  rw [Diagonal.Listed, Diagonal.Listed, firstError?_upToError, List.length_map]
  refine and_congr_right fun _ ↦ forall₂_congr fun i j ↦ forall_congr' fun _ ↦ ?_
  refine and_congr_left fun hbefore ↦ ?_
  rw [itemAt_upToError fun x hx ↦ (hbefore x hx).le]

theorem isTuple_pick_of_mem (h : v ∈ vectorsBeforeError lists) :
    IsTuple (fun i j ↦ itemAt lists j i) v (pick lists v) := by
  have hbox := mem_diagonalOrder.1 (List.mem_filter.1 h).1
  rw [List.forall₂_map_right_iff] at hbox
  exact isTuple_pick hbox

theorem pick_upToError (h : v ∈ vectorsBeforeError lists) :
    pick (lists.map upToError) v = pick lists v := by
  have hcut := isTuple_pick_of_mem (h := (vectorsBeforeError_upToError lists).symm ▸ h)
  refine hcut.unique ⟨(isTuple_pick_of_mem h).1, fun i j hj ↦ ?_⟩
  have hbefore := ((mem_vectorsBeforeError.1 h).2 i j hj).2
  refine ((isTuple_pick_of_mem h).2 i j hj).trans (Eq.symm ?_)
  exact itemAt_upToError fun x hx ↦ (hbefore x hx).le

/-- A product reads nothing behind the first error of a factor. -/
theorem product_upToError (lists : List (List (Except ε α))) :
    product (lists.map upToError) = product lists := by
  rw [product, product, vectorsBeforeError_upToError, firstError?_upToError]
  refine congrArg (· ++ _) (List.map_congr_left fun v hv ↦ ?_)
  rw [pick_upToError hv]

theorem exists_pick_eq (h : v ∈ vectorsBeforeError lists) :
    ∃ as, (pick lists v).mapM id = (.ok as : Except ε (List α)) := by
  have hok : ∀ e, .error e ∉ pick lists v := by
    intro e he
    obtain ⟨i, hi⟩ := List.mem_iff_getElem?.1 he
    have htuple := isTuple_pick_of_mem h
    have hlt : i < v.length := htuple.1 ▸ (List.getElem?_eq_some_iff.1 hi).1
    have hj : v[i]? = some v[i] := List.getElem?_eq_getElem hlt
    have hitem := (htuple.2 i _ hj).symm.trans hi
    obtain ⟨x, hx, hle⟩ := exists_firstError?_le hitem
    exact absurd hle (((mem_vectorsBeforeError.1 h).2 i _ hj).2 x hx).not_ge
  obtain ⟨as, has⟩ := exists_eq_map_ok hok
  exact ⟨as, by rw [has, mapM_id_map_ok]⟩

theorem exists_product_eq (lists : List (List (Except ε α))) :
    ∃ ts : List (List α), ts.length = (vectorsBeforeError lists).length ∧
      product lists = ts.map .ok ++ (firstError? lists).toList.map fun x ↦ .error x.2 := by
  have hmap (vs : List (List ℕ)) (h : ∀ v ∈ vs, v ∈ vectorsBeforeError lists) :
      ∃ ts : List (List α), ts.length = vs.length ∧
        vs.map (fun v ↦ (pick lists v).mapM id) = ts.map (.ok : _ → Except ε (List α)) := by
    induction vs with
    | nil => exact ⟨[], rfl, rfl⟩
    | cons v vs ih =>
      obtain ⟨hv, hvs⟩ := List.forall_mem_cons.1 h
      obtain ⟨as, has⟩ := exists_pick_eq hv
      obtain ⟨ts, hlen, hts⟩ := ih hvs
      exact ⟨as :: ts, by simp [hlen], by rw [List.map_cons, has, hts, List.map_cons]⟩
  obtain ⟨ts, hlen, hts⟩ := hmap _ fun v hv ↦ hv
  exact ⟨ts, hlen, by rw [product, hts]⟩

theorem upToError_product (lists : List (List (Except ε α))) :
    upToError (product lists) = product lists := by
  obtain ⟨ts, -, hts⟩ := exists_product_eq lists
  rw [hts, upToError_map_ok_append]
  cases firstError? lists <;> rfl

theorem error_mem_product_iff {lists : List (List (Except ε α))} :
    (∃ e, .error e ∈ product lists) ↔ ∃ l ∈ lists, ∃ e, .error e ∈ l := by
  obtain ⟨ts, -, hts⟩ := exists_product_eq lists
  rw [← exists_firstError?_iff, hts]
  cases firstError? lists <;> simp

end Product

theorem length_roundRobin_take_le (lists : List (List α)) (K : ℕ) :
    (roundRobin (lists.map (List.take K))).length ≤ lists.length * K := by
  rw [length_roundRobin]
  induction lists with
  | nil => simp
  | cons l lists ih =>
    have hl := List.length_take_le K l
    simp only [List.map_cons, List.sum_cons, List.length_cons, Nat.succ_mul]
    omega

theorem upToError_take (as : List (Except ε α)) (k : ℕ) :
    upToError (as.take k) = (upToError as).take k := by
  induction as generalizing k with
  | nil => simp [upToError]
  | cons a as ih =>
    cases k with
    | zero => rfl
    | succ k =>
      cases a with
      | ok a => exact congrArg (.ok a :: ·) (ih k)
      | error e => simp [upToError]

theorem error_mem_upToError_iff {as : List (Except ε α)} :
    (∃ e, .error e ∈ upToError as) ↔ ∃ e, .error e ∈ as := by
  constructor
  · rintro ⟨e, he⟩
    exact ⟨e, (upToError_isPrefix as).mem he⟩
  · rintro ⟨e, he⟩
    obtain ⟨bs, rfl⟩ | ⟨bs, e', cs, rfl⟩ := exists_map_ok_append as
    · exact absurd he (error_notMem_map_ok bs e)
    · exact ⟨e', by simp [upToError_map_ok_append, upToError]⟩

def FailsWithin (K : ℕ) (as : List (Except ε α)) : Prop := ∃ e, .error e ∈ as.take K

theorem failsWithin_of_mem {as : List (Except ε α)} {e : ε} (h : .error e ∈ as) :
    FailsWithin as.length as := by
  rw [FailsWithin, List.take_length]
  exact ⟨e, h⟩

theorem failsWithin_upToError {K : ℕ} {as : List (Except ε α)} :
    FailsWithin K (upToError as) ↔ FailsWithin K as := by
  rw [FailsWithin, ← upToError_take, error_mem_upToError_iff]
  rfl

namespace FailsWithin

variable {K : ℕ} {as : List (Except ε α)}

theorem mem (h : FailsWithin K as) : ∃ e, .error e ∈ as := by
  obtain ⟨e, he⟩ := h
  exact ⟨e, List.mem_of_mem_take he⟩

theorem of_isPrefix {bs : List (Except ε α)} (h : bs <+: as) (hlen : bs.length ≤ K) {e : ε}
    (he : .error e ∈ bs) : FailsWithin K as := by
  rw [List.prefix_iff_eq_take.1 h] at he
  exact ⟨e, (List.take_isPrefix_take.2 (.inl hlen)).mem he⟩

theorem map {f : α → β} (h : FailsWithin K as) : FailsWithin K (as.map (Except.map f)) := by
  obtain ⟨e, he⟩ := h
  refine ⟨e, ?_⟩
  rw [← List.map_take]
  exact List.mem_map.2 ⟨.error e, he, rfl⟩

theorem append (h : FailsWithin K as) (bs : List (Except ε α)) : FailsWithin K (as ++ bs) := by
  obtain ⟨e, he⟩ := h
  exact ⟨e, ((List.prefix_append as bs).take K).mem he⟩

theorem cons (h : FailsWithin K as) (a : Except ε α) : FailsWithin (K + 1) (a :: as) := by
  obtain ⟨e, he⟩ := h
  exact ⟨e, List.mem_cons_of_mem a he⟩

variable {lists : List (List (Except ε α))}

theorem roundRobin (h : FailsWithin K as) (has : as ∈ lists) :
    FailsWithin (lists.length * K) (roundRobin lists) := by
  obtain ⟨e, he⟩ := h
  exact of_isPrefix (roundRobin_take_isPrefix K) (length_roundRobin_take_le lists K)
    (mem_roundRobin.2 ⟨_, List.mem_map_of_mem has, he⟩)

theorem mem_vectors_of_mem (h : FailsWithin K as) (has : as ∈ lists) {v : List ℕ}
    (hv : v ∈ vectorsBeforeError lists) : v ∈ Box.vectors (List.replicate lists.length (0, K)) := by
  obtain ⟨e, he⟩ := h
  obtain ⟨k, hk⟩ := List.mem_iff_getElem?.1 he
  obtain ⟨i, hi⟩ := List.mem_iff_getElem?.1 has
  have hkK : k < K := by
    have hlt := (List.getElem?_eq_some_iff.1 hk).1
    rw [List.length_take] at hlt
    omega
  rw [List.getElem?_take_of_lt hkK] at hk
  have hitem : itemAt lists k i = some (.error e) := itemAt_eq_some.2 ⟨as, hi, hk⟩
  obtain ⟨x, hx, hxk⟩ := exists_firstError?_le hitem
  obtain ⟨hlen, hlisted⟩ := mem_vectorsBeforeError.1 hv
  rw [Box.mem_vectors, forall₂_iff_getElem?, List.length_replicate]
  refine ⟨hlen, fun i' j r hj hr ↦ ?_⟩
  obtain rfl := List.eq_of_mem_replicate (List.mem_of_getElem? hr)
  have hlt := ((hlisted i' j hj).2 x hx).trans_le hxk
  rw [place_lt_place] at hlt
  exact ⟨Nat.zero_le j, by omega⟩

theorem product (h : FailsWithin K as) (has : as ∈ lists) :
    FailsWithin (K ^ lists.length + 1) (product lists) := by
  obtain ⟨ts, hlen, hts⟩ := exists_product_eq lists
  obtain ⟨x, hx⟩ := exists_firstError?_iff.2 ⟨as, has, h.mem⟩
  have hnodup : (vectorsBeforeError lists).Nodup :=
    ((pairwise_diagonalOrder _).filter _).imp fun hlt he ↦ by simp [he] at hlt
  have hle := (List.subperm_of_subset hnodup fun v hv ↦ h.mem_vectors_of_mem has hv).length_le
  rw [length_vectors, List.map_replicate, List.prod_replicate, Nat.sub_zero, ← hlen] at hle
  refine of_isPrefix (List.prefix_refl _) ?_ (e := x.2) ?_
  · simp [hts, hx, hle]
  · simp [hts, hx]

end FailsWithin

end RegexWords
