import RegexWords.Proofs.Sequence.DiagonalLists

namespace RegexWords

variable {σ α ε : Type}

def Within (q : ℕ → ℕ → Option α) (n : ℕ) (w : List ℕ) : Prop :=
  w.length = n ∧ ∀ i j, w[i]? = some j → q i j ≠ none

theorem Gives.exists_list {next : σ → Step σ α} {s : σ} {q : ℕ → Option α} {n : ℕ}
    (h : Gives next s q) (hn : q n = none) : ∃ as : List α, q = fun k ↦ as[k]? := by
  induction n generalizing s q with
  | zero =>
    refine ⟨[], funext fun k ↦ ?_⟩
    rw [h.eq_none_of_le hn (Nat.zero_le k), List.getElem?_nil]
  | succ n ih =>
    obtain ⟨-, hz⟩ | ⟨a, t, -, h0, ht⟩ := h.pull
    · exact ⟨[], funext fun k ↦ (hz k).trans List.getElem?_nil.symm⟩
    · obtain ⟨as, has⟩ := ih ht hn
      refine ⟨a :: as, funext fun k ↦ ?_⟩
      cases k with
      | zero => exact h0
      | succ k => exact congrFun has k

theorem exists_map_ok {as : List (Except ε α)} {q : ℕ → Option α}
    (h : ∀ k, as[k]? = (q k).map .ok) : ∃ bs : List α, as = bs.map .ok := by
  induction as generalizing q with
  | nil => exact ⟨[], rfl⟩
  | cons a as ih =>
    obtain ⟨b, -, rfl⟩ := Option.map_eq_some_iff.1 (h 0).symm
    obtain ⟨bs, rfl⟩ := ih (q := fun k ↦ q (k + 1)) fun k ↦ h (k + 1)
    exact ⟨b :: bs, rfl⟩

namespace Diagonal

variable {next : σ → Step σ (Except ε α)} {factors : List σ} {q : ℕ → ℕ → Option α} {n : ℕ}
  {count : ℕ → ℕ} {live : List ℕ} {E : List (List ℕ × List α)} {stage : List (List ℕ)}
  {d : Diagonal σ α} {w : List ℕ}

def okItems (ε : Type) (q : ℕ → ℕ → Option α) (i j : ℕ) : Option (Except ε α) :=
  (q i j).map .ok

theorem toOption_okItems : (fun i j ↦ (okItems ε q i j).bind Except.toOption) = q := by
  funext i j
  cases h : q i j <;> simp [okItems, h, Except.toOption]

theorem okItems_ne_error {i j : ℕ} {e : ε} : okItems ε q i j ≠ some (.error e) := by
  cases h : q i j <;> simp [okItems, h]

theorem okItems_eq_none {i j : ℕ} : okItems ε q i j = none ↔ q i j = none :=
  Option.map_eq_none_iff

theorem exists_settles (hq : Closed (okItems ε q) n)
    (h : (∀ i < n, ∃ j, q i j = none) ∨ ∀ i < n, q i 0 ≠ none) :
    ∃ B, Settles (okItems ε q) n B := by
  obtain hfinite | hne := h
  · choose! size hsize using hfinite
    refine ⟨((List.range n).map size).foldr max 0, .inr (.inl fun i hi ↦ ?_)⟩
    refine hq i hi _ _ (le_foldr_max ?_) (okItems_eq_none.2 (hsize i hi))
    exact List.mem_map_of_mem (List.mem_range.2 hi)
  · exact ⟨1, .inl ⟨one_pos, fun i hi ↦ okItems_eq_none.not.2 (hne i hi)⟩⟩

namespace Reached

theorem within (h : Reached next (okItems ε q) n count live E stage d)
    (hw : w ∈ E.map Prod.fst) : Within q n w := by
  obtain ⟨hlen, hbox⟩ := (h.mem_iff w).1 (List.mem_append_left _ hw)
  refine ⟨hlen, fun i j hj ↦ ?_⟩
  have hi : i < n := hlen ▸ (List.getElem?_eq_some_iff.1 hj).1
  obtain ⟨a, ha⟩ := h.ok_of_lt_count hi (hbox i j hj)
  exact okItems_eq_none.not.1 (ha ▸ Option.some_ne_none _)

/-- The vectors that are not listed yet come behind all that are listed. -/
theorem key_lt (h : Reached next (okItems ε q) n count live E stage d)
    (hq : Closed (okItems ε q) n) (hw : Within q n w) (hE : w ∉ E.map Prod.fst) {u : List ℕ}
    (hu : u ∈ E.map Prod.fst) : key u < key w := by
  obtain ⟨-, -, hstage⟩ := List.pairwise_append.1 h.sorted
  by_cases hs : w ∈ stage
  · exact hstage u hu w hs
  have hout : ¬ InBox n count w := by
    rw [← h.mem_iff, List.mem_append]
    tauto
  obtain ⟨i, j, hj, hle⟩ : ∃ i j, w[i]? = some j ∧ count i ≤ j := by
    by_contra hnot
    push Not at hnot
    exact hout ⟨hw.1, hnot⟩
  have hi : i < n := hw.1 ▸ (List.getElem?_eq_some_iff.1 hj).1
  have hlive := h.mem_live hq hi hle (okItems_eq_none.not.2 (hw.2 i j hj))
  obtain ⟨hlen, hbox⟩ := (h.mem_iff u).1 (List.mem_append_left _ hu)
  have hne : u ≠ [] := by
    rintro rfl
    rw [List.length_nil] at hlen
    omega
  have hnext : place (count i) i ≤ place j i := place_le_place.2 (by omega)
  refine key_lt_key.2 (.inl ?_)
  refine (peak_lt hne fun k l hl ↦ ?_).trans_le (hnext.trans (place_le_peak hj))
  exact h.rotation.taken_lt i hlive k l (hbox k l hl)

/-- So many vectors can be listed before a given one. -/
theorem length_le_of_notMem (h : Reached next (okItems ε q) n count live E stage d)
    (hq : Closed (okItems ε q) n) (hw : Within q n w) (hE : w ∉ E.map Prod.fst) :
    E.length ≤ (diagonalOrder (List.replicate n ((ofLex (peak w)).1 + 1))).length := by
  have hsorted := (List.pairwise_append.1 h.sorted).1
  have hsub : E.map Prod.fst ⊆ diagonalOrder (List.replicate n ((ofLex (peak w)).1 + 1)) := by
    intro u hu
    have hlen := (h.within hu).1
    refine mem_diagonalOrder.2 (forall₂_iff_getElem?.2 ⟨by simp [hlen], fun i j b hj hb ↦ ?_⟩)
    obtain ⟨-, rfl⟩ := List.getElem?_eq_some_iff.1 hb
    have hpeak : peak u ≤ peak w := by
      rcases key_lt_key.1 (h.key_lt hq hw hE hu) with hlt | heq
      · exact hlt.le
      · exact heq.1.le
    have hplace := (place_le_peak hj).trans hpeak
    obtain ⟨⟨l, k⟩, hk⟩ : ∃ p, peak w = toLex p := ⟨ofLex (peak w), rfl⟩
    rw [List.getElem_replicate, hk, ofLex_toLex]
    rw [hk] at hplace
    have hle := place_le_place.1 hplace
    omega
  simpa only [List.length_map] using
    (List.subperm_of_subset (hsorted.imp fun h he ↦ h.ne (congrArg key he)) hsub).length_le

end Reached

theorem length_filterMap_range {β : Type} {v : ℕ → Option β} (h : ∀ k, v k ≠ none) (k : ℕ) :
    ((List.range k).filterMap v).length = k := by
  induction k with
  | zero => rfl
  | succ k ih =>
    obtain ⟨x, hx⟩ := Option.ne_none_iff_exists'.1 (h k)
    rw [List.range_succ, List.filterMap_append, List.length_append, ih]
    simp [hx]

theorem mem_filterMap_range {β : Type} {v : ℕ → Option β} {k l : ℕ} {x : β} (hk : k < l)
    (hx : v k = some x) : x ∈ (List.range l).filterMap v :=
  List.mem_filterMap.2 ⟨k, List.mem_range.2 hk, hx⟩

theorem exists_lists_of_finite
    (h : ∀ i (hi : i < factors.length), Gives next factors[i] (okItems ε q i))
    (hend : ∀ i < factors.length, ∃ j, q i j = none) :
    ∃ lists : List (List α),
      List.Forall₂ (fun s l ↦ Lists next s (l.map .ok)) factors lists := by
  induction factors generalizing q with
  | nil => exact ⟨[], .nil⟩
  | cons s factors ih =>
    obtain ⟨lists, hl⟩ := ih (q := fun i ↦ q (i + 1))
      (fun i hi ↦ h (i + 1) (Nat.succ_lt_succ hi)) fun i hi ↦ hend (i + 1) (Nat.succ_lt_succ hi)
    obtain ⟨j, hj⟩ := hend 0 (Nat.zero_lt_succ _)
    have hs := h 0 (Nat.zero_lt_succ _)
    obtain ⟨as, has⟩ := hs.exists_list (okItems_eq_none.2 hj)
    obtain ⟨bs, rfl⟩ := exists_map_ok fun k ↦ (congrFun has k).symm
    rw [has] at hs
    exact ⟨bs :: lists, .cons hs hl⟩

theorem lists_step_ok {lists : List (List α)}
    (h : List.Forall₂ (fun s l ↦ Lists next s (l.map .ok)) factors lists) :
    Lists (step (m := Id) next) (.ofFactors factors) ((tuples lists).map .ok) := by
  rw [← RegexWords.product_map_ok]
  exact lists_step (List.forall₂_map_right_iff.2 h)

theorem isTuple_of_eq_some {v : ℕ → Option (List ℕ × List α)}
    (h : ∀ k, ∃ count live stage d,
      Reached next (okItems ε q) n count live ((List.range k).filterMap v) stage d)
    {k : ℕ} {as : List α} (hk : v k = some (w, as)) : IsTuple q w as := by
  obtain ⟨count, live, stage, d, hr⟩ := h (k + 1)
  have ht := hr.isTuple (w, as) (mem_filterMap_range (Nat.lt_succ_self k) hk)
  rwa [toOption_okItems] at ht

theorem key_lt_of_lt {v : ℕ → Option (List ℕ × List α)}
    (h : ∀ k, ∃ count live stage d,
      Reached next (okItems ε q) n count live ((List.range k).filterMap v) stage d)
    {k l : ℕ} {x y : List ℕ × List α} (hkl : k < l) (hx : v k = some x) (hy : v l = some y) :
    key x.1 < key y.1 := by
  obtain ⟨count, live, stage, d, hr⟩ := h (l + 1)
  have hsorted := (List.pairwise_append.1 hr.sorted).1
  rw [List.pairwise_map, List.pairwise_filterMap, List.pairwise_iff_getElem] at hsorted
  have hlen : (List.range (l + 1)).length = l + 1 := List.length_range
  have hlt := hsorted k l (by omega) (by omega) hkl
  simp only [List.getElem_range] at hlt
  exact hlt x hx y hy

theorem eq_of_fst_eq {v : ℕ → Option (List ℕ × List α)}
    (h : ∀ k, ∃ count live stage d,
      Reached next (okItems ε q) n count live ((List.range k).filterMap v) stage d)
    {k l : ℕ} {x y : List ℕ × List α} (hx : v k = some x) (hy : v l = some y) (hxy : x.1 = y.1) :
    k = l := by
  rcases lt_trichotomy k l with hlt | heq | hlt
  · exact absurd (key_lt_of_lt h hlt hx hy) (hxy ▸ lt_irrefl _)
  · exact heq
  · exact absurd (key_lt_of_lt h hlt hy hx) (hxy ▸ lt_irrefl _)

/-- A vector within the factors is listed, since only so many come before it. -/
theorem exists_listed {v : ℕ → Option (List ℕ × List α)} (hq : Closed (okItems ε q) n)
    (h : ∀ k, ∃ count live stage d,
      Reached next (okItems ε q) n count live ((List.range k).filterMap v) stage d)
    (hend : ∀ k, v k = none → ∀ w, Within q n w → w ∈ ((List.range k).filterMap v).map Prod.fst)
    (hw : Within q n w) : ∃ k as, v k = some (w, as) := by
  by_contra hnot
  have hE : ∀ k, w ∉ ((List.range k).filterMap v).map Prod.fst := by
    intro k hk
    obtain ⟨⟨u, as⟩, hx, rfl⟩ := List.mem_map.1 hk
    obtain ⟨l, -, hl⟩ := List.mem_filterMap.1 hx
    exact hnot ⟨l, as, hl⟩
  have hne : ∀ k, v k ≠ none := fun k hk ↦ hE k (hend k hk w hw)
  obtain ⟨count, live, stage, d, hr⟩ :=
    h ((diagonalOrder (List.replicate n ((ofLex (peak w)).1 + 1))).length + 1)
  have hle := hr.length_le_of_notMem hq hw (hE _)
  rw [length_filterMap_range hne] at hle
  omega

theorem closed_okItems
    (h : ∀ i (hi : i < factors.length), Gives next factors[i] fun j ↦ (q i j).map .ok) :
    Closed (okItems ε q) factors.length :=
  fun i hi _ _ hjk hj ↦ (h i hi).eq_none_of_le hj hjk

theorem exists_gives_reached
    (h : ∀ i (hi : i < factors.length), Gives next factors[i] fun j ↦ (q i j).map .ok)
    (hne : (∀ i < factors.length, ∃ j, q i j = none) ∨ ∀ i < factors.length, q i 0 ≠ none) :
    ∃ v : ℕ → Option (List ℕ × List α),
      Gives (step (m := Id) next) (.ofFactors factors) (fun k ↦ (v k).map fun x ↦ .ok x.2) ∧
      (∀ k, ∃ count live stage d, Reached next (okItems ε q) factors.length count live
        ((List.range k).filterMap v) stage d) ∧
      ∀ k, v k = none → ∀ w, Within q factors.length w →
        w ∈ ((List.range k).filterMap v).map Prod.fst := by
  have hq := closed_okItems h
  obtain ⟨B, hB⟩ := exists_settles hq hne
  let Inv (E : List (List ℕ × List α)) (d : Diagonal σ α) :=
    ∃ count live stage, Reached next (okItems ε q) factors.length count live E stage d
  let Complete (E : List (List ℕ × List α)) :=
    ∀ w, Within q factors.length w → w ∈ E.map Prod.fst
  have progress : ∀ E d, Inv E d →
      (∃ x d', Pulls (step (m := Id) next) d (some (.ok x.2, d')) ∧ Inv (E ++ [x]) d') ∨
      Pulls (step (m := Id) next) d none ∧ Complete E := by
    rintro E d ⟨count, live, stage, hr⟩
    cases hr.outcome hq hB with
    | tuple hp hr' => exact .inl ⟨_, _, hp, _, _, _, hr'⟩
    | ended hp hr' =>
      refine .inr ⟨hp, fun w hw ↦ (hr'.mem_iff_of_ended hq).2 w |>.2 ⟨hw.1, fun i j hj ↦ ?_⟩⟩
      exact ⟨okItems_eq_none.not.2 (hw.2 i j hj), by simp [Before]⟩
    | failed _ _ hi => exact absurd hi okItems_ne_error
  obtain ⟨v, hv, hinv⟩ := exists_gives_of_progress progress ⟨_, _, _, .start h⟩
  refine ⟨v, hv, fun k ↦ ?_, fun k ↦ (hinv k).2⟩
  obtain ⟨⟨d, count, live, stage, hr⟩, -⟩ := hinv k
  exact ⟨count, live, stage, d, hr⟩

/-- The product of factors without errors lists the tuple of each index vector once, in the diagonal
order, and when all factors are finite it is a permutation of their Cartesian product. -/
theorem exists_gives
    (h : ∀ i (hi : i < factors.length), Gives next factors[i] fun j ↦ (q i j).map .ok)
    (hne : (∀ i < factors.length, ∃ j, q i j = none) ∨ ∀ i < factors.length, q i 0 ≠ none) :
    ∃ v : ℕ → Option (List ℕ × List α),
      Gives (step (m := Id) next) (.ofFactors factors) (fun k ↦ (v k).map fun x ↦ .ok x.2) ∧
      (∀ k w as, v k = some (w, as) → IsTuple q w as) ∧
      (∀ w, (∃ k as, v k = some (w, as)) ↔ Within q factors.length w) ∧
      (∀ k l x y, k < l → v k = some x → v l = some y → key x.1 < key y.1) ∧
      ((∀ i < factors.length, ∃ j, q i j = none) → ∃ lists outputs : List (List α),
        List.Forall₂ (fun s l ↦ Lists next s (l.map .ok)) factors lists ∧
        outputs.Perm lists.sections ∧
        Lists (step (m := Id) next) (.ofFactors factors) (outputs.map .ok)) ∧
      (factors = [] → Lists (step (m := Id) next) (.ofFactors factors) [.ok []]) := by
  obtain ⟨v, hv, hreached, hlisted⟩ := exists_gives_reached h hne
  refine ⟨v, hv, fun k w as ↦ isTuple_of_eq_some hreached, fun w ↦ ⟨?_, ?_⟩,
    fun k l x y ↦ key_lt_of_lt hreached, fun hend ↦ ?_, ?_⟩
  · rintro ⟨k, as, hk⟩
    obtain ⟨count, live, stage, d, hr⟩ := hreached (k + 1)
    exact hr.within (List.mem_map.2 ⟨_, mem_filterMap_range (Nat.lt_succ_self k) hk, rfl⟩)
  · exact exists_listed (closed_okItems h) hreached hlisted
  · obtain ⟨lists, hl⟩ := exists_lists_of_finite h hend
    exact ⟨lists, tuples lists, hl, tuples_perm_sections lists, lists_step_ok hl⟩
  · rintro rfl
    have hl : Lists (step (m := Id) next) (.ofFactors []) ((tuples []).map .ok) :=
      lists_step_ok .nil
    rwa [tuples_nil] at hl

def counting (ε : Type) (k : ℕ) : Step ℕ (Except ε ℕ) := .yield (.ok k) (k + 1)

theorem gives_counting (k : ℕ) : Gives (counting ε) k fun j ↦ some (.ok (k + j)) := by
  intro j
  induction j generalizing k with
  | zero => exact .now (.yield rfl)
  | succ j ih =>
    refine .later (.yield rfl) ?_
    simpa only [Nat.add_assoc, Nat.add_comm 1] using ih (k + 1)

theorem exists_gives_counting : ∃ v : ℕ → Option (List ℕ × List ℕ),
    Gives (step (m := Id) (counting Empty)) (.ofFactors [0, 5])
      (fun k ↦ (v k).map fun x ↦ .ok x.2) ∧
    (∀ k w as, v k = some (w, as) → IsTuple (fun i j ↦ some (5 * i + j)) w as) ∧
    (∀ w, (∃ k as, v k = some (w, as)) ↔ Within (fun i j ↦ some (5 * i + j)) 2 w) ∧
    (∀ k l x y, k < l → v k = some x → v l = some y → key x.1 < key y.1) := by
  have h : ∀ i (hi : i < [0, 5].length),
      Gives (counting Empty) [0, 5][i] fun j ↦ (some (5 * i + j)).map .ok := by
    intro i hi
    obtain rfl | rfl : i = 0 ∨ i = 1 := by
      simp only [List.length_cons, List.length_nil] at hi
      omega
    · simpa using gives_counting 0
    · simpa using gives_counting 5
  obtain ⟨v, hv, ht, hw, hk, -⟩ := exists_gives h (.inr fun i _ ↦ Option.some_ne_none _)
  exact ⟨v, hv, ht, hw, hk⟩

end Diagonal

end RegexWords
