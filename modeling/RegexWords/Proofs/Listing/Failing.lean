import RegexWords.CharSet.ClassText
import RegexWords.Proofs.Listing.Evaluation
import RegexWords.Proofs.Listing.Soundness

namespace RegexWords

namespace Pattern

def hidesParts : Pattern → Bool
  | .group kind _ => !kind.isPlain
  | .bracket _ negated _ => negated
  | .repetition b _ _ => b.most = some 0
  | _ => false

/-- A part that the listing of a pattern may come to. -/
inductive Live : Pattern → Pattern → Prop
  | self (p : Pattern) : Live p p
  | part {p c q : Pattern} : p.hidesParts = false → c ∈ p.children → Live c q → Live p q

def isWithin (greatest : ℕ) : Pattern → Bool
  | .repetition b _ _ => b.least ≤ greatest
  | _ => true

variable [Compiler]

/-- The listing may come to a part that cannot be listed. -/
def MayFail (a : Alphabets) (p : Pattern) : Prop := ∃ q, p.Live q ∧ q.isListable a = false

variable {a : Alphabets} {p : Pattern}

theorem mayFail_iff :
    p.MayFail a ↔
      p.isListable a = false ∨ p.hidesParts = false ∧ ∃ c ∈ p.children, c.MayFail a := by
  constructor
  · rintro ⟨q, hq, hlist⟩
    cases hq with
    | self => exact .inl hlist
    | part hparts hc hq => exact .inr ⟨hparts, _, hc, q, hq, hlist⟩
  · rintro (hlist | ⟨hparts, c, hc, q, hq, hlist⟩)
    · exact ⟨p, .self p, hlist⟩
    · exact ⟨q, .part hparts hc hq, hlist⟩

end Pattern

def Bounds.front (b : Bounds) : List ℕ :=
  if b.least = 0 then [0, 1] else [b.least]

theorem Bounds.exists_mem_front (b : Bounds) : ∃ n ∈ b.front, 0 < n := by
  unfold front
  split
  · exact ⟨1, by simp, one_pos⟩
  · exact ⟨b.least, by simp, by omega⟩

namespace Listing

variable {is : List Item} {K : ℕ}

theorem failsWithin_joined {lists : List (List Item)} (h : FailsWithin K is) (his : is ∈ lists) :
    FailsWithin (K ^ lists.length + 1) (joined lists) :=
  (h.product his).map

theorem exists_failsWithin_powered (K : ℕ) {n : ℕ} (hn : 0 < n) :
    ∃ K', ∀ is, FailsWithin K is → FailsWithin K' (powered is n) := by
  induction n using Nat.strong_induction_on with
  | _ n ih =>
    obtain rfl | h : n = 1 ∨ 2 ≤ n := by omega
    · refine ⟨K, fun is his ↦ ?_⟩
      rwa [powered, copies_one]
    · obtain ⟨K', hK'⟩ := ih (n - n / 2) (by omega) (by omega)
      refine ⟨K' ^ 2 + 1, fun is his ↦ ?_⟩
      have hmem : powered is (n - n / 2) ∈ [powered is (n / 2), powered is (n - n / 2)] := by simp
      rw [powered, copies_of_two_le h]
      exact failsWithin_joined (hK' is his) hmem

theorem failsWithin_segment (h : FailsWithin K is) (n : ℕ) (grew : Bool) (rest : List Item) :
    FailsWithin K (segment n grew rest is) := by
  rw [← failsWithin_upToError, upToError_segment]
  exact (failsWithin_upToError.2 h).append _

theorem repeated_zero_cons (is : List Item) (counts : List ℕ) :
    repeated is (0 :: counts) = .ok "" :: repeated is counts := by
  rw [repeated, powered, copies_zero]
  rfl

theorem exists_failsWithin_repeated (K : ℕ) {front : List ℕ} (h : ∃ n ∈ front, 0 < n) :
    ∃ K', ∀ is counts, FailsWithin K is → FailsWithin K' (repeated is (front ++ counts)) := by
  induction front with
  | nil => simp at h
  | cons n front ih =>
    rcases Nat.eq_zero_or_pos n with rfl | hn
    · obtain ⟨K', hK'⟩ := ih (by simpa using h)
      refine ⟨K' + 1, fun is counts his ↦ ?_⟩
      rw [List.cons_append, repeated_zero_cons]
      exact (hK' is counts his).cons _
    · obtain ⟨K', hK'⟩ := exists_failsWithin_powered K hn
      refine ⟨K', fun is counts his ↦ ?_⟩
      rw [List.cons_append, repeated]
      exact failsWithin_segment (hK' is his) n false _

theorem error_mem_of_error_mem_joined {lists : List (List Item)} {e : Obstacle}
    (h : .error e ∈ joined lists) : ∃ l ∈ lists, ∃ e, .error e ∈ l := by
  obtain ⟨t, ht, he⟩ := List.mem_map.1 h
  cases t with
  | ok ts => cases he
  | error e => exact error_mem_product_iff.1 ⟨e, ht⟩

theorem error_mem_of_error_mem_roundRobin {lists : List (List Item)} {e : Obstacle}
    (h : .error e ∈ roundRobin lists) : ∃ l ∈ lists, ∃ e, .error e ∈ l := by
  obtain ⟨l, hl, he⟩ := mem_roundRobin.1 h
  exact ⟨l, hl, e, he⟩

theorem error_mem_of_error_mem_powered (n : ℕ) :
    (∃ e, .error e ∈ powered is n) → 0 < n ∧ ∃ e, .error e ∈ is := by
  refine copies_induction (motive := fun n (js : List Item) ↦
    (∃ e, .error e ∈ js) → 0 < n ∧ ∃ e, .error e ∈ is) ?_ ?_ ?_ n
  · simp
  · exact fun h ↦ ⟨one_pos, h⟩
  · rintro k l as bs hk hl ⟨e, he⟩
    obtain ⟨js, hjs, hjse⟩ := error_mem_of_error_mem_joined he
    obtain rfl | rfl : js = as ∨ js = bs := by simpa using hjs
    · exact ⟨by have := (hk hjse).1; omega, (hk hjse).2⟩
    · exact ⟨by have := (hl hjse).1; omega, (hl hjse).2⟩

theorem error_mem_of_error_mem_segment {n : ℕ} {grew : Bool} {rest : List Item} {e : Obstacle}
    (h : .error e ∈ segment n grew rest is) : .error e ∈ is ∨ .error e ∈ rest := by
  induction is generalizing grew with
  | nil =>
    rw [segment] at h
    split at h
    · cases h
    · exact .inr h
  | cons i is ih =>
    cases i with
    | ok w =>
      rcases List.mem_cons.1 h with h | h
      · cases h
      · exact (ih h).imp_left (List.mem_cons_of_mem _)
    | error e' =>
      obtain rfl := (Except.error.inj (List.mem_singleton.1 h))
      exact .inl List.mem_cons_self

theorem error_mem_of_error_mem_repeated {counts : List ℕ} {e : Obstacle}
    (h : .error e ∈ repeated is counts) : (∃ n ∈ counts, 0 < n) ∧ ∃ e, .error e ∈ is := by
  induction counts with
  | nil => cases h
  | cons n counts ih =>
    rcases error_mem_of_error_mem_segment h with h | h
    · obtain ⟨hn, he⟩ := error_mem_of_error_mem_powered n ⟨e, h⟩
      exact ⟨⟨n, List.mem_cons_self, hn⟩, he⟩
    · obtain ⟨⟨m, hm, hpos⟩, he⟩ := ih h
      exact ⟨⟨m, List.mem_cons_of_mem n hm, hpos⟩, he⟩

theorem error_notMem_letters (cs : List Char) (e : Obstacle) : .error e ∉ letters cs := by
  rw [letters_eq]
  exact error_notMem_map_ok _ e

section Patterns

variable {s : Settings} {p c : Pattern} {b : Bounds}

theorem exists_toList_ofBounds_eq (hmost : b.most ≠ some 0) (horder : b.inOrder)
    (hpos : 0 < s.greatestCount) (hle : b.least ≤ s.greatestCount) :
    ∃ counts, (Counts.ofBounds s b).toList = b.front ++ counts := by
  have hlast : 0 < b.most.getD s.greatestCount ∧ b.least ≤ b.most.getD s.greatestCount := by
    cases hm : b.most with
    | none => exact ⟨hpos, hle⟩
    | some m =>
      rw [hm] at hmost
      rw [Bounds.inOrder, hm] at horder
      simp only [Option.all_some, decide_eq_true_eq] at horder
      simp only [ne_eq, Option.some.injEq] at hmost
      exact ⟨Nat.pos_of_ne_zero hmost, horder⟩
  unfold Bounds.front Counts.ofBounds Counts.exampleEnd
  generalize b.most.getD s.greatestCount = last at hlast
  generalize b.least = least at hlast
  by_cases hzero : least = 0
  · rw [if_pos hzero, hzero]
    cases s.mode with
    | exhaustive =>
      obtain ⟨k, hk⟩ : ∃ k, last + 1 - 0 = k + 1 + 1 := ⟨last - 1, by omega⟩
      simp only [Counts.toList, hk, List.range'_succ]
      exact ⟨_, rfl⟩
    | examples =>
      have hone : Counts.doubled 0 ≤ min last (4 * (0 + 1)) := le_min hlast.1 (by decide)
      simp only [Counts.toList]
      rw [Counts.doublings, if_pos hone, Counts.doublings]
      exact ⟨_, rfl⟩
  · rw [if_neg hzero]
    cases s.mode with
    | exhaustive =>
      obtain ⟨k, hk⟩ : ∃ k, last + 1 - least = k + 1 := ⟨last - least, by omega⟩
      simp only [Counts.toList, hk, List.range'_succ]
      exact ⟨_, rfl⟩
    | examples =>
      simp only [Counts.toList]
      rw [Counts.doublings]
      exact ⟨_, rfl⟩

variable [Compiler]

theorem items_of_isListable_eq_false (h : p.isListable s.alphabets = false) :
    ∃ e, items s p = [.error e] := by
  cases p with
  | anchor x =>
    have hx : x.isEnd = false := h
    exact ⟨.anchor x, by rw [items, anchorItems, if_neg (by simp [hx])]⟩
  | group kind ps =>
    have hkind : kind.isPlain = false := h
    exact ⟨.group kind, by rw [items_group, if_neg (by simp [hkind])]⟩
  | shorthand tag =>
    rw [Pattern.isListable, Bool.or_eq_false_iff] at h
    obtain ⟨hnamed, hempty⟩ := h
    have hnone : s.alphabets.named? tag = none := by simpa using hnamed
    obtain ⟨e, he⟩ := sampled_eq s.alphabets (Pattern.shorthand tag).text
    refine ⟨e, ?_⟩
    rw [items, shorthandItems, hnone]
    simp only [Alphabets.shorthand, hnone, Option.getD_none, Bool.not_eq_false',
      List.isEmpty_iff] at hempty
    rw [he, if_pos hempty]
  | bracket ms negated text =>
    simp only [Pattern.isListable, Bool.or_eq_false_iff, Bool.not_eq_false', List.isEmpty_iff] at h
    obtain ⟨rfl, hempty⟩ := h
    obtain ⟨e, he⟩ := sampled_eq s.alphabets text
    exact ⟨e, by rw [items, he, if_pos hempty]⟩
  | reference id => exact ⟨.reference, rfl⟩
  | sequence | choice | repetition | literal | range | anyCharacter => cases h

/-- A part that fails makes the whole fail, wherever repetitions stop. -/
theorem exists_failsWithin_of_part (hparts : p.hidesParts = false) (hc : c ∈ p.children)
    (ho : p.isOrdered) (K : ℕ) :
    ∃ K', ∀ N, 0 < N → p.isWithin N → FailsWithin K (items { s with greatestCount := N } c) →
      FailsWithin K' (items { s with greatestCount := N } p) := by
  cases p with
  | sequence ps =>
    refine ⟨K ^ ps.length + 1, fun N _ _ h ↦ ?_⟩
    have hjoined := failsWithin_joined h (List.mem_map_of_mem hc)
    rwa [List.length_map, ← items_sequence] at hjoined
  | choice ps =>
    refine ⟨ps.length * K, fun N _ _ h ↦ ?_⟩
    have hround := h.roundRobin (List.mem_map_of_mem hc)
    rwa [List.length_map, ← items_choice] at hround
  | group kind ps =>
    have hplain : kind.isPlain := by simpa [Pattern.hidesParts] using hparts
    refine ⟨K ^ ps.length + 1, fun N _ _ h ↦ ?_⟩
    have hjoined := failsWithin_joined h (List.mem_map_of_mem hc)
    rw [items_group, if_pos hplain]
    rwa [List.length_map] at hjoined
  | repetition b greedy p =>
    obtain rfl := List.mem_singleton.1 hc
    have hmost : b.most ≠ some 0 := by simpa [Pattern.hidesParts] using hparts
    obtain ⟨K', hK'⟩ := exists_failsWithin_repeated K b.exists_mem_front
    refine ⟨K', fun N hN hle h ↦ ?_⟩
    have hleast : b.least ≤ N := by simpa [Pattern.isWithin] using hle
    obtain ⟨counts, hcounts⟩ :=
      exists_toList_ofBounds_eq (s := { s with greatestCount := N }) hmost ho hN hleast
    rw [items, hcounts]
    exact hK' _ counts h
  | bracket ps negated text =>
    obtain rfl : negated = false := hparts
    have hmem : c ∈ ps := hc
    refine ⟨ps.length * K, fun N _ _ h ↦ ?_⟩
    have hround := h.roundRobin (List.mem_map_of_mem hmem)
    rwa [List.length_map, ← items_bracket ps text] at hround
  | anchor | literal | range | shorthand | anyCharacter | reference => cases hc

/-- A pattern that may fail does so within a number of items that does not depend on where
repetitions stop. -/
theorem exists_failsWithin_items (h : p.MayFail s.alphabets) (ho : ∀ q ∈ p.nodes, q.isOrdered) :
    ∃ K, ∀ N, 0 < N → (∀ q ∈ p.nodes, q.isWithin N) →
      FailsWithin K (items { s with greatestCount := N } p) := by
  obtain ⟨q, hlive, hlist⟩ := h
  induction hlive with
  | self q =>
    refine ⟨1, fun N _ _ ↦ ?_⟩
    obtain ⟨e, he⟩ := items_of_isListable_eq_false (s := { s with greatestCount := N }) hlist
    rw [he]
    exact ⟨e, by simp⟩
  | part hparts hc _ ih =>
    obtain ⟨hop, hoc⟩ := Pattern.forall_mem_nodes.1 ho
    obtain ⟨K, hK⟩ := ih (hoc _ hc) hlist
    obtain ⟨K', hK'⟩ := exists_failsWithin_of_part hparts hc hop K
    refine ⟨K', fun N hN hwithin ↦ ?_⟩
    obtain ⟨hwp, hwc⟩ := Pattern.forall_mem_nodes.1 hwithin
    exact hK' N hN hwp (hK N hN (hwc _ hc))

theorem accepted_eq_nil_of_error_mem {a : Alphabets} {text : String} {e : Obstacle}
    (h : .error e ∈ sampled text a.candidates) : a.accepted text = [] := by
  obtain ⟨e', he'⟩ := sampled_eq a text
  by_contra hne
  rw [he', if_neg hne] at h
  exact error_notMem_letters _ e h

theorem exists_of_mem_map {ps : List Pattern}
    (h : ∃ is ∈ ps.map (items s), ∃ e, .error e ∈ is) : ∃ c ∈ ps, ∃ e, .error e ∈ items s c := by
  obtain ⟨is, his, he⟩ := h
  obtain ⟨c, hc, rfl⟩ := List.mem_map.1 his
  exact ⟨c, hc, he⟩

theorem exists_part_of_error_mem (ho : p.isOrdered) {e : Obstacle} (h : .error e ∈ items s p) :
    p.isListable s.alphabets = false ∨
      p.hidesParts = false ∧ ∃ c ∈ p.children, ∃ e, .error e ∈ items s c := by
  cases p with
  | sequence ps =>
    rw [items_sequence] at h
    exact .inr ⟨rfl, exists_of_mem_map (error_mem_of_error_mem_joined h)⟩
  | choice ps =>
    rw [items_choice] at h
    exact .inr ⟨rfl, exists_of_mem_map (error_mem_of_error_mem_roundRobin h)⟩
  | anchor x =>
    by_cases hx : x.isEnd
    · rw [items, anchorItems, if_pos hx] at h
      simp at h
    · exact .inl (by simpa [Pattern.isListable] using hx)
  | group kind ps =>
    by_cases hkind : kind.isPlain
    · rw [items_group, if_pos hkind] at h
      exact .inr ⟨by simp [Pattern.hidesParts, hkind],
        exists_of_mem_map (error_mem_of_error_mem_joined h)⟩
    · exact .inl (by simpa [Pattern.isListable] using hkind)
  | repetition b greedy p =>
    rw [items] at h
    obtain ⟨⟨n, hn, hpos⟩, hbody⟩ := error_mem_of_error_mem_repeated h
    have hmost : b.most ≠ some 0 := by
      intro hzero
      have hle := (Counts.admits_of_mem ho hn).2 0 hzero
      omega
    exact .inr ⟨by simp [Pattern.hidesParts, hmost], p, List.mem_singleton_self p, hbody⟩
  | literal c => exact absurd h (error_notMem_letters [c] e)
  | range first last => exact absurd h (error_notMem_letters _ e)
  | shorthand tag =>
    rw [items, shorthandItems] at h
    rw [Pattern.isListable, Alphabets.shorthand]
    cases hnamed : s.alphabets.named? tag with
    | some cs =>
      rw [hnamed] at h
      exact absurd h (error_notMem_letters cs e)
    | none =>
      rw [hnamed] at h
      simp [accepted_eq_nil_of_error_mem h]
  | bracket ps negated text =>
    cases negated with
    | false =>
      rw [items_bracket] at h
      exact .inr ⟨rfl, exists_of_mem_map (error_mem_of_error_mem_roundRobin h)⟩
    | true =>
      rw [items] at h
      exact .inl (by simp [Pattern.isListable, accepted_eq_nil_of_error_mem h])
  | anyCharacter => exact absurd h (error_notMem_letters _ e)
  | reference id => exact .inl rfl

theorem mayFail_of_error_mem (ho : ∀ q ∈ p.nodes, q.isOrdered) (h : ∃ e, .error e ∈ items s p) :
    p.MayFail s.alphabets := by
  induction p using Pattern.children_induction with
  | h p ih =>
    obtain ⟨hop, hoc⟩ := Pattern.forall_mem_nodes.1 ho
    obtain ⟨e, he⟩ := h
    rw [Pattern.mayFail_iff]
    obtain hlist | ⟨hparts, c, hc, hce⟩ := exists_part_of_error_mem hop he
    · exact .inl hlist
    · exact .inr ⟨hparts, c, hc, ih c hc (hoc c hc) hce⟩

variable {l : Listing}

theorem exists_run_of_failsWithin {K : ℕ} (h : Lists reply l is) (hfails : FailsWithin K is)
    (w : Workspace) :
    ∃ rs t e, rs.length = K ∧ Run advance (l, w) rs t ∧ some (.error e) ∈ rs := by
  obtain ⟨e, he⟩ := failsWithin_upToError.2 hfails
  obtain ⟨k, hk⟩ := List.mem_iff_getElem?.1 he
  obtain ⟨hlt, -⟩ := List.getElem?_eq_some_iff.1 hk
  rw [List.length_take] at hlt
  have hkK : k < K := by omega
  rw [List.getElem?_take_of_lt hkK] at hk
  have hlen : ((List.range K).map fun k ↦ (upToError is)[k]?).length = K := by simp
  obtain ⟨t, ht⟩ := (exists_run_iff h w _).2 (congrArg _ (congrArg List.range hlen).symm)
  exact ⟨_, t, e, hlen, ht, List.mem_map.2 ⟨k, List.mem_range.2 hkK, hk⟩⟩

theorem error_mem_of_run (h : Lists reply l is) {w : Workspace} {rs : List (Option Item)}
    {t : Listing × Workspace} (hr : Run advance (l, w) rs t) {e : Obstacle}
    (he : some (.error e) ∈ rs) : .error e ∈ is := by
  rw [(exists_run_iff h w rs).1 ⟨t, hr⟩] at he
  obtain ⟨k, -, hk⟩ := List.mem_map.1 he
  exact (upToError_isPrefix is).mem (List.mem_of_getElem? hk)

/-- A listing gives an error if and only if it may come to a part that cannot be listed. It does so
after as many pulls wherever repetitions without a most stop, and behind an error as behind the end
nothing is left. -/
theorem fails_iff_mayFail (hpos : 0 < s.greatestCount) (ho : ∀ q ∈ p.nodes, q.isOrdered)
    (hwithin : ∀ q ∈ p.nodes, q.isWithin s.greatestCount) (w : Workspace) :
    ((∃ rs t e, Run advance (ofPattern s p, w) rs t ∧ some (.error e) ∈ rs) ↔
      p.MayFail s.alphabets) ∧
    (p.MayFail s.alphabets → ∃ K, ∀ N, 0 < N → (∀ q ∈ p.nodes, q.isWithin N) →
      ∃ rs t e, rs.length = K ∧
        Run advance (ofPattern { s with greatestCount := N } p, w) rs t ∧ some (.error e) ∈ rs) ∧
    ∀ rs t, Run advance (ofPattern s p, w) rs t →
      rs.Pairwise fun r r' ↦ (∀ v, r ≠ some (.ok v)) → r' = none := by
  have hfails (h : p.MayFail s.alphabets) : ∃ K, ∀ N, 0 < N → (∀ q ∈ p.nodes, q.isWithin N) →
      ∃ rs t e, rs.length = K ∧
        Run advance (ofPattern { s with greatestCount := N } p, w) rs t ∧ some (.error e) ∈ rs := by
    obtain ⟨K, hK⟩ := exists_failsWithin_items h ho
    exact ⟨K, fun N hN hN' ↦ exists_run_of_failsWithin (lists_ofPattern _ p) (hK N hN hN') w⟩
  refine ⟨⟨?_, fun h ↦ ?_⟩, hfails, fun rs t hr ↦ pairwise_of_run hr⟩
  · rintro ⟨rs, t, e, hr, he⟩
    exact mayFail_of_error_mem ho ⟨e, error_mem_of_run (lists_ofPattern s p) hr he⟩
  · obtain ⟨K, hK⟩ := hfails h
    obtain ⟨rs, t, e, -, hr, he⟩ := hK s.greatestCount hpos hwithin
    exact ⟨rs, t, e, hr, he⟩

end Patterns

def lateBoundary : Pattern :=
  .sequence [.repetition ⟨0, none⟩ true (.literal 'a'),
    .group .plain [.choice [.literal 'b', .anchor .wordBoundary]],
    .repetition ⟨0, some 0⟩ true (.reference 1)]

theorem fails_iff_mayFail_lateBoundary :
    (0 < (Settings.ofMode .exhaustive).greatestCount ∧ (∀ q ∈ lateBoundary.nodes, q.isOrdered) ∧
      ∀ q ∈ lateBoundary.nodes, q.isWithin (Settings.ofMode .exhaustive).greatestCount) ∧
    ((∃ rs t e, Run advance (ofPattern (.ofMode .exhaustive) lateBoundary, .empty) rs t ∧
        some (.error e) ∈ rs) ↔ lateBoundary.MayFail .exhaustive) ∧
    (lateBoundary.MayFail .exhaustive →
      ∃ K, ∀ N, 0 < N → (∀ q ∈ lateBoundary.nodes, q.isWithin N) →
        ∃ rs t e, rs.length = K ∧
          Run advance (ofPattern { Settings.ofMode .exhaustive with greatestCount := N }
            lateBoundary, .empty) rs t ∧ some (.error e) ∈ rs) ∧
    ∀ rs t, Run advance (ofPattern (.ofMode .exhaustive) lateBoundary, .empty) rs t →
      rs.Pairwise fun r r' ↦ (∀ v, r ≠ some (.ok v)) → r' = none :=
  ⟨⟨by decide, by decide, by decide⟩,
    fails_iff_mayFail (s := .ofMode .exhaustive) (by decide) (by decide) (by decide) .empty⟩

example : lateBoundary.MayFail .exhaustive :=
  ⟨.anchor .wordBoundary,
    .part rfl (.tail _ (.head _))
      (.part rfl (.head _) (.part rfl (.tail _ (.head _)) (.self _))), rfl⟩

end Listing

end RegexWords
