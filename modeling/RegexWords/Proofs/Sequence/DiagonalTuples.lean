import RegexWords.Proofs.Sequence.Answers
import RegexWords.Proofs.Sequence.DiagonalOrder
import RegexWords.Proofs.Sequence.RoundRobin
import RegexWords.Sequence.Diagonal

namespace RegexWords

variable {σ α ε : Type}

/-- The tuple at a vector has at every place the item that the vector names there. -/
def IsTuple (item : ℕ → ℕ → Option α) (v : List ℕ) (as : List α) : Prop :=
  as.length = v.length ∧ ∀ i j, v[i]? = some j → as[i]? = item i j

theorem IsTuple.unique {item : ℕ → ℕ → Option α} {v : List ℕ} {as bs : List α}
    (h : IsTuple item v as) (h' : IsTuple item v bs) : as = bs := by
  refine List.ext_getElem? fun i ↦ ?_
  cases hv : v[i]? with
  | some j => rw [h.2 i j hv, h'.2 i j hv]
  | none =>
    rw [List.getElem?_eq_none_iff] at hv
    rw [List.getElem?_eq_none (h.1 ▸ hv), List.getElem?_eq_none (h'.1 ▸ hv)]

def pick (lists : List (List α)) (v : List ℕ) : List α :=
  (lists.zip v).filterMap fun p ↦ p.1[p.2]?

theorem isTuple_pick {lists : List (List α)} {v : List ℕ}
    (h : List.Forall₂ (fun j l ↦ j < l.length) v lists) :
    IsTuple (fun i j ↦ itemAt lists j i) v (pick lists v) := by
  induction h with
  | nil => exact ⟨rfl, by simp⟩
  | @cons j l v lists hj _ ih =>
    have hp : pick (l :: lists) (j :: v) = l[j] :: pick lists v := by
      simp [pick, List.getElem?_eq_getElem hj]
    rw [hp]
    refine ⟨congrArg (· + 1) ih.1, fun i k hk ↦ ?_⟩
    cases i with
    | zero =>
      cases hk
      simp [itemAt, List.getElem?_eq_getElem hj]
    | succ i => exact ih.2 i k hk

namespace Grid

theorem tuple_eq_pick (g : Grid α) (v : List ℕ) : g.tuple v = pick (g.seen.map Array.toList) v := by
  simp only [tuple, pick, List.zip_map_left, List.filterMap_map]
  apply List.filterMap_congr
  intro p _
  simp

theorem mem_newest {seen : List (Array α)} {factor : ℕ} {v : List ℕ} :
    v ∈ Box.vectors (newest seen factor) ↔
      v.length = seen.length ∧ ∀ k j values, v[k]? = some j → seen[k]? = some values →
        (k = factor → values.size - 1 ≤ j) ∧ j < values.size := by
  rw [Box.mem_vectors, forall₂_iff_getElem?, newest, List.length_mapIdx]
  refine and_congr_right fun _ ↦ ⟨fun h k j values hj hv ↦ ?_, fun h k j r hj hr ↦ ?_⟩
  · have hr := h k j _ hj (by rw [List.getElem?_mapIdx, hv]; rfl)
    refine ⟨fun hk ↦ ?_, hr.2⟩
    simpa [Box.InRange, hk] using hr.1
  · rw [List.getElem?_mapIdx, Option.map_eq_some_iff] at hr
    obtain ⟨values, hv, rfl⟩ := hr
    obtain ⟨hlow, hhigh⟩ := h k j values hj hv
    refine ⟨?_, hhigh⟩
    dsimp only
    split
    · next hk => exact hlow hk
    · omega

end Grid

namespace Diagonal

variable {next : σ → Step σ (Except ε α)} {i : ℕ} {s : σ} {rest : List (ℕ × σ)} {g : Grid α}

theorem pulls_of_ended {r : Option (Except ε (List α) × Diagonal σ α)} (hg : g.pop? = none)
    (h : Pulls next s none) (hr : Pulls (step (m := Id) next) ⟨rest, g⟩ r) :
    Pulls (step (m := Id) next) ⟨(i, s) :: rest, g⟩ r := by
  generalize hn : none = p at h
  induction h with
  | ended hs => exact .skip (t := ⟨rest, g⟩) (by simp only [step, hg, hs]; rfl) hr
  | yield => cases hn
  | @skip s t _ hs _ ih =>
    exact .skip (t := ⟨(i, t) :: rest, g⟩) (by simp only [step, hg, hs]; rfl) (ih hn)

theorem pulls_of_value {a : α} {t : σ} {r : Option (Except ε (List α) × Diagonal σ α)}
    (hg : g.pop? = none) (h : Pulls next s (some (.ok a, t)))
    (hr : Pulls (step (m := Id) next) ⟨rest ++ [(i, t)], g.add i a⟩ r) :
    Pulls (step (m := Id) next) ⟨(i, s) :: rest, g⟩ r := by
  generalize hn : some ((.ok a : Except ε α), t) = p at h
  induction h with
  | ended => cases hn
  | yield hs => cases hn; exact .skip (by simp only [step, hg, hs]; rfl) hr
  | @skip s t _ hs _ ih =>
    exact .skip (t := ⟨(i, t) :: rest, g⟩) (by simp only [step, hg, hs]; rfl) (ih hn)

theorem pulls_of_error {e : ε} {t : σ} (hg : g.pop? = none)
    (h : Pulls next s (some (.error e, t))) :
    Pulls (step (m := Id) next) ⟨(i, s) :: rest, g⟩ (some (.error e, ⟨[], g⟩)) := by
  generalize hn : some ((.error e : Except ε α), t) = p at h
  induction h with
  | ended => cases hn
  | yield hs => cases hn; exact .yield (by simp only [step, hg, hs]; rfl)
  | @skip s t _ hs _ ih =>
    exact .skip (t := ⟨(i, t) :: rest, g⟩) (by simp only [step, hg, hs]; rfl) (ih hn)

/-- Item `j` of factor `i` is `q i j`, and the first `count i` of them are seen. The tuples listed
so far are those in `E`, and the vectors in `stage` are those whose tuples come next. -/
structure Reached (next : σ → Step σ (Except ε α)) (q : ℕ → ℕ → Option (Except ε α)) (n : ℕ)
    (count : ℕ → ℕ) (live : List ℕ) (E : List (List ℕ × List α)) (stage : List (List ℕ))
    (d : Diagonal σ α) : Prop where
  rotation : Rotation count live
  sources : List.Forall₂ (fun i p ↦ p.1 = i ∧ Gives next p.2 fun k ↦ q i (count i + k))
    live d.queue
  lt_of_live : ∀ i ∈ live, i < n
  ended : ∀ i < n, i ∉ live → q i (count i) = none
  length_seen : d.grid.seen.length = n
  seen : ∀ i values, d.grid.seen[i]? = some values →
    values.size = count i ∧ ∀ j a, values[j]? = some a → q i j = some (.ok a)
  holds : d.grid.stage.Holds stage
  sorted : (E.map Prod.fst ++ stage).Pairwise fun v w ↦ key v < key w
  mem_iff : ∀ v, v ∈ E.map Prod.fst ++ stage ↔ InBox n count v
  isTuple : ∀ x ∈ E, IsTuple (fun i j ↦ (q i j).bind Except.toOption) x.1 x.2

def Closed {β : Type} (q : ℕ → ℕ → Option β) (n : ℕ) : Prop :=
  ∀ i < n, ∀ j k, j ≤ k → q i j = none → q i k = none

def IsFirstError (q : ℕ → ℕ → Option (Except ε α)) (n : ℕ) : Option ((ℕ × ℕ) × ε) → Prop
  | none => ∀ i < n, ∀ j e, q i j ≠ some (.error e)
  | some x => x.1.2 < n ∧ q x.1.2 x.1.1 = some (.error x.2) ∧
      ∀ i < n, ∀ j e, q i j = some (.error e) → place x.1.1 x.1.2 ≤ place j i

def Before (stop : Option ((ℕ × ℕ) × ε)) (j i : ℕ) : Prop :=
  ∀ x ∈ stop, place j i < place x.1.1 x.1.2

def Listed (q : ℕ → ℕ → Option (Except ε α)) (n : ℕ) (stop : Option ((ℕ × ℕ) × ε))
    (v : List ℕ) : Prop :=
  v.length = n ∧ ∀ i j, v[i]? = some j → q i j ≠ none ∧ Before stop j i

/-- A reason why a pull ends: no factor is empty, or none has an item with number `B`, or an item
with a lower number is an error. -/
def Settles (q : ℕ → ℕ → Option (Except ε α)) (n B : ℕ) : Prop :=
  (0 < B ∧ ∀ i < n, q i 0 ≠ none) ∨ (∀ i < n, q i B = none) ∨
    ∃ i < n, ∃ j < B, ∃ e, q i j = some (.error e)

namespace Reached

variable {q : ℕ → ℕ → Option (Except ε α)} {n : ℕ} {count : ℕ → ℕ} {live : List ℕ}
  {E : List (List ℕ × List α)} {v : List ℕ} {stage : List (List ℕ)} {d : Diagonal σ α}
  {queue : List (ℕ × σ)}

theorem start {factors : List σ} (h : ∀ i (hi : i < factors.length), Gives next factors[i] (q i)) :
    Reached next q factors.length (fun _ ↦ 0) (List.range factors.length) []
      (if factors = [] then [[]] else []) (.ofFactors factors) where
  rotation := .start _
  sources := by
    refine forall₂_iff_getElem?.2 ⟨by simp [ofFactors], fun k i p hi hp ↦ ?_⟩
    obtain ⟨hk, rfl⟩ := List.getElem?_eq_some_iff.1 hi
    rw [ofFactors, List.getElem?_mapIdx, Option.map_eq_some_iff] at hp
    obtain ⟨s, hs, rfl⟩ := hp
    obtain ⟨hk', rfl⟩ := List.getElem?_eq_some_iff.1 hs
    simpa using h k hk'
  lt_of_live := by simp
  ended i hi hl := absurd (List.mem_range.2 hi) hl
  length_seen := by simp [ofFactors, Grid.ofFactors, Grid.ofLists]
  seen i values hv := by
    simp only [ofFactors, Grid.ofFactors, Grid.ofLists, List.getElem?_replicate,
      Option.ite_none_right_eq_some, Option.some.injEq] at hv
    rw [← hv.2]
    simp
  holds := by
    have hv := Box.holds_ofRanges (List.replicate factors.length (0, 0))
    cases factors with
    | nil => exact hv
    | cons s factors =>
      have hz : Box.vectors (List.replicate (s :: factors).length (0, 0)) = [] := by
        simp [List.replicate_succ, Box.vectors]
      rw [hz] at hv
      simpa [ofFactors, Grid.ofFactors, Grid.ofLists, Box.ofSizes] using hv
  sorted := by split <;> simp
  mem_iff v := by
    cases factors with
    | nil => simp +contextual [InBox]
    | cons s factors =>
      simp only [List.map_nil, List.nil_append, reduceCtorEq, if_false, List.not_mem_nil,
        false_iff]
      rintro ⟨hlen, hv⟩
      cases v with
      | nil => cases hlen
      | cons j v => exact Nat.not_lt_zero j (hv 0 j rfl)
  isTuple := by simp

theorem isTuple_tuple (h : Reached next q n count live E stage d) (hv : InBox n count v) :
    IsTuple (fun i j ↦ (q i j).bind Except.toOption) v (d.grid.tuple v) := by
  have hlen : v.length = (d.grid.seen.map Array.toList).length := by
    rw [List.length_map, h.length_seen, hv.1]
  have hbox : List.Forall₂ (fun j l ↦ j < l.length) v (d.grid.seen.map Array.toList) := by
    refine forall₂_iff_getElem?.2 ⟨hlen, fun i j l hj hl ↦ ?_⟩
    rw [List.getElem?_map, Option.map_eq_some_iff] at hl
    obtain ⟨values, hvalues, rfl⟩ := hl
    rw [Array.length_toList, (h.seen i values hvalues).1]
    exact hv.2 i j hj
  have ht := isTuple_pick hbox
  rw [Grid.tuple_eq_pick]
  refine ⟨ht.1, fun i j hj ↦ (ht.2 i j hj).trans ?_⟩
  have hi : i < d.grid.seen.length := by
    rw [h.length_seen, ← hv.1]
    exact (List.getElem?_eq_some_iff.1 hj).1
  obtain ⟨hsize, hseen⟩ := h.seen i _ (List.getElem?_eq_getElem hi)
  have hlt : j < d.grid.seen[i].size := hsize ▸ hv.2 i j hj
  have hq := hseen j _ (Array.getElem?_eq_getElem hlt)
  simp [itemAt, hi, hlt, hq, Except.toOption]

theorem pop (h : Reached next q n count live E (v :: stage) d) :
    ∃ grid, d.grid.pop? = some (d.grid.tuple v, grid) ∧
      Reached next q n count live (E ++ [(v, d.grid.tuple v)]) stage ⟨d.queue, grid⟩ := by
  have hholds := h.holds
  cases hholds with
  | @cons _ box _ _ hpop hbox =>
    have happ : (E ++ [(v, d.grid.tuple v)]).map Prod.fst ++ stage =
        E.map Prod.fst ++ v :: stage := by simp
    refine ⟨⟨d.grid.seen, box⟩, by simp only [Grid.pop?, hpop, Option.map_some], ?_⟩
    refine { h with
      holds := hbox
      sorted := happ ▸ h.sorted
      mem_iff := happ ▸ h.mem_iff
      isTuple := fun x hx ↦ ?_ }
    rcases List.mem_append.1 hx with hx | hx
    · exact h.isTuple x hx
    · rw [List.mem_singleton.1 hx]
      exact h.isTuple_tuple ((h.mem_iff v).1 (by simp))

theorem pull_tuple (h : Reached next q n count live E (v :: stage) d) :
    ∃ as d', Pulls (step (m := Id) next) d (some (.ok as, d')) ∧
      Reached next q n count live (E ++ [(v, as)]) stage d' := by
  obtain ⟨grid, hpop, h'⟩ := h.pop
  exact ⟨_, _, .yield (by simp only [step, hpop]; rfl), h'⟩

theorem drop {i : ℕ} {p : ℕ × σ} {g : Grid α}
    (h : Reached next q n count (i :: live) E stage ⟨p :: queue, g⟩)
    (hi : q i (count i) = none) : Reached next q n count live E stage ⟨queue, g⟩ :=
  { h with
    rotation := h.rotation.drop
    sources := (List.forall₂_cons.1 h.sources).2
    lt_of_live := fun k hk ↦ h.lt_of_live k (List.mem_cons_of_mem i hk)
    ended := fun k hk hl ↦ by
      by_cases he : k = i
      · rw [he]
        exact hi
      · exact h.ended k hk (by simp [he, hl]) }

theorem seen_add {i : ℕ} {a : α} {g : Grid α}
    (h : Reached next q n count live E stage ⟨queue, g⟩) (hi : q i (count i) = some (.ok a))
    {k : ℕ} {values : Array α} (hk : (g.add i a).seen[k]? = some values) :
    values.size = Function.update count i (count i + 1) k ∧
      ∀ j b, values[j]? = some b → q k j = some (.ok b) := by
  simp only [Grid.add, List.getElem?_modify] at hk
  obtain ⟨old, hold, rfl⟩ := Option.map_eq_some_iff.1 hk
  obtain ⟨hsize, hq⟩ := h.seen k old hold
  by_cases he : i = k
  · subst he
    simp only [if_true, Array.size_push, Function.update_self, hsize, true_and]
    intro j b hb
    rw [Array.getElem?_push] at hb
    split at hb
    · next hj =>
      cases hb
      rw [hj, hsize]
      exact hi
    · exact hq j b hb
  · simp only [he, if_false, Function.update_of_ne (Ne.symm he)]
    exact ⟨hsize, hq⟩

theorem mem_stage_add {i : ℕ} {a : α} {g : Grid α}
    (h : Reached next q n count live E stage ⟨queue, g⟩) (hi : q i (count i) = some (.ok a))
    (hin : i < n) :
    v ∈ Box.vectors (Grid.newest (g.add i a).seen i) ↔
      InBox n (Function.update count i (count i + 1)) v ∧ v[i]? = some (count i) := by
  have hlen : (g.add i a).seen.length = n := by
    rw [Grid.add, List.length_modify]
    exact h.length_seen
  have hget : ∀ k, k < n → ∃ values, (g.add i a).seen[k]? = some values :=
    fun k hk ↦ ⟨_, List.getElem?_eq_getElem (hlen.symm ▸ hk)⟩
  rw [Grid.mem_newest, hlen]
  constructor
  · rintro ⟨hv, hvk⟩
    have hbox : ∀ k j, v[k]? = some j →
        (k = i → count i ≤ j) ∧ j < Function.update count i (count i + 1) k := by
      intro k j hj
      obtain ⟨values, hvalues⟩ := hget k (hv ▸ (List.getElem?_eq_some_iff.1 hj).1)
      have hsize := (h.seen_add hi hvalues).1
      obtain ⟨hlow, hhigh⟩ := hvk k j values hj hvalues
      refine ⟨fun hk ↦ ?_, hsize ▸ hhigh⟩
      have hlow := hlow hk
      rw [hk, Function.update_self] at hsize
      omega
    refine ⟨⟨hv, fun k j hj ↦ (hbox k j hj).2⟩, ?_⟩
    have hvi : v[i]? = some v[i] := List.getElem?_eq_getElem (hv.symm ▸ hin)
    obtain ⟨hlow, hhigh⟩ := hbox i _ hvi
    rw [Function.update_self] at hhigh
    have heq : v[i] = count i := by
      have hlow := hlow rfl
      omega
    rw [hvi, heq]
  · rintro ⟨⟨hv, hbox⟩, hvi⟩
    refine ⟨hv, fun k j values hj hvalues ↦ ?_⟩
    have hsize := (h.seen_add hi hvalues).1
    refine ⟨fun hk ↦ ?_, hsize ▸ hbox k j hj⟩
    rw [hk] at hj hsize
    rw [hvi, Option.some.injEq] at hj
    rw [Function.update_self] at hsize
    omega

theorem turn {i : ℕ} {s t : σ} {a : α} {g : Grid α}
    (h : Reached next q n count (i :: live) E [] ⟨(i, s) :: queue, g⟩)
    (hi : q i (count i) = some (.ok a)) (ht : Gives next t fun k ↦ q i (count i + (k + 1))) :
    Reached next q n (Function.update count i (count i + 1)) (live ++ [i]) E
      (Box.vectors (Grid.newest (g.add i a).seen i)) ⟨queue ++ [(i, t)], g.add i a⟩ := by
  have hin := h.lt_of_live i List.mem_cons_self
  have hstage (v) := h.mem_stage_add (v := v) hi hin
  have hmem (v) : v ∈ E.map Prod.fst ↔ InBox n count v := by
    simpa only [List.append_nil] using h.mem_iff v
  constructor
  case rotation => exact h.rotation.turn
  case sources =>
    apply h.rotation.forall₂_turn h.sources
    · rintro k hk p ⟨hp, hg⟩
      exact ⟨hp, by rwa [Function.update_of_ne hk]⟩
    · exact ⟨rfl, by simpa only [Function.update_self, Nat.add_assoc, Nat.add_comm 1] using ht⟩
  case lt_of_live =>
    intro k hk
    exact h.lt_of_live k ((List.perm_append_singleton i live).mem_iff.1 hk)
  case ended =>
    intro k hk hl
    rw [(List.perm_append_singleton i live).mem_iff] at hl
    rw [Function.update_of_ne (List.ne_of_not_mem_cons hl)]
    exact h.ended k hk hl
  case length_seen =>
    rw [Grid.add, List.length_modify]
    exact h.length_seen
  case seen => exact fun k values hk ↦ h.seen_add hi hk
  case holds => exact Box.holds_ofRanges _
  case sorted =>
    refine sorted_append_stage h.rotation hin ?_ (fun v hv ↦ (hmem v).1 hv)
      (Box.pairwise_vectors _) fun v hv ↦ ?_
    · simpa only [List.append_nil] using h.sorted
    · obtain ⟨⟨-, hbox⟩, hvi⟩ := (hstage v).1 hv
      refine ⟨hvi, fun k hk j hj ↦ ?_⟩
      simpa only [Function.update_of_ne hk] using hbox k j hj
  case mem_iff =>
    intro v
    rw [List.mem_append, hmem, hstage]
    exact (inBox_update hin).symm
  case isTuple => exact h.isTuple

theorem ok_of_lt_count (h : Reached next q n count live E stage d) {k j : ℕ} (hk : k < n)
    (hj : j < count k) : ∃ a, q k j = some (.ok a) := by
  obtain ⟨hsize, hq⟩ := h.seen k _ (List.getElem?_eq_getElem (h.length_seen.symm ▸ hk))
  exact ⟨_, hq j _ (Array.getElem?_eq_getElem (hsize.symm ▸ hj))⟩

theorem count_le_of_error (h : Reached next q n count live E stage d) {k j : ℕ} {e : ε}
    (hk : k < n) (he : q k j = some (.error e)) : count k ≤ j := by
  by_contra hlt
  obtain ⟨a, ha⟩ := h.ok_of_lt_count hk (not_le.1 hlt)
  rw [he] at ha
  cases ha

theorem mem_live (h : Reached next q n count live E stage d) (hq : Closed q n) {k j : ℕ}
    (hk : k < n) (hj : count k ≤ j) (hne : q k j ≠ none) : k ∈ live := by
  by_contra hl
  exact hne (hq k hk _ _ hj (h.ended k hk hl))

theorem lt_count_of_place_lt {i : ℕ} (h : Reached next q n count (i :: live) E stage d)
    (hq : Closed q n) {k j : ℕ} (hk : k < n) (hne : q k j ≠ none)
    (hlt : place j k < place (count i) i) : j < count k := by
  by_contra hj
  have hfront := h.rotation.front_le (h.mem_live hq hk (not_lt.1 hj) hne)
  simp only [place_lt_place, place_le_place] at hlt hfront
  omega

/-- When a new item begins no stage, another factor has nothing seen. -/
theorem exists_count_eq_zero {i : ℕ} {a : α} {g : Grid α}
    (h : Reached next q n count (i :: live) E [] ⟨queue, g⟩) (hi : q i (count i) = some (.ok a))
    (hnil : Box.vectors (Grid.newest (g.add i a).seen i) = []) : ∃ k < n, k ≠ i ∧ count k = 0 := by
  have hin := h.lt_of_live i List.mem_cons_self
  by_contra hall
  have hmem : (List.range n).map (fun k ↦ if k = i then count i else 0) ∈
      Box.vectors (Grid.newest (g.add i a).seen i) := by
    refine (h.mem_stage_add hi hin).2 ⟨⟨by simp, fun k j hj ↦ ?_⟩, by simp [hin]⟩
    obtain ⟨l, hl, rfl⟩ := Option.map_eq_some_iff.1 (List.getElem?_map ▸ hj)
    obtain ⟨hkn, rfl⟩ := List.getElem?_eq_some_iff.1 hl
    simp only [List.length_range, List.getElem_range] at hkn ⊢
    by_cases hki : k = i
    · simp [hki]
    · rw [Function.update_of_ne hki, if_neg hki]
      by_contra hz
      exact hall ⟨k, hkn, hki, by omega⟩
  rw [hnil] at hmem
  cases hmem

theorem count_lt_of_stage_eq_nil {i B : ℕ} {a : α} {g : Grid α}
    (h : Reached next q n count (i :: live) E [] ⟨queue, g⟩) (hq : Closed q n)
    (hB : Settles q n B) (hi : q i (count i) = some (.ok a))
    (hnil : Box.vectors (Grid.newest (g.add i a).seen i) = []) : count i < B := by
  have hin := h.lt_of_live i List.mem_cons_self
  obtain ⟨hpos, hne⟩ | hend | ⟨k, hk, j, hj, e, he⟩ := hB
  · obtain ⟨k, hk, -, hz⟩ := h.exists_count_eq_zero hi hnil
    have hfront := h.rotation.front_le (h.mem_live hq hk hz.le (hne k hk))
    rw [hz, place_le_place] at hfront
    omega
  · by_contra hle
    rw [hq i hin _ _ (not_lt.1 hle) (hend i hin)] at hi
    cases hi
  · have hle := h.count_le_of_error hk he
    have hfront := h.rotation.front_le (h.mem_live hq hk hle (by simp [he]))
    rw [place_le_place] at hfront
    omega

theorem pop_eq_none (h : Reached next q n count live E [] d) : d.grid.pop? = none := by
  have hholds := h.holds
  cases hholds with
  | nil hpop => simp only [Grid.pop?, hpop, Option.map_none]

/-- How often the live factors can still be asked for an item with a number up to `B`. -/
def budget (count : ℕ → ℕ) (B : ℕ) : List ℕ → ℕ
  | [] => 0
  | i :: live => B - count i + 1 + budget count B live

theorem budget_turn {i B : ℕ} (hi : i ∉ live) (hlt : count i < B) :
    budget (Function.update count i (count i + 1)) B (live ++ [i]) <
      budget count B (i :: live) := by
  have hlast : budget (Function.update count i (count i + 1)) B (live ++ [i]) =
      budget count B live + (B - (count i + 1) + 1) := by
    induction live with
    | nil => simp [budget]
    | cons k live ih =>
      rw [List.mem_cons, not_or] at hi
      rw [List.cons_append, budget, budget, ih hi.2, Function.update_of_ne (Ne.symm hi.1)]
      omega
  rw [hlast, budget]
  omega

inductive Outcome (next : σ → Step σ (Except ε α)) (q : ℕ → ℕ → Option (Except ε α)) (n : ℕ)
    (E : List (List ℕ × List α)) (d : Diagonal σ α) : Prop
  | tuple {x : List ℕ × List α} {d' : Diagonal σ α} {count : ℕ → ℕ} {live : List ℕ}
      {stage : List (List ℕ)} :
      Pulls (step (m := Id) next) d (some (.ok x.2, d')) →
      Reached next q n count live (E ++ [x]) stage d' → Outcome next q n E d
  | ended {d' : Diagonal σ α} {count : ℕ → ℕ} :
      Pulls (step (m := Id) next) d none → Reached next q n count [] E [] d' →
      Outcome next q n E d
  | failed {e : ε} {d' d'' : Diagonal σ α} {count : ℕ → ℕ} {i : ℕ} {live : List ℕ} :
      Pulls (step (m := Id) next) d (some (.error e, d')) →
      Pulls (step (m := Id) next) d' none → q i (count i) = some (.error e) →
      Reached next q n count (i :: live) E [] d'' → Outcome next q n E d

theorem Outcome.of_pulls {d' : Diagonal σ α}
    (hd : ∀ r, Pulls (step (m := Id) next) d' r → Pulls (step (m := Id) next) d r)
    (h : Outcome next q n E d') : Outcome next q n E d := by
  cases h with
  | tuple hp hr => exact .tuple (hd _ hp) hr
  | ended hp hr => exact .ended (hd _ hp) hr
  | failed hp hp' hi hr => exact .failed (hd _ hp) hp' hi hr

theorem outcome {B : ℕ} (hq : Closed q n) (hB : Settles q n B)
    (h : Reached next q n count live E stage d) : Outcome next q n E d := by
  -- A factor that ends or gives an item without a stage lowers the budget.
  generalize hm : budget count B live = m
  induction m using Nat.strong_induction_on generalizing count live stage d with
  | _ m ih =>
    cases stage with
    | cons v stage =>
      obtain ⟨as, d', hp, hr⟩ := h.pull_tuple
      exact .tuple (x := (v, as)) hp hr
    | nil =>
      obtain ⟨queue, g⟩ := d
      have hg : g.pop? = none := h.pop_eq_none
      cases live with
      | nil =>
        cases h.sources
        exact .ended (.ended (by simp only [step, hg]; rfl)) h
      | cons i live =>
        obtain ⟨⟨k, s⟩, queue, ⟨hk, hs⟩, -, rfl⟩ := List.forall₂_cons_left_iff.1 h.sources
        obtain rfl : k = i := hk
        obtain ⟨hp, hn⟩ | ⟨item, t, hp, h0, ht⟩ := hs.pull
        · have hlt : budget count B live < m := by
            rw [budget] at hm
            omega
          exact (ih _ hlt (h.drop (hn 0)) rfl).of_pulls fun r ↦ pulls_of_ended hg hp
        · cases item with
          | error e =>
            exact .failed (pulls_of_error hg hp) (.ended (by simp only [step, hg]; rfl)) h0 h
          | ok a =>
            have hturn := h.turn h0 ht
            refine Outcome.of_pulls (fun r ↦ pulls_of_value hg hp) ?_
            generalize hstage : Box.vectors (Grid.newest (g.add k a).seen k) = stage at hturn
            cases stage with
            | cons v stage =>
              obtain ⟨as, d', hp', hr⟩ := hturn.pull_tuple
              exact .tuple (x := (v, as)) hp' hr
            | nil =>
              have hlt := budget_turn h.rotation.front_notMem
                (h.count_lt_of_stage_eq_nil hq hB h0 hstage)
              exact ih _ (hm ▸ hlt) hturn rfl

theorem mem_iff_of_ended (h : Reached next q n count [] E [] d) (hq : Closed q n) :
    IsFirstError q n none ∧ ∀ v, v ∈ E.map Prod.fst ↔ Listed q n none v := by
  have hlt : ∀ i < n, ∀ j, q i j ≠ none → j < count i := by
    intro i hi j hne
    by_contra hj
    exact hne (hq i hi _ _ (not_lt.1 hj) (h.ended i hi (List.not_mem_nil)))
  refine ⟨fun i hi j e he ↦ ?_, fun v ↦ ?_⟩
  · exact absurd (hlt i hi j (by simp [he])) (not_lt.2 (h.count_le_of_error hi he))
  · have hm := h.mem_iff v
    rw [List.append_nil] at hm
    rw [hm]
    refine and_congr_right fun hlen ↦ forall₃_congr fun i j hj ↦ ?_
    have hi : i < n := hlen ▸ (List.getElem?_eq_some_iff.1 hj).1
    refine ⟨fun hji ↦ ⟨?_, by simp [Before]⟩, fun hne ↦ hlt i hi j hne.1⟩
    obtain ⟨a, ha⟩ := h.ok_of_lt_count hi hji
    simp [ha]

theorem mem_iff_of_failed {i : ℕ} {e : ε} (h : Reached next q n count (i :: live) E [] d)
    (hq : Closed q n) (hi : q i (count i) = some (.error e)) :
    IsFirstError q n (some ((count i, i), e)) ∧
      ∀ v, v ∈ E.map Prod.fst ↔ Listed q n (some ((count i, i), e)) v := by
  refine ⟨⟨h.lt_of_live i List.mem_cons_self, hi, fun k hk j e' he ↦ ?_⟩, fun v ↦ ?_⟩
  · by_contra hlt
    have hj := h.lt_count_of_place_lt hq hk (by simp [he]) (not_le.1 hlt)
    exact absurd hj (not_lt.2 (h.count_le_of_error hk he))
  · have hm := h.mem_iff v
    rw [List.append_nil] at hm
    rw [hm]
    refine and_congr_right fun hlen ↦ forall₃_congr fun k j hj ↦ ?_
    have hk : k < n := hlen ▸ (List.getElem?_eq_some_iff.1 hj).1
    refine ⟨fun hjk ↦ ⟨?_, ?_⟩, fun hb ↦ ?_⟩
    · obtain ⟨a, ha⟩ := h.ok_of_lt_count hk hjk
      simp [ha]
    · rintro x ⟨⟩
      exact h.rotation.taken_lt i List.mem_cons_self k j hjk
    · exact h.lt_count_of_place_lt hq hk hb.1 (hb.2 _ rfl)

theorem length_le {B : ℕ} (hq : Closed q n)
    (hB : (∀ i < n, q i B = none) ∨ ∃ i < n, ∃ j < B, ∃ e, q i j = some (.error e))
    (h : Reached next q n count live E stage d) :
    E.length ≤ (diagonalOrder (List.replicate n B)).length := by
  have hlt : ∀ k < n, ∀ j < count k, j < B := by
    intro k hk j hj
    obtain hend | ⟨i, hi, l, hl, e, he⟩ := hB
    · by_contra hle
      obtain ⟨a, ha⟩ := h.ok_of_lt_count hk hj
      rw [hq k hk _ _ (not_lt.1 hle) (hend k hk)] at ha
      cases ha
    · have hle := h.count_le_of_error hi he
      have ht := h.rotation.taken_lt i (h.mem_live hq hi hle (by simp [he])) k j hj
      rw [place_lt_place] at ht
      omega
  have hsorted := (List.pairwise_append.1 h.sorted).1
  have hsub : E.map Prod.fst ⊆ diagonalOrder (List.replicate n B) := by
    intro v hv
    obtain ⟨hlen, hbox⟩ := (h.mem_iff v).1 (List.mem_append_left _ hv)
    refine mem_diagonalOrder.2 (forall₂_iff_getElem?.2 ⟨by simp [hlen], fun i j b hj hb ↦ ?_⟩)
    obtain ⟨hi, rfl⟩ := List.getElem?_eq_some_iff.1 hb
    rw [List.getElem_replicate]
    exact hlt i (by simpa using hi) j (hbox i j hj)
  simpa only [List.length_map] using
    (List.subperm_of_subset (hsorted.imp fun h he ↦ h.ne (congrArg key he)) hsub).length_le

end Reached

/-- Where all factors end or one fails, the product lists the tuples of the items before the first
error in the diagonal order, and then this error. -/
theorem exists_lists {q : ℕ → ℕ → Option (Except ε α)} {factors : List σ} {B : ℕ}
    (h : ∀ i (hi : i < factors.length), Gives next factors[i] (q i))
    (hB : (∀ i < factors.length, q i B = none) ∨
      ∃ i < factors.length, ∃ j < B, ∃ e, q i j = some (.error e)) :
    ∃ (E : List (List ℕ × List α)) (stop : Option ((ℕ × ℕ) × ε)),
      IsFirstError q factors.length stop ∧
      (E.map Prod.fst).Pairwise (fun v w ↦ key v < key w) ∧
      (∀ v, v ∈ E.map Prod.fst ↔ Listed q factors.length stop v) ∧
      (∀ x ∈ E, IsTuple (fun i j ↦ (q i j).bind Except.toOption) x.1 x.2) ∧
      Lists (step (m := Id) next) (.ofFactors factors)
        (E.map (fun x ↦ .ok x.2) ++ stop.toList.map fun x ↦ .error x.2) := by
  have hq : Closed q factors.length := fun i hi j k hjk hj ↦ (h i hi).eq_none_of_le hj hjk
  let Inv (E : List (List ℕ × List α)) (d : Diagonal σ α) :=
    ∃ count live stage, Reached next q factors.length count live E stage d
  let Complete (E : List (List ℕ × List α)) (tail : List (Except ε (List α))) :=
    ∃ stop, IsFirstError q factors.length stop ∧ tail = stop.toList.map (fun x ↦ .error x.2) ∧
      (E.map Prod.fst).Pairwise (fun v w ↦ key v < key w) ∧
      (∀ v, v ∈ E.map Prod.fst ↔ Listed q factors.length stop v) ∧
      ∀ x ∈ E, IsTuple (fun i j ↦ (q i j).bind Except.toOption) x.1 x.2
  have bounded : ∀ E d, Inv E d →
      E.length ≤ (diagonalOrder (List.replicate factors.length B)).length := by
    rintro E d ⟨count, live, stage, hr⟩
    exact hr.length_le hq hB
  have progress : ∀ E d, Inv E d →
      (∃ x d', Pulls (step (m := Id) next) d (some (.ok x.2, d')) ∧ Inv (E ++ [x]) d') ∨
      ∃ tail, Lists (step (m := Id) next) d tail ∧ Complete E tail := by
    rintro E d ⟨count, live, stage, hr⟩
    cases hr.outcome hq (.inr hB) with
    | tuple hp hr' => exact .inl ⟨_, _, hp, _, _, _, hr'⟩
    | ended hp hr' =>
      obtain ⟨hf, hm⟩ := hr'.mem_iff_of_ended hq
      exact .inr ⟨[], Gives.of_ended hp, none, hf, rfl, by simpa using hr'.sorted, hm,
        hr'.isTuple⟩
    | failed hp hp' hi hr' =>
      obtain ⟨hf, hm⟩ := hr'.mem_iff_of_failed hq hi
      exact .inr ⟨[.error _], Gives.of_yield hp rfl (Gives.of_ended hp'), _, hf, rfl,
        by simpa using hr'.sorted, hm, hr'.isTuple⟩
  obtain ⟨E, tail, hl, stop, hf, rfl, hs, hm, ht⟩ :=
    exists_lists_of_progress bounded progress [] _ ⟨_, _, _, .start h⟩
  rw [List.nil_append] at hs hm ht
  exact ⟨E, stop, hf, hs, hm, ht, hl⟩

end Diagonal

end RegexWords
