import RegexWords.Proofs.Sequence.Calls
import RegexWords.Proofs.Sequence.DiagonalTuples
import RegexWords.Proofs.Sequence.Sources

namespace RegexWords.Diagonal

variable {α ε : Type} {answers : ℕ → ℕ → Option (Except ε α)} {n i : ℕ} {count : ℕ → ℕ}
  {live : List ℕ} {E : List (List ℕ × List α)} {stage : List (List ℕ)} {grid : Grid α}
  {log : Log (Except ε α)}

theorem step_of_pop {m : Type → Type} [Monad m] {σ : Type} {next : σ → m (Step σ (Except ε α))}
    {queue : List (ℕ × σ)} {x : List α × Grid α} (h : grid.pop? = some x) :
    step next ⟨queue, grid⟩ = pure (.yield (.ok x.1) ⟨queue, x.2⟩) := by
  simp only [step, h]

theorem step_ask_of_pop {queue : List (ℕ × ℕ)} {x : List α × Grid α} (h : grid.pop? = some x) :
    step (ask answers) ⟨queue, grid⟩ log = (.yield (.ok x.1) ⟨queue, x.2⟩, log) := by
  rw [step_of_pop h]
  rfl

theorem step_of_pop_eq_none {m : Type → Type} [Monad m] {σ : Type}
    {next : σ → m (Step σ (Except ε α))} {s : σ} {rest : List (ℕ × σ)} (h : grid.pop? = none) :
    step next ⟨(i, s) :: rest, grid⟩ = return receive i rest grid (← next s) := by
  simp only [step, h]

theorem step_of_nil {m : Type → Type} [Monad m] {σ : Type} {next : σ → m (Step σ (Except ε α))}
    (h : grid.pop? = none) : step next ⟨[], grid⟩ = pure .ended := by
  simp only [step, h]

theorem step_ask_of_nil (h : grid.pop? = none) :
    step (ask answers) ⟨[], grid⟩ log = (.ended, log) := by
  rw [step_of_nil h]
  rfl

theorem ofFactors_map_range {σ : Type} (f : ℕ → σ) (n : ℕ) :
    (ofFactors ((List.range n).map f) : Diagonal σ α) =
      ⟨(List.range n).map fun i ↦ (i, f i), .ofFactors n⟩ := by
  have hqueue : ((List.range n).map f).mapIdx (fun i s ↦ (i, s)) =
      (List.range n).map fun i ↦ (i, f i) := by
    refine List.ext_getElem (by simp) fun i hi _ ↦ ?_
    simp
  rw [ofFactors, hqueue, List.length_map, List.length_range]

/-- No source is pulled behind its end, and none behind an error. -/
def Ceases (log : Log (Except ε α)) : Prop :=
  log.Pairwise fun p r ↦ (p.2 = none → r.1 ≠ p.1) ∧ ∀ e, p.2 ≠ some (.error e)

/-- Of each source `k` the first `count k` items have been given and no error, and the sources in
`live` are in the rotation. -/
structure Attended (answers : ℕ → ℕ → Option (Except ε α)) (n : ℕ) (count : ℕ → ℕ) (live : List ℕ)
    (E : List (List ℕ × List α)) (stage : List (List ℕ)) (grid : Grid α)
    (log : Log (Except ε α)) : Prop where
  attends : Attends answers n count live log
  reached : Reached (counted answers) (fun i ↦ untilNone (answers i)) n count live E stage
    ⟨live.map fun i ↦ (i, i, count i), grid⟩
  ne_error : ∀ p ∈ log, ∀ e, p.2 ≠ some (.error e)

namespace Attended

theorem start (answers : ℕ → ℕ → Option (Except ε α)) (n : ℕ) :
    ∃ stage, Attended answers n (fun _ ↦ 0) (List.range n) [] stage (.ofFactors n) [] := by
  have hstart := Reached.start (gives_counted_range answers n)
  rw [ofFactors_map_range, List.length_map, List.length_range] at hstart
  exact ⟨_, .start answers n, hstart, by simp⟩

theorem pop {v : List ℕ} (h : Attended answers n count live E (v :: stage) grid log) :
    ∃ grid', grid.pop? = some (grid.tuple v, grid') ∧
      Attended answers n count live (E ++ [(v, grid.tuple v)]) stage grid' log := by
  obtain ⟨grid', hpop, hr⟩ := h.reached.pop
  exact ⟨grid', hpop, h.attends, hr, h.ne_error⟩

theorem drop (h : Attended answers n count (i :: live) E stage grid log)
    (hi : answers i (count i) = none) :
    Attended answers n count live E stage grid (log ++ [(i, none)]) where
  attends := h.attends.drop
  reached := h.reached.drop ((h.attends.untilNone_eq i).trans hi)
  ne_error := by
    simp only [List.forall_mem_append, List.forall_mem_singleton]
    exact ⟨h.ne_error, by simp⟩

theorem turn {a : α} (h : Attended answers n count (i :: live) E [] grid log)
    (hi : answers i (count i) = some (.ok a)) :
    Attended answers n (Function.update count i (count i + 1)) (live ++ [i]) E
      (Box.vectors (Grid.newest (grid.add i a).seen i)) (grid.add i a)
      (log ++ [(i, some (.ok a))]) where
  attends := h.attends.turn hi
  reached := by
    rw [h.attends.map_turn fun i k ↦ (i, i, k)]
    exact h.reached.turn ((h.attends.untilNone_eq i).trans hi) (h.attends.gives_counted_succ hi)
  ne_error := by
    simp only [List.forall_mem_append, List.forall_mem_singleton]
    exact ⟨h.ne_error, by simp⟩

theorem ceases (h : Attended answers n count live E stage grid log) : Ceases log :=
  h.attends.ended.imp_of_mem fun hp _ hne ↦ ⟨hne, h.ne_error _ hp⟩

theorem ceases_concat (h : Attended answers n count (i :: live) E stage grid log)
    (r : Option (Except ε α)) : Ceases (log ++ [(i, r)]) := by
  have hended := List.pairwise_append.1 (h.attends.ended_concat r)
  refine List.pairwise_append.2 ⟨h.ceases, List.pairwise_singleton _ _, fun p hp x hx ↦ ?_⟩
  exact ⟨hended.2.2 p hp x hx, h.ne_error p hp⟩

theorem balanced {x : List ℕ × List α}
    (h : Attended answers n count live (E ++ [x]) stage grid log) : log.Balanced n := by
  obtain ⟨hlen, hbox⟩ := (h.reached.mem_iff x.1).1 (by simp)
  refine ⟨fun i hi ↦ ?_, fun i hi k hk hei hek ↦ ?_⟩
  · by_cases hend : (i, none) ∈ log
    · exact Log.pulls_pos hend
    · rw [h.attends.pulls_eq i (h.attends.mem_live hi hend)]
      exact Nat.zero_lt_of_lt (hbox i _ (List.getElem?_eq_getElem (hlen.symm ▸ hi)))
  · have hlive := h.attends.mem_live hk hek
    rw [h.attends.pulls_eq i (h.attends.mem_live hi hei), h.attends.pulls_eq k hlive]
    exact h.attends.rotation.count_le hlive i

section Steps

variable (h : Attended answers n count (i :: live) E [] grid log)
include h

theorem step_eq : step (ask answers) ⟨(i :: live).map fun i ↦ (i, i), grid⟩ log =
    (receive i (live.map fun i ↦ (i, i)) grid ((answers i (count i)).elim .ended (.yield · i)),
      log ++ [(i, answers i (count i))]) := by
  rw [← h.attends.pulls_eq i List.mem_cons_self, List.map_cons,
    step_of_pop_eq_none h.reached.pop_eq_none]
  simp only [bind, StateT.bind, ask_eq]
  rfl

theorem step_of_none (hi : answers i (count i) = none) :
    step (ask answers) ⟨(i :: live).map fun i ↦ (i, i), grid⟩ log =
      (.skip ⟨live.map fun i ↦ (i, i), grid⟩, log ++ [(i, none)]) := by
  rw [h.step_eq, hi]
  rfl

theorem step_of_error {e : ε} (hi : answers i (count i) = some (.error e)) :
    step (ask answers) ⟨(i :: live).map fun i ↦ (i, i), grid⟩ log =
      (.yield (.error e) ⟨[], grid⟩, log ++ [(i, some (.error e))]) := by
  rw [h.step_eq, hi]
  rfl

theorem step_of_value {a : α} (hi : answers i (count i) = some (.ok a)) :
    step (ask answers) ⟨(i :: live).map fun i ↦ (i, i), grid⟩ log =
      (.skip ⟨(live ++ [i]).map fun i ↦ (i, i), grid.add i a⟩, log ++ [(i, some (.ok a))]) := by
  rw [h.step_eq, hi, List.map_append]
  rfl

end Steps

end Attended

/-- A product that calls its factors makes the steps of one whose factors carry the numbers of their
items, until an error ends both. -/
inductive Follows (answers : ℕ → ℕ → Option (Except ε α)) (n : ℕ) :
    Diagonal (ℕ × ℕ) α → Diagonal ℕ α → Log (Except ε α) → Prop
  | attended {count : ℕ → ℕ} {live : List ℕ} {E : List (List ℕ × List α)}
      {stage : List (List ℕ)} {grid : Grid α} {log : Log (Except ε α)} :
      Attended answers n count live E stage grid log →
      Follows answers n ⟨live.map fun i ↦ (i, i, count i), grid⟩ ⟨live.map fun i ↦ (i, i), grid⟩ log
  | failed {grid : Grid α} {log : Log (Except ε α)} :
      grid.pop? = none → Ceases log → Follows answers n ⟨[], grid⟩ ⟨[], grid⟩ log

theorem Follows.start (answers : ℕ → ℕ → Option (Except ε α)) (n : ℕ) :
    Follows answers n (.ofFactors ((List.range n).map fun i ↦ (i, 0))) (.ofFactors (List.range n))
      [] := by
  obtain ⟨stage, h⟩ := Attended.start answers n
  have hworld : (ofFactors ((List.range n).map id) : Diagonal ℕ α) = _ := ofFactors_map_range id n
  rw [List.map_id] at hworld
  rw [ofFactors_map_range, hworld]
  exact .attended h

theorem Follows.ceases {p : Diagonal (ℕ × ℕ) α} {d : Diagonal ℕ α}
    (h : Follows answers n p d log) : Ceases log := by
  cases h with
  | attended h => exact h.ceases
  | failed _ h => exact h

def CallsFront (answers : ℕ → ℕ → Option (Except ε α)) (n : ℕ) (todo : List ℕ) (d : Diagonal ℕ α)
    (log : Log (Except ε α)) : Prop :=
  ∃ asked r p d', Call (step (ask answers)) d log r d' (log ++ asked) ∧
    asked.map Prod.fst <+: todo ∧ Follows answers n p d' (log ++ asked) ∧
    ∀ as, r = some (.ok as) → Log.Balanced (log ++ asked) n

theorem CallsFront.cons {todo : List ℕ} {d d' : Diagonal ℕ α} {r : Option (Except ε α)}
    (h : CallsFront answers n todo d' (log ++ [(i, r)]))
    (hskip : step (ask answers) d log = (.skip d', log ++ [(i, r)])) :
    CallsFront answers n (i :: todo) d log := by
  obtain ⟨asked, r', p, d', hc, hpre, hf, hb⟩ := h
  rw [List.append_assoc, List.singleton_append] at hc hf hb
  exact ⟨(i, r) :: asked, r', p, d', .skip hskip hc, List.cons_prefix_cons.2 ⟨rfl, hpre⟩, hf, hb⟩

theorem Attended.callsFront_of_tuple {v : List ℕ}
    (h : Attended answers n count live E (v :: stage) grid log) (todo : List ℕ) :
    CallsFront answers n todo ⟨live.map fun i ↦ (i, i), grid⟩ log := by
  obtain ⟨grid', hpop, h'⟩ := h.pop
  have hcall : Call (step (ask answers)) ⟨live.map fun i ↦ (i, i), grid⟩ log _ _ log :=
    .yield (step_ask_of_pop hpop)
  rw [← List.append_nil log] at h'
  exact ⟨[], _, _, _, by rwa [List.append_nil], List.nil_prefix, .attended h',
    fun _ _ ↦ h'.balanced⟩

section Calls

variable (hfirst : ∀ i < n, answers i 0 ≠ none)
include hfirst

/-- When an item begins no stage, another factor has given nothing, and its turn is still to
come. -/
theorem Attended.exists_mem_count_eq_zero {a : α}
    (h : Attended answers n count (i :: live) E [] grid log)
    (hi : answers i (count i) = some (.ok a))
    (hstage : Box.vectors (Grid.newest (grid.add i a).seen i) = []) : ∃ k ∈ live, count k = 0 := by
  obtain ⟨k, hk, hki, h0⟩ :=
    h.reached.exists_count_eq_zero ((h.attends.untilNone_eq i).trans hi) hstage
  have hlive : k ∈ i :: live := by
    by_contra hl
    have hend := h.reached.ended k hk hl
    rw [h.attends.untilNone_eq, h0] at hend
    exact hfirst k hk hend
  exact ⟨k, (List.mem_cons.1 hlive).resolve_left hki, h0⟩

/-- Where every factor has an item, a call asks each at most once: those in `done`, which it has
asked before, are not asked again as long as one of the others has given nothing. -/
theorem Attended.callsFront {todo done : List ℕ}
    (h : Attended answers n count (todo ++ done) E [] grid log) (hdone : ∀ k ∈ done, 0 < count k)
    (htodo : done ≠ [] → ∃ k ∈ todo, count k = 0) :
    CallsFront answers n todo ⟨(todo ++ done).map fun i ↦ (i, i), grid⟩ log := by
  induction todo generalizing done count log grid with
  | nil =>
    obtain rfl : done = [] := by
      by_contra hne
      obtain ⟨k, hk, -⟩ := htodo hne
      cases hk
    have hpop : grid.pop? = none := h.reached.pop_eq_none
    refine ⟨[], none, _, _, ?_, List.prefix_refl _, .attended (by simpa using h), by simp⟩
    simpa using Call.ended (step_ask_of_nil hpop)
  | cons i todo ih =>
    rw [List.cons_append] at h ⊢
    have hin := h.reached.lt_of_live i List.mem_cons_self
    cases hi : answers i (count i) with
    | none =>
      have hne : count i ≠ 0 := fun h0 ↦ hfirst i hin (h0 ▸ hi)
      have htodo' : done ≠ [] → ∃ k ∈ todo, count k = 0 := by
        intro hd
        obtain ⟨k, hk, h0⟩ := htodo hd
        rcases List.mem_cons.1 hk with rfl | hk
        · exact absurd h0 hne
        · exact ⟨k, hk, h0⟩
      exact (ih (h.drop hi) hdone htodo').cons (h.step_of_none hi)
    | some item =>
      cases item with
      | error e =>
        refine ⟨[(i, some (.error e))], _, ⟨[], grid⟩, _, .yield (h.step_of_error hi),
          List.cons_prefix_cons.2 ⟨rfl, List.nil_prefix⟩, ?_, by simp⟩
        exact .failed h.reached.pop_eq_none (h.ceases_concat _)
      | ok a =>
        have hturn := h.turn hi
        have hskip := h.step_of_value hi
        generalize hstage : Box.vectors (Grid.newest (grid.add i a).seen i) = stage at hturn
        cases stage with
        | cons v stage => exact (hturn.callsFront_of_tuple todo).cons hskip
        | nil =>
          obtain ⟨k, hk, h0⟩ := h.exists_mem_count_eq_zero hfirst hi hstage
          have hki : k ≠ i := fun he ↦ h.attends.rotation.front_notMem (he ▸ hk)
          have hmem : k ∈ todo :=
            (List.mem_append.1 hk).resolve_right fun hl ↦ (hdone k hl).ne' h0
          have hdone' : ∀ l ∈ done ++ [i], 0 < Function.update count i (count i + 1) l := by
            intro l hl
            by_cases hli : l = i
            · rw [hli, Function.update_self]
              exact Nat.succ_pos _
            · rw [Function.update_of_ne hli]
              exact hdone l (by simpa [hli] using hl)
          rw [List.append_assoc] at hturn hskip
          refine (ih hturn hdone' fun _ ↦ ⟨k, hmem, ?_⟩).cons hskip
          rw [Function.update_of_ne hki, h0]

theorem Follows.exists_call {p : Diagonal (ℕ × ℕ) α} {d : Diagonal ℕ α}
    (h : Follows answers n p d log) : ∃ asked r p' d', Call (step (ask answers)) d log r d'
        (log ++ asked) ∧ asked.map Prod.fst <+: log.waiting n ∧
      Follows answers n p' d' (log ++ asked) ∧
      (∀ as, r = some (.ok as) → Log.Balanced (log ++ asked) n) ∧
      ∀ x, d.grid.pop? = some x → r = some (.ok x.1) ∧ asked = [] := by
  cases h with
  | @attended count live E stage grid _ h =>
    cases stage with
    | nil =>
      rw [h.attends.waiting_eq]
      rw [← List.append_nil live] at h
      obtain ⟨asked, r, p, d, hc, hpre, hf, hb⟩ := h.callsFront hfirst (by simp) (by simp)
      rw [List.append_nil] at hc
      exact ⟨asked, r, p, d, hc, hpre, hf, hb, by simp [h.reached.pop_eq_none]⟩
    | cons v stage =>
      obtain ⟨grid', hpop, h'⟩ := h.pop
      refine ⟨[], some (.ok (grid.tuple v)), ⟨live.map fun i ↦ (i, i, count i), grid'⟩,
        ⟨live.map fun i ↦ (i, i), grid'⟩, ?_, List.nil_prefix, ?_, fun _ _ ↦ ?_, by simp [hpop]⟩
      all_goals rw [List.append_nil]
      · exact .yield (step_ask_of_pop hpop)
      · exact .attended h'
      · exact h'.balanced
  | @failed grid _ hpop hceases =>
    refine ⟨[], none, ⟨[], grid⟩, ⟨[], grid⟩, ?_, List.nil_prefix, ?_, by simp, by simp [hpop]⟩
    all_goals rw [List.append_nil]
    · exact .ended (step_ask_of_nil hpop)
    · exact .failed hpop hceases

/-- Where every factor has an item, a call of a product pulls no factor while there are tuples of
the stage, and else every factor at most once, around the circle. With a tuple all factors have been
pulled equally often up to one pull, as far as they have not ended, and no factor is pulled behind
its end or behind an error. -/
theorem calls_in_turn : Nonempty (Execution (step (ask answers)) (.ofFactors (List.range n)) []) ∧
    ∀ (e : Execution (step (ask answers)) (.ofFactors (List.range n)) []) (k : ℕ),
      (∃ asked, e.world (k + 1) = e.world k ++ asked ∧
        asked.map Prod.fst <+: (e.world k).waiting n ∧ (asked.map Prod.fst).Nodup ∧
        asked.length ≤ n ∧
        ∀ x, (e.state k).grid.pop? = some x → e.reply k = some (.ok x.1) ∧ asked = []) ∧
      (∀ as, e.reply k = some (.ok as) → (e.world (k + 1)).Balanced n) ∧ Ceases (e.world k) := by
  let Inv (_ : List (Option (Except ε (List α)))) (d : Diagonal ℕ α) (log : Log (Except ε α)) :=
    ∃ p, Follows answers n p d log
  have hstart : Inv [] (.ofFactors (List.range n)) [] := ⟨_, .start answers n⟩
  have hcall : ∀ rs d log, Inv rs d log →
      ∃ r d' log', Call (step (ask answers)) d log r d' log' ∧ Inv (rs ++ [r]) d' log' := by
    rintro rs d log ⟨p, h⟩
    obtain ⟨asked, r, p', d', hc, -, hf, -⟩ := h.exists_call hfirst
    exact ⟨r, d', _, hc, p', hf⟩
  refine ⟨Execution.nonempty hstart hcall, fun e k ↦ ?_⟩
  obtain ⟨p, h⟩ := Execution.invariant hstart hcall e k
  obtain ⟨asked, r, p', d', hc, hpre, hf, hb, hpop⟩ := h.exists_call hfirst
  obtain ⟨hr, -, hw⟩ := (e.call k).unique hc
  have hnodup : (asked.map Prod.fst).Nodup := hpre.sublist.nodup (Log.nodup_waiting _ n)
  have hlen : asked.length ≤ n := by
    simpa using hpre.length_le.trans (Log.length_waiting_le _ n)
  rw [hr, hw]
  exact ⟨⟨asked, rfl, hpre, hnodup, hlen, hpop⟩, hb, h.ceases⟩

end Calls

def reviving (i k : ℕ) : Option (Except Unit ℕ) :=
  if i = 0 ∧ k = 1 then none else some (.ok k)

theorem calls_in_turn_reviving : (∀ i < 2, reviving i 0 ≠ none) ∧
    Nonempty (Execution (step (ask reviving)) (.ofFactors (List.range 2)) []) ∧
    ∀ (e : Execution (step (ask reviving)) (.ofFactors (List.range 2)) []) (k : ℕ),
      (∀ as, e.reply k = some (.ok as) → (e.world (k + 1)).Balanced 2) ∧ Ceases (e.world k) := by
  have hfirst : ∀ i < 2, reviving i 0 ≠ none := by decide
  obtain ⟨hex, hcalls⟩ := calls_in_turn hfirst
  exact ⟨hfirst, hex, fun e k ↦ (hcalls e k).2⟩

end RegexWords.Diagonal
