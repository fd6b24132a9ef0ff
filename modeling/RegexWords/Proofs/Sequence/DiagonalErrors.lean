import RegexWords.Proofs.Sequence.DiagonalCalls
import RegexWords.Proofs.Sequence.DiagonalLists

namespace RegexWords.Diagonal

variable {α ε : Type} {answers : ℕ → ℕ → Option (Except ε α)} {n : ℕ} {log : Log (Except ε α)}

theorem Follows.sameStep {p : Diagonal (ℕ × ℕ) α} {d : Diagonal ℕ α}
    (h : Follows answers n p d log) :
    SameStep (fun p d' ↦ Follows answers n p d' (step (ask answers) d log).2) p d
      (step (m := Id) (counted answers) p) (step (ask answers) d log).1 := by
  cases h with
  | @attended count live E stage grid _ h =>
    cases stage with
    | cons v stage =>
      obtain ⟨grid', hpop, h'⟩ := h.pop
      rw [step_ask_of_pop hpop, step_of_pop hpop]
      exact .yield (.attended h')
    | nil =>
      have hpop : grid.pop? = none := h.reached.pop_eq_none
      cases live with
      | nil =>
        rw [List.map_nil, List.map_nil, step_ask_of_nil hpop, step_of_nil hpop]
        exact .ended (.attended h)
      | cons i live =>
        have hp : step (m := Id) (counted answers) ⟨(i :: live).map fun i ↦ (i, i, count i), grid⟩ =
            receive i (live.map fun i ↦ (i, i, count i)) grid (counted answers (i, count i)) :=
          step_of_pop_eq_none hpop
        cases hi : answers i (count i) with
        | none =>
          rw [hp, h.step_of_none hi, counted, hi]
          exact .skip (.attended (h.drop hi))
        | some item =>
          cases item with
          | error e =>
            rw [hp, h.step_of_error hi, counted, hi]
            exact .yield (.failed hpop (h.ceases_concat _))
          | ok a =>
            have hturn := h.turn hi
            rw [hp, h.step_of_value hi, counted, hi, receive]
            have hqueue := h.attends.map_turn fun i k ↦ (i, i, k)
            rw [← hqueue]
            exact .skip (.attended hturn)
  | failed hpop hceases =>
    rw [step_ask_of_nil hpop, step_of_nil hpop]
    exact .ended (.failed hpop hceases)

theorem ended_of_call_error {d d' : Diagonal ℕ α} {log' : Log (Except ε α)} {e : ε}
    (h : Call (step (ask answers)) d log (some (.error e)) d' log') :
    step (ask answers) d' log' = (.ended, log') := by
  generalize hr : some (Except.error e) = r at h
  induction h with
  | ended => cases hr
  | skip _ _ ih => exact ih hr
  | @yield d d' log log' item hs =>
    obtain rfl : Except.error e = item := Option.some.inj hr
    obtain ⟨queue, grid⟩ := d
    cases hpop : grid.pop? with
    | some x => cases (step_ask_of_pop hpop).symm.trans hs
    | none =>
      cases queue with
      | nil => cases (step_ask_of_nil hpop).symm.trans hs
      | cons p rest =>
        obtain ⟨k, i⟩ := p
        rw [step_of_pop_eq_none hpop] at hs
        simp only [bind, StateT.bind, ask_eq] at hs
        cases hi : answers i (log.pulls i) with
        | none =>
          rw [hi] at hs
          cases hs
        | some item =>
          rw [hi] at hs
          cases item with
          | ok a => cases hs
          | error e' =>
            cases hs
            exact step_ask_of_nil hpop

/-- The calls of a product of which a factor fails give the tuples of the items before the first
error in the diagonal order, then this error and then nothing, and no factor is pulled behind the
error. -/
theorem replies_of_error (h : ∃ i < n, ∃ j e, untilNone (answers i) j = some (.error e)) :
    ∃ (j i : ℕ) (err : ε) (E : List (List ℕ × List α)),
      IsFirstError (fun i ↦ untilNone (answers i)) n (some ((j, i), err)) ∧
      (E.map Prod.fst).Pairwise (fun v w ↦ key v < key w) ∧
      (∀ v, v ∈ E.map Prod.fst ↔
        Listed (fun i ↦ untilNone (answers i)) n (some ((j, i), err)) v) ∧
      (∀ x ∈ E, IsTuple (fun i j ↦ (untilNone (answers i) j).bind Except.toOption) x.1 x.2) ∧
      Nonempty (Execution (step (ask answers)) (.ofFactors (List.range n)) []) ∧
      ∀ e : Execution (step (ask answers)) (.ofFactors (List.range n)) [],
        (∀ k, e.reply k = (E.map (fun x ↦ .ok x.2) ++ [.error err])[k]?) ∧
        (∀ k > E.length, e.world k = e.world (E.length + 1)) ∧ ∀ k, Ceases (e.world k) := by
  obtain ⟨i, hi, j, err, he⟩ := h
  have hlen : ((List.range n).map fun i ↦ (i, 0)).length = n := by simp
  obtain ⟨E, stop, hfirst, hsorted, hmem, htuple, hlists⟩ :=
    exists_lists (gives_counted_range answers n)
      (.inr ⟨i, hlen.symm ▸ hi, j, Nat.lt_succ_self j, err, he⟩)
  rw [hlen] at hfirst hmem
  cases stop with
  | none => exact absurd he (hfirst i hi j err)
  | some x =>
    obtain ⟨⟨j, i⟩, err⟩ := x
    obtain ⟨hex, hreply⟩ :=
      Gives.replies (fun _ _ _ ↦ Follows.sameStep) hlists (Follows.start answers n)
    refine ⟨j, i, err, E, hfirst, hsorted, hmem, htuple, hex, fun e ↦ ⟨fun k ↦ (hreply e k).1,
      fun k hk ↦ ?_, fun k ↦ ?_⟩⟩
    · have hcall := e.call E.length
      rw [(hreply e E.length).1] at hcall
      have hend := ended_of_call_error (e := err) (by simpa using hcall)
      exact (e.eq_none_of_ended hend hk).2.2
    · obtain ⟨p, hp⟩ := (hreply e k).2
      exact hp.ceases

/-- One source that ends behind its first item and would give others then, and two that fail. -/
def failing : ℕ → ℕ → Option (Except Char ℕ)
  | 0, k => if k = 1 then none else some (.ok k)
  | 1, k => some (if k = 2 then .error 'a' else .ok k)
  | _, k => some (if 2 ≤ k then .error 'b' else .ok k)

theorem isFirstError_failing :
    IsFirstError (fun i ↦ untilNone (failing i)) 3 (some ((2, 1), 'a')) := by
  refine ⟨by decide, by decide, fun i hi j e he ↦ ?_⟩
  have he := (untilNone_eq_some.1 he).1
  match i with
  | 0 => simp [failing] at he
  | 1 =>
    have hj : j = 2 := by
      by_contra hne
      simp [failing, hne] at he
    rw [hj]
  | i + 2 =>
    have hj : 2 ≤ j := by
      by_contra hlt
      simp [failing, hlt] at he
    exact place_le_place.2 (by dsimp only; omega)

theorem replies_of_error_failing : (∃ i < 3, ∃ j e, untilNone (failing i) j = some (.error e)) ∧
    Nonempty (Execution (step (ask failing)) (.ofFactors (List.range 3)) []) ∧
    ∀ e : Execution (step (ask failing)) (.ofFactors (List.range 3)) [],
      ∃ k, e.reply k = some (.error 'a') ∧ ∀ l > k, e.reply l = none := by
  have h : ∃ i < 3, ∃ j e, untilNone (failing i) j = some (.error e) :=
    ⟨2, by decide, 2, 'b', by decide⟩
  obtain ⟨j, i, err, E, hfirst, -, -, -, hex, hcalls⟩ := replies_of_error h
  cases hfirst.unique isFirstError_failing
  refine ⟨h, hex, fun e ↦ ⟨E.length, ?_, fun l hl ↦ ?_⟩⟩
  · rw [(hcalls e).1]
    simp
  · rw [(hcalls e).1, List.getElem?_eq_none_iff, List.length_append, List.length_map]
    exact hl

end RegexWords.Diagonal
