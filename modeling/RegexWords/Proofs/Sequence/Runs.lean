import RegexWords.Proofs.Sequence.Answers

namespace RegexWords

variable {σ α : Type} {next : σ → Step σ α} {s t u : σ} {r : Option α} {rs : List (Option α)}

/-- A pull, its answer and the state it leaves. -/
inductive PullsTo (next : σ → Step σ α) : σ → Option α → σ → Prop
  | ended {s : σ} : next s = .ended → PullsTo next s none s
  | yield {s t : σ} {a : α} : next s = .yield a t → PullsTo next s (some a) t
  | skip {s t u : σ} {r : Option α} : next s = .skip t → PullsTo next t r u → PullsTo next s r u

/-- The answers to pulls made one after the other. -/
inductive Run (next : σ → Step σ α) : σ → List (Option α) → σ → Prop
  | nil {s : σ} : Run next s [] s
  | cons {s t u : σ} {r : Option α} {rs : List (Option α)} :
      PullsTo next s r t → Run next t rs u → Run next s (r :: rs) u

theorem PullsTo.pulls (h : PullsTo next s r t) : Pulls next s (r.map (·, t)) := by
  induction h with
  | ended hs => exact .ended hs
  | yield hs => exact .yield hs
  | skip hs _ ih => exact .skip hs ih

theorem PullsTo.ended_of_none (h : PullsTo next s none t) : next t = .ended := by
  generalize hr : (none : Option α) = r at h
  induction h with
  | ended hs => exact hs
  | yield => cases hr
  | skip _ _ ih => exact ih hr

theorem PullsTo.eq_none_of_ended (hs : next s = .ended) (h : PullsTo next s r t) :
    r = none ∧ t = s := by
  cases h with
  | ended => exact ⟨rfl, rfl⟩
  | yield hy => simp [hs] at hy
  | skip hk => simp [hs] at hk

theorem Run.eq_none_of_ended (hs : next s = .ended) (h : Run next s rs t) : ∀ r ∈ rs, r = none := by
  induction h with
  | nil => simp
  | cons hp _ ih =>
    obtain ⟨rfl, rfl⟩ := hp.eq_none_of_ended hs
    exact List.forall_mem_cons.2 ⟨rfl, ih hs⟩

theorem run_append_iff {rs' : List (Option α)} :
    Run next s (rs ++ rs') u ↔ ∃ t, Run next s rs t ∧ Run next t rs' u := by
  constructor
  · intro h
    induction rs generalizing s with
    | nil => exact ⟨s, .nil, h⟩
    | cons r rs ih =>
      cases h with
      | cons hp hr =>
        obtain ⟨t, ht, hu⟩ := ih hr
        exact ⟨t, .cons hp ht, hu⟩
  · rintro ⟨t, ht, hu⟩
    induction ht with
    | nil => exact hu
    | cons hp _ ih => exact .cons hp (ih hu)

theorem run_iff_of_ended (hs : next s = .ended) :
    Run next s rs t ↔ rs = List.replicate rs.length none ∧ t = s := by
  constructor
  · intro h
    induction h with
    | nil => exact ⟨rfl, rfl⟩
    | cons hp _ ih =>
      obtain ⟨rfl, rfl⟩ := hp.eq_none_of_ended hs
      obtain ⟨hrs, rfl⟩ := ih hs
      exact ⟨congrArg (none :: ·) hrs, rfl⟩
  · rintro ⟨hrs, rfl⟩
    rw [hrs]
    generalize rs.length = k
    induction k with
    | zero => exact .nil
    | succ k ih => exact .cons (.ended hs) ih

theorem pullsTo_iff_of_skip (hs : next s = .skip t) : PullsTo next s r u ↔ PullsTo next t r u := by
  constructor
  · intro h
    cases h with
    | ended he => simp [hs] at he
    | yield hy => simp [hs] at hy
    | skip hk ht =>
      rw [hs] at hk
      cases hk
      exact ht
  · exact .skip hs

/-- A step without an item belongs to the pull that comes next. -/
theorem run_iff_of_skip (hs : next s = .skip t) (hrs : rs ≠ []) :
    Run next s rs u ↔ Run next t rs u := by
  obtain ⟨r, rs, rfl⟩ := List.exists_cons_of_ne_nil hrs
  constructor
  · intro h
    cases h with
    | cons hp hr => exact .cons ((pullsTo_iff_of_skip hs).1 hp) hr
  · intro h
    cases h with
    | cons hp hr => exact .cons ((pullsTo_iff_of_skip hs).2 hp) hr

theorem Pulls.exists_pullsTo_none (h : Pulls next s none) :
    ∃ t, PullsTo next s none t := by
  generalize hr : (none : Option (α × σ)) = r at h
  induction h with
  | @ended s hs => exact ⟨s, .ended hs⟩
  | yield => cases hr
  | skip hs _ ih =>
    obtain ⟨t, ht⟩ := ih hr
    exact ⟨t, .skip hs ht⟩

theorem Pulls.pullsTo {a : α} (h : Pulls next s (some (a, t))) : PullsTo next s (some a) t := by
  generalize hr : some (a, t) = r at h
  induction h with
  | ended => cases hr
  | yield hs =>
    cases hr
    exact .yield hs
  | skip hs _ ih => exact .skip hs (ih hr)

namespace Gives

variable {q : ℕ → Option α}

theorem tail (h : Gives next s q) (hp : PullsTo next s r t) :
    r = q 0 ∧ Gives next t fun k ↦ q (k + 1) := by
  obtain ⟨hn, hq⟩ | ⟨a, t', ha, h0, ht⟩ := h.pull
  · cases r with
    | some b => cases hn.unique hp.pulls
    | none =>
      refine ⟨(hq 0).symm, ?_⟩
      simp only [hq]
      exact Gives.of_ended (.ended hp.ended_of_none)
  · cases r with
    | none => cases ha.unique hp.pulls
    | some b =>
      cases ha.unique hp.pulls
      exact ⟨h0.symm, ht⟩

theorem of_next_skip (h : Gives next s q) (hs : next s = .skip t) : Gives next t q := by
  have hpull {r : Option (α × σ)} (hp : Pulls next s r) : Pulls next t r := by
    cases hp with
    | ended he => simp [hs] at he
    | yield hy => simp [hs] at hy
    | skip hk ht =>
      rw [hs] at hk
      cases hk
      exact ht
  exact fun k ↦ (h k).of_pulls fun _ ↦ hpull

theorem of_pull_eq_skip {fuel : ℕ} (h : Gives next s q)
    (hp : RegexWords.pull (m := Id) next fuel s = .skip t) : Gives next t q := by
  induction fuel generalizing s with
  | zero =>
    cases hp
    exact h
  | succ fuel ih =>
    generalize hs : next s = x at hp
    simp only [RegexWords.pull, hs] at hp
    cases x with
    | yield a u => cases hp
    | skip u => exact ih (h.of_next_skip hs) hp
    | ended => cases hp

theorem exists_pullsTo (h : Gives next s q) : ∃ t, PullsTo next s (q 0) t := by
  obtain ⟨hn, hq⟩ | ⟨a, t, ha, h0, -⟩ := h.pull
  · obtain ⟨t, ht⟩ := hn.exists_pullsTo_none
    exact ⟨t, (hq 0).symm ▸ ht⟩
  · exact ⟨t, h0.symm ▸ ha.pullsTo⟩

theorem exists_run (h : Gives next s q) (n : ℕ) : ∃ t, Run next s ((List.range n).map q) t := by
  induction n generalizing s q with
  | zero => exact ⟨s, .nil⟩
  | succ n ih =>
    obtain ⟨t, hp⟩ := h.exists_pullsTo
    obtain ⟨u, hu⟩ := ih (h.tail hp).2
    refine ⟨u, ?_⟩
    rw [List.range_succ_eq_map, List.map_cons, List.map_map]
    exact .cons hp hu

theorem eq_of_run (h : Gives next s q) (hr : Run next s rs t) :
    rs = (List.range rs.length).map q := by
  induction hr generalizing q with
  | nil => rfl
  | cons hp _ ih =>
    obtain ⟨h0, ht⟩ := h.tail hp
    rw [List.length_cons, List.range_succ_eq_map, List.map_cons, List.map_map, h0]
    exact congrArg (q 0 :: ·) (ih ht)

end Gives

section Begins

variable {α : Type} {q : ℕ → Option α} {rs rs' : List (Option α)} {r : Option α}

def Begins (q : ℕ → Option α) (rs : List (Option α)) : Prop :=
  rs = (List.range rs.length).map q

theorem begins_nil : Begins q [] := rfl

theorem begins_cons : Begins q (r :: rs) ↔ r = q 0 ∧ Begins (fun k ↦ q (k + 1)) rs := by
  rw [Begins, List.length_cons, List.range_succ_eq_map, List.map_cons, List.map_map,
    List.cons.injEq]
  rfl

theorem begins_append :
    Begins q (rs ++ rs') ↔ Begins q rs ∧ Begins (fun k ↦ q (k + rs.length)) rs' := by
  induction rs generalizing q with
  | nil => simp [begins_nil]
  | cons r rs ih =>
    rw [List.cons_append, begins_cons, begins_cons, ih, and_assoc]
    simp only [List.length_cons, Nat.add_assoc]

end Begins

section Lift

variable {τ : Type} {next' : τ → Step τ α} {f : τ → σ} {x : τ}
  (hstep : ∀ x, (next' x).mapState f = next (f x))
include hstep

theorem Pulls.lift {r : Option (α × σ)} (h : Pulls next (f x) r) :
    ∃ r', Pulls next' x r' ∧ r = r'.map (Prod.map id f) := by
  generalize hs : f x = s at h
  induction h generalizing x with
  | ended he =>
    rw [← hs, ← hstep] at he
    cases hx : next' x with
    | ended => exact ⟨none, .ended hx, rfl⟩
    | yield a t => simp [hx, Step.mapState] at he
    | skip t => simp [hx, Step.mapState] at he
  | yield hy =>
    rw [← hs, ← hstep] at hy
    cases hx : next' x with
    | ended => simp [hx, Step.mapState] at hy
    | yield b t =>
      rw [hx] at hy
      cases hy
      exact ⟨some (_, t), .yield hx, rfl⟩
    | skip t => simp [hx, Step.mapState] at hy
  | skip hk _ ih =>
    rw [← hs, ← hstep] at hk
    cases hx : next' x with
    | ended => simp [hx, Step.mapState] at hk
    | yield b t => simp [hx, Step.mapState] at hk
    | skip t =>
      rw [hx] at hk
      cases hk
      obtain ⟨r', hr', rfl⟩ := ih rfl
      exact ⟨r', .skip hx hr', rfl⟩

theorem Answers.lift {k : ℕ} {r : Option α} (h : Answers next (f x) k r) : Answers next' x k r := by
  generalize hs : f x = s at h
  induction h generalizing x with
  | ended hp =>
    obtain ⟨r', hr', hn⟩ := (hs ▸ hp).lift hstep
    cases r' with
    | none => exact .ended hr'
    | some y => cases hn
  | now hp =>
    obtain ⟨r', hr', hn⟩ := (hs ▸ hp).lift hstep
    cases r' with
    | none => cases hn
    | some y =>
      cases hn
      exact .now hr'
  | later hp _ ih =>
    obtain ⟨r', hr', hn⟩ := (hs ▸ hp).lift hstep
    cases r' with
    | none => cases hn
    | some y =>
      cases hn
      exact .later hr' (ih rfl)

theorem pull_lift (fuel : ℕ) (x : τ) :
    (RegexWords.pull (m := Id) next' fuel x).mapState f =
      RegexWords.pull (m := Id) next fuel (f x) := by
  induction fuel generalizing x with
  | zero => rfl
  | succ fuel ih =>
    rw [RegexWords.pull, RegexWords.pull, ← hstep]
    cases next' x with
    | yield a y => rfl
    | skip y => exact ih y
    | ended => rfl

end Lift

end RegexWords
