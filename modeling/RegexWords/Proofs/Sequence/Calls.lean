import Mathlib.Data.Nat.Init
import Mathlib.Logic.Function.Iterate
import RegexWords.Proofs.Sequence.Runs

namespace RegexWords

variable {σ μ α : Type} {step : σ → StateM μ (Step σ α)} {s t t' : σ} {x y y' : μ}
  {r r' : Option α}

/-- A call makes steps until there is an item or the end, where the machine stays. -/
inductive Call (step : σ → StateM μ (Step σ α)) : σ → μ → Option α → σ → μ → Prop
  | ended {s : σ} {x y : μ} : step s x = (.ended, y) → Call step s x none s y
  | yield {s t : σ} {x y : μ} {a : α} : step s x = (.yield a t, y) → Call step s x (some a) t y
  | skip {s t u : σ} {x y z : μ} {r : Option α} :
      step s x = (.skip t, y) → Call step t y r u z → Call step s x r u z

theorem Call.unique (h : Call step s x r t y) (h' : Call step s x r' t' y') :
    r = r' ∧ t = t' ∧ y = y' := by
  induction h with
  | ended hs =>
    cases h' with
    | ended hs' => cases hs.symm.trans hs'; exact ⟨rfl, rfl, rfl⟩
    | yield hs' => cases hs.symm.trans hs'
    | skip hs' => cases hs.symm.trans hs'
  | yield hs =>
    cases h' with
    | ended hs' => cases hs.symm.trans hs'
    | yield hs' => cases hs.symm.trans hs'; exact ⟨rfl, rfl, rfl⟩
    | skip hs' => cases hs.symm.trans hs'
  | skip hs _ ih =>
    cases h' with
    | ended hs' => cases hs.symm.trans hs'
    | yield hs' => cases hs.symm.trans hs'
    | skip hs' ht' => cases hs.symm.trans hs'; exact ih ht'

/-- Calls made one after the other without end, by their numbers from zero on. -/
structure Execution (step : σ → StateM μ (Step σ α)) (s : σ) (x : μ) where
  state : ℕ → σ
  world : ℕ → μ
  reply : ℕ → Option α
  state_zero : state 0 = s
  world_zero : world 0 = x
  call (k : ℕ) : Call step (state k) (world k) (reply k) (state (k + 1)) (world (k + 1))

def Execution.replies (e : Execution step s x) (k : ℕ) : List (Option α) :=
  (List.range k).map e.reply

theorem Execution.replies_succ (e : Execution step s x) (k : ℕ) :
    e.replies (k + 1) = e.replies k ++ [e.reply k] := by
  simp [replies, List.range_succ]

theorem Execution.getElem?_replies (e : Execution step s x) {k l : ℕ} (h : l < k) :
    (e.replies k)[l]? = some (e.reply l) := by
  simp [replies, h]

theorem Execution.eq_none_of_ended (e : Execution step s x) {k l : ℕ}
    (h : step (e.state k) (e.world k) = (.ended, e.world k)) (hl : k ≤ l) :
    e.reply l = none ∧ e.state l = e.state k ∧ e.world l = e.world k := by
  have stays : e.state l = e.state k ∧ e.world l = e.world k := by
    induction l, hl using Nat.le_induction with
    | base => exact ⟨rfl, rfl⟩
    | succ l _ ih =>
      obtain ⟨-, hs, hx⟩ := (e.call l).unique (.ended (by rw [ih.1, ih.2]; exact h))
      exact ⟨hs.trans ih.1, hx⟩
  obtain ⟨hr, -, -⟩ := (e.call l).unique (.ended (by rw [stays.1, stays.2]; exact h))
  exact ⟨hr, stays⟩

section Invariant

variable {Inv : List (Option α) → σ → μ → Prop} (h : Inv [] s x)
  (hcall : ∀ rs s x, Inv rs s x → ∃ r t y, Call step s x r t y ∧ Inv (rs ++ [r]) t y)
include h hcall

theorem Execution.nonempty : Nonempty (Execution step s x) := by
  let Reached := {p : List (Option α) × σ × μ // Inv p.1 p.2.1 p.2.2}
  have exists_next (p : Reached) : ∃ (r : Option α) (p' : Reached),
      Call step p.1.2.1 p.1.2.2 r p'.1.2.1 p'.1.2.2 := by
    obtain ⟨r, t, y, hc, hi⟩ := hcall _ _ _ p.2
    exact ⟨r, ⟨(_, t, y), hi⟩, hc⟩
  choose reply next hnext using exists_next
  let state (k : ℕ) : Reached := next^[k] ⟨([], s, x), h⟩
  refine ⟨⟨fun k ↦ (state k).1.2.1, fun k ↦ (state k).1.2.2, fun k ↦ reply (state k), rfl, rfl,
    fun k ↦ ?_⟩⟩
  have hstep : state (k + 1) = next (state k) := Function.iterate_succ_apply' next k _
  simp only [hstep]
  exact hnext (state k)

theorem Execution.invariant (e : Execution step s x) (k : ℕ) :
    Inv (e.replies k) (e.state k) (e.world k) := by
  induction k with
  | zero =>
    rw [e.state_zero, e.world_zero]
    exact h
  | succ k ih =>
    obtain ⟨r, t, y, hc, hi⟩ := hcall _ _ _ ih
    obtain ⟨rfl, rfl, rfl⟩ := hc.unique (e.call k)
    rwa [e.replies_succ]

end Invariant

section SameStep

variable {ρ : Type} {next : ρ → Step ρ α} {p p' : ρ} {R : ρ → σ → μ → Prop}

inductive SameStep (R : ρ → σ → Prop) : ρ → σ → Step ρ α → Step σ α → Prop
  | ended {p : ρ} {s : σ} : R p s → SameStep R p s .ended .ended
  | yield {p p' : ρ} {s s' : σ} {a : α} :
      R p' s' → SameStep R p s (.yield a p') (.yield a s')
  | skip {p p' : ρ} {s s' : σ} : R p' s' → SameStep R p s (.skip p') (.skip s')

variable (hstep : ∀ p s x, R p s x →
  SameStep (fun p' s' ↦ R p' s' (step s x).2) p s (next p) (step s x).1)
include hstep

theorem exists_sameStep {z : Step ρ α} (hR : R p s x) (hp : next p = z) :
    ∃ z' y, step s x = (z', y) ∧ SameStep (fun p' s' ↦ R p' s' y) p s z z' :=
  ⟨_, _, rfl, hp ▸ hstep _ _ _ hR⟩

theorem PullsTo.exists_call (h : PullsTo next p r p') (hR : R p s x) :
    ∃ t y, Call step s x r t y ∧ R p' t y := by
  induction h generalizing s x with
  | ended hp =>
    obtain ⟨_, y, hs, hsame⟩ := exists_sameStep hstep hR hp
    cases hsame with
    | ended hR' => exact ⟨s, y, .ended hs, hR'⟩
  | yield hp =>
    obtain ⟨_, y, hs, hsame⟩ := exists_sameStep hstep hR hp
    cases hsame with
    | yield hR' => exact ⟨_, y, .yield hs, hR'⟩
  | skip hp _ ih =>
    obtain ⟨_, y, hs, hsame⟩ := exists_sameStep hstep hR hp
    cases hsame with
    | skip hR' =>
      obtain ⟨t, y, hc, ht⟩ := ih hR'
      exact ⟨t, y, .skip hs hc, ht⟩

theorem Gives.replies {q : ℕ → Option α} (h : Gives next p q) (hR : R p s x) :
    Nonempty (Execution step s x) ∧ ∀ (e : Execution step s x) (k : ℕ),
      e.reply k = q k ∧ ∃ p, R p (e.state k) (e.world k) := by
  let Inv (rs : List (Option α)) (s : σ) (x : μ) :=
    ∃ p, R p s x ∧ Gives next p (fun k ↦ q (rs.length + k)) ∧ rs = (List.range rs.length).map q
  have hstart : Inv [] s x := ⟨p, hR, by simpa using h, rfl⟩
  have hcall : ∀ rs s x, Inv rs s x → ∃ r t y, Call step s x r t y ∧ Inv (rs ++ [r]) t y := by
    rintro rs s x ⟨p, hR, hq, hrs⟩
    obtain ⟨p', hp⟩ := hq.exists_pullsTo
    obtain ⟨t, y, hc, hR'⟩ := hp.exists_call hstep hR
    refine ⟨_, t, y, hc, p', hR', ?_, ?_⟩
    · simpa only [List.length_append, List.length_singleton, Nat.add_assoc, Nat.add_comm 1]
        using (hq.tail hp).2
    · rw [List.length_append, List.length_singleton, List.range_succ, List.map_append, ← hrs]
      rfl
  refine ⟨Execution.nonempty hstart hcall, fun e k ↦ ⟨?_, ?_⟩⟩
  · obtain ⟨-, -, -, hrs⟩ := Execution.invariant hstart hcall e (k + 1)
    have hk := e.getElem?_replies (Nat.lt_succ_self k)
    rw [hrs] at hk
    simpa [Execution.replies] using hk.symm
  · obtain ⟨p, hR, -⟩ := Execution.invariant hstart hcall e k
    exact ⟨p, hR⟩

end SameStep

end RegexWords
