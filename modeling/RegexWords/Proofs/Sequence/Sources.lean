import Mathlib.Data.List.Count
import Mathlib.Data.List.Rotate
import RegexWords.Proofs.Sequence.Answers
import RegexWords.Proofs.Sequence.Rotation

namespace RegexWords

variable {α : Type}

/-- How sources that stand outside of a machine were pulled and what they answered. They may answer
on when they are pulled behind their end. -/
abbrev Log (α : Type) := List (ℕ × Option α)

namespace Log

def pulls (log : Log α) (i : ℕ) : ℕ := (log.map Prod.fst).count i

theorem pulls_pos {log : Log α} {i : ℕ} {r : Option α} (h : (i, r) ∈ log) : 0 < log.pulls i :=
  List.count_pos_iff.2 (List.mem_map.2 ⟨(i, r), h, rfl⟩)

theorem pulls_concat_self (log : Log α) (i : ℕ) (r : Option α) :
    pulls (log ++ [(i, r)]) i = pulls log i + 1 := by
  simp [pulls]

theorem pulls_concat_of_ne (log : Log α) {i k : ℕ} (h : k ≠ i) (r : Option α) :
    pulls (log ++ [(i, r)]) k = pulls log k := by
  simp [pulls, Ne.symm h]

def hasEnded (log : Log α) (i : ℕ) : Bool := log.any fun p ↦ p.1 == i && p.2.isNone

def position (log : Log α) : ℕ := log.getLast?.elim 0 (·.1 + 1)

/-- All sources have been pulled, those that have not ended equally often up to one pull. -/
def Balanced (log : Log α) (n : ℕ) : Prop :=
  (∀ i < n, 0 < log.pulls i) ∧
    ∀ i < n, ∀ k < n, (i, none) ∉ log → (k, none) ∉ log → log.pulls i ≤ log.pulls k + 1

/-- The sources that have not ended, around the circle from the position of the log on. -/
def waiting (log : Log α) (n : ℕ) : List ℕ :=
  ((List.range n).rotate log.position).filter (!log.hasEnded ·)

variable {log : Log α} {i k n : ℕ} {live : List ℕ} {r : Option α}

theorem hasEnded_iff : log.hasEnded i ↔ (i, none) ∈ log := by
  simp only [hasEnded, List.any_eq_true, Prod.exists, Bool.and_eq_true, beq_iff_eq,
    Option.isNone_iff_eq_none]
  constructor
  · rintro ⟨_, _, hp, rfl, rfl⟩
    exact hp
  · exact fun h ↦ ⟨i, none, h, rfl, rfl⟩

theorem hasEnded_concat :
    hasEnded (log ++ [(i, r)]) k = (log.hasEnded k || (i == k && r.isNone)) := by
  simp [hasEnded]

theorem position_concat : position (log ++ [(i, r)]) = i + 1 := by
  simp [position]

theorem nodup_waiting (log : Log α) (n : ℕ) : (log.waiting n).Nodup :=
  (List.nodup_rotate.2 List.nodup_range).filter _

theorem length_waiting_le (log : Log α) (n : ℕ) : (log.waiting n).length ≤ n := by
  simpa [waiting] using List.length_filter_le (!log.hasEnded ·) ((List.range n).rotate log.position)

theorem mem_waiting : i ∈ log.waiting n ↔ i < n ∧ log.hasEnded i = false := by
  simp [waiting]

theorem rotate_range_eq {c : ℕ} {front back : List ℕ}
    (h : (List.range n).rotate c = front ++ i :: back) :
    (List.range n).rotate (i + 1) = back ++ (front ++ [i]) := by
  have hlen := congrArg List.length h
  simp only [List.length_rotate, List.length_range, List.length_append, List.length_cons] at hlen
  have hi : (front.length + c) % n = i := by
    have hget : ((List.range n).rotate c)[front.length]? = some i := by simp [h]
    rw [List.getElem?_rotate (by simp; omega), List.length_range] at hget
    obtain ⟨hlt, hget⟩ := List.getElem?_eq_some_iff.1 hget
    exact List.getElem_range hlt ▸ hget
  have hmod : (i + 1) % n = (c + (front.length + 1)) % n := by
    rw [← hi, Nat.mod_add_mod, Nat.add_comm front.length c, Nat.add_assoc]
  have hrotate := List.rotate_rotate (List.range n) c (front.length + 1)
  rw [h, ← List.rotate_mod _ (c + _), List.length_range, ← hmod] at hrotate
  have hmod' := List.rotate_mod (List.range n) (i + 1)
  rw [List.length_range] at hmod'
  rw [← hmod', ← hrotate, List.append_cons, ← List.length_singleton (a := i), ← List.length_append,
    List.rotate_append_length_eq]

section Front

variable (h : log.waiting n = i :: live)
include h

/-- Behind a pull the other sources follow, and the source that was pulled is the last. -/
theorem waiting_concat : waiting (log ++ [(i, r)]) n = live ++ if r.isNone then [] else [i] := by
  obtain ⟨front, back, hcircle, hfront, hi, hback⟩ := List.filter_eq_cons_iff.1 h
  have hnodup := List.nodup_rotate (n := log.position).2 (List.nodup_range (n := n))
  rw [hcircle, List.nodup_middle, List.nodup_cons, List.mem_append, not_or] at hnodup
  have hfront' : front.filter (!hasEnded (log ++ [(i, r)]) ·) = [] := by
    rw [List.filter_eq_nil_iff]
    intro k hk
    have hended := hfront k hk
    simp_all [hasEnded_concat]
  have hback' : back.filter (!hasEnded (log ++ [(i, r)]) ·) = live := by
    rw [← hback]
    refine List.filter_congr fun k hk ↦ ?_
    have hne : i ≠ k := fun he ↦ hnodup.1.2 (he ▸ hk)
    simp [hasEnded_concat, hne]
  rw [waiting, position_concat, rotate_range_eq hcircle, List.filter_append, List.filter_append,
    hfront', hback', List.nil_append]
  cases r <;> simp_all [hasEnded_concat]

end Front

end Log

/-- Source `i` answers `answers i k` to its pull number `k`, whatever it answered before. -/
def ask (answers : ℕ → ℕ → Option α) (i : ℕ) : StateM (Log α) (Step ℕ α) := do
  let log ← get
  let r := answers i (log.pulls i)
  set (log ++ [(i, r)])
  return match r with
    | some a => .yield a i
    | none => .ended

def counted (answers : ℕ → ℕ → Option α) : ℕ × ℕ → Step (ℕ × ℕ) α
  | (i, k) =>
    match answers i k with
    | some a => .yield a (i, k + 1)
    | none => .ended

def untilNone (answers : ℕ → Option α) (j : ℕ) : Option α :=
  if ∀ k ≤ j, answers k ≠ none then answers j else none

section Ask

variable {answers : ℕ → ℕ → Option α} {i j : ℕ} {log : Log α} {a : α}

theorem ask_eq : ask answers i log = ((answers i (log.pulls i)).elim .ended (.yield · i),
    log ++ [(i, answers i (log.pulls i))]) := by
  change ((match answers i (log.pulls i) with
    | some a => Step.yield a i
    | none => .ended), log ++ [(i, answers i (log.pulls i))]) = _
  cases answers i (log.pulls i) <;> rfl

theorem untilNone_eq_some {q : ℕ → Option α} :
    untilNone q j = some a ↔ q j = some a ∧ ∀ k < j, q k ≠ none := by
  rw [untilNone]
  constructor
  · intro h
    split at h
    · next hall => exact ⟨h, fun k hk ↦ hall k (Nat.le_of_lt hk)⟩
    · cases h
  · rintro ⟨h, hall⟩
    rw [if_pos, h]
    intro k hk
    rcases Nat.lt_or_eq_of_le hk with hlt | rfl
    · exact hall k hlt
    · exact h ▸ Option.some_ne_none a

theorem untilNone_eq_none {q : ℕ → Option α} :
    untilNone q j = none ↔ ∃ k ≤ j, q k = none := by
  rw [untilNone]
  split
  · next h =>
    constructor
    · exact fun hj ↦ ⟨j, Nat.le_refl j, hj⟩
    · rintro ⟨k, hk, hn⟩
      exact absurd hn (h k hk)
  · next h => simpa using h

theorem untilNone_eq_none_of_le {q : ℕ → Option α} {k : ℕ} (h : untilNone q j = none) (hk : j ≤ k) :
    untilNone q k = none := by
  obtain ⟨l, hl, hn⟩ := untilNone_eq_none.1 h
  exact untilNone_eq_none.2 ⟨l, hl.trans hk, hn⟩

theorem gives_counted {k : ℕ} (h : ∀ l < k, answers i l ≠ none) :
    Gives (counted answers) (i, k) fun j ↦ untilNone (answers i) (k + j) := by
  intro j
  dsimp only
  induction j generalizing k with
  | zero =>
    cases hk : answers i k with
    | none =>
      rw [untilNone_eq_none.2 ⟨k, Nat.le_add_right k 0, hk⟩]
      exact .ended (.ended (by rw [counted, hk]))
    | some a =>
      rw [Nat.add_zero, untilNone_eq_some.2 ⟨hk, h⟩]
      exact .now (.yield (by rw [counted, hk]))
  | succ j ih =>
    cases hk : answers i k with
    | none =>
      rw [untilNone_eq_none.2 ⟨k, Nat.le_add_right k _, hk⟩]
      exact .ended (.ended (by rw [counted, hk]))
    | some a =>
      have hnext : ∀ l < k + 1, answers i l ≠ none := by
        intro l hl
        rcases Nat.lt_succ_iff_lt_or_eq.1 hl with hlt | rfl
        · exact h l hlt
        · exact hk ▸ Option.some_ne_none a
      have hadd : k + (j + 1) = k + 1 + j := by omega
      rw [hadd]
      exact .later (.yield (by rw [counted, hk])) (ih hnext)

theorem gives_counted_range (answers : ℕ → ℕ → Option α) (n i : ℕ)
    (hi : i < ((List.range n).map fun i ↦ (i, 0)).length) :
    Gives (counted answers) ((List.range n).map fun i ↦ (i, 0))[i] (untilNone (answers i)) := by
  have h : Gives (counted answers) (i, 0) _ := gives_counted (by simp)
  simpa using h

end Ask

/-- Of each source `k` the first `count k` items have been given, and the sources that have not
ended wait in rotation. -/
structure Attends (answers : ℕ → ℕ → Option α) (n : ℕ) (count : ℕ → ℕ) (live : List ℕ)
    (log : Log α) : Prop where
  rotation : Rotation count live
  waiting_eq : log.waiting n = live
  answered : ∀ i, ∀ j < count i, answers i j ≠ none
  pulls_eq : ∀ i ∈ live, log.pulls i = count i
  ended : log.Pairwise fun p r ↦ p.2 = none → r.1 ≠ p.1

namespace Attends

variable {answers : ℕ → ℕ → Option α} {n i : ℕ} {count : ℕ → ℕ} {live : List ℕ} {log : Log α}

theorem start (answers : ℕ → ℕ → Option α) (n : ℕ) :
    Attends answers n (fun _ ↦ 0) (List.range n) [] where
  rotation := .start n
  waiting_eq := by simp [Log.waiting, Log.position, Log.hasEnded]
  answered := by simp
  pulls_eq _ _ := rfl
  ended := .nil

theorem mem_live (h : Attends answers n count live log) (hi : i < n) (hend : (i, none) ∉ log) :
    i ∈ live := by
  rw [← h.waiting_eq, Log.mem_waiting, ← Bool.not_eq_true, Log.hasEnded_iff]
  exact ⟨hi, hend⟩

theorem untilNone_eq (h : Attends answers n count live log) (i : ℕ) :
    untilNone (answers i) (count i) = answers i (count i) := by
  cases ha : answers i (count i) with
  | none => exact untilNone_eq_none.2 ⟨_, le_rfl, ha⟩
  | some a => exact untilNone_eq_some.2 ⟨ha, h.answered i⟩

theorem ended_concat (h : Attends answers n count (i :: live) log) (r : Option α) :
    (log ++ [(i, r)]).Pairwise fun p r ↦ p.2 = none → r.1 ≠ p.1 := by
  rw [List.pairwise_append]
  refine ⟨h.ended, List.pairwise_singleton _ _, ?_⟩
  rintro ⟨k, s⟩ hk y hy rfl rfl
  rw [List.mem_singleton.1 hy] at hk
  have hmem : i ∈ log.waiting n := h.waiting_eq ▸ List.mem_cons_self
  have hnot := (Log.mem_waiting.1 hmem).2
  rw [Log.hasEnded_iff.2 hk] at hnot
  cases hnot

theorem drop (h : Attends answers n count (i :: live) log) :
    Attends answers n count live (log ++ [(i, none)]) where
  rotation := h.rotation.drop
  waiting_eq := by simpa using Log.waiting_concat (r := (none : Option α)) h.waiting_eq
  answered := h.answered
  pulls_eq k hk := by
    have hne : k ≠ i := fun he ↦ h.rotation.front_notMem (he ▸ hk)
    rw [Log.pulls_concat_of_ne log hne]
    exact h.pulls_eq k (List.mem_cons_of_mem i hk)
  ended := h.ended_concat none

theorem turn {a : α} (h : Attends answers n count (i :: live) log)
    (hi : answers i (count i) = some a) :
    Attends answers n (Function.update count i (count i + 1)) (live ++ [i])
      (log ++ [(i, some a)]) where
  rotation := h.rotation.turn
  waiting_eq := by simpa using Log.waiting_concat (r := some a) h.waiting_eq
  answered k j hj := by
    by_cases hk : k = i
    · subst hk
      rw [Function.update_self] at hj
      rcases Nat.lt_succ_iff_lt_or_eq.1 hj with hlt | rfl
      · exact h.answered k j hlt
      · exact hi ▸ Option.some_ne_none a
    · rw [Function.update_of_ne hk] at hj
      exact h.answered k j hj
  pulls_eq k hk := by
    rcases List.mem_append.1 hk with hk | hk
    · have hne : k ≠ i := fun he ↦ h.rotation.front_notMem (he ▸ hk)
      rw [Log.pulls_concat_of_ne log hne, Function.update_of_ne hne]
      exact h.pulls_eq k (List.mem_cons_of_mem i hk)
    · rw [List.mem_singleton.1 hk, Log.pulls_concat_self, Function.update_self]
      exact congrArg (· + 1) (h.pulls_eq i List.mem_cons_self)
  ended := h.ended_concat (some a)

theorem map_turn {γ : Type} (f : ℕ → ℕ → γ) (h : Attends answers n count (i :: live) log) :
    (live ++ [i]).map (fun k ↦ f k (Function.update count i (count i + 1) k)) =
      live.map (fun k ↦ f k (count k)) ++ [f i (count i + 1)] := by
  rw [List.map_append, List.map_singleton, Function.update_self]
  refine congrArg (· ++ _) (List.map_congr_left fun k hk ↦ ?_)
  rw [Function.update_of_ne fun he : k = i ↦ h.rotation.front_notMem (he ▸ hk)]

theorem gives_counted_succ {a : α} (h : Attends answers n count live log)
    (hi : answers i (count i) = some a) : Gives (counted answers) (i, count i + 1)
      fun k ↦ untilNone (answers i) (count i + (k + 1)) := by
  have hnext : ∀ j < count i + 1, answers i j ≠ none := by
    intro j hj
    rcases Nat.lt_succ_iff_lt_or_eq.1 hj with hlt | rfl
    · exact h.answered i j hlt
    · exact hi ▸ Option.some_ne_none a
  simpa only [Nat.add_assoc, Nat.add_comm 1] using gives_counted hnext

end Attends

end RegexWords
