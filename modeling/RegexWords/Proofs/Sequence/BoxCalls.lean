import Mathlib.Logic.Function.Iterate
import RegexWords.Proofs.Sequence.BoxOrder
import RegexWords.Sequence.Diagonal

namespace RegexWords

variable {σ α : Type}

def behindPop (pop? : σ → Option (α × σ)) (s : σ) : σ := (pop? s).elim s Prod.snd

def popAnswer (pop? : σ → Option (α × σ)) (s : σ) (k : ℕ) : Option α :=
  (pop? ((behindPop pop?)^[k] s)).map Prod.fst

theorem popAnswer_succ (pop? : σ → Option (α × σ)) (s : σ) (k : ℕ) :
    popAnswer pop? s (k + 1) = popAnswer pop? (behindPop pop? s) k := rfl

namespace Box

variable {ranges : List (ℕ × ℕ)} {v : List ℕ}

theorem Holds.popAnswer_eq {b : Box} {vs : List (List ℕ)} (h : Holds b vs) (k : ℕ) :
    popAnswer pop? b k = vs[k]? := by
  induction k generalizing b vs with
  | zero =>
    cases h with
    | nil hp => simp [popAnswer, hp]
    | cons hp _ => simp [popAnswer, hp]
  | succ k ih =>
    rw [popAnswer_succ]
    cases h with
    | nil hp => simpa [behindPop, hp] using ih (.nil hp)
    | cons hp hvs => simpa [behindPop, hp] using ih hvs

/-- The successor by numbers up to `greatest`, or none where a number counts beyond it. -/
def boundedSuccessor? (greatest : ℕ) : List (ℕ × ℕ) → List ℕ → Option (Option (List ℕ))
  | (_, stop) :: ranges, i :: v =>
    match boundedSuccessor? greatest ranges v with
    | none => none
    | some (some v) => some (some (i :: v))
    | some none =>
      if greatest ≤ i then none
      else some (if i + 1 < stop then some ((i + 1) :: first ranges) else none)
  | _, _ => some none

/-- No number of a vector in range is the greatest, so that it can count up. -/
theorem boundedSuccessor?_eq {greatest : ℕ} (h : List.Forall₂ InRange v ranges)
    (hr : ∀ r ∈ ranges, r.2 ≤ greatest) :
    boundedSuccessor? greatest ranges v = some (successor? ranges v) := by
  induction h with
  | nil => rfl
  | @cons i r v ranges hi hv ih =>
    obtain ⟨hle, hrest⟩ := List.forall_mem_cons.1 hr
    rw [boundedSuccessor?, ih hrest, successor?]
    cases successor? ranges v with
    | some w => rfl
    | none => simp only [if_neg (not_le.2 (hi.2.trans_le hle))]

def numbers (ranges : List (UInt64 × UInt64)) : List (ℕ × ℕ) :=
  ranges.map fun r ↦ (r.1.toNat, r.2.toNat)

end Box

namespace Grid

variable {v : List ℕ}

theorem popAnswer_eq (seen : List (Array α)) (b : Box) (k : ℕ) :
    popAnswer pop? ⟨seen, b⟩ k = (popAnswer Box.pop? b k).map (tuple ⟨seen, b⟩) := by
  have hpop (b : Box) :
      pop? ⟨seen, b⟩ = b.pop?.map fun p ↦ (tuple ⟨seen, b⟩ p.1, ⟨seen, p.2⟩) := rfl
  have hbehind : Function.Semiconj (Grid.mk seen) (behindPop Box.pop?) (behindPop pop?) := by
    intro b
    rw [behindPop, behindPop, hpop]
    cases b.pop? <;> rfl
  rw [popAnswer, ← (hbehind.iterate_right k).eq b, hpop, popAnswer, Option.map_map, Option.map_map]
  rfl

theorem map_some_tuple {g : Grid α} (h : List.Forall₂ (fun i l ↦ i < l.size) v g.seen) :
    (g.tuple v).map some = List.zipWith (fun l i ↦ l[i]?) g.seen v := by
  rw [tuple]
  generalize g.seen = seen at h ⊢
  induction h with
  | nil => rfl
  | cons hi _ ih => simp [hi, ih]

end Grid

namespace Box

/-- The calls of a box answer its vectors in lexicographic order, and then that there is none left.
Where the numbers have 64 bits none counts beyond them. A grid of lists answers the tuples at the
vectors below their sizes. -/
theorem exists_popAnswer_eq (ranges : List (UInt64 × UInt64)) (lists : List (Array α)) :
    (∃ vs : List (List ℕ), vs.Pairwise (· < ·) ∧
      (∀ v, v ∈ vs ↔
        List.Forall₂ (fun i (r : UInt64 × UInt64) ↦ r.1.toNat ≤ i ∧ i < r.2.toNat) v ranges) ∧
      (∀ k, popAnswer pop? (ofRanges (numbers ranges)) k = vs[k]?) ∧
      (∀ v ∈ vs, boundedSuccessor? (UInt64.size - 1) (numbers ranges) v =
        some (successor? (numbers ranges) v)) ∧
      (ranges = [] → vs = [[]]) ∧ ((∃ r ∈ ranges, r.2 ≤ r.1) → vs = [])) ∧
    ∃ E : List (List ℕ × List α), (E.map Prod.fst).Pairwise (· < ·) ∧
      (∀ v, v ∈ E.map Prod.fst ↔ List.Forall₂ (fun i l ↦ i < l.size) v lists) ∧
      (∀ x ∈ E, x.2.map some = List.zipWith (fun l i ↦ l[i]?) lists x.1) ∧
      ∀ k, popAnswer Grid.pop? (.ofLists lists) k = (E[k]?).map Prod.snd := by
  constructor
  · have hmem (v : List ℕ) : v ∈ vectors (numbers ranges) ↔
        List.Forall₂ (fun i (r : UInt64 × UInt64) ↦ r.1.toNat ≤ i ∧ i < r.2.toNat) v ranges := by
      rw [mem_vectors, numbers, List.forall₂_map_right_iff]
      rfl
    refine ⟨_, pairwise_vectors _, hmem, (holds_ofRanges _).popAnswer_eq, fun v hv ↦ ?_, ?_, ?_⟩
    · refine boundedSuccessor?_eq (mem_vectors.1 hv) fun r hr ↦ ?_
      obtain ⟨r, -, rfl⟩ := List.mem_map.1 hr
      exact Nat.le_sub_one_of_lt r.2.toNat_lt
    · rintro rfl
      rfl
    · rintro ⟨r, hr, hle⟩
      exact vectors_eq_nil (List.mem_map_of_mem hr) (UInt64.le_iff_toNat_le.1 hle)
  · let g := Grid.ofLists lists
    have hmem (v : List ℕ) : v ∈ vectors ((lists.map (·.size)).map (0, ·)) ↔
        List.Forall₂ (fun i l ↦ i < l.size) v lists := by
      rw [mem_vectors, List.forall₂_map_right_iff, List.forall₂_map_right_iff]
      simp only [InRange, Nat.zero_le, true_and]
    refine ⟨(vectors ((lists.map (·.size)).map (0, ·))).map fun v ↦ (v, g.tuple v), ?_, fun v ↦ ?_,
      fun x hx ↦ ?_, fun k ↦ ?_⟩
    · simpa [Function.comp_def] using pairwise_vectors _
    · simpa [Function.comp_def] using hmem v
    · obtain ⟨v, hv, rfl⟩ := List.mem_map.1 hx
      exact Grid.map_some_tuple ((hmem v).1 hv)
    · rw [Grid.ofLists, Grid.popAnswer_eq, ofSizes, (holds_ofRanges _).popAnswer_eq,
        List.getElem?_map, Option.map_map]
      rfl

end Box

end RegexWords
