import Mathlib.Data.List.Forall2
import Mathlib.Data.List.Lex
import RegexWords.Sequence.Box

namespace RegexWords.Box

def vectors : List (ℕ × ℕ) → List (List ℕ)
  | [] => [[]]
  | r :: ranges =>
    (List.range' r.1 (r.2 - r.1)).flatMap fun i ↦ (vectors ranges).map (i :: ·)

def InRange (i : ℕ) (r : ℕ × ℕ) : Prop := r.1 ≤ i ∧ i < r.2

theorem mem_vectors {ranges : List (ℕ × ℕ)} {v : List ℕ} :
    v ∈ vectors ranges ↔ List.Forall₂ InRange v ranges := by
  induction ranges generalizing v with
  | nil => simp [vectors]
  | cons r ranges ih =>
    have hi (i : ℕ) : i ∈ List.range' r.1 (r.2 - r.1) ↔ InRange i r := by
      rw [List.mem_range'_1, InRange]
      omega
    simp only [vectors, List.mem_flatMap, List.mem_map, ih, hi]
    constructor
    · rintro ⟨i, hi, w, hw, rfl⟩
      exact .cons hi hw
    · rintro (_ | ⟨hi, hw⟩)
      exact ⟨_, hi, _, hw, rfl⟩

theorem pairwise_cons_of_pairwise {vs : List (List ℕ)} (h : vs.Pairwise (· < ·))
    {is : List ℕ} (hi : is.Pairwise (· < ·)) :
    (is.flatMap fun i ↦ vs.map (i :: ·)).Pairwise (· < ·) := by
  rw [List.pairwise_flatMap]
  constructor
  · intro i _
    rw [List.pairwise_map]
    exact h.imp fun hv ↦ List.cons_lt_cons_iff.2 (.inr ⟨rfl, hv⟩)
  · refine hi.imp fun hij v hv w hw ↦ ?_
    obtain ⟨v, -, rfl⟩ := List.mem_map.1 hv
    obtain ⟨w, -, rfl⟩ := List.mem_map.1 hw
    exact List.cons_lt_cons_iff.2 (.inl hij)

theorem pairwise_vectors (ranges : List (ℕ × ℕ)) : (vectors ranges).Pairwise (· < ·) := by
  induction ranges with
  | nil => exact List.pairwise_singleton _ _
  | cons r ranges ih => exact pairwise_cons_of_pairwise ih (List.pairwise_lt_range' _)

def vectorsFrom : List (ℕ × ℕ) → List ℕ → List (List ℕ)
  | r :: ranges, i :: v =>
    (vectorsFrom ranges v).map (i :: ·) ++
      (List.range' (i + 1) (r.2 - (i + 1))).flatMap fun k ↦ (vectors ranges).map (k :: ·)
  | _, _ => [[]]

theorem vectorsFrom_first {ranges : List (ℕ × ℕ)} (h : ∀ r ∈ ranges, r.1 < r.2) :
    vectorsFrom ranges (first ranges) = vectors ranges := by
  induction ranges with
  | nil => rfl
  | cons r ranges ih =>
    have hr := h r List.mem_cons_self
    obtain ⟨k, hk⟩ : ∃ k, r.2 - r.1 = k + 1 := ⟨r.2 - r.1 - 1, by omega⟩
    have hk' : r.2 - (r.1 + 1) = k := by omega
    have ih := ih fun s hs ↦ h s (List.mem_cons_of_mem r hs)
    rw [first] at ih
    simp only [first, List.map_cons, vectorsFrom, ih, vectors, hk, hk', List.range'_succ,
      List.flatMap_cons]

theorem lt_of_forall₂ {ranges : List (ℕ × ℕ)} {v : List ℕ} (h : List.Forall₂ InRange v ranges) :
    ∀ r ∈ ranges, r.1 < r.2 := by
  induction h with
  | nil => simp
  | cons hi _ ih =>
    rintro r (_ | ⟨_, hr⟩)
    · exact hi.1.trans_lt hi.2
    · exact ih r hr

theorem vectors_eq_nil {ranges : List (ℕ × ℕ)} {r : ℕ × ℕ} (hr : r ∈ ranges) (he : r.2 ≤ r.1) :
    vectors ranges = [] := by
  refine List.eq_nil_iff_forall_not_mem.2 fun v hv ↦ ?_
  exact absurd (lt_of_forall₂ (mem_vectors.1 hv) r hr) (not_lt.2 he)

theorem forall₂_first {ranges : List (ℕ × ℕ)} (h : ∀ r ∈ ranges, r.1 < r.2) :
    List.Forall₂ InRange (first ranges) ranges := by
  rw [first, List.forall₂_map_left_iff, List.forall₂_same]
  exact fun r hr ↦ ⟨le_rfl, h r hr⟩

/-- The successor of a vector is the first behind it. -/
theorem vectorsFrom_eq_cons {ranges : List (ℕ × ℕ)} {v : List ℕ}
    (h : List.Forall₂ InRange v ranges) :
    vectorsFrom ranges v = v :: (successor? ranges v).elim [] (vectorsFrom ranges) := by
  induction h with
  | nil => rfl
  | @cons i r v ranges hi hv ih =>
    rw [vectorsFrom, ih]
    cases hs : successor? ranges v with
    | some w => simp [successor?, hs, vectorsFrom]
    | none =>
      by_cases hlt : i + 1 < r.2
      · obtain ⟨k, hk⟩ : ∃ k, r.2 - (i + 1) = k + 1 := ⟨r.2 - (i + 1) - 1, by omega⟩
        have hk' : r.2 - (i + 1 + 1) = k := by omega
        simp [successor?, hs, hlt, vectorsFrom, vectorsFrom_first (lt_of_forall₂ hv), hk, hk',
          List.range'_succ]
      · have hz : r.2 - (i + 1) = 0 := by omega
        simp [successor?, hs, hlt, hz]

theorem forall₂_of_successor? {ranges : List (ℕ × ℕ)} {v w : List ℕ}
    (h : List.Forall₂ InRange v ranges) (hw : successor? ranges v = some w) :
    List.Forall₂ InRange w ranges := by
  induction h generalizing w with
  | nil => cases hw
  | @cons i r v ranges hi hv ih =>
    rw [successor?] at hw
    cases hs : successor? ranges v with
    | some u =>
      simp only [hs, Option.some.injEq] at hw
      exact hw ▸ .cons hi (ih hs)
    | none =>
      simp only [hs, Option.ite_none_right_eq_some, Option.some.injEq] at hw
      obtain ⟨hlt, rfl⟩ := hw
      exact .cons ⟨by have := hi.1; omega, hlt⟩ (forall₂_first (lt_of_forall₂ hv))

/-- The vectors that a box has still to list. -/
inductive Holds : Box → List (List ℕ) → Prop
  | nil {b : Box} : b.pop? = none → Holds b []
  | cons {b b' : Box} {v : List ℕ} {vs : List (List ℕ)} :
      b.pop? = some (v, b') → Holds b' vs → Holds b (v :: vs)

theorem holds_vectorsFrom {ranges : List (ℕ × ℕ)} {v : List ℕ}
    (h : List.Forall₂ InRange v ranges) : Holds ⟨ranges, some v⟩ (vectorsFrom ranges v) := by
  generalize hvs : vectorsFrom ranges v = vs
  induction vs generalizing v with
  | nil =>
    rw [vectorsFrom_eq_cons h] at hvs
    cases hvs
  | cons u vs ih =>
    rw [vectorsFrom_eq_cons h, List.cons.injEq] at hvs
    obtain ⟨rfl, hvs⟩ := hvs
    refine .cons rfl (?_ : Holds ⟨ranges, successor? ranges v⟩ vs)
    cases hs : successor? ranges v with
    | none =>
      simp only [hs, Option.elim_none] at hvs
      exact hvs ▸ .nil rfl
    | some w => exact ih (forall₂_of_successor? h hs) (by simpa only [hs, Option.elim_some] using hvs)

theorem holds_ofRanges (ranges : List (ℕ × ℕ)) : Holds (ofRanges ranges) (vectors ranges) := by
  rw [ofRanges]
  split
  · next h =>
    obtain ⟨r, hr, he⟩ := List.any_eq_true.1 h
    have hnil := vectors_eq_nil hr (of_decide_eq_true he)
    exact hnil ▸ .nil rfl
  · next h =>
    have hlt : ∀ r ∈ ranges, r.1 < r.2 := by
      intro r hr
      by_contra hle
      exact h (List.any_eq_true.2 ⟨r, hr, by simpa [isEmpty] using hle⟩)
    rw [← vectorsFrom_first hlt]
    exact holds_vectorsFrom (forall₂_first hlt)

end RegexWords.Box
