import Mathlib.Data.Prod.Lex
import Mathlib.Data.List.Forall2
import Mathlib.Data.List.Pairwise

namespace RegexWords

/-- The place of item `j` of source `i`. -/
def place (j i : ℕ) : ℕ ×ₗ ℕ := toLex (j, i)

theorem place_lt_place {j i l k : ℕ} : place j i < place l k ↔ j < l ∨ j = l ∧ i < k :=
  Prod.Lex.toLex_lt_toLex

theorem place_le_place {j i l k : ℕ} : place j i ≤ place l k ↔ j < l ∨ j = l ∧ i ≤ k :=
  Prod.Lex.toLex_le_toLex

theorem place_inj {j i l k : ℕ} : place j i = place l k ↔ j = l ∧ i = k := by
  rw [place, place, toLex_inj, Prod.mk.injEq]

theorem forall₂_imp_of_mem {β γ : Type} {R S : β → γ → Prop} {bs : List β} {cs : List γ}
    (h : ∀ b ∈ bs, ∀ c, R b c → S b c) (hR : List.Forall₂ R bs cs) : List.Forall₂ S bs cs :=
  ((List.forall₂_and_left bs cs).2 ⟨h, hR⟩).imp fun _ c hbc ↦ hbc.1 c hbc.2

/-- Of each source `k` its first `count k` items have been taken, and the sources in `live` are
asked next, in this order. -/
structure Rotation (count : ℕ → ℕ) (live : List ℕ) : Prop where
  sorted : live.Pairwise fun i k ↦ place (count i) i < place (count k) k
  taken_lt : ∀ i ∈ live, ∀ k, ∀ j < count k, place j k < place (count i) i

namespace Rotation

variable {count : ℕ → ℕ} {live : List ℕ} {i : ℕ}

theorem start (n : ℕ) : Rotation (fun _ ↦ 0) (List.range n) where
  sorted := List.pairwise_lt_range.imp fun h ↦ place_lt_place.2 (.inr ⟨rfl, h⟩)
  taken_lt := by
    intro i _ k j hj
    omega

theorem drop (h : Rotation count (i :: live)) : Rotation count live where
  sorted := (List.pairwise_cons.1 h.sorted).2
  taken_lt k hk := h.taken_lt k (List.mem_cons_of_mem i hk)

theorem front_le (h : Rotation count (i :: live)) {k : ℕ} (hk : k ∈ i :: live) :
    place (count i) i ≤ place (count k) k := by
  rcases List.mem_cons.1 hk with rfl | hk
  · exact le_rfl
  · exact ((List.pairwise_cons.1 h.sorted).1 k hk).le

theorem front_notMem (h : Rotation count (i :: live)) : i ∉ live :=
  fun hi ↦ lt_irrefl _ ((List.pairwise_cons.1 h.sorted).1 i hi)

theorem count_le (h : Rotation count live) (hi : i ∈ live) (k : ℕ) : count k ≤ count i + 1 := by
  have ht := h.taken_lt i hi k (count k - 1)
  simp only [place_lt_place] at ht
  omega

theorem forall₂_turn {γ : Type} {R S : ℕ → γ → Prop} {c d : γ} {cs : List γ}
    (h : Rotation count (i :: live)) (hR : List.Forall₂ R (i :: live) (c :: cs))
    (hS : ∀ k ≠ i, ∀ c, R k c → S k c) (hd : S i d) :
    List.Forall₂ S (live ++ [i]) (cs ++ [d]) := by
  have hne : ∀ k ∈ live, k ≠ i := fun k hk he ↦ h.front_notMem (he ▸ hk)
  have hlive := forall₂_imp_of_mem (fun k hk ↦ hS k (hne k hk)) (List.forall₂_cons.1 hR).2
  exact List.rel_append hlive (.cons hd .nil)

theorem turn (h : Rotation count (i :: live)) :
    Rotation (Function.update count i (count i + 1)) (live ++ [i]) := by
  have hi := h.front_notMem
  have hne : ∀ k ∈ live, k ≠ i := fun k hk he ↦ hi (he ▸ hk)
  have hfront : ∀ k ∈ live, place (count i) i < place (count k) k :=
    (List.pairwise_cons.1 h.sorted).1
  have hback : ∀ k ∈ live, place (count k) k < place (count i + 1) i := by
    intro k hk
    have ht := h.taken_lt i List.mem_cons_self k (count k - 1)
    simp only [place_lt_place] at ht ⊢
    omega
  constructor
  · rw [List.pairwise_append]
    refine ⟨?_, List.pairwise_singleton _ _, ?_⟩
    · refine h.drop.sorted.imp_of_mem fun {k l} hk hl hkl ↦ ?_
      rwa [Function.update_of_ne (hne k hk), Function.update_of_ne (hne l hl)]
    · intro k hk l hl
      rw [List.mem_singleton.1 hl, Function.update_of_ne (hne k hk), Function.update_self]
      exact hback k hk
  · intro k hk l j hj
    have hfirst : place (count i) i <
        place (Function.update count i (count i + 1) k) k := by
      rcases List.mem_append.1 hk with hk | hk
      · rw [Function.update_of_ne (hne k hk)]
        exact hfront k hk
      · rw [List.mem_singleton.1 hk, Function.update_self]
        exact place_lt_place.2 (.inl (by omega))
    refine lt_of_le_of_lt ?_ hfirst
    by_cases hl : l = i
    · subst hl
      rw [Function.update_self] at hj
      exact place_le_place.2 (by omega)
    · rw [Function.update_of_ne hl] at hj
      exact (h.taken_lt i List.mem_cons_self l j hj).le

end Rotation

end RegexWords
