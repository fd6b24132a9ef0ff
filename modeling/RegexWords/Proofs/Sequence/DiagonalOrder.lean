import Mathlib.Data.List.Sort
import RegexWords.Proofs.Sequence.BoxOrder
import RegexWords.Proofs.Sequence.Rotation

namespace RegexWords

def peak (v : List ℕ) : ℕ ×ₗ ℕ :=
  (v.zipIdx.map fun p ↦ place p.1 p.2).foldr max (place 0 0)

/-- Vectors are ordered by the greatest place of their numbers, and where these agree
lexicographically. -/
def key (v : List ℕ) : (ℕ ×ₗ ℕ) ×ₗ List ℕ := toLex (peak v, v)

variable {v w : List ℕ} {i j : ℕ}

theorem foldr_max_le {ps : List (ℕ ×ₗ ℕ)} {b : ℕ ×ₗ ℕ} :
    ps.foldr max (place 0 0) ≤ b ↔ place 0 0 ≤ b ∧ ∀ p ∈ ps, p ≤ b := by
  induction ps with
  | nil => simp
  | cons p ps ih => simp [ih, and_left_comm]

theorem foldr_max_lt {ps : List (ℕ ×ₗ ℕ)} {b : ℕ ×ₗ ℕ} :
    ps.foldr max (place 0 0) < b ↔ place 0 0 < b ∧ ∀ p ∈ ps, p < b := by
  induction ps with
  | nil => simp
  | cons p ps ih => simp [ih, and_left_comm]

theorem zero_le_place : place 0 0 ≤ place j i :=
  place_le_place.2 (by omega)

theorem place_le_peak (h : v[i]? = some j) : place j i ≤ peak v :=
  (foldr_max_le.1 le_rfl).2 _ (List.mem_map.2 ⟨(j, i), List.mem_zipIdx_iff_getElem?.2 h, rfl⟩)

theorem peak_lt {b : ℕ ×ₗ ℕ} (hv : v ≠ []) (h : ∀ i j, v[i]? = some j → place j i < b) :
    peak v < b := by
  refine foldr_max_lt.2 ⟨?_, fun p hp ↦ ?_⟩
  · obtain ⟨j, v, rfl⟩ := List.exists_cons_of_ne_nil hv
    exact zero_le_place.trans_lt (h 0 j rfl)
  · obtain ⟨⟨j, i⟩, hm, rfl⟩ := List.mem_map.1 hp
    exact h i j (List.mem_zipIdx_iff_getElem?.1 hm)

theorem peak_eq_place (h : v[i]? = some j)
    (hle : ∀ k l, v[k]? = some l → place l k ≤ place j i) : peak v = place j i := by
  refine le_antisymm (foldr_max_le.2 ⟨zero_le_place, fun p hp ↦ ?_⟩) (place_le_peak h)
  obtain ⟨⟨l, k⟩, hm, rfl⟩ := List.mem_map.1 hp
  exact hle k l (List.mem_zipIdx_iff_getElem?.1 hm)

theorem key_lt_key : key v < key w ↔ peak v < peak w ∨ peak v = peak w ∧ v < w :=
  Prod.Lex.toLex_lt_toLex

theorem key_injective : Function.Injective key := fun v w h ↦ by
  simpa [key] using (Prod.ext_iff.1 (toLex_inj.1 h)).2

/-- Vectors that come before one with all places below a bound have such places, too. -/
theorem place_lt_of_key_lt {b : ℕ ×ₗ ℕ} (h : key v < key w)
    (hw : ∀ i j, w[i]? = some j → place j i < b) : ∀ i j, v[i]? = some j → place j i < b := by
  intro i j hi
  rcases eq_or_ne w [] with rfl | hne
  · rcases key_lt_key.1 h with hlt | ⟨-, hlt⟩
    · exact absurd hlt (not_lt.2 zero_le_place)
    · exact absurd hlt (List.not_lt_nil v)
  have hle : peak v ≤ peak w := by
    rcases key_lt_key.1 h with hlt | heq
    · exact hlt.le
    · exact heq.1.le
  exact (place_le_peak hi).trans_lt (hle.trans_lt (peak_lt hne hw))

/-- The vectors of `n` numbers with place `i` below `count i`. -/
def InBox (n : ℕ) (count : ℕ → ℕ) (v : List ℕ) : Prop :=
  v.length = n ∧ ∀ i j, v[i]? = some j → j < count i

theorem inBox_update {n : ℕ} {count : ℕ → ℕ} (hi : i < n) :
    InBox n (Function.update count i (count i + 1)) v ↔
      InBox n count v ∨
      InBox n (Function.update count i (count i + 1)) v ∧ v[i]? = some (count i) := by
  constructor
  · rintro ⟨hlen, hbox⟩
    have hvi : v[i]? = some v[i] := List.getElem?_eq_getElem (hlen.symm ▸ hi)
    have hlt := hbox i _ hvi
    rw [Function.update_self] at hlt
    by_cases he : v[i] = count i
    · exact .inr ⟨⟨hlen, hbox⟩, he ▸ hvi⟩
    · refine .inl ⟨hlen, fun k j hj ↦ ?_⟩
      by_cases hk : k = i
      · subst hk
        rw [hvi, Option.some.injEq] at hj
        omega
      · simpa only [Function.update_of_ne hk] using hbox k j hj
  · rintro (⟨hlen, hbox⟩ | ⟨hbox, -⟩)
    · refine ⟨hlen, fun k j hj ↦ ?_⟩
      have hlt := hbox k j hj
      by_cases hk : k = i
      · subst hk
        rw [Function.update_self]
        omega
      · rwa [Function.update_of_ne hk]
    · exact hbox

theorem forall₂_iff_getElem? {α β : Type} {R : α → β → Prop} {as : List α} {bs : List β} :
    List.Forall₂ R as bs ↔
      as.length = bs.length ∧ ∀ (i : ℕ) a b, as[i]? = some a → bs[i]? = some b → R a b := by
  rw [List.forall₂_iff_get]
  refine and_congr_right fun _ ↦ ⟨fun h i a b ha hb ↦ ?_, fun h i ha hb ↦ ?_⟩
  · obtain ⟨hi, rfl⟩ := List.getElem?_eq_some_iff.1 ha
    obtain ⟨hi', rfl⟩ := List.getElem?_eq_some_iff.1 hb
    exact h i hi hi'
  · exact h i _ _ (List.getElem?_eq_getElem ha) (List.getElem?_eq_getElem hb)

/-- The vectors below given sizes, in the diagonal order. -/
def diagonalOrder (sizes : List ℕ) : List (List ℕ) :=
  (Box.vectors (sizes.map (0, ·))).mergeSort fun v w ↦ key v ≤ key w

theorem mem_diagonalOrder {sizes : List ℕ} :
    v ∈ diagonalOrder sizes ↔ List.Forall₂ (· < ·) v sizes := by
  rw [diagonalOrder, List.mem_mergeSort, Box.mem_vectors, List.forall₂_map_right_iff]
  simp only [Box.InRange, Nat.zero_le, true_and]

theorem pairwise_diagonalOrder (sizes : List ℕ) :
    (diagonalOrder sizes).Pairwise fun v w ↦ key v < key w := by
  have hle : (diagonalOrder sizes).Pairwise fun v w ↦ key v ≤ key w := by
    refine (List.pairwise_mergeSort ?_ ?_ _).imp fun h ↦ of_decide_eq_true h
    · intro u v w huv hvw
      simp only [decide_eq_true_eq] at huv hvw ⊢
      exact huv.trans hvw
    · intro v w
      simpa only [Bool.or_eq_true, decide_eq_true_eq] using le_total (key v) (key w)
  have hne : (diagonalOrder sizes).Nodup :=
    (List.mergeSort_perm _ _).nodup_iff.2 (Box.pairwise_vectors _).nodup
  exact hle.and hne |>.imp fun h ↦ lt_of_le_of_ne h.1 fun he ↦ h.2 (key_injective he)

/-- When source `i` in front of a rotation gives one more item, the vectors with this item come in
the diagonal order behind all vectors of the items before it. -/
theorem sorted_append_stage {n : ℕ} {count : ℕ → ℕ} {live : List ℕ} {E F : List (List ℕ)}
    (hr : Rotation count (i :: live)) (hi : i < n)
    (hE : E.Pairwise fun v w ↦ key v < key w) (hmem : ∀ v ∈ E, InBox n count v)
    (hF : F.Pairwise (· < ·))
    (hstage : ∀ v ∈ F, v[i]? = some (count i) ∧ ∀ k ≠ i, ∀ j, v[k]? = some j → j < count k) :
    (E ++ F).Pairwise fun v w ↦ key v < key w := by
  have below : ∀ k j, j < count k → place j k < place (count i) i :=
    fun k j hj ↦ hr.taken_lt i List.mem_cons_self k j hj
  have hpeak : ∀ v ∈ F, peak v = place (count i) i := by
    intro v hv
    obtain ⟨hvi, hvk⟩ := hstage v hv
    apply peak_eq_place hvi
    intro k l hl
    by_cases hk : k = i
    · subst hk
      rw [hvi] at hl
      cases hl
      exact le_rfl
    · exact (below k l (hvk k hk l hl)).le
  rw [List.pairwise_append]
  refine ⟨hE, hF.imp_of_mem fun hv hw h ↦ ?_, fun v hv w hw ↦ ?_⟩
  · exact key_lt_key.2 (.inr ⟨(hpeak _ hv).trans (hpeak _ hw).symm, h⟩)
  · obtain ⟨hlen, hbox⟩ := hmem v hv
    have hne : v ≠ [] := by
      rintro rfl
      rw [List.length_nil] at hlen
      omega
    refine key_lt_key.2 (.inl ?_)
    rw [hpeak w hw]
    exact peak_lt hne fun k j hj ↦ below k j (hbox k j hj)

end RegexWords
