import Mathlib.Order.Filter.AtTopBot.Basic
import Mathlib.Order.Filter.Finite
import RegexWords.Proofs.Sequence.Prefixes

open Filter

namespace RegexWords

variable {α β ι : Type}

/-- However many of the first items are looked at, large bounds all give the same. -/
def Settles (W : ℕ → List α) : Prop := ∀ k, ∃ as, ∀ᶠ N in atTop, (W N).take k = as

/-- The item has a place that does not recede. -/
def Keeps (W : ℕ → List α) (a : α) : Prop := ∃ k, ∀ᶠ N in atTop, a ∈ (W N).take k

def Grows (W : ℕ → List α) : Prop := ∀ k, ∀ᶠ N in atTop, k ≤ (W N).length

def Rests (W : ℕ → List α) : Prop := ∃ as, ∀ᶠ N in atTop, W N = as

section Starts

variable {W V : ℕ → List α} {starts : ℕ → List α} {a : α}

theorem keeps_iff_exists_mem (h : ∀ k, ∀ᶠ N in atTop, (W N).take k = starts k) :
    Keeps W a ↔ ∃ k, a ∈ starts k := by
  constructor
  · rintro ⟨k, hk⟩
    obtain ⟨N, ha, hN⟩ := (hk.and (h k)).exists
    exact ⟨k, hN ▸ ha⟩
  · rintro ⟨k, ha⟩
    exact ⟨k, (h k).mono fun N hN ↦ hN.symm ▸ ha⟩

theorem starts_subset (h : ∀ k, ∀ᶠ N in atTop, (W N).take k = starts k) {k l : ℕ} (hkl : k ≤ l) :
    starts k ⊆ starts l := by
  obtain ⟨N, hk, hl⟩ := ((h k).and (h l)).exists
  rw [← hk, ← hl]
  exact (List.take_prefix_take_left hkl).subset

theorem Keeps.eventually_mem (h : Keeps W a) : ∀ᶠ N in atTop, a ∈ W N := by
  obtain ⟨k, hk⟩ := h
  exact hk.mono fun N hN ↦ List.mem_of_mem_take hN

theorem Grows.of_le {V : ℕ → List β} (h : Grows W)
    (hle : ∀ᶠ N in atTop, (W N).length ≤ (V N).length) : Grows V := by
  intro k
  filter_upwards [h k, hle] with N hk hN
  exact hk.trans hN

theorem settles_const (as : List α) : Settles fun _ ↦ as :=
  fun k ↦ ⟨as.take k, Eventually.of_forall fun _ ↦ rfl⟩

theorem keeps_const {as : List α} : Keeps (fun _ ↦ as) a ↔ a ∈ as := by
  rw [keeps_iff_exists_mem (W := fun _ ↦ as) fun k ↦ Eventually.of_forall fun _ ↦ rfl]
  constructor
  · rintro ⟨k, ha⟩
    exact List.mem_of_mem_take ha
  · intro ha
    exact ⟨as.length, by rwa [List.take_length]⟩

theorem rests_const (as : List α) : Rests fun _ ↦ as := ⟨as, Eventually.of_forall fun _ ↦ rfl⟩

theorem eventually_take_map {f : α → β} (h : ∀ k, ∀ᶠ N in atTop, (W N).take k = starts k) (k : ℕ) :
    ∀ᶠ N in atTop, ((W N).map f).take k = (starts k).map f := by
  filter_upwards [h k] with N hN
  rw [← List.map_take, hN]

theorem Settles.map (f : α → β) (h : Settles W) : Settles fun N ↦ (W N).map f := by
  choose starts hs using h
  exact fun k ↦ ⟨_, eventually_take_map hs k⟩

theorem keeps_map_iff {f : α → β} (h : Settles W) {b : β} :
    Keeps (fun N ↦ (W N).map f) b ↔ ∃ a, Keeps W a ∧ f a = b := by
  choose starts hs using h
  rw [keeps_iff_exists_mem (eventually_take_map hs)]
  simp only [keeps_iff_exists_mem hs, List.mem_map]
  grind

theorem Settles.cons (a : α) (h : Settles W) : Settles fun N ↦ a :: W N := by
  rintro (_ | k)
  · exact ⟨[], Eventually.of_forall fun _ ↦ rfl⟩
  · obtain ⟨as, has⟩ := h k
    exact ⟨a :: as, has.mono fun N hN ↦ congrArg (a :: ·) hN⟩

theorem keeps_cons_iff {b : α} : Keeps (fun N ↦ b :: W N) a ↔ a = b ∨ Keeps W a := by
  constructor
  · rintro ⟨_ | k, hk⟩
    · obtain ⟨N, hN⟩ := hk.exists
      cases hN
    · simp only [List.take_succ_cons, List.mem_cons, eventually_or_distrib_left] at hk
      exact hk.imp id fun h ↦ ⟨k, h⟩
  · rintro (rfl | ⟨k, hk⟩)
    · exact ⟨1, Eventually.of_forall fun N ↦ by simp⟩
    · exact ⟨k + 1, hk.mono fun N hN ↦ List.mem_cons_of_mem b hN⟩

/-- What comes behind does not matter to lists whose first part grows. -/
theorem Grows.eventually_take_append (h : Grows W) (V : ℕ → List α) (k : ℕ) :
    ∀ᶠ N in atTop, (W N ++ V N).take k = (W N).take k :=
  (h k).mono fun _ hN ↦ List.take_append_of_le_length hN

section Equal

variable (h : ∀ k, ∀ᶠ N in atTop, (W N).take k = (V N).take k)

include h

theorem settles_of_eventually_take_eq (hV : Settles V) : Settles W := by
  intro k
  obtain ⟨as, has⟩ := hV k
  exact ⟨as, ((h k).and has).mono fun N hN ↦ hN.1.trans hN.2⟩

theorem keeps_iff_of_eventually_take_eq : Keeps W a ↔ Keeps V a := by
  refine exists_congr fun k ↦ eventually_congr ?_
  filter_upwards [h k] with N hN
  rw [hN]

end Equal

section Chain

variable (h : ∀ N M, N ≤ M → W N <+: W M)

include h

theorem take_of_isPrefix {N M k : ℕ} (hNM : N ≤ M) (hk : k ≤ (W N).length) :
    (W M).take k = (W N).take k := by
  obtain ⟨as, has⟩ := h N M hNM
  rw [← has, List.take_append_of_le_length hk]

theorem settles_of_isPrefix (hW : Grows W) : Settles W := by
  intro k
  obtain ⟨N, hN⟩ := (hW k).exists
  refine ⟨(W N).take k, ?_⟩
  filter_upwards [eventually_ge_atTop N] with M hM
  exact take_of_isPrefix h hM hN

theorem keeps_iff_of_isPrefix : Keeps W a ↔ ∃ N, a ∈ W N := by
  constructor
  · rintro ⟨k, hk⟩
    obtain ⟨N, hN⟩ := hk.exists
    exact ⟨N, List.mem_of_mem_take hN⟩
  · rintro ⟨N, ha⟩
    refine ⟨(W N).length, ?_⟩
    filter_upwards [eventually_ge_atTop N] with M hM
    rwa [take_of_isPrefix h hM le_rfl, List.take_length]

end Chain

end Starts

/-- The first items of the result depend on the first items of the parts only. -/
structure Causal (F : List (List α) → List β) : Prop where
  take_isPrefix : ∀ k lists, F (lists.map (List.take k)) <+: F lists
  take_enough : ∀ k lists,
    k ≤ (F (lists.map (List.take k))).length ∨ F (lists.map (List.take k)) = F lists

theorem causal_roundRobin : Causal (roundRobin (α := α)) :=
  ⟨fun k _ ↦ roundRobin_take_isPrefix k, fun k _ ↦ roundRobin_take_enough k⟩

theorem causal_tuples : Causal (tuples (α := α)) :=
  ⟨fun k _ ↦ tuples_take_isPrefix k, fun k _ ↦ tuples_take_enough k⟩

namespace Causal

variable {F : List (List α) → List β} {ps : List ι} {W : ι → ℕ → List α}

theorem take_eq (hF : Causal F) (k : ℕ) (lists : List (List α)) :
    (F lists).take k = (F (lists.map (List.take k))).take k := by
  rcases hF.take_enough k lists with hle | heq
  · obtain ⟨bs, hbs⟩ := hF.take_isPrefix k lists
    rw [← hbs, List.take_append_of_le_length hle]
  · rw [heq]

theorem eventually_map_eq {γ : Type} {f : ι → ℕ → γ} {g : ι → γ}
    (h : ∀ p ∈ ps, ∀ᶠ N in atTop, f p N = g p) : ∀ᶠ N in atTop, ps.map (f · N) = ps.map g :=
  ((eventually_all_finite (List.finite_toSet ps)).2 h).mono fun _ hN ↦ List.map_congr_left hN

theorem eventually_map_take_eq {starts : ι → ℕ → List α}
    (hs : ∀ p ∈ ps, ∀ k, ∀ᶠ N in atTop, (W p N).take k = starts p k) (k : ℕ) :
    ∀ᶠ N in atTop, (ps.map (W · N)).map (List.take k) = ps.map (starts · k) := by
  simp only [List.map_map]
  exact eventually_map_eq (f := fun p N ↦ (W p N).take k) fun p hp ↦ hs p hp k

theorem settles (hF : Causal F) (h : ∀ p ∈ ps, Settles (W p)) :
    Settles fun N ↦ F (ps.map (W · N)) := by
  choose! starts hs using h
  intro k
  refine ⟨(F (ps.map (starts · k))).take k, ?_⟩
  filter_upwards [eventually_map_take_eq hs k] with N hN
  rw [hF.take_eq, hN]

theorem keeps_iff (hF : Causal F) {starts : ι → ℕ → List α}
    (hs : ∀ p ∈ ps, ∀ k, ∀ᶠ N in atTop, (W p N).take k = starts p k) {b : β} :
    Keeps (fun N ↦ F (ps.map (W · N))) b ↔ ∃ k, b ∈ F (ps.map (starts · k)) := by
  constructor
  · rintro ⟨k, hk⟩
    obtain ⟨N, hb, hN⟩ := (hk.and (eventually_map_take_eq hs k)).exists
    rw [hF.take_eq, hN] at hb
    exact ⟨k, List.mem_of_mem_take hb⟩
  · rintro ⟨k, hb⟩
    refine ⟨(F (ps.map (starts · k))).length, ?_⟩
    filter_upwards [eventually_map_take_eq hs k] with N hN
    have hpre := hF.take_isPrefix k (ps.map (W · N))
    rw [hN, List.prefix_iff_eq_take] at hpre
    rwa [← hpre]

theorem rests (F : List (List α) → List β) (h : ∀ p ∈ ps, Rests (W p)) :
    Rests fun N ↦ F (ps.map (W · N)) := by
  choose! as has using h
  exact ⟨F (ps.map as), (eventually_map_eq has).mono fun _ hN ↦ congrArg F hN⟩

end Causal

section Parts

variable {ps : List ι} {W : ι → ℕ → List α}

theorem keeps_roundRobin_iff (h : ∀ p ∈ ps, Settles (W p)) {a : α} :
    Keeps (fun N ↦ roundRobin (ps.map (W · N))) a ↔ ∃ p ∈ ps, Keeps (W p) a := by
  choose! starts hs using h
  rw [causal_roundRobin.keeps_iff hs]
  simp only [mem_roundRobin, List.mem_map, exists_exists_and_eq_and]
  rw [exists_comm]
  apply exists_congr
  intro p
  rw [exists_and_left]
  exact and_congr_right fun hp ↦ (keeps_iff_exists_mem (hs p hp)).symm

theorem exists_forall₂_iff {starts : ι → ℕ → List α}
    (hs : ∀ p ∈ ps, ∀ k, ∀ᶠ N in atTop, (W p N).take k = starts p k) {as : List α} :
    (∃ k, List.Forall₂ (fun p a ↦ a ∈ starts p k) ps as) ↔
      List.Forall₂ (fun p a ↦ Keeps (W p) a) ps as := by
  constructor
  · rintro ⟨k, h⟩
    exact forall₂_imp_of_mem (fun p hp a ha ↦ (keeps_iff_exists_mem (hs p hp)).2 ⟨k, ha⟩) h
  · intro h
    induction h with
    | nil => exact ⟨0, .nil⟩
    | @cons p a ps as ha _ ih =>
      rw [List.forall_mem_cons] at hs
      obtain ⟨k, ha⟩ := (keeps_iff_exists_mem hs.1).1 ha
      obtain ⟨l, has⟩ := ih hs.2
      refine ⟨max k l, .cons (starts_subset hs.1 (le_max_left k l) ha) ?_⟩
      exact forall₂_imp_of_mem
        (fun p hp a ha ↦ starts_subset (hs.2 p hp) (le_max_right k l) ha) has

theorem keeps_tuples_iff (h : ∀ p ∈ ps, Settles (W p)) {as : List α} :
    Keeps (fun N ↦ tuples (ps.map (W · N))) as ↔
      List.Forall₂ (fun p a ↦ Keeps (W p) a) ps as := by
  choose! starts hs using h
  rw [causal_tuples.keeps_iff hs, ← exists_forall₂_iff hs]
  apply exists_congr
  intro k
  rw [mem_tuples, List.forall₂_map_right_iff]
  exact ⟨.flip, .flip⟩

theorem Grows.roundRobin {p : ι} (hp : p ∈ ps) (h : Grows (W p)) :
    Grows fun N ↦ roundRobin (ps.map (W · N)) :=
  h.of_le (Eventually.of_forall fun N ↦
    length_le_length_roundRobin (List.mem_map_of_mem (f := (W · N)) hp))

theorem Grows.tuples {p : ι} (hp : p ∈ ps) (h : Grows (W p))
    (hne : ∀ p ∈ ps, ∀ᶠ N in atTop, W p N ≠ []) : Grows fun N ↦ tuples (ps.map (W · N)) := by
  refine h.of_le ?_
  filter_upwards [(eventually_all_finite (List.finite_toSet ps)).2 hne] with N hN
  refine length_le_length_tuples (List.mem_map_of_mem (f := (W · N)) hp) ?_
  rw [List.forall_mem_map]
  exact hN

end Parts

end RegexWords
