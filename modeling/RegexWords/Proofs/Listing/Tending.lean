import RegexWords.Proofs.Listing.Words
import RegexWords.Proofs.Pattern.Reach
import RegexWords.Proofs.Sequence.Limits

open Filter

namespace RegexWords

section Counts

variable {b : Bounds} {N M n : ℕ}

theorem mem_counts_iff : n ∈ b.counts N ↔ b.Admits n ∧ (b.most = none → n ≤ N) := by
  rw [mem_counts, Bounds.Admits]
  cases b.most <;> simp

theorem pairwise_counts (b : Bounds) (N : ℕ) : (b.counts N).Pairwise (· < ·) :=
  List.pairwise_lt_range'

theorem filter_counts (h : M ≤ N) : (b.counts N).filter (· ≤ M) = (b.counts M).filter (· ≤ M) := by
  refine List.Pairwise.eq_of_mem_iff ((pairwise_counts b N).filter _)
    ((pairwise_counts b M).filter _) fun n ↦ ?_
  simp only [List.mem_filter, mem_counts_iff, decide_eq_true_eq]
  grind

theorem counts_eq (hb : b.most = none) (N : ℕ) :
    b.counts N = List.range' b.least (N + 1 - b.least) := by
  rw [Bounds.counts, hb]
  rfl

theorem counts_isPrefix (hb : b.most = none) (h : N ≤ M) : b.counts N <+: b.counts M := by
  rw [counts_eq hb, counts_eq hb]
  refine ⟨List.range' (b.least + (N + 1 - b.least)) (M + 1 - b.least - (N + 1 - b.least)), ?_⟩
  rw [List.range'_append_1]
  congr 1
  omega

/-- Large bounds leave room for the first counts, up to the least one above zero. -/
theorem take_counts (hb : b.inOrder) (hmost : b.most ≠ some 0) (hN : max b.least 1 ≤ N) :
    (b.counts N).take (max b.least 1 + 1 - b.least) =
      List.range' b.least (max b.least 1 + 1 - b.least) := by
  have hle : max b.least 1 ≤ b.most.getD N := by
    cases hm : b.most with
    | none => exact hN
    | some m => exact (Bounds.admits_max_one hb hmost).2 m hm
  rw [Bounds.counts, List.take_range'_of_length_ge]
  omega

theorem mem_range'_iff_admits (hb : b.inOrder) (hmost : b.most ≠ some 0) :
    n ∈ List.range' b.least (max b.least 1 + 1 - b.least) ↔
      b.Admits n ∧ n ≤ max b.least 1 := by
  rw [List.mem_range'_1]
  constructor
  · rintro ⟨hleast, hlt⟩
    exact ⟨⟨hleast, fun m hm ↦ (by omega : n ≤ max b.least 1).trans
      ((Bounds.admits_max_one hb hmost).2 m hm)⟩, by omega⟩
  · rintro ⟨⟨hleast, -⟩, hle⟩
    omega

theorem grows_counts (hb : b.most = none) : Grows b.counts := by
  intro k
  filter_upwards [eventually_ge_atTop (k + b.least)] with N hN
  rw [counts_eq hb, List.length_range']
  omega

end Counts

theorem ofList_ne_empty {w : List Char} (h : w ≠ []) : String.ofList w ≠ "" := by
  intro he
  apply h
  rw [← String.toList_ofList (l := w), he]
  rfl

/-- The words of a language keep their places, and there are ever more in the lists or not. -/
structure Tends (W : ℕ → List String) (endless : Prop) (L : Language Char) : Prop where
  settles : Settles W
  keeps_iff : ∀ w, Keeps W w ↔ w.toList ∈ L
  grows : endless → Grows W
  rests : ¬endless → Rests W

namespace Tends

variable {W V : ℕ → List String} {e : Prop} {L : Language Char}

theorem const (ws : List String) (h : ∀ w, w ∈ ws ↔ w.toList ∈ L) (he : ¬e) :
    Tends (fun _ ↦ ws) e L where
  settles := settles_const ws
  keeps_iff w := keeps_const.trans (h w)
  grows h := absurd h he
  rests _ := rests_const ws

theorem congr {e' : Prop} (h : Tends W e L) (hV : ∀ᶠ N in atTop, V N = W N) (he : e ↔ e') :
    Tends V e' L where
  settles := settles_of_eventually_take_eq (fun k ↦ hV.mono fun _ hN ↦ by rw [hN]) h.settles
  keeps_iff w := (keeps_iff_of_eventually_take_eq
    (fun k ↦ hV.mono fun _ hN ↦ by rw [hN])).trans (h.keeps_iff w)
  grows he' := (h.grows (he.2 he')).of_le (hV.mono fun _ hN ↦ by rw [hN])
  rests he' := by
    obtain ⟨as, has⟩ := h.rests (he.not.2 he')
    exact ⟨as, (hV.and has).mono fun _ hN ↦ hN.1.trans hN.2⟩

theorem append (h : Tends W e L) (he : e) (V : ℕ → List String) :
    Tends (fun N ↦ W N ++ V N) e L where
  settles := settles_of_eventually_take_eq ((h.grows he).eventually_take_append V) h.settles
  keeps_iff w := (keeps_iff_of_eventually_take_eq
    ((h.grows he).eventually_take_append V)).trans (h.keeps_iff w)
  grows _ := (h.grows he).of_le (Eventually.of_forall fun N ↦ by simp)
  rests he' := absurd he he'

theorem eventually_ofList_mem (h : Tends W e L) {w : List Char} (hw : w ∈ L) :
    ∀ᶠ N in atTop, String.ofList w ∈ W N := by
  apply Keeps.eventually_mem
  rwa [h.keeps_iff, String.toList_ofList]

theorem eventually_ne_nil (h : Tends W e L) (hL : HasWord L) : ∀ᶠ N in atTop, W N ≠ [] := by
  obtain ⟨w, hw⟩ := hL
  exact (h.eventually_ofList_mem hw).mono fun _ ↦ List.ne_nil_of_mem

section Parts

variable {ι : Type} {ps : List ι} {W : ι → ℕ → List String} {e : ι → Prop}
  {L : ι → Language Char}

theorem roundRobin (h : ∀ p ∈ ps, Tends (W p) (e p) (L p)) :
    Tends (fun N ↦ roundRobin (ps.map (W · N))) (∃ p ∈ ps, e p) (ps.map L).sum where
  settles := causal_roundRobin.settles fun p hp ↦ (h p hp).settles
  keeps_iff w := by
    rw [keeps_roundRobin_iff fun p hp ↦ (h p hp).settles, mem_sum_iff]
    simp only [List.mem_map, exists_exists_and_eq_and]
    exact exists_congr fun p ↦ and_congr_right fun hp ↦ (h p hp).keeps_iff w
  grows := by
    rintro ⟨p, hp, he⟩
    exact Grows.roundRobin hp ((h p hp).grows he)
  rests he := by
    push Not at he
    exact Causal.rests _ fun p hp ↦ (h p hp).rests (he p hp)

theorem concatenations (h : ∀ p ∈ ps, Tends (W p) (e p) (L p)) (hL : ∀ p ∈ ps, HasWord (L p)) :
    Tends (fun N ↦ concatenations (ps.map (W · N))) (∃ p ∈ ps, e p) (ps.map L).prod where
  settles := (causal_tuples.settles fun p hp ↦ (h p hp).settles).map String.join
  keeps_iff w := by
    have hsettles : ∀ p ∈ ps, Settles (W p) := fun p hp ↦ (h p hp).settles
    unfold RegexWords.concatenations
    rw [keeps_map_iff (causal_tuples.settles hsettles), toList_mem_prod]
    refine exists_congr fun ws ↦ and_congr ?_ eq_comm
    rw [keeps_tuples_iff hsettles, List.forall₂_map_left_iff]
    exact ⟨forall₂_imp_of_mem fun p hp v ↦ ((h p hp).keeps_iff v).1,
      forall₂_imp_of_mem fun p hp v ↦ ((h p hp).keeps_iff v).2⟩
  grows := by
    rintro ⟨p, hp, he⟩
    refine Grows.of_le (Grows.tuples hp ((h p hp).grows he) fun p hp ↦
      (h p hp).eventually_ne_nil (hL p hp)) (Eventually.of_forall fun N ↦ ?_)
    rw [RegexWords.concatenations, List.length_map]
  rests he := by
    push Not at he
    exact Causal.rests _ fun p hp ↦ (h p hp).rests (he p hp)

end Parts

theorem wordPower (h : Tends W e L) (hL : HasWord L) (n : ℕ) :
    Tends (fun N ↦ wordPower (W N) n) (0 < n ∧ e) (L ^ n) := by
  induction n using Nat.strong_induction_on with
  | _ n ih =>
    obtain rfl | rfl | hn : n = 0 ∨ n = 1 ∨ 2 ≤ n := by omega
    · rw [pow_zero]
      refine (const (e := False) [""] (fun w ↦ ?_) not_false).congr
        (Eventually.of_forall fun N ↦ wordPower_zero _) (by simp)
      rw [List.mem_singleton, Language.mem_one, String.toList_eq_nil_iff]
    · rw [pow_one]
      exact h.congr (Eventually.of_forall fun N ↦ copies_one) (by simp)
    · have hhalves := concatenations
        (W := fun m N ↦ RegexWords.wordPower (W N) m) (e := fun m ↦ 0 < m ∧ e) (L := (L ^ ·))
        (fun m (hm : m ∈ [n / 2, n - n / 2]) ↦ ih m (by simp at hm; omega))
        fun m _ ↦ hasWord_pow hL m
      have hpow : ([n / 2, n - n / 2].map (L ^ ·)).prod = L ^ n := by
        simp only [List.map_cons, List.map_nil, List.prod_cons, List.prod_nil, mul_one, ← pow_add]
        congr 1
        omega
      rw [hpow] at hhalves
      refine hhalves.congr (Eventually.of_forall fun N ↦ copies_of_two_le hn) ⟨?_, ?_⟩
      · rintro ⟨m, -, -, he⟩
        exact ⟨by omega, he⟩
      · rintro ⟨-, he⟩
        exact ⟨n / 2, List.mem_cons_self, by omega, he⟩

theorem cons_empty (h : Tends W e L) : Tends (fun N ↦ "" :: W N) e (1 + L) where
  settles := h.settles.cons ""
  keeps_iff w := by
    rw [keeps_cons_iff, h.keeps_iff, Language.mem_add, Language.mem_one, String.toList_eq_nil_iff]
  grows he := (h.grows he).of_le (Eventually.of_forall fun N ↦ by simp)
  rests he := by
    obtain ⟨as, has⟩ := h.rests he
    exact ⟨"" :: as, has.mono fun _ hN ↦ congrArg ("" :: ·) hN⟩

section Resting

variable {b : Bounds} {ws : List String} (h : ∀ w, w ∈ ws ↔ w.toList ∈ L) (hL : HasWord L)

include h hL

theorem mem_wordPower_iff {n : ℕ} {w : String} :
    w ∈ RegexWords.wordPower ws n ↔ w.toList ∈ L ^ n :=
  keeps_const.symm.trans (((const ws h not_false).wordPower hL n).keeps_iff w)

theorem mem_flatMap_wordPower_iff {counts : List ℕ} {w : String} :
    w ∈ counts.flatMap (RegexWords.wordPower ws) ↔ ∃ n ∈ counts, w.toList ∈ L ^ n := by
  simp only [List.mem_flatMap, mem_wordPower_iff h hL]

omit hL in
theorem exists_mem_ne_iff : (∃ w ∈ ws, w ≠ "") ↔ HasLetters L := by
  constructor
  · rintro ⟨w, hw, hne⟩
    exact ⟨w.toList, (h w).1 hw, fun hnil ↦ hne (String.toList_eq_nil_iff.1 hnil)⟩
  · rintro ⟨w, hw, hne⟩
    exact ⟨String.ofList w, (h _).2 (by rwa [String.toList_ofList]), ofList_ne_empty hne⟩

theorem repetition_of_not_hasLetters (hletters : ¬HasLetters L) (hb : b.inOrder) :
    Tends (fun N ↦ repetitions ws (b.counts N)) False (powers L b.Admits) := by
  have hempty : ∀ w ∈ ws, w = "" := by
    have hnot := (exists_mem_ne_iff h).not.2 hletters
    push Not at hnot
    exact hnot
  have hone := eq_one_of_not_hasLetters hL hletters
  refine (const (((b.counts (max b.least 1)).filter (· ≤ max b.least 1)).flatMap
    (RegexWords.wordPower ws)) (fun w ↦ ?_) not_false).congr ?_ Iff.rfl
  · rw [mem_flatMap_wordPower_iff h hL, mem_powers]
    simp only [hone, one_pow]
    constructor
    · rintro ⟨-, -, hw⟩
      exact ⟨b.least, Bounds.admits_least hb, hw⟩
    · rintro ⟨-, -, hw⟩
      refine ⟨b.least, ?_, hw⟩
      rw [List.mem_filter, mem_counts_iff, decide_eq_true_eq]
      exact ⟨⟨Bounds.admits_least hb, fun _ ↦ le_max_left _ _⟩, le_max_left _ _⟩
  · filter_upwards [eventually_ge_atTop (max b.least 1)] with N hN
    rw [repetitions_of_forall_eq hempty, filter_counts hN]

theorem repetition_of_most_eq_some (hletters : HasLetters L) {m : ℕ} (hb : b.most = some m) :
    Tends (fun N ↦ repetitions ws (b.counts N)) False (powers L b.Admits) := by
  refine (const ((b.counts 0).flatMap (RegexWords.wordPower ws)) (fun w ↦ ?_)
    not_false).congr (Eventually.of_forall fun N ↦ ?_) Iff.rfl
  · rw [mem_flatMap_wordPower_iff h hL]
    simp only [mem_counts_iff, hb, reduceCtorEq, false_implies, and_true]
    rfl
  · have hcounts : b.counts N = b.counts 0 := by rw [Bounds.counts, Bounds.counts, hb]; rfl
    rw [repetitions_of_exists_ne ((exists_mem_ne_iff h).2 hletters), hcounts]

theorem repetition_of_most_eq_none (hletters : HasLetters L) (hb : b.most = none) :
    Tends (fun N ↦ repetitions ws (b.counts N)) True (powers L b.Admits) := by
  have hflat : ∀ N, repetitions ws (b.counts N) =
      (b.counts N).flatMap (RegexWords.wordPower ws) :=
    fun N ↦ repetitions_of_exists_ne ((exists_mem_ne_iff h).2 hletters) _
  have hpre : ∀ N M, N ≤ M →
      (b.counts N).flatMap (RegexWords.wordPower ws) <+:
        (b.counts M).flatMap (RegexWords.wordPower ws) :=
    fun N M hNM ↦ (counts_isPrefix hb hNM).flatMap _
  have hgrows : Grows fun N ↦ (b.counts N).flatMap (RegexWords.wordPower ws) := by
    refine (grows_counts hb).of_le (Eventually.of_forall fun N ↦ ?_)
    rw [List.length_flatMap, ← List.length_map]
    apply List.length_le_sum_of_one_le _
    intro l hl
    obtain ⟨n, -, rfl⟩ := List.mem_map.1 hl
    obtain ⟨w, hw⟩ := hasWord_pow hL n
    refine List.length_pos_of_mem (a := String.ofList w) ?_
    rwa [mem_wordPower_iff h hL, String.toList_ofList]
  simp only [hflat]
  refine ⟨settles_of_isPrefix hpre hgrows, fun w ↦ ?_, fun _ ↦ hgrows, absurd trivial⟩
  rw [keeps_iff_of_isPrefix hpre]
  simp only [mem_flatMap_wordPower_iff h hL, mem_counts_iff, hb, true_implies]
  constructor
  · rintro ⟨N, n, ⟨hn, -⟩, hw⟩
    exact ⟨n, hn, hw⟩
  · rintro ⟨n, hn, hw⟩
    exact ⟨n, n, ⟨hn, le_rfl⟩, hw⟩

end Resting

section Repetition

variable {b : Bounds} (h : Tends W e L) (hL : HasWord L) (hb : b.inOrder)

include h hL hb

theorem repetition_of_not (he : ¬e) :
    Tends (fun N ↦ repetitions (W N) (b.counts N)) (b.most = none ∧ HasLetters L)
      (powers L b.Admits) := by
  obtain ⟨ws, hws⟩ := h.rests he
  have hconst : Tends (fun _ ↦ ws) e L := h.congr (hws.mono fun _ hN ↦ hN.symm) Iff.rfl
  have hmem : ∀ w, w ∈ ws ↔ w.toList ∈ L := fun w ↦ keeps_const.symm.trans (hconst.keeps_iff w)
  have heq : ∀ᶠ N in atTop, repetitions (W N) (b.counts N) = repetitions ws (b.counts N) :=
    hws.mono fun N hN ↦ by rw [hN]
  by_cases hletters : HasLetters L
  · cases hmost : b.most with
    | none => exact (repetition_of_most_eq_none hmem hL hletters hmost).congr heq (by simp [hletters])
    | some m => exact (repetition_of_most_eq_some hmem hL hletters hmost).congr heq (by simp)
  · exact (repetition_of_not_hasLetters hmem hL hletters hb).congr heq (by simp [hletters])

omit hL hb in
theorem eventually_repetitions_eq (hletters : HasLetters L) :
    ∀ᶠ N in atTop, repetitions (W N) (b.counts N) =
      (b.counts N).flatMap (RegexWords.wordPower (W N)) := by
  obtain ⟨w, hw, hne⟩ := hletters
  filter_upwards [h.eventually_ofList_mem hw] with N hN
  exact repetitions_of_exists_ne ⟨_, hN, ofList_ne_empty hne⟩ _

omit hb in
theorem firstPowers (he : e) (n : ℕ) :
    Tends (fun N ↦ (List.range' n (max n 1 + 1 - n)).flatMap (RegexWords.wordPower (W N))) True
      (powers L (· ∈ List.range' n (max n 1 + 1 - n))) := by
  rcases Nat.eq_zero_or_pos n with rfl | hn
  · have hlang : powers L (· ∈ List.range' 0 (max 0 1 + 1 - 0)) = 1 + L :=
      Language.ext fun w ↦ by simp [List.range', mem_powers, Language.mem_add]
    rw [hlang]
    exact h.cons_empty.congr (Eventually.of_forall fun N ↦ by
      simp [List.range', wordPower_zero, wordPower_one]) (iff_true_intro he)
  · have hlang : powers L (· ∈ List.range' n 1) = L ^ n :=
      Language.ext fun w ↦ by simp [mem_powers]
    rw [max_eq_left hn, Nat.add_sub_cancel_left, hlang]
    exact (h.wordPower hL n).congr (Eventually.of_forall fun N ↦ by simp) (by simp [hn, he])

/-- Of a body that is never listed to its end, only the first counts come. -/
theorem repetition_of_endless (he : e) (hletters : HasLetters L) :
    Tends (fun N ↦ repetitions (W N) (b.counts N)) (b.most ≠ some 0)
      (powers L fun n ↦ b.Admits n ∧ n ≤ max b.least 1) := by
  have hflat := h.eventually_repetitions_eq (b := b) hletters
  by_cases hmost : b.most = some 0
  · have hleast : b.least = 0 := Bounds.eq_zero_of_admits (Bounds.admits_least hb) hmost
    have hcounts : ∀ N, b.counts N = [0] := fun N ↦ by
      rw [Bounds.counts, hmost, hleast]
      rfl
    have hzero : powers L (fun n ↦ b.Admits n ∧ n ≤ max b.least 1) = 1 := by
      refine Language.ext fun w ↦ ⟨?_, fun hw ↦ ⟨b.least, ⟨Bounds.admits_least hb, by simp⟩, ?_⟩⟩
      · rintro ⟨n, ⟨hn, -⟩, hw⟩
        rwa [Bounds.eq_zero_of_admits hn hmost, pow_zero] at hw
      · rwa [hleast, pow_zero]
    rw [hzero]
    refine (const [""] (fun w ↦ ?_) not_false).congr (hflat.mono fun N hN ↦ ?_)
      (by simp [hmost])
    · rw [List.mem_singleton, Language.mem_one, String.toList_eq_nil_iff]
    · rw [hN, hcounts, List.flatMap_singleton, wordPower_zero]
  · simp only [← mem_range'_iff_admits hb hmost]
    -- The first counts alone outgrow any bound, and what stands behind them does not matter.
    have hfirst := (h.firstPowers hL he b.least).append trivial fun N ↦
      ((b.counts N).drop (max b.least 1 + 1 - b.least)).flatMap (RegexWords.wordPower (W N))
    refine hfirst.congr ?_ (by simp [hmost])
    filter_upwards [hflat, eventually_ge_atTop (max b.least 1)] with N hN hle
    rw [hN, ← List.flatMap_append, ← take_counts hb hmost hle, List.take_append_drop]

end Repetition

end Tends

namespace Pattern

theorem tends_singletons (cs : List Char) :
    Tends (fun _ ↦ singletons cs) (false = true) (oneOf cs) := by
  refine .const _ (fun w ↦ ?_) Bool.false_ne_true
  simp only [singletons, List.mem_map, mem_oneOf]
  refine exists_congr fun c ↦ and_congr_right fun _ ↦ ?_
  rw [eq_comm, ← String.toList_inj, String.toList_singleton]

variable [Compiler] {a : Alphabets}

section Parts

variable {ps : List Pattern}
  (h : ∀ p ∈ ps, Tends (fun N ↦ p.wordList a N) p.isEndless (p.reach a))

include h

theorem tends_concatenations (hword : ∀ p ∈ ps, HasWord (p.reach a)) :
    Tends (fun N ↦ concatenations (ps.map (wordList a N))) (anyIsEndless ps)
      (ps.map (reach a)).prod := by
  apply (Tends.concatenations h hword).congr (Eventually.of_forall fun N ↦ rfl)
  rw [anyIsEndless_eq_any, List.any_eq_true]

theorem tends_roundRobin :
    Tends (fun N ↦ roundRobin (ps.map (wordList a N))) (anyIsEndless ps)
      (ps.map (reach a)).sum := by
  apply (Tends.roundRobin h).congr (Eventually.of_forall fun N ↦ rfl)
  rw [anyIsEndless_eq_any, List.any_eq_true]

end Parts

theorem tends_repetition {b : Bounds} {greedy : Bool} {p : Pattern} (hb : b.inOrder)
    (h : Tends (fun N ↦ p.wordList a N) p.isEndless (p.reach a)) (hword : HasWord (p.reach a))
    (hletters : p.hasLetters ↔ HasLetters (p.reach a)) :
    Tends (fun N ↦ (repetition b greedy p).wordList a N) (repetition b greedy p).isEndless
      ((repetition b greedy p).reach a) := by
  have hlist : ∀ᶠ N in atTop, (repetition b greedy p).wordList a N =
      repetitions (p.wordList a N) (b.counts N) := Eventually.of_forall fun N ↦ by rw [wordList]
  rw [reach_repetition]
  by_cases hend : p.isEndless
  · have hlong := hletters.1 (hasLetters_of_isEndless hend)
    simp only [hend, true_implies]
    exact (h.repetition_of_endless hword hb hend hlong).congr hlist
      (isEndless_repetition_iff hend).symm
  · have hrep := h.repetition_of_not hword hb hend
    rw [← hletters] at hrep
    simp only [hend, Bool.false_eq_true, false_implies, and_true]
    exact hrep.congr hlist (isEndless_repetition_iff_of_not hend).symm

theorem tends_wordList (ha : a.isFull) {p : Pattern} (h : ∀ q ∈ p.nodes, q.isProper a) :
    Tends (fun N ↦ p.wordList a N) p.isEndless (p.reach a) := by
  induction p with
  | sequence ps ih =>
    obtain ⟨-, -, -, hps⟩ := forall_mem_children h
    simp only [wordList_sequence, reach_sequence, isEndless]
    exact tends_concatenations (fun p hp ↦ ih p hp (hps p hp))
      fun p hp ↦ (reach_spec ha (hps p hp)).1
  | choice ps ih =>
    obtain ⟨-, -, -, hps⟩ := forall_mem_children h
    simp only [wordList_choice, reach_choice, isEndless]
    exact tends_roundRobin fun p hp ↦ ih p hp (hps p hp)
  | anchor x =>
    obtain ⟨hx, -⟩ := forall_mem_children h
    rw [isListable] at hx
    simp only [wordList, reach, languageWith, if_pos hx]
    apply Tends.const _ _ Bool.false_ne_true
    intro w
    rw [List.mem_singleton, Language.mem_one, String.toList_eq_nil_iff]
  | group kind ps ih =>
    obtain ⟨hkind, -, -, hps⟩ := forall_mem_children h
    rw [isListable] at hkind
    simp only [wordList_group hkind, reach_group hkind, isEndless]
    exact tends_concatenations (fun p hp ↦ ih p hp (hps p hp))
      fun p hp ↦ (reach_spec ha (hps p hp)).1
  | repetition b greedy p ih =>
    obtain ⟨-, hb, -, hp⟩ := forall_mem_children h
    have hbody := hp p (List.mem_singleton_self p)
    obtain ⟨hword, hletters⟩ := reach_spec ha hbody
    exact tends_repetition hb (ih hbody) hword hletters
  | bracket ps negated text ih =>
    obtain ⟨-, -, -, hps⟩ := forall_mem_children h
    cases negated with
    | false =>
      simp only [wordList_bracket, reach_bracket, isEndless, Bool.not_false, Bool.true_and]
      exact tends_roundRobin fun p hp ↦ ih p hp (hps p hp)
    | true => exact tends_singletons _
  | literal | range | shorthand | anyCharacter => exact tends_singletons _
  | reference id => cases (forall_mem_children h).1

end Pattern

end RegexWords
