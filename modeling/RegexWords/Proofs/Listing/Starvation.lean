import RegexWords.CharSet.ClassText
import RegexWords.Proofs.Listing.Taking
import RegexWords.Proofs.Listing.Tending

open Filter

namespace RegexWords

namespace Pattern

def nestedStars : Pattern :=
  .repetition ⟨0, none⟩ true
    (.group .capturing [.repetition ⟨0, none⟩ true (.literal 'a'), .literal 'b'])

end Pattern

namespace Listing

theorem mem_take_iff_exists_getElem? {α : Type} {as : List α} {k : ℕ} {a : α} :
    a ∈ as.take k ↔ ∃ j < k, as[j]? = some a := by
  rw [List.mem_iff_getElem?]
  simp only [List.getElem?_take, Option.ite_none_right_eq_some]

section Exhaustive

variable [Compiler] {s : Settings} {p : Pattern}

/-- A word comes among the first so many, however far repetitions go on, if it keeps its place in
the lists of words. -/
theorem exists_forall_yields_iff_keeps (hs : s.mode = .exhaustive)
    (h : ∀ q ∈ p.nodes, q.isProper s.alphabets) (word : String) :
    (∃ K N₀, ∀ N ≥ N₀, ∃ k < K, (ofPattern { s with greatestCount := N } p).Yields k word) ↔
      Keeps (fun N ↦ p.wordList s.alphabets N) word := by
  have hlist : ∀ q ∈ p.nodes, q.isListable s.alphabets := by
    intro q hq
    have hproper := h q hq
    simp only [Pattern.isProper, Bool.and_eq_true] at hproper
    exact hproper.1.1
  apply exists_congr
  intro K
  rw [eventually_atTop]
  refine exists_congr fun N₀ ↦ forall₂_congr fun N _ ↦ ?_
  rw [mem_take_iff_exists_getElem?]
  refine exists_congr fun k ↦ and_congr_right fun _ ↦ ?_
  exact yields_iff (lists_wordList (s := { s with greatestCount := N }) hs hlist)

/-- Nothing is held back where repetitions do not go on behind endless bodies. -/
theorem exists_forall_yields_of_isSteady (hs : s.mode = .exhaustive) (ha : s.alphabets.isFull)
    (h : ∀ q ∈ p.nodes, q.isProper s.alphabets) (hsteady : ∀ q ∈ p.nodes, q.isSteady)
    {word : String} (hword : word.toList ∈ p.language s.alphabets) :
    ∃ K N₀, ∀ N ≥ N₀, ∃ k < K,
      (ofPattern { s with greatestCount := N } p).Yields k word := by
  rw [exists_forall_yields_iff_keeps hs h, (Pattern.tends_wordList ha h).keeps_iff]
  exact Pattern.mem_reach_of_mem_language hsteady hword

/-- With repetitions that go on far enough, a word keeps a place that does not depend on how far
exactly if it is within reach. -/
theorem exists_forall_yields_iff_mem_reach (hs : s.mode = .exhaustive)
    (ha : s.alphabets.isFull) (h : ∀ q ∈ p.nodes, q.isProper s.alphabets) (word : String) :
    (∃ K N₀, ∀ N ≥ N₀, ∃ k < K, (ofPattern { s with greatestCount := N } p).Yields k word) ↔
      word.toList ∈ p.reach s.alphabets :=
  (exists_forall_yields_iff_keeps hs h word).trans ((Pattern.tends_wordList ha h).keeps_iff word)

end Exhaustive

theorem exists_forall_yields_iff_mem_reach_nestedStars :
    ((Settings.ofMode .exhaustive).mode = .exhaustive ∧ Alphabets.exhaustive.isFull ∧
      ∀ q ∈ Pattern.nestedStars.nodes, q.isProper .exhaustive) ∧
    ((∃ K N₀, ∀ N ≥ N₀, ∃ k < K,
        (ofPattern { Settings.ofMode .exhaustive with greatestCount := N }
          .nestedStars).Yields k "aab") ↔
      "aab".toList ∈ Pattern.nestedStars.reach .exhaustive) :=
  ⟨⟨rfl, by decide, by decide⟩,
    exists_forall_yields_iff_mem_reach (s := .ofMode .exhaustive) rfl (by decide) (by decide) "aab"⟩

end Listing

section Held

theorem eq_of_mem_of_mem_oneOf_pow {c d : Char} {n : ℕ} {w : List Char} (hw : w ∈ oneOf [c] ^ n)
    (hd : d ∈ w) : d = c := by
  obtain ⟨ws, rfl, -, hws⟩ := Language.mem_pow.1 hw
  obtain ⟨v, hv, hdv⟩ := List.mem_flatten.1 hd
  obtain ⟨e, he, rfl⟩ := hws v hv
  rw [List.mem_singleton] at he hdv
  rw [hdv, he]

theorem bb_mem_language : "bb".toList ∈ Pattern.nestedStars.language .exhaustive := by
  have hbody : ['b'] ∈ Pattern.language .exhaustive
      (.group .capturing [.repetition ⟨0, none⟩ true (.literal 'a'), .literal 'b']) := by
    have hplain : GroupKind.capturing.isPlain := rfl
    rw [Pattern.language, Pattern.languageWith_group, if_pos hplain, List.map_cons, List.map_cons,
      List.map_nil, List.prod_cons, List.prod_cons, List.prod_nil, mul_one]
    have hnone : [] ∈ Pattern.languageWith .exhaustive (fun b _ n ↦ b.Admits n)
        (.repetition ⟨0, none⟩ true (.literal 'a')) := ⟨0, ⟨le_rfl, by simp⟩, rfl⟩
    exact Language.append_mem_mul hnone ⟨'b', List.mem_singleton_self 'b', rfl⟩
  refine ⟨2, ⟨Nat.zero_le 2, by simp⟩, ?_⟩
  rw [pow_two]
  exact Language.append_mem_mul hbody hbody

theorem bb_notMem_reach : "bb".toList ∉ Pattern.nestedStars.reach .exhaustive := by
  rw [Pattern.nestedStars, Pattern.reach_repetition]
  rintro ⟨n, ⟨-, hn⟩, hw⟩
  have hle : n ≤ 1 := hn rfl
  obtain rfl | rfl : n = 0 ∨ n = 1 := by omega
  · cases hw
  rw [pow_one, Pattern.reach_group rfl, List.map_cons, List.map_cons, List.map_nil,
    List.prod_cons, List.prod_cons, List.prod_nil, mul_one, Pattern.reach_repetition] at hw
  obtain ⟨u, ⟨m, -, hu⟩, v, ⟨c, hc, rfl⟩, huv⟩ := Language.mem_mul.1 hw
  have huv' : u ++ [c] = ['b'] ++ ['b'] := huv
  have hb : 'b' ∈ u := by
    rw [(List.append_inj_left' huv' rfl)]
    exact List.mem_singleton_self 'b'
  exact absurd (eq_of_mem_of_mem_oneOf_pow hu hb) (by decide)

end Held

namespace Listing

/-- The repetition of `a*b` never comes to its second count. -/
theorem starved_bb :
    (∀ q ∈ Pattern.nestedStars.nodes, q.isProper .exhaustive) ∧ Alphabets.exhaustive.isFull ∧
    "bb".toList ∈ Pattern.nestedStars.language .exhaustive ∧
    ¬∃ K N₀, ∀ N ≥ N₀, ∃ k < K,
      (ofPattern { Settings.ofMode .exhaustive with greatestCount := N }
        .nestedStars).Yields k "bb" := by
  have hproper : ∀ q ∈ Pattern.nestedStars.nodes, q.isProper .exhaustive := by decide
  refine ⟨hproper, by decide, bb_mem_language, ?_⟩
  rw [exists_forall_yields_iff_keeps (s := .ofMode .exhaustive) rfl hproper]
  exact fun hkeeps ↦ bb_notMem_reach
    (((Pattern.tends_wordList (by decide) hproper).keeps_iff "bb").1 hkeeps)

end Listing

end RegexWords
