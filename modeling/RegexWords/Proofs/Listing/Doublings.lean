import Mathlib.Order.Iterate
import RegexWords.CharSet.ClassText
import RegexWords.Proofs.Listing.CheckedNumbers
import RegexWords.Proofs.Listing.ExampleCounts
import RegexWords.Proofs.Listing.Productivity
import RegexWords.Proofs.Sequence.BoxCalls

namespace RegexWords

namespace Counts

variable {last m n : ℕ}

theorem popAnswer_next? (c : Counts) (k : ℕ) : popAnswer next? c k = c.toList[k]? := by
  induction k generalizing c with
  | zero =>
    rw [toList_eq, popAnswer, Function.iterate_zero_apply]
    cases next? c <;> rfl
  | succ k ih =>
    rw [popAnswer_succ, ih, behindPop, toList_eq c]
    cases hnext : next? c with
    | none =>
      rw [Option.elim_none, toList_eq, hnext]
      rfl
    | some p => rfl

theorem le_iterate_doubled (n k : ℕ) : n ≤ doubled^[k] n :=
  Function.id_le_iterate_of_id_le (fun n ↦ (lt_doubled n).le) k n

theorem mem_doublings (h : n ≤ last) :
    m ∈ doublings last n ↔ m ≤ last ∧ ∃ k, doubled^[k] n = m := by
  induction n using doublings.induct last with
  | case1 n ih =>
    rw [doublings, List.mem_cons]
    by_cases hle : doubled n ≤ last
    · rw [if_pos hle, ih hle hle]
      constructor
      · rintro (rfl | ⟨hm, k, hk⟩)
        · exact ⟨h, 0, rfl⟩
        · exact ⟨hm, k + 1, hk⟩
      · rintro ⟨hm, k, hk⟩
        cases k with
        | zero => exact .inl hk.symm
        | succ k => exact .inr ⟨hm, k, hk⟩
    · rw [if_neg hle]
      constructor
      · rintro (rfl | hm)
        · exact ⟨h, 0, rfl⟩
        · cases hm
      · rintro ⟨hm, k, hk⟩
        cases k with
        | zero => exact .inl hk.symm
        | succ k =>
          have hbeyond : doubled n ≤ doubled^[k + 1] n := le_iterate_doubled (doubled n) k
          omega

theorem getLast?_doublings (hm : m ∈ doublings last n) (hbeyond : last < doubled m) :
    (doublings last n).getLast? = some m := by
  induction n using doublings.induct last with
  | case1 n ih =>
    rw [doublings] at hm ⊢
    by_cases hle : doubled n ≤ last
    · rw [if_pos hle] at hm ⊢
      have hne : m ≠ n := by
        rintro rfl
        omega
      rw [List.getLast?_cons, ih hle (List.mem_of_ne_of_mem hne hm), Option.getD_some]
    · rw [if_neg hle] at hm ⊢
      rw [List.mem_singleton.1 hm, List.getLast?_singleton]

theorem length_ofBounds_examples_le {s : Settings} (hs : s.mode = .examples) (b : Bounds) :
    (ofBounds s b).toList.length ≤ 4 := by
  rw [toList_ofBounds_examples hs, Bounds.visited, List.length_cons]
  apply Nat.succ_le_succ
  exact (List.takeWhile_prefix _).length_le

def cap? (least : BitVec 32) (most : Option (BitVec 32)) : Option (BitVec 64) := do
  let behind ← Checked.add? (least.setWidth 64) 1#64
  let fourfold ← Checked.mul? 4#64 behind
  let most := most.elim (BitVec.allOnes 64) (·.setWidth 64)
  return if most ≤ fourfold then most else fourfold

def doubled? (n : BitVec 32) : Option (BitVec 32) :=
  if n = 0#32 then some 1#32 else Checked.mul? n 2#32

def behind? (cap : BitVec 64) (n : BitVec 32) : Option (BitVec 32) := do
  let next ← doubled? n
  if next.setWidth 64 ≤ cap then some next else .none

variable {cap : BitVec 64}

theorem exists_cap? (least : BitVec 32) (most : Option (BitVec 32)) :
    ∃ cap, cap? least most = some cap ∧
      cap.toNat = min (most.elim (2 ^ 64 - 1) BitVec.toNat) (4 * (least.toNat + 1)) := by
  have hleast : (least.setWidth 64).toNat = least.toNat :=
    BitVec.toNat_setWidth_of_le (by decide)
  have hplus : (least.setWidth 64).toNat + (1#64).toNat < 2 ^ 64 := by
    change (least.setWidth 64).toNat + 1 < 2 ^ 64
    omega
  obtain ⟨behind, hbehind, hb⟩ := Checked.exists_add? hplus
  change behind.toNat = (least.setWidth 64).toNat + 1 at hb
  have htimes : (4#64).toNat * behind.toNat < 2 ^ 64 := by
    change 4 * behind.toNat < 2 ^ 64
    omega
  obtain ⟨fourfold, hfourfold, hf⟩ := Checked.exists_mul? htimes
  change fourfold.toNat = 4 * behind.toNat at hf
  have hmost : (most.elim (BitVec.allOnes 64) (·.setWidth 64)).toNat =
      most.elim (2 ^ 64 - 1) BitVec.toNat := by
    cases most with
    | none => rfl
    | some m => exact BitVec.toNat_setWidth_of_le (by decide)
  rw [cap?, hbehind, Option.bind_eq_bind, Option.bind_some, hfourfold]
  refine ⟨_, rfl, ?_⟩
  rw [← hmost, ← hleast, ← hb, ← hf, apply_ite BitVec.toNat, min_def]
  rfl

theorem doubled?_cases (n : BitVec 32) :
    (∃ next, doubled? n = some next ∧ next.toNat = doubled n.toNat) ∨
      doubled? n = .none ∧ Bounds.greatest < doubled n.toNat := by
  by_cases hzero : n = 0#32
  · subst hzero
    exact .inl ⟨1#32, rfl, rfl⟩
  have hne : n.toNat ≠ 0 := fun h ↦ hzero (BitVec.eq_of_toNat_eq h)
  rw [doubled?, if_neg hzero, doubled, if_neg hne, Nat.mul_comm]
  by_cases hfits : n.toNat * 2 ≤ Bounds.greatest
  · exact .inl (Checked.exists_mul? (b := 2#32) (Nat.lt_succ_of_le hfits))
  · have hbeyond : Bounds.greatest < n.toNat * 2 := Nat.lt_of_not_le hfits
    exact .inr ⟨Checked.mul?_eq_none_iff.2 hbeyond, hbeyond⟩

theorem behind?_cases (hlast : last = min cap.toNat Bounds.greatest) (n : BitVec 32) :
    (∃ next, behind? cap n = some next ∧ next.toNat = doubled n.toNat ∧ doubled n.toNat ≤ last) ∨
      behind? cap n = .none ∧ last < doubled n.toNat := by
  obtain ⟨next, hnext, hdoubled⟩ | ⟨hnone, hbeyond⟩ := doubled?_cases n
  · have hwide : (next.setWidth 64).toNat = next.toNat :=
      BitVec.toNat_setWidth_of_le (by decide)
    have hgreatest : next.toNat ≤ Bounds.greatest := Nat.le_of_lt_succ next.isLt
    rw [behind?, hnext, Option.bind_eq_bind, Option.bind_some]
    by_cases hle : next.setWidth 64 ≤ cap
    · rw [if_pos hle]
      rw [BitVec.le_def] at hle
      exact .inl ⟨next, rfl, hdoubled, by omega⟩
    · rw [if_neg hle]
      rw [BitVec.le_def] at hle
      exact .inr ⟨rfl, by omega⟩
  · rw [behind?, hnone]
    exact .inr ⟨rfl, by omega⟩

/-- From one count to the next the numbers go through all doublings, and there is none behind. -/
theorem map_iterate_behind? (hlast : last = min cap.toNat Bounds.greatest) (n : BitVec 32) (k : ℕ) :
    ((fun o ↦ o.bind (behind? cap))^[k] (some n)).map BitVec.toNat =
      (doublings last n.toNat)[k]? := by
  induction k generalizing n with
  | zero =>
    rw [doublings]
    rfl
  | succ k ih =>
    rw [Function.iterate_succ_apply, Option.bind_some, doublings, List.getElem?_cons_succ]
    obtain ⟨next, hnext, hdoubled, hle⟩ | ⟨hnone, hbeyond⟩ := behind?_cases hlast n
    · rw [hnext, ih, hdoubled, if_pos hle]
    · have hstays : (fun o : Option (BitVec 32) ↦ o.bind (behind? cap))^[k] .none = .none :=
        Function.iterate_fixed rfl k
      rw [hnone, hstays, if_neg (Nat.not_le.2 hbeyond)]
      rfl

variable {least : BitVec 32} {most : Option (BitVec 32)}

theorem exampleEnd_eq
    (hcap : cap.toNat = min (most.elim (2 ^ 64 - 1) BitVec.toNat) (4 * (least.toNat + 1))) :
    exampleEnd Bounds.greatest ⟨least.toNat, most.map BitVec.toNat⟩ =
      min cap.toNat Bounds.greatest := by
  rw [exampleEnd, hcap]
  cases most with
  | none =>
    simp only [Option.map_none, Option.getD_none, Option.elim_none, Bounds.greatest]
    omega
  | some m =>
    simp only [Option.map_some, Option.getD_some, Option.elim_some, Bounds.greatest]
    omega

theorem le_end_iff
    (hcap : cap.toNat = min (most.elim (2 ^ 64 - 1) BitVec.toNat) (4 * (least.toNat + 1))) :
    n ≤ min cap.toNat Bounds.greatest ↔
      (∀ m ∈ most, n ≤ m.toNat) ∧ n ≤ 4 * (least.toNat + 1) ∧ n ≤ Bounds.greatest := by
  rw [hcap]
  cases most with
  | none =>
    simp only [Option.elim_none, Option.not_mem_none, false_implies, implies_true, true_and,
      Bounds.greatest]
    omega
  | some m =>
    simp only [Option.elim_some, Option.mem_some_iff, forall_eq', le_min_iff, and_assoc]

end Counts

namespace Listing

theorem wordPower_singleton (c : Char) (n : ℕ) :
    wordPower [String.singleton c] n = [String.ofList (List.replicate n c)] := by
  have hlength : (wordPower [String.singleton c] n).length = 1 := by
    rw [length_wordPower, List.length_singleton, one_pow]
  obtain ⟨w, hw⟩ := List.length_eq_one_iff.1 hlength
  have hmem : w ∈ wordPower [String.singleton c] n := by
    rw [hw]
    exact List.mem_singleton_self w
  obtain ⟨vs, hvs, hall, rfl⟩ := mem_wordPower.1 hmem
  have hreplicate : vs = List.replicate n (String.singleton c) :=
    List.eq_replicate_iff.2 ⟨hvs, fun v hv ↦ List.mem_singleton.1 (hall v hv)⟩
  rw [hw, hreplicate]
  congr 1
  apply String.toList_inj.1
  rw [String.toList_join, String.toList_ofList, List.flatMap_replicate, String.toList_singleton,
    List.flatten_replicate_singleton]

theorem items_repetition_literal [Compiler] (s : Settings) (b : Bounds) (greedy : Bool) (c : Char) :
    items s (.repetition b greedy (.literal c)) =
      (Counts.ofBounds s b).toList.map fun n ↦ .ok (String.ofList (List.replicate n c)) := by
  have hbody : items s (.literal c) = [String.singleton c].map .ok := rfl
  have hne : ∃ w ∈ [String.singleton c], w ≠ "" :=
    ⟨_, List.mem_singleton_self _, by simp⟩
  have hpower : wordPower [String.singleton c] =
      fun n ↦ [String.ofList (List.replicate n c)] := funext (wordPower_singleton c)
  rw [items, hbody, repeated_map_ok, repetitions_of_exists_ne hne, hpower, ← List.map_eq_flatMap,
    List.map_map]
  rfl

/-- The counts at which examples of a repetition are listed are its least one and the doublings of
it, one behind zero, that are neither beyond the most nor beyond four times the number behind the
least, and that have 32 bits. Going from one to the next in machine numbers comes by the same
counts, and its cap is exact. -/
theorem exists_counts_examples [Compiler] {s : Settings} (hs : s.mode = .examples)
    (hg : s.greatestCount = Bounds.greatest) (least : BitVec 32) (most : Option (BitVec 32))
    (h : ∀ m ∈ most, least ≤ m) :
    ∃ counts : List ℕ,
      (∀ k, popAnswer Counts.next? (.ofBounds s ⟨least.toNat, most.map BitVec.toNat⟩) k =
        counts[k]?) ∧
      (∀ greedy c w, Lists proceed
        (ofPattern s (.repetition ⟨least.toNat, most.map BitVec.toNat⟩ greedy (.literal c)), w)
        (counts.map fun n ↦ .ok (String.ofList (List.replicate n c)))) ∧
      counts.Pairwise (· < ·) ∧
      (∀ n, n ∈ counts ↔ (∃ k, Counts.doubled^[k] least.toNat = n) ∧
        (∀ m ∈ most, n ≤ m.toNat) ∧ n ≤ 4 * (least.toNat + 1) ∧ n ≤ Bounds.greatest) ∧
      (∃ cap, Counts.cap? least most = some cap ∧
        cap.toNat = min (most.elim (2 ^ 64 - 1) BitVec.toNat) (4 * (least.toNat + 1)) ∧
        ∀ k, ((fun o ↦ o.bind (Counts.behind? cap))^[k] (some least)).map BitVec.toNat =
          counts[k]?) ∧
      counts.length ≤ 4 ∧
      counts.head? = some least.toNat ∧
      (∀ n ∈ counts, Bounds.greatest < Counts.doubled n → counts.getLast? = some n) ∧
      ∀ n ∈ counts, least.toNat ≤ n ∧ ∀ m ∈ most, n ≤ m.toNat := by
  let b : Bounds := ⟨least.toNat, most.map BitVec.toNat⟩
  obtain ⟨cap, hcap, hexact⟩ := Counts.exists_cap? least most
  have hcounts : (Counts.ofBounds s b).toList =
      Counts.doublings (min cap.toNat Bounds.greatest) least.toNat := by
    rw [Counts.ofBounds, hs, hg, Counts.exampleEnd_eq hexact]
    rfl
  have hleast : least.toNat ≤ min cap.toNat Bounds.greatest := by
    apply (Counts.le_end_iff hexact).2
    exact ⟨h, by omega, Nat.le_of_lt_succ least.isLt⟩
  have hmem (n : ℕ) : n ∈ (Counts.ofBounds s b).toList ↔
      (∃ k, Counts.doubled^[k] least.toNat = n) ∧
        (∀ m ∈ most, n ≤ m.toNat) ∧ n ≤ 4 * (least.toNat + 1) ∧ n ≤ Bounds.greatest := by
    rw [hcounts, Counts.mem_doublings hleast, Counts.le_end_iff hexact, and_comm]
  refine ⟨(Counts.ofBounds s b).toList, Counts.popAnswer_next? _, ?_,
    Counts.pairwise_ofBounds s b, hmem, ⟨cap, hcap, hexact, ?_⟩,
    Counts.length_ofBounds_examples_le hs b, ?_, ?_, ?_⟩
  · intro greedy c w
    apply gives_proceed_iff.2
    rw [← items_repetition_literal s b greedy c]
    exact lists_ofPattern s _
  · rw [hcounts]
    exact Counts.map_iterate_behind? rfl least
  · rw [hcounts, Counts.doublings]
    rfl
  · intro n hn hbeyond
    rw [hcounts] at hn ⊢
    apply Counts.getLast?_doublings hn
    exact (min_le_right _ _).trans_lt hbeyond
  · intro n hn
    obtain ⟨⟨k, rfl⟩, hmost, -⟩ := (hmem n).1 hn
    exact ⟨Counts.le_iterate_doubled _ k, hmost⟩

/-- The doubling behind the second count has 33 bits. -/
theorem exists_counts_examples_beyond :
    (Settings.ofMode .examples).mode = .examples ∧
    (Settings.ofMode .examples).greatestCount = Bounds.greatest ∧
    (∀ m ∈ (none : Option (BitVec 32)), 0x60000000#32 ≤ m) ∧
    ∃ counts : List ℕ,
      (∀ k, popAnswer Counts.next? (.ofBounds (.ofMode .examples) ⟨0x60000000, none⟩) k =
        counts[k]?) ∧
      counts = [0x60000000, 0xc0000000] := by
  obtain ⟨counts, hanswers, -, -, -, ⟨cap, hcap, -, hnumbers⟩, -⟩ :=
    exists_counts_examples (s := .ofMode .examples) rfl rfl 0x60000000#32 none (by simp)
  obtain rfl : 0x180000004#64 = cap := Option.some.inj (Eq.trans (by decide) hcap)
  have hfirst : counts[0]? = some 0x60000000 := (hnumbers 0).symm.trans (by decide)
  have hsecond : counts[1]? = some 0xc0000000 := (hnumbers 1).symm.trans (by decide)
  have hthird : counts[2]? = none := (hnumbers 2).symm.trans (by decide)
  refine ⟨rfl, rfl, by simp, counts, hanswers, ?_⟩
  match counts with
  | [] => cases hfirst
  | [_] => cases hsecond
  | [m, n] =>
    rw [Option.some.inj hfirst, Option.some.inj hsecond]
  | _ :: _ :: _ :: _ => cases hthird

end Listing

end RegexWords
