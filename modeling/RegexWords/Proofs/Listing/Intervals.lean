import Mathlib.Data.List.Basic
import RegexWords.Listing.Interval

namespace RegexWords.Interval

open Text

def all (first last : Char) : List Char := (first...=last).toList

theorem all_eq (first last : Char) :
    all first last =
      if first ≤ last then first :: first.succ?.elim [] (all · last) else [] := by
  simp only [all]
  rw [Std.Rcc.toList_eq_if_roc]
  split
  · rw [Std.Roc.toList_eq_match_rcc, Char.pRangeSucc?_eq]
    cases first.succ? <;> rfl
  · rfl

theorem mem_all {first last c : Char} : c ∈ all first last ↔ first ≤ c ∧ c ≤ last := by
  rw [all, Std.Rcc.mem_toList_iff_mem]
  rfl

theorem mem_of_mem_dedup {c : Char} {cs : List Char} (h : c ∈ dedup cs) : c ∈ cs := by
  induction cs using dedup.induct with
  | case1 d cs ih =>
    rw [dedup, if_pos rfl] at h
    exact List.mem_cons_of_mem d (ih h)
  | case2 d e cs hde ih =>
    rw [dedup, if_neg hde] at h
    rcases List.mem_cons.1 h with rfl | h
    · exact List.mem_cons_self
    · exact List.mem_cons_of_mem d (ih h)
  | case3 cs hcs =>
    rwa [dedup] at h
    exact hcs

theorem quarterPoints_between {first last point : ℕ} (h : first ≤ last)
    (hp : point ∈ quarterPoints first last) : first ≤ point ∧ point ≤ last := by
  simp only [quarterPoints, List.mem_cons, List.not_mem_nil, or_false] at hp
  omega

theorem not_isValidChar_of_scalar?_eq_none {point : ℕ} (h : scalar? point = none) :
    ¬point.isValidChar := by
  intro hvalid
  rw [scalar?, if_pos hvalid] at h
  cases h

theorem surrogate_of_scalar?_eq_none {point : ℕ} {c : Char} (h : scalar? point = none)
    (hc : point ≤ c.toNat) : below < point ∧ point < above := by
  have hpoint := not_isValidChar_of_scalar?_eq_none h
  have hvalid : c.toNat.isValidChar := c.valid
  simp only [Nat.isValidChar, below, above] at hpoint hvalid ⊢
  omega

theorem nearest?_between {first last c : Char} {point : ℕ} (hfirst : first.toNat ≤ point)
    (hlast : point ≤ last.toNat) (h : nearest? first.toNat last.toNat point = some c) :
    first.toNat ≤ c.toNat ∧ c.toNat ≤ last.toNat := by
  unfold nearest? at h
  cases hs : scalar? point with
  | some d =>
    rw [hs, Option.some.injEq] at h
    rw [← h, toNat_of_scalar? hs]
    exact ⟨hfirst, hlast⟩
  | none =>
    rw [hs] at h
    obtain ⟨side, hside, hc⟩ := Option.bind_eq_some_iff.1 h
    rw [toNat_of_scalar? hc]
    have hpoint := surrogate_of_scalar?_eq_none hs hlast
    unfold beside? at hside
    split at hside
    · cases hside
      omega
    · split at hside
      · cases hside
        omega
      · cases hside

theorem between_of_mem_samples {first last c : Char} (h : first ≤ last)
    (hc : c ∈ samples first last) : first ≤ c ∧ c ≤ last := by
  obtain ⟨point, hp, hn⟩ := List.mem_filterMap.1 (mem_of_mem_dedup hc)
  obtain ⟨hfirst, hlast⟩ := quarterPoints_between (Char.le_def.1 h) hp
  exact nearest?_between hfirst hlast hn

end RegexWords.Interval
