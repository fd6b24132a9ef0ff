import Mathlib.Algebra.Group.Nat.Defs

namespace RegexWords.Checked

variable {w n : ℕ} {a b c : BitVec w}

def fit? (w n : ℕ) : Option (BitVec w) :=
  if h : n < 2 ^ w then some (BitVec.ofNatLT n h) else none

def add? (a b : BitVec w) : Option (BitVec w) := fit? w (a.toNat + b.toNat)

def mul? (a b : BitVec w) : Option (BitVec w) := fit? w (a.toNat * b.toNat)

def sub? (a b : BitVec w) : Option (BitVec w) :=
  if b.toNat ≤ a.toNat then fit? w (a.toNat - b.toNat) else none

theorem exists_fit? (h : n < 2 ^ w) : ∃ c, fit? w n = some c ∧ c.toNat = n :=
  ⟨BitVec.ofNatLT n h, dif_pos h, rfl⟩

theorem exists_add? (h : a.toNat + b.toNat < 2 ^ w) :
    ∃ c, add? a b = some c ∧ c.toNat = a.toNat + b.toNat := exists_fit? h

theorem exists_mul? (h : a.toNat * b.toNat < 2 ^ w) :
    ∃ c, mul? a b = some c ∧ c.toNat = a.toNat * b.toNat := exists_fit? h

theorem exists_sub? (h : b.toNat ≤ a.toNat) :
    ∃ c, sub? a b = some c ∧ c.toNat = a.toNat - b.toNat := by
  have hfits : a.toNat - b.toNat < 2 ^ w := Nat.lt_of_le_of_lt (Nat.sub_le _ _) a.isLt
  rw [sub?, if_pos h]
  exact exists_fit? hfits

theorem mul?_eq_none_iff : mul? a b = none ↔ 2 ^ w ≤ a.toNat * b.toNat := by
  simp [mul?, fit?]

end RegexWords.Checked
