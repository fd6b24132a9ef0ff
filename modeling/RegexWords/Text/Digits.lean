namespace RegexWords.Text

def hexValue? (c : Char) : Option Nat :=
  if '0' ≤ c ∧ c ≤ '9' then some (c.toNat - '0'.toNat)
  else if 'a' ≤ c ∧ c ≤ 'f' then some (c.toNat - 'a'.toNat + 10)
  else if 'A' ≤ c ∧ c ≤ 'F' then some (c.toNat - 'A'.toNat + 10)
  else none

def appendHexDigit (n : Nat) (digit : Char) : Option Nat :=
  (hexValue? digit).map (16 * n + ·)

/-- The number that hexadecimal digits write, leading zeros allowed. Another character among them
leaves no number, and no digits at all write zero. -/
def hexNumber? (digits : List Char) : Option Nat :=
  digits.foldlM appendHexDigit 0

/-- The character with a given code point. Surrogates and numbers beyond the code space have none.
-/
def scalar? (n : Nat) : Option Char :=
  if n.isValidChar then some (Char.ofNat n) else none

def hexScalar? (digits : List Char) : Option Char :=
  (hexNumber? digits).bind scalar?

def fixedHex? (width : Nat) (cs : List Char) : Option (Char × List Char) :=
  if (cs.take width).length = width then
    (hexScalar? (cs.take width)).map (·, cs.drop width)
  else none

theorem scalar?_toNat (c : Char) : scalar? c.toNat = some c := by
  have h : c.toNat.isValidChar := c.valid
  simp [scalar?, h]

theorem toNat_of_scalar? {n : Nat} {c : Char} (h : scalar? n = some c) : c.toNat = n := by
  unfold scalar? at h
  split at h
  · next hn =>
    cases h
    have same : Char.ofNat n = Char.ofNatAux n hn := dif_pos hn
    rw [same]
    rfl
  · cases h

theorem isSuffix_of_fixedHex? {width : Nat} {cs rest : List Char} {c : Char}
    (h : fixedHex? width cs = some (c, rest)) : rest <:+ cs := by
  unfold fixedHex? at h
  split at h
  · obtain ⟨d, _, hd⟩ := Option.map_eq_some_iff.1 h
    cases hd
    exact List.drop_suffix _ _
  · simp at h

end RegexWords.Text
