import RegexWords.Pattern.Basic
import RegexWords.Text.Tail

namespace RegexWords.Bounds

open Text

def greatest : Nat := 4294967295

def readNumber? (cs : List Char) : Option (Nat × List Char) :=
  let digits := cs.takeWhile Char.isDigit
  let n := Nat.ofDigitChars 10 digits 0
  if digits ≠ [] ∧ n ≤ greatest then some (n, cs.dropWhile Char.isDigit) else none

/-- Reads bounds behind the brace that opens them. Any other text there is no bounds. -/
def read? (cs : List Char) : Option (Bounds × List Char) :=
  match readNumber? cs with
  | some (n, '}' :: rest) => some (⟨n, some n⟩, rest)
  | some (n, ',' :: '}' :: rest) => some (⟨n, none⟩, rest)
  | some (n, ',' :: cs) =>
    match readNumber? cs with
    | some (m, '}' :: rest) => some (⟨n, some m⟩, rest)
    | _ => none
  | _ => none

theorem isSuffix_of_readNumber? {cs rest : List Char} {n : Nat}
    (h : readNumber? cs = some (n, rest)) : rest <:+ cs := by
  simp only [readNumber?] at h
  split at h
  · cases h; exact List.dropWhile_suffix _
  · cases h

theorem isSuffix_of_read? {cs rest : List Char} {b : Bounds} (h : read? cs = some (b, rest)) :
    rest <:+ cs := by
  unfold read? at h
  split at h
  · next hn => cases h; exact (List.suffix_cons _ _).trans (isSuffix_of_readNumber? hn)
  · next hn =>
    cases h
    exact ((List.suffix_cons _ _).trans (List.suffix_cons _ _)).trans (isSuffix_of_readNumber? hn)
  · next hn =>
    split at h
    · next hm =>
      cases h
      exact (((List.suffix_cons _ _).trans (isSuffix_of_readNumber? hm)).trans
        (List.suffix_cons _ _)).trans (isSuffix_of_readNumber? hn)
    · cases h
  · cases h

end RegexWords.Bounds
