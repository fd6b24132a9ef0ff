import RegexWords.Text.Digits

namespace RegexWords.Interval

open Text

def below : Nat := 0xd7ff

def above : Nat := 0xe000

/-- The points a quarter in from either end, rounded to the nearest, a half upwards. -/
def quarterPoints (first last : Nat) : List Nat :=
  [(3 * first + last + 2) / 4, (first + 3 * last + 2) / 4]

def beside? (first last point : Nat) : Option Nat :=
  if first ≤ below ∧ (last < above ∨ point - below ≤ above - point) then some below
  else if above ≤ last then some above
  else none

def nearest? (first last point : Nat) : Option Char :=
  match scalar? point with
  | some c => some c
  | none => (beside? first last point).bind scalar?

def dedup : List Char → List Char
  | c :: d :: cs => if c = d then dedup (d :: cs) else c :: dedup (d :: cs)
  | cs => cs

/-- The characters nearest to the two quarter points. A point among the surrogates moves to the
nearer side of them. -/
def samples (first last : Char) : List Char :=
  dedup ((quarterPoints first.toNat last.toNat).filterMap (nearest? first.toNat last.toNat))

end RegexWords.Interval
