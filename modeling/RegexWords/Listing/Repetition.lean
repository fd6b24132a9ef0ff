import RegexWords.Listing.Counts
import RegexWords.Sequence.Step

namespace RegexWords

/-- The words of a repetition, count by count. If the words of a count above zero are all empty, or
one of them is an error, no count comes behind it. -/
structure Repetition (σ : Type) where
  pattern : Pattern
  /-- The words of the pattern that is repeated, from the start. -/
  body : σ
  counts : Counts
  /-- The count at hand and what is left of its words. -/
  segment : Option (Nat × σ)
  /-- Whether the count at hand has given a word that is not empty. -/
  grew : Bool
  deriving Repr

namespace Repetition

variable {σ ε : Type}

def start (pattern : Pattern) (body : σ) (counts : Counts) : Repetition σ :=
  ⟨pattern, body, counts, none, false⟩

def stop (r : Repetition σ) : Repetition σ :=
  { r with counts := .none, segment := none }

def receive (r : Repetition σ) (count : Nat) :
    Step σ (Except ε String) → Step (Repetition σ) (Except ε String)
  | .yield (.ok w) s =>
    .yield (.ok w) { r with segment := some (count, s), grew := r.grew || !w.isEmpty }
  | .yield (.error e) _ => .yield (.error e) r.stop
  | .skip s => .skip { r with segment := some (count, s) }
  | .ended =>
    if 0 < count ∧ r.grew = false then .skip r.stop else .skip { r with segment := none }

/-- What is left of the words at hand is all in the step. -/
theorem receive_of_segment (r : Repetition σ) (segment : Option (Nat × σ)) (count : Nat)
    (x : Step σ (Except ε String)) :
    { r with segment := none }.receive count x = { r with segment }.receive count x := by
  cases x with
  | yield item s => cases item <;> rfl
  | skip s => rfl
  | ended => rfl

end Repetition

end RegexWords
