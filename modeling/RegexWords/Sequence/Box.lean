namespace RegexWords

/-- The index vectors within a range for each place, the end excluded. The last place runs
fastest. -/
structure Box where
  ranges : List (Nat × Nat)
  /-- The vector that is next, until all are listed. -/
  next? : Option (List Nat)
  deriving Repr, DecidableEq

namespace Box

def isEmpty (range : Nat × Nat) : Bool :=
  range.2 ≤ range.1

def first (ranges : List (Nat × Nat)) : List Nat :=
  ranges.map (·.1)

def ofRanges (ranges : List (Nat × Nat)) : Box :=
  ⟨ranges, if ranges.any isEmpty then none else some (first ranges)⟩

def ofSizes (sizes : List Nat) : Box :=
  ofRanges (sizes.map (0, ·))

/-- The vector behind a given one. The last place counts up, and where it would reach its end it
starts again and the places before it count. -/
def successor? : List (Nat × Nat) → List Nat → Option (List Nat)
  | (_, stop) :: ranges, i :: vector =>
    match successor? ranges vector with
    | some vector => some (i :: vector)
    | none => if i + 1 < stop then some ((i + 1) :: first ranges) else none
  | _, _ => none

def pop? (b : Box) : Option (List Nat × Box) :=
  b.next?.map fun vector => (vector, { b with next? := successor? b.ranges vector })

def take : Nat → Box → List (List Nat)
  | 0, _ => []
  | n + 1, b =>
    match b.pop? with
    | some (vector, b) => vector :: take n b
    | none => []

end Box

end RegexWords
