import RegexWords.Listing.Settings

namespace RegexWords

inductive Counts where
  /-- All from `next` to `last`. -/
  | upTo (next last : Nat)
  | these (counts : List Nat)
  deriving DecidableEq, Repr

namespace Counts

def none : Counts := these []

def next? : Counts → Option (Nat × Counts)
  | upTo n last => if n ≤ last then some (n, upTo (n + 1) last) else .none
  | these [] => .none
  | these (n :: counts) => some (n, these counts)

def doubled (n : Nat) : Nat :=
  if n = 0 then 1 else 2 * n

theorem lt_doubled (n : Nat) : n < doubled n := by
  unfold doubled
  split <;> omega

def doublings (last n : Nat) : List Nat :=
  n :: if doubled n ≤ last then doublings last (doubled n) else []
termination_by last - n
decreasing_by
  have := lt_doubled n
  omega

/-- Few counts suffice for examples: none beyond four times the one behind the least. -/
def exampleEnd (greatest : Nat) (b : Bounds) : Nat :=
  min (b.most.getD greatest) (4 * (b.least + 1))

def ofBounds (s : Settings) (b : Bounds) : Counts :=
  match s.mode with
  | .exhaustive => upTo b.least (b.most.getD s.greatestCount)
  | .examples => these (doublings (exampleEnd s.greatestCount b) b.least)

end Counts

end RegexWords
