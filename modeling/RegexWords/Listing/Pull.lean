import RegexWords.Listing.OfPattern

namespace RegexWords

inductive Ending where
  /-- As many as wanted were taken, and no more was asked. -/
  | enough
  | exhausted
  | failed (e : Obstacle)
  | unfinished
  deriving DecidableEq, Repr

namespace Listing

/-- A listing that has failed gives nothing more. -/
def endAfterError : Step Listing Item → Step Listing Item
  | .yield (.error e) _ => .yield (.error e) nothing
  | r => r

variable [Compiler]

/-- One answer of a listing, which skips only when it is not found within `fuel` steps. -/
def next (fuel : Nat) (l : Listing) : StateM Workspace (Step Listing Item) := do
  return endAfterError (← pull step fuel l)

/-- Takes up to `n` words behind those taken already, which are kept newest first. -/
def takeOnto (fuel : Nat) (taken : List String) :
    Nat → Listing → StateM Workspace (List String × Ending × Listing)
  | 0, l => pure (taken, .enough, l)
  | n + 1, l => do
    match ← l.next fuel with
    | .yield (.ok w) l => takeOnto fuel (w :: taken) n l
    | .yield (.error e) l => pure (taken, .failed e, l)
    | .skip l => pure (taken, .unfinished, l)
    | .ended => pure (taken, .exhausted, nothing)

def take (fuel n : Nat) (l : Listing) : StateM Workspace (List String × Ending × Listing) := do
  let (taken, ending, l) ← takeOnto fuel [] n l
  return (taken.reverse, ending, l)

end Listing

end RegexWords
