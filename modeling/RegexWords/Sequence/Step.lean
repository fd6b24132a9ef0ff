namespace RegexWords

/-- A step of a lazy sequence: it yields an item, it moves on without one, or the sequence has
ended. -/
inductive Step (σ α : Type) where
  | yield (item : α) (rest : σ)
  | skip (rest : σ)
  | ended
  deriving Repr, DecidableEq

namespace Step

variable {σ τ α β : Type}

def mapState (f : σ → τ) : Step σ α → Step τ α
  | yield a s => yield a (f s)
  | skip s => skip (f s)
  | ended => ended

def mapItem (f : α → β) : Step σ α → Step σ β
  | yield a s => yield (f a) s
  | skip s => skip s
  | ended => ended

end Step

variable {m : Type → Type} [Monad m] {σ α : Type}

/-- Makes steps from a state until one yields an item or the sequence has ended, at most `fuel`. The
outcome is one long step, and when it skips the sequence may still yield. -/
def pull (step : σ → m (Step σ α)) : (fuel : Nat) → σ → m (Step σ α)
  | 0, s => pure (.skip s)
  | fuel + 1, s => do
    match ← step s with
    | .yield a s => pure (.yield a s)
    | .skip s => pull step fuel s
    | .ended => pure .ended

end RegexWords
