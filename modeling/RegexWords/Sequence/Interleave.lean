import RegexWords.Sequence.Step

namespace RegexWords

/-- Sources in rotation. The source in front gives the next item and goes to the back, and one that
has ended leaves the rotation for good. -/
structure Interleave (σ : Type) where
  queue : List σ
  deriving Repr

namespace Interleave

variable {m : Type → Type} [Monad m] {σ α : Type}

def receive (rest : List σ) : Step σ α → Step (Interleave σ) α
  | .yield a s => .yield a ⟨rest ++ [s]⟩
  | .skip s => .skip ⟨s :: rest⟩
  | .ended => .skip ⟨rest⟩

def step (next : σ → m (Step σ α)) : Interleave σ → m (Step (Interleave σ) α)
  | ⟨[]⟩ => pure .ended
  | ⟨s :: rest⟩ => do return receive rest (← next s)

end Interleave

end RegexWords
