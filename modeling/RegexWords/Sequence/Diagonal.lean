import RegexWords.Sequence.Box
import RegexWords.Sequence.Step

namespace RegexWords

/-- What the factors have given, and the vectors of places whose tuples are still to be listed. -/
structure Grid (α : Type) where
  seen : List (Array α)
  stage : Box
  deriving Repr

namespace Grid

variable {α : Type}

def ofLists (lists : List (Array α)) : Grid α :=
  ⟨lists, .ofSizes (lists.map (·.size))⟩

def ofFactors (count : Nat) : Grid α :=
  ofLists (List.replicate count #[])

/-- The ranges of the tuples that pair the newest value of one factor with all others. -/
def newest (seen : List (Array α)) (factor : Nat) : List (Nat × Nat) :=
  seen.mapIdx fun k values => (if k = factor then values.size - 1 else 0, values.size)

def add (g : Grid α) (factor : Nat) (value : α) : Grid α :=
  let seen := g.seen.modify factor (·.push value)
  ⟨seen, .ofRanges (newest seen factor)⟩

def tuple (g : Grid α) (vector : List Nat) : List α :=
  (g.seen.zip vector).filterMap fun (values, i) => values[i]?

def pop? (g : Grid α) : Option (List α × Grid α) :=
  g.stage.pop?.map fun (vector, stage) => (g.tuple vector, { g with stage })

def take (n : Nat) (g : Grid α) : List (List α) :=
  (g.stage.take n).map g.tuple

end Grid

/-- A product of sequences that may be endless. A new value of a factor is paired at once with all
that the other factors have given, so each combination comes after finitely many pulls. The factors
that have not ended stand here with their positions, the one to be asked next in front. -/
structure Diagonal (σ α : Type) where
  queue : List (Nat × σ)
  grid : Grid α
  deriving Repr

namespace Diagonal

variable {m : Type → Type} [Monad m] {σ α ε : Type}

def ofFactors (factors : List σ) : Diagonal σ α :=
  ⟨factors.mapIdx fun i s => (i, s), .ofFactors factors.length⟩

def receive (factor : Nat) (rest : List (Nat × σ)) (grid : Grid α) :
    Step σ (Except ε α) → Step (Diagonal σ α) (Except ε (List α))
  | .yield (.ok value) s => .skip ⟨rest ++ [(factor, s)], grid.add factor value⟩
  | .yield (.error e) _ => .yield (.error e) ⟨[], grid⟩
  | .skip s => .skip ⟨(factor, s) :: rest, grid⟩
  | .ended => .skip ⟨rest, grid⟩

def step (next : σ → m (Step σ (Except ε α))) (d : Diagonal σ α) :
    m (Step (Diagonal σ α) (Except ε (List α))) :=
  match d.grid.pop? with
  | some (tuple, grid) => pure (.yield (.ok tuple) { d with grid })
  | none =>
    match d.queue with
    | [] => pure .ended
    | (factor, s) :: rest => do return receive factor rest d.grid (← next s)

end Diagonal

end RegexWords
