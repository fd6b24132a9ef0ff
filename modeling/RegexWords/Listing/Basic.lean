import RegexWords.Listing.Interval
import RegexWords.Listing.Obstacle
import RegexWords.Listing.Repetition
import RegexWords.Listing.Workspace
import RegexWords.Sequence.Diagonal
import RegexWords.Sequence.Interleave

namespace RegexWords

/-- The words of a pattern as a lazy sequence: a tree of sequences that follows the pattern, in
which each step is that of one part. -/
inductive Listing where
  | words (ws : List String)
  /-- The characters from one to another, each a word. -/
  | interval (next? : Option Char) (last : Char)
  | failing (obstacle : Obstacle)
  /-- The candidates in a set, found once they are asked for. -/
  | sampling (text : String) (candidates : List Char)
  | choice (branches : Interleave Listing)
  | product (factors : Diagonal Listing String)
  | repeating (repetition : Repetition Listing)
  deriving Inhabited

namespace Listing

abbrev Item := Except Obstacle String

def nothing : Listing := words []

def characters (cs : List Char) : Listing :=
  words (cs.map String.singleton)

def concatenation (factors : List Listing) : Listing :=
  product (.ofFactors factors)

/-- The words of `n` bodies one behind the other, taken in halves so that the tree stays low. -/
def power (body : Listing) (n : Nat) : Listing :=
  if n = 0 then words [""]
  else if n = 1 then body
  else concatenation [power body (n / 2), power body (n - n / 2)]
termination_by n

variable [Compiler]

def startCount (r : Repetition Listing) : StateM Workspace (Step Listing Item) :=
  match r.counts.next? with
  | none => pure .ended
  | some (count, counts) => do
    Workspace.record (.repeating r.pattern count)
    return .skip (repeating
      { r with counts, segment := some (count, power r.body count), grew := false })

def sample (text : String) (candidates : List Char) : StateM Workspace (Step Listing Item) := do
  return match ← Workspace.filterClass text candidates with
    | none => .yield (.error (.unreadable text)) nothing
    | some [] => .yield (.error (.unsatisfiable candidates text)) nothing
    | some found => .skip (characters found)

def ofTuple : Except Obstacle (List String) → Item :=
  Except.map String.join

def step : Listing → StateM Workspace (Step Listing Item)
  | words [] => pure .ended
  | words (w :: ws) => pure (.yield (.ok w) (words ws))
  | interval none _ => pure .ended
  | interval (some c) last =>
    pure (if c ≤ last then .yield (.ok (String.singleton c)) (interval c.succ? last) else .ended)
  | failing e => pure (.yield (.error e) nothing)
  | sampling text candidates => sample text candidates
  | choice ⟨[]⟩ => pure .ended
  | choice ⟨s :: rest⟩ => do
    let r ← s.step
    return (Interleave.receive rest r).mapState choice
  | product ⟨queue, grid⟩ =>
    match grid.pop? with
    | some (tuple, grid) => pure (.yield (.ok (String.join tuple)) (product ⟨queue, grid⟩))
    | none =>
      match queue with
      | [] => pure .ended
      | (factor, s) :: rest => do
        let r ← s.step
        return ((Diagonal.receive factor rest grid r).mapState product).mapItem ofTuple
  | repeating ⟨pattern, body, counts, none, grew⟩ => startCount ⟨pattern, body, counts, none, grew⟩
  | repeating ⟨pattern, body, counts, some (count, s), grew⟩ => do
    let r ← s.step
    return ((⟨pattern, body, counts, none, grew⟩ : Repetition Listing).receive count
      r).mapState repeating
termination_by structural l => l

theorem step_choice (branches : Interleave Listing) :
    (choice branches).step = do return (← branches.step step).mapState choice := by
  obtain ⟨queue⟩ := branches
  cases queue <;> rfl

theorem step_product (factors : Diagonal Listing String) :
    (product factors).step =
      do return ((← factors.step step).mapState product).mapItem ofTuple := by
  obtain ⟨queue, grid⟩ := factors
  unfold step Diagonal.step
  cases grid.pop? with
  | some r => rfl
  | none => cases queue <;> rfl

theorem step_repeating_of_segment (r : Repetition Listing) {count : Nat} {s : Listing}
    (h : r.segment = some (count, s)) :
    (repeating r).step = do return (r.receive count (← s.step)).mapState repeating := by
  obtain ⟨pattern, body, counts, segment, grew⟩ := r
  subst h
  have same := Repetition.receive_of_segment (ε := Obstacle)
    (⟨pattern, body, counts, none, grew⟩ : Repetition Listing) (some (count, s)) count
  exact bind_congr fun x => by rw [same x]

theorem step_repeating_of_none (r : Repetition Listing) (h : r.segment = none) :
    (repeating r).step = startCount r := by
  obtain ⟨pattern, body, counts, segment, grew⟩ := r
  subst h
  rfl

end Listing

end RegexWords
