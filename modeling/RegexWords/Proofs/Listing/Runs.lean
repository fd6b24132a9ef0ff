import RegexWords.Proofs.Listing.Replies
import RegexWords.Proofs.Sequence.FirstError
import RegexWords.Proofs.Sequence.Runs

namespace RegexWords.Listing

def leave : Option (Item × Listing) → Option (Item × Listing)
  | some (.error e, _) => some (.error e, nothing)
  | r => r

theorem endAfterError_ofPull (r : Option (Item × Listing)) :
    endAfterError (Step.ofPull r) = Step.ofPull (leave r) := by
  match r with
  | none | some (.ok _, _) | some (.error _, _) => rfl

theorem leave_eq_none {r : Option (Item × Listing)} (h : leave r = none) : r = none := by
  match r with
  | none => rfl
  | some (.ok _, _) | some (.error _, _) => cases h

variable [Compiler]

/-- A step of a listing with its workspace. Behind an error nothing is left. -/
def advance (x : Listing × Workspace) : Step (Listing × Workspace) Item :=
  (endAfterError (x.1.step x.2).1).mapState (·, (x.1.step x.2).2)

def fused (l : Listing) : Step Listing Item := endAfterError l.reply

def proceed (x : Listing × Workspace) : Step (Listing × Workspace) Item :=
  (x.1.step x.2).1.mapState (·, (x.1.step x.2).2)

theorem proceed_mapState (x : Listing × Workspace) :
    (proceed x).mapState Prod.fst = reply x.1 := by
  rw [proceed, step_fst]
  cases reply x.1 <;> rfl

theorem gives_proceed_iff {l : Listing} {w : Workspace} {q : ℕ → Option Item} :
    Gives proceed (l, w) q ↔ Gives reply l q := by
  constructor
  · intro h k
    have hstep (x : Listing × Workspace) :
        reply x.1 = ((proceed x).mapState Prod.fst).mapItem id := by
      rw [← proceed_mapState]
      cases proceed x <;> rfl
    simpa using (h k).map hstep
  · exact fun h k ↦ (h k).lift (f := Prod.fst) (x := (l, w)) proceed_mapState

theorem advance_mapState (x : Listing × Workspace) : (advance x).mapState Prod.fst = fused x.1 := by
  rw [advance, fused, step_fst]
  cases endAfterError x.1.reply <;> rfl

theorem pull_advance_mapState (fuel : ℕ) (l : Listing) (w : Workspace) :
    (RegexWords.pull (m := Id) advance fuel (l, w)).mapState Prod.fst = (l.next fuel w).1 := by
  have hnext : (l.next fuel w).1 = endAfterError (RegexWords.pull step fuel l w).1 := rfl
  rw [hnext]
  induction fuel generalizing l w with
  | zero => rfl
  | succ fuel ih =>
    have hstep : advance (l, w) = (endAfterError l.reply).mapState (·, (l.step w).2) := by
      rw [advance, step_fst]
    rw [pull_step_succ_fst, RegexWords.pull]
    simp only [hstep]
    cases l.reply with
    | ended => rfl
    | skip t => exact ih t (l.step w).2 rfl
    | yield i t => cases i <;> rfl

theorem pulls_fused {l : Listing} {r : Option (Item × Listing)} (h : Pulls reply l r) :
    Pulls fused l (leave r) := by
  induction h with
  | ended hs => exact .ended (by rw [fused, hs]; rfl)
  | @yield s t i hs =>
    cases i with
    | ok w => exact .yield (by rw [fused, hs]; rfl)
    | error e => exact .yield (by rw [fused, hs]; rfl)
  | skip hs _ ih => exact .skip (by rw [fused, hs]; rfl) ih

theorem lists_fused {l : Listing} {is : List Item} (h : Lists reply l is) :
    Lists fused l (upToError is) := by
  induction is generalizing l with
  | nil => exact Gives.of_ended (pulls_fused h.pull_nil)
  | cons i is ih =>
    obtain ⟨t, hp, ht⟩ := h.pull_cons
    cases i with
    | ok w => exact Gives.of_yield (pulls_fused hp) rfl (ih ht)
    | error e => exact Gives.of_yield (pulls_fused hp) rfl (Lists.nil rfl)

theorem lists_advance {l : Listing} {is : List Item} (h : Lists reply l is) (w : Workspace) :
    Lists advance (l, w) (upToError is) :=
  fun k ↦ (lists_fused h k).lift (f := Prod.fst) (x := (l, w)) advance_mapState

/-- The answers to pulls are the items up to the first error, and none behind them. -/
theorem exists_run_iff {l : Listing} {is : List Item} (h : Lists reply l is) (w : Workspace)
    (rs : List (Option Item)) :
    (∃ t, Run advance (l, w) rs t) ↔
      rs = (List.range rs.length).map fun k ↦ (upToError is)[k]? := by
  have hgives : Gives advance (l, w) fun k ↦ (upToError is)[k]? := lists_advance h w
  constructor
  · rintro ⟨t, ht⟩
    exact hgives.eq_of_run ht
  · intro hrs
    rw [hrs]
    exact hgives.exists_run _

theorem ended_of_pullsTo_error {x t : Listing × Workspace} {e : Obstacle}
    (h : PullsTo advance x (some (.error e)) t) : advance t = .ended := by
  generalize hr : (some (.error e) : Option Item) = r at h
  induction h with
  | ended => cases hr
  | @yield x t i hx =>
    cases hr
    rw [advance] at hx
    cases hs : (x.1.step x.2).1 with
    | ended => simp [hs, endAfterError, Step.mapState] at hx
    | skip l => simp [hs, endAfterError, Step.mapState] at hx
    | yield i l =>
      rw [hs] at hx
      cases i with
      | ok w => cases hx
      | error e =>
        cases hx
        rfl
  | skip _ _ ih => exact ih hr

theorem pairwise_of_run {x t : Listing × Workspace} {rs : List (Option Item)}
    (h : Run advance x rs t) :
    rs.Pairwise fun r r' ↦ (∀ w, r ≠ some (.ok w)) → r' = none := by
  induction h with
  | nil => exact .nil
  | @cons s t u r rs hp hr ih =>
    refine List.pairwise_cons.2 ⟨fun r' hr' hne ↦ ?_, ih⟩
    have hend : advance t = .ended := by
      match r with
      | none => exact hp.ended_of_none
      | some (.error e) => exact ended_of_pullsTo_error hp
      | some (.ok w) => exact absurd rfl (hne w)
    exact hr.eq_none_of_ended hend r' hr'

end RegexWords.Listing
