import RegexWords.Listing.Pull
import RegexWords.Proofs.Sequence.Answers

namespace RegexWords.Listing

variable [Compiler]

/-- A step of a listing without its workspace. -/
def reply (l : Listing) : Step Listing Item := (l.step .empty).1

theorem sample_fst (text : String) (candidates : List Char) (w : Workspace) :
    (sample text candidates w).1 =
      match (ClassText.matcher? text).map candidates.filter with
      | none => .yield (.error (.unreadable text)) nothing
      | some [] => .yield (.error (.unsatisfiable candidates text)) nothing
      | some found => .skip (characters found) := by
  rw [← ClassTable.found_filter w.classes]
  rfl

theorem startCount_fst (r : Repetition Listing) (w : Workspace) :
    (startCount r w).1 =
      match r.counts.next? with
      | none => .ended
      | some (count, counts) =>
        .skip (repeating
          { r with counts, segment := some (count, power r.body count), grew := false }) := by
  unfold startCount
  cases r.counts.next? <;> rfl

theorem step_fst (l : Listing) (w : Workspace) : (l.step w).1 = l.reply := by
  induction l using step.induct generalizing w with
  | case6 text candidates =>
    exact (sample_fst text candidates w).trans (sample_fst text candidates .empty).symm
  | case8 s rest ih => exact congrArg (fun r ↦ (Interleave.receive rest r).mapState choice) (ih w)
  | case9 queue grid tuple grid' h => simp only [reply, step_product, Diagonal.step, h]; rfl
  | case10 grid h => simp only [reply, step_product, Diagonal.step, h]; rfl
  | case11 grid h factor s rest ih =>
    have hr := congrArg (fun r ↦
      ((Diagonal.receive factor rest grid r).mapState product).mapItem ofTuple) (ih w)
    simp only [reply, step_product, Diagonal.step, h]
    exact hr
  | case12 pattern body counts grew =>
    exact (startCount_fst _ w).trans (startCount_fst _ .empty).symm
  | case13 pattern body counts count s grew ih =>
    exact congrArg (fun r ↦ ((⟨pattern, body, counts, none, grew⟩ : Repetition Listing).receive
      count r).mapState repeating) (ih w)
  | _ => rfl

theorem reply_sampling (text : String) (candidates : List Char) :
    (sampling text candidates).reply =
      match (ClassText.matcher? text).map candidates.filter with
      | none => .yield (.error (.unreadable text)) nothing
      | some [] => .yield (.error (.unsatisfiable candidates text)) nothing
      | some found => .skip (characters found) :=
  sample_fst text candidates .empty

theorem reply_choice (branches : Interleave Listing) :
    (choice branches).reply = (branches.step (m := Id) reply).mapState choice := by
  rw [reply, step_choice]
  obtain ⟨queue⟩ := branches
  cases queue <;> rfl

theorem reply_product (factors : Diagonal Listing String) :
    (product factors).reply =
      ((factors.step (m := Id) reply).mapState product).mapItem ofTuple := by
  rw [reply, step_product]
  obtain ⟨queue, grid⟩ := factors
  unfold Diagonal.step
  cases grid.pop? with
  | some r => rfl
  | none => cases queue <;> rfl

theorem reply_repeating_of_segment (r : Repetition Listing) {count : ℕ} {s : Listing}
    (h : r.segment = some (count, s)) :
    (repeating r).reply = (r.receive count s.reply).mapState repeating := by
  rw [reply, step_repeating_of_segment r h]
  rfl

theorem reply_repeating_of_none (r : Repetition Listing) (h : r.segment = none) :
    (repeating r).reply =
      match r.counts.next? with
      | none => .ended
      | some (count, counts) =>
        .skip (repeating
          { r with counts, segment := some (count, power r.body count), grew := false }) := by
  rw [reply, step_repeating_of_none r h]
  exact startCount_fst r .empty

theorem pull_step_succ_fst (fuel : ℕ) (l : Listing) (w : Workspace) :
    (RegexWords.pull step (fuel + 1) l w).1 =
      match l.reply with
      | .yield a s => .yield a s
      | .skip s => (RegexWords.pull step fuel s (l.step w).2).1
      | .ended => .ended := by
  rw [← step_fst l w, RegexWords.pull]
  simp only [bind, StateT.bind]
  rcases l.step w with ⟨_ | _ | _, w'⟩ <;> rfl

theorem pull_step_fst (fuel : ℕ) (l : Listing) (w : Workspace) :
    (RegexWords.pull step fuel l w).1 = RegexWords.pull (m := Id) reply fuel l := by
  induction fuel generalizing l w with
  | zero => rfl
  | succ fuel ih =>
    rw [pull_step_succ_fst]
    simp only [RegexWords.pull, ih]
    cases l.reply <;> rfl

end RegexWords.Listing
