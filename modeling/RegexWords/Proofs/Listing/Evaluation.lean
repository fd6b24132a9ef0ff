import RegexWords.CharSet.ClassText
import RegexWords.Proofs.Listing.Runs
import RegexWords.Proofs.Listing.Taking
import RegexWords.Proofs.Listing.Words

namespace RegexWords.Listing

def isText : Item → Bool
  | .ok w => !w.isEmpty
  | .error _ => false

def goesOn (n : ℕ) (is : List Item) : Bool :=
  is.all Except.isOk && (n == 0 || is.any isText)

def appended (is : List Item) : List ℕ → List Item
  | [] => []
  | n :: counts => powered is n ++ if goesOn n (powered is n) then appended is counts else []

theorem joined_upToError (lists : List (List Item)) :
    joined (lists.map upToError) = joined lists := by
  rw [joined, product_upToError, joined]

theorem upToError_joined (lists : List (List Item)) : upToError (joined lists) = joined lists := by
  rw [joined, ofTuple, upToError_map, upToError_product]

theorem powered_upToError (is : List Item) (n : ℕ) :
    powered (upToError is) n = upToError (powered is n) := by
  have hone : upToError ([.ok ""] : List Item) = [.ok ""] := rfl
  rw [powered, ← hone]
  refine copies_hom (fun as bs ↦ ?_) n
  rw [upToError_joined]
  exact joined_upToError [as, bs]

theorem goesOn_upToError (n : ℕ) (is : List Item) : goesOn n (upToError is) = goesOn n is := by
  obtain ⟨ws, rfl⟩ | ⟨ws, e, rest, rfl⟩ := exists_map_ok_append is
  · rw [upToError_map_ok]
  · simp [goesOn, upToError_map_ok_append, upToError, Except.isOk, Except.toBool]

theorem upToError_segment (n : ℕ) (grew : Bool) (rest is : List Item) :
    upToError (segment n grew rest is) =
      upToError is ++ if is.all Except.isOk && (n == 0 || grew || is.any isText) then
        upToError rest else [] := by
  induction is generalizing grew with
  | nil =>
    rw [segment]
    cases grew <;> rcases n with _ | n <;> simp [upToError]
  | cons i is ih =>
    cases i with
    | ok w => simp [segment, upToError, ih, isText, Except.isOk, Except.toBool, Bool.or_assoc]
    | error e => simp [segment, upToError, Except.isOk, Except.toBool]

theorem upToError_repeated (is : List Item) (counts : List ℕ) :
    upToError (repeated is counts) = appended (upToError is) counts := by
  induction counts with
  | nil => rfl
  | cons n counts ih =>
    rw [repeated, appended, powered_upToError, goesOn_upToError, upToError_segment, ih, goesOn,
      Bool.or_false]

theorem upToError_letters (cs : List Char) : upToError (letters cs) = letters cs := by
  rw [letters_eq, upToError_map_ok]

theorem firstWords_upToError (n : ℕ) (is : List Item) :
    firstWords n (upToError is) = firstWords n is := by
  induction is generalizing n with
  | nil => rfl
  | cons i is ih =>
    cases n with
    | zero => rfl
    | succ n =>
      cases i with
      | error e => rfl
      | ok w => rw [upToError, firstWords, firstWords, ih]

section Evaluating

variable [Compiler]

mutual

/-- The items of a pattern in one list, made of the lists of its parts. A list ends with its first
error. -/
def evaluate (s : Settings) : Pattern → List Item
  | .sequence ps => joined (evaluateAll s ps)
  | .choice ps => upToError (roundRobin (evaluateAll s ps))
  | .anchor a => anchorItems a
  | .group kind ps => groupItems kind (evaluateAll s ps)
  | .repetition b _ p => appended (evaluate s p) (b.counts s.greatestCount)
  | .literal c => letters [c]
  | .range first last => letters (Interval.all first last)
  | .shorthand tag => shorthandItems s tag
  | .bracket ps false _ => upToError (roundRobin (evaluateAll s ps))
  | .bracket _ true text => sampled text s.alphabets.candidates
  | .anyCharacter => letters s.alphabets.anyCharacter
  | .reference _ => [.error .reference]

def evaluateAll (s : Settings) : List Pattern → List (List Item)
  | [] => []
  | p :: ps => evaluate s p :: evaluateAll s ps

end

theorem evaluateAll_eq_map (s : Settings) (ps : List Pattern) :
    evaluateAll s ps = ps.map (evaluate s) := by
  induction ps with
  | nil => rfl
  | cons p ps ih => rw [evaluateAll, ih, List.map_cons]

theorem upToError_sampled (text : String) (candidates : List Char) :
    upToError (sampled text candidates) = sampled text candidates := by
  unfold sampled
  generalize (ClassText.matcher? text).map candidates.filter = found
  match found with
  | none => rfl
  | some [] => rfl
  | some (c :: cs) => exact upToError_letters (c :: cs)

theorem upToError_shorthandItems (s : Settings) (tag : Char) :
    upToError (shorthandItems s tag) = shorthandItems s tag := by
  unfold shorthandItems
  cases s.alphabets.named? tag with
  | some cs => exact upToError_letters cs
  | none => exact upToError_sampled _ _

theorem map_upToError_items {s : Settings} {ps : List Pattern}
    (h : ∀ p ∈ ps, upToError (items s p) = evaluate s p) :
    (ps.map (items s)).map upToError = ps.map (evaluate s) := by
  rw [List.map_map]
  exact List.map_congr_left h

theorem upToError_items {s : Settings} (hs : s.mode = .exhaustive) (p : Pattern) :
    upToError (items s p) = evaluate s p := by
  induction p with
  | sequence ps ih =>
    rw [items_sequence, upToError_joined, evaluate, evaluateAll_eq_map, ← map_upToError_items ih,
      joined_upToError]
  | choice ps ih =>
    rw [items_choice, evaluate, evaluateAll_eq_map, ← map_upToError_items ih, upToError_roundRobin]
  | anchor a => cases a <;> rfl
  | group kind ps ih =>
    rw [items_group, evaluate, groupItems, evaluateAll_eq_map, ← map_upToError_items ih,
      joined_upToError]
    split
    · exact upToError_joined _
    · rfl
  | repetition b greedy p ih =>
    rw [items, evaluate, upToError_repeated, ih, toList_ofBounds hs]
  | literal c => rfl
  | range first last =>
    rw [items, rangeMembers, hs, evaluate]
    exact upToError_letters _
  | shorthand tag => exact upToError_shorthandItems s tag
  | bracket ps negated text ih =>
    cases negated with
    | false =>
      rw [items_bracket, evaluate, evaluateAll_eq_map, ← map_upToError_items ih,
        upToError_roundRobin]
    | true => exact upToError_sampled text _
  | anyCharacter => exact upToError_letters _
  | reference id => rfl

/-- However many words are wanted, those taken from an exhaustive listing are the first ones of the
evaluation, in their order and with the same ending. -/
theorem exists_fuel_take_eq_evaluate {s : Settings} (hs : s.mode = .exhaustive) (p : Pattern)
    (n : ℕ) :
    ∃ least, ∀ fuel ≥ least, ∀ w, ∃ l',
      ((ofPattern s p).take fuel n w).1 =
        ((firstWords n (evaluate s p)).1, (firstWords n (evaluate s p)).2, l') := by
  rw [← upToError_items hs, firstWords_upToError]
  exact exists_fuel_take n (lists_ofPattern s p)

/-- Pulls from an exhaustive listing answer the items of the evaluation one by one, and then that
nothing is left. -/
theorem exists_run_iff_evaluate {s : Settings} (hs : s.mode = .exhaustive) (p : Pattern)
    (w : Workspace) (rs : List (Option Item)) :
    (∃ t, Run advance (ofPattern s p, w) rs t) ↔
      rs = (List.range rs.length).map fun k ↦ (evaluate s p)[k]? := by
  rw [exists_run_iff (lists_ofPattern s p), upToError_items hs]

end Evaluating

/-- The error comes in the second round, in front of `c`, which would come in the third. -/
theorem exists_run_iff_evaluate_reference :
    (Settings.ofMode .exhaustive).mode = .exhaustive ∧
    ∃ t, Run advance (ofPattern (.ofMode .exhaustive) (.choice [
        .bracket [.literal 'a', .literal 'b', .literal 'c'] false "[abc]",
        .choice [.literal 'x', .reference 1]]), .empty)
      [some (.ok "a"), some (.ok "x"), some (.ok "b"), some (.error .reference), none, none] t := by
  have heval : evaluate (.ofMode .exhaustive) (.choice [
      .bracket [.literal 'a', .literal 'b', .literal 'c'] false "[abc]",
      .choice [.literal 'x', .reference 1]]) =
      [.ok "a", .ok "x", .ok "b", .error .reference] := by
    decide
  refine ⟨rfl, (exists_run_iff_evaluate rfl _ _ _).2 ?_⟩
  rw [heval]
  rfl

end RegexWords.Listing
