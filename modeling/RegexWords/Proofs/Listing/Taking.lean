import RegexWords.Proofs.Listing.Replies

namespace RegexWords.Listing

def firstWords : ℕ → List Item → List String × Ending
  | 0, _ => ([], .enough)
  | _ + 1, [] => ([], .exhausted)
  | n + 1, .ok w :: items => (w :: (firstWords n items).1, (firstWords n items).2)
  | _ + 1, .error e :: _ => ([], .failed e)

theorem mem_of_mem_firstWords {n : ℕ} {is : List Item} {word : String}
    (h : word ∈ (firstWords n is).1) : .ok word ∈ is := by
  induction n generalizing is with
  | zero => cases h
  | succ n ih =>
    cases is with
    | nil => cases h
    | cons item is =>
      cases item with
      | error e => cases h
      | ok w =>
        rcases List.mem_cons.1 h with rfl | h
        · exact List.mem_cons_self
        · exact List.mem_cons_of_mem _ (ih h)

theorem firstWords_map_ok (n : ℕ) (ws : List String) :
    firstWords n (ws.map .ok) =
      (ws.take n, if n ≤ ws.length then .enough else .exhausted) := by
  induction n generalizing ws with
  | zero => simp [firstWords]
  | succ n ih =>
    cases ws with
    | nil => simp [firstWords]
    | cons w ws => simp [firstWords, ih]

variable [Compiler]

theorem next_fst (fuel : ℕ) (l : Listing) (w : Workspace) :
    (l.next fuel w).1 = endAfterError (RegexWords.pull (m := Id) reply fuel l) := by
  rw [← pull_step_fst fuel l w]
  rfl

theorem takeOnto_succ_fst (fuel n : ℕ) (taken : List String) (l : Listing) (w : Workspace) :
    (takeOnto fuel taken (n + 1) l w).1 =
      match (l.next fuel w).1 with
      | .yield (.ok word) t => (takeOnto fuel (word :: taken) n t (l.next fuel w).2).1
      | .yield (.error e) t => (taken, .failed e, t)
      | .skip t => (taken, .unfinished, t)
      | .ended => (taken, .exhausted, nothing) := by
  rw [takeOnto]
  simp only [bind, StateT.bind]
  rcases l.next fuel w with ⟨⟨_ | _, _⟩ | _ | _, w'⟩ <;> rfl

theorem takeOnto_isPrefix (fuel n : ℕ) (taken : List String) {l : Listing} {is : List Item}
    (h : Lists reply l is) (w : Workspace) :
    ∃ words, words <+: (firstWords n is).1 ∧
      (takeOnto fuel taken n l w).1.1 = words.reverse ++ taken := by
  induction n generalizing taken l is w with
  | zero => exact ⟨[], List.nil_prefix, rfl⟩
  | succ n ih =>
    rw [takeOnto_succ_fst, next_fst]
    generalize hr : RegexWords.pull (m := Id) reply fuel l = r
    cases r with
    | skip _ => exact ⟨[], List.nil_prefix, rfl⟩
    | ended => exact ⟨[], List.nil_prefix, rfl⟩
    | yield item t =>
      have hp : Pulls reply l (some (item, t)) := pulls_of_pull_eq (r := some (item, t)) hr
      cases is with
      | nil => cases hp.unique h.pull_nil
      | cons item' is =>
        obtain ⟨t', hp', ht⟩ := h.pull_cons
        cases hp.unique hp'
        cases item with
        | error e => exact ⟨[], List.nil_prefix, rfl⟩
        | ok word =>
          obtain ⟨words, hw, htake⟩ := ih (word :: taken) ht (l.next fuel w).2
          refine ⟨word :: words, ?_, ?_⟩
          · exact List.cons_prefix_cons.2 ⟨rfl, hw⟩
          · simpa [endAfterError] using htake

theorem exists_fuel_takeOnto {n : ℕ} {l : Listing} {is : List Item} (h : Lists reply l is) :
    ∃ least, ∀ fuel ≥ least, ∀ taken w, ∃ l',
      (takeOnto fuel taken n l w).1 =
        ((firstWords n is).1.reverse ++ taken, (firstWords n is).2, l') := by
  induction n generalizing l is with
  | zero => exact ⟨0, fun fuel _ taken w ↦ ⟨l, rfl⟩⟩
  | succ n ih =>
    cases is with
    | nil =>
      obtain ⟨least, hf⟩ := h.pull_nil.exists_fuel
      refine ⟨least, fun fuel hfuel taken w ↦ ⟨nothing, ?_⟩⟩
      rw [takeOnto_succ_fst, next_fst, hf fuel hfuel]
      rfl
    | cons item is =>
      obtain ⟨t, hp, ht⟩ := h.pull_cons
      obtain ⟨least, hf⟩ := hp.exists_fuel
      cases item with
      | error e =>
        refine ⟨least, fun fuel hfuel taken w ↦ ⟨nothing, ?_⟩⟩
        rw [takeOnto_succ_fst, next_fst, hf fuel hfuel]
        rfl
      | ok word =>
        obtain ⟨least', hf'⟩ := ih ht
        refine ⟨max least least', fun fuel hfuel taken w ↦ ?_⟩
        obtain ⟨l', hl'⟩ := hf' fuel (by omega) (word :: taken) (l.next fuel w).2
        refine ⟨l', ?_⟩
        rw [takeOnto_succ_fst, next_fst, hf fuel (by omega)]
        simp only [Step.ofPull, endAfterError, hl', firstWords, List.reverse_cons,
          List.append_assoc, List.singleton_append]

theorem take_fst (fuel n : ℕ) (l : Listing) (w : Workspace) :
    (l.take fuel n w).1 =
      ((takeOnto fuel [] n l w).1.1.reverse, (takeOnto fuel [] n l w).1.2) := rfl

theorem exists_fuel_take (n : ℕ) {l : Listing} {is : List Item} (h : Lists reply l is) :
    ∃ least, ∀ fuel ≥ least, ∀ w, ∃ l',
      (l.take fuel n w).1 = ((firstWords n is).1, (firstWords n is).2, l') := by
  obtain ⟨least, hf⟩ := exists_fuel_takeOnto (n := n) h
  refine ⟨least, fun fuel hfuel w ↦ ?_⟩
  obtain ⟨l', hl'⟩ := hf fuel hfuel [] w
  refine ⟨l', ?_⟩
  rw [take_fst, hl', List.append_nil, List.reverse_reverse]

theorem take_isPrefix (fuel n : ℕ) {l : Listing} {is : List Item} (h : Lists reply l is)
    (w : Workspace) : (l.take fuel n w).1.1 <+: (firstWords n is).1 := by
  obtain ⟨words, hw, ht⟩ := takeOnto_isPrefix fuel n [] h w
  rwa [take_fst, ht, List.append_nil, List.reverse_reverse]

/-- Pull number `k`, counted from zero, gives a word when there is fuel enough. -/
def Yields (l : Listing) (k : ℕ) (word : String) : Prop :=
  ∃ least, ∀ fuel ≥ least, ∀ w, (l.take fuel (k + 1) w).1.1[k]? = some word

theorem yields_iff {l : Listing} {ws : List String} (h : Lists reply l (ws.map .ok)) {k : ℕ}
    {word : String} : l.Yields k word ↔ ws[k]? = some word := by
  obtain ⟨least, hf⟩ := exists_fuel_take (k + 1) h
  have hk : ∀ fuel ≥ least, ∀ w, (l.take fuel (k + 1) w).1.1[k]? = ws[k]? := by
    intro fuel hfuel w
    obtain ⟨l', hl'⟩ := hf fuel hfuel w
    rw [hl', firstWords_map_ok, List.getElem?_take_of_lt (Nat.lt_succ_self k)]
  constructor
  · rintro ⟨least', hf'⟩
    rw [← hk (max least least') (by omega) .empty]
    exact hf' _ (by omega) _
  · intro hword
    exact ⟨least, fun fuel hfuel w ↦ (hk fuel hfuel w).trans hword⟩

end RegexWords.Listing
