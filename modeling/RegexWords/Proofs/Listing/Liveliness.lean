import RegexWords.Proofs.Listing.Asking
import RegexWords.Proofs.Listing.Items

namespace RegexWords

namespace Grid

variable {α : Type} {g : Grid α} {factor : ℕ} {value : α}

theorem seen_of_pop? {g' : Grid α} {tuple : List α} (h : g.pop? = some (tuple, g')) :
    g'.seen = g.seen := by
  obtain ⟨x, -, he⟩ := Option.map_eq_some_iff.1 h
  cases he
  rfl

/-- A new value makes tuples unless another factor has given nothing. -/
theorem exists_unseen_of_pop?_add (h : (g.add factor value).pop? = none) :
    ∃ k : ℕ, (g.add factor value).seen[k]? = some #[] := by
  have hstage : (g.add factor value).stage =
      .ofRanges (newest (g.add factor value).seen factor) := rfl
  rw [pop?, Option.map_eq_none_iff, Box.pop?, Option.map_eq_none_iff, hstage, Box.ofRanges] at h
  split at h
  · next hany =>
    obtain ⟨range, hrange, hempty⟩ := List.any_eq_true.1 hany
    obtain ⟨k, hk, rfl⟩ := List.mem_mapIdx.1 hrange
    refine ⟨k, (List.getElem?_eq_getElem hk).trans (congrArg some ?_)⟩
    rw [Box.isEmpty, decide_eq_true_eq] at hempty
    refine Array.eq_empty_of_size_eq_zero ?_
    split at hempty <;> simp only at hempty <;> omega
  · cases h

theorem eq_empty_of_add {k : ℕ} (h : (g.add factor value).seen[k]? = some #[]) :
    g.seen[k]? = some #[] ∧ k ≠ factor := by
  have hseen : (g.add factor value).seen = g.seen.modify factor (·.push value) := rfl
  rw [hseen, List.getElem?_modify] at h
  obtain ⟨values, hvalues, he⟩ := Option.map_eq_some_iff.1 h
  split at he
  · exact absurd he Array.push_ne_empty
  · next hk => exact ⟨he ▸ hvalues, Ne.symm hk⟩

end Grid

namespace Listing

variable [Compiler]

variable {l s t : Listing} {is js : List Incident} {r : Option (Item × Listing)}
  {P : Listing → Prop}

/-- Whatever words it has given, the next pull of the listing comes to an answer, and nothing
happens twice in it. -/
def IsLively (l : Listing) : Prop :=
  ∃ P : Listing → Prop, P l ∧ ∀ t, P t → ∃ is r, Asks Set.univ P t is r

def IsFruitful (l : Listing) : Prop :=
  IsLively l ∧ ¬Pulls reply l none

theorem IsLively.pull (h : IsLively l) : ∃ is r, Asks Set.univ IsLively l is r := by
  obtain ⟨P, hl, hP⟩ := h
  obtain ⟨is, r, hasks⟩ := hP l hl
  exact ⟨is, r, hasks.traces, hasks.nodup, hasks.mem_of_within_mem, fun hr ↦ ⟨P, hasks.next hr, hP⟩⟩

theorem isLively_of_asks (h : Asks Set.univ IsLively l is r) : IsLively l := by
  refine ⟨fun t ↦ t = l ∨ IsLively t, .inl rfl, ?_⟩
  rintro t (rfl | ht)
  · exact ⟨is, r, h.traces, h.nodup, h.mem_of_within_mem, fun hr ↦ .inr (h.next hr)⟩
  · obtain ⟨is, r, hasks⟩ := ht.pull
    exact ⟨is, r, hasks.traces, hasks.nodup, hasks.mem_of_within_mem, fun hr ↦ .inr (hasks.next hr)⟩

section Leaves

theorem isLively_of_leaves (hl : P l)
    (hP : ∀ t, P t → t.incidents = t.ownAnswer ∧
      ∃ r, t.reply = Step.ofPull r ∧ ∀ w u, r = some (.ok w, u) → P u) : IsLively l := by
  refine ⟨P, hl, fun t ht ↦ ?_⟩
  obtain ⟨hleaf, r, hreply, hnext⟩ := hP t ht
  exact ⟨_, r, .leaf hleaf hreply (hnext _ _)⟩

theorem isFruitful_of_yield {item : Item} (hl : IsLively l) (h : l.reply = .yield item t) :
    IsFruitful l :=
  ⟨hl, fun hp ↦ nomatch hp.unique (.yield h)⟩

theorem isLively_words (ws : List String) : IsLively (words ws) := by
  refine isLively_of_leaves (P := fun t ↦ ∃ ws, t = words ws) ⟨ws, rfl⟩ ?_
  rintro _ ⟨ws, rfl⟩
  refine ⟨rfl, ?_⟩
  cases ws with
  | nil => exact ⟨none, rfl, fun _ _ hr ↦ nomatch hr⟩
  | cons w ws =>
    refine ⟨some (.ok w, words ws), rfl, ?_⟩
    rintro _ _ ⟨⟩
    exact ⟨ws, rfl⟩

theorem isFruitful_words {ws : List String} (h : ws ≠ []) : IsFruitful (words ws) := by
  obtain ⟨w, ws, rfl⟩ := List.exists_cons_of_ne_nil h
  exact isFruitful_of_yield (isLively_words _) rfl

theorem isFruitful_characters {cs : List Char} (h : cs ≠ []) : IsFruitful (characters cs) :=
  isFruitful_words (by simpa using h)

theorem reply_interval (c last : Char) :
    (interval (some c) last).reply =
      if c ≤ last then .yield (.ok (String.singleton c)) (interval c.succ? last) else .ended := rfl

theorem isLively_interval (next? : Option Char) (last : Char) : IsLively (interval next? last) := by
  refine isLively_of_leaves (P := fun t ↦ ∃ next?, t = interval next? last) ⟨next?, rfl⟩ ?_
  rintro _ ⟨next?, rfl⟩
  refine ⟨rfl, ?_⟩
  cases next? with
  | none => exact ⟨none, rfl, fun _ _ hr ↦ nomatch hr⟩
  | some c =>
    rw [reply_interval]
    split
    · refine ⟨some (.ok (String.singleton c), interval c.succ? last), rfl, ?_⟩
      rintro _ _ ⟨⟩
      exact ⟨c.succ?, rfl⟩
    · exact ⟨none, rfl, fun _ _ hr ↦ nomatch hr⟩

theorem isFruitful_interval {first last : Char} (h : first ≤ last) :
    IsFruitful (interval (some first) last) :=
  isFruitful_of_yield (isLively_interval _ _) ((reply_interval first last).trans (if_pos h))

theorem isLively_of_error {e : Obstacle} (hl : l.incidents = l.ownAnswer)
    (h : l.reply = .yield (.error e) t) : IsLively l := by
  refine isLively_of_leaves (P := (· = l)) rfl ?_
  rintro _ rfl
  exact ⟨hl, some (.error e, t), h, fun _ _ hr ↦ nomatch hr⟩

theorem isFruitful_failing (e : Obstacle) : IsFruitful (failing e) :=
  isFruitful_of_yield (isLively_of_error rfl rfl) rfl

theorem isFruitful_of_skip (hl : l.incidents = l.ownAnswer) (h : l.reply = .skip t)
    (ht : IsFruitful t) : IsFruitful l := by
  obtain ⟨is, r, hasks⟩ := ht.1.pull
  have htraces := Traces.skip h hasks.traces
  rw [hl, ownAnswer_of_skip h, List.nil_append] at htraces
  refine ⟨isLively_of_asks ⟨htraces, hasks.nodup, hasks.mem_of_within_mem, hasks.next⟩, fun hp ↦ ?_⟩
  have hnone := htraces.pulls.unique hp
  exact ht.2 (hnone ▸ hasks.traces.pulls)

/-- The candidates in a set are found in a step of their own, and if there is none the pull gives an
error. -/
theorem isFruitful_sampling (text : String) (candidates : List Char) :
    IsFruitful (sampling text candidates) := by
  have hreply := reply_sampling text candidates
  split at hreply
  · exact isFruitful_of_yield (isLively_of_error rfl hreply) hreply
  · exact isFruitful_of_yield (isLively_of_error rfl hreply) hreply
  · next found hne _ =>
    exact isFruitful_of_skip rfl hreply (isFruitful_characters hne)

end Leaves

section Choice

variable {rest queue : List Listing}

theorem reply_choice_cons (s : Listing) (rest : List Listing) :
    (choice ⟨s :: rest⟩).reply = (Interleave.receive rest s.reply).mapState choice :=
  reply_choice ⟨s :: rest⟩

theorem frames_choice (rest : List Listing) : Frames rest.length fun s ↦ choice ⟨s :: rest⟩ where
  incidents _ := rfl
  skip hs := by
    rw [reply_choice_cons, hs]
    rfl

def IsRotation (l : Listing) : Prop := ∃ queue, l = choice ⟨queue⟩ ∧ ∀ s ∈ queue, IsLively s

theorem exists_asks_choice (h : ∀ s ∈ queue, IsLively s) :
    ∃ is r, Asks {k | k < queue.length} IsRotation (choice ⟨queue⟩) is r ∧
      (r = none → ∀ s ∈ queue, Pulls reply s none) := by
  induction queue with
  | nil =>
    exact ⟨_, none, .leaf rfl rfl fun hr ↦ (nomatch hr), fun _ _ hs ↦ (nomatch hs)⟩
  | cons s rest ih =>
    obtain ⟨hs, hrest⟩ := List.forall_mem_cons.1 h
    obtain ⟨is, r, hasks⟩ := hs.pull
    cases r with
    | none =>
      obtain ⟨js, r, hjs, hnone⟩ := ih hrest
      have hlast (s : Listing) (hs : s.reply = .ended) :
          (choice ⟨s :: rest⟩).reply = .skip (choice ⟨rest⟩) := by
        rw [reply_choice_cons, hs]
        rfl
      have hlength : rest.length ∉ {k | k < rest.length} := Nat.lt_irrefl _
      have hwhole := hasks.frame_skip (frames_choice rest) hlength hlast hjs
      refine ⟨_, r, hwhole.mono ?_, fun hr ↦ ?_⟩
      · rintro k (rfl | hk)
        · exact Nat.lt_succ_self _
        · exact Nat.lt_succ_of_lt hk
      · exact List.forall_mem_cons.2 ⟨hasks.traces.pulls, hnone hr⟩
    | some x =>
      obtain ⟨item, t⟩ := x
      have hlast (s : Listing) (hs : s.reply = .yield item t) :
          (choice ⟨s :: rest⟩).reply = Step.ofPull (some (item, choice ⟨rest ++ [t]⟩)) := by
        rw [reply_choice_cons, hs]
        rfl
      have hnext {w : String} {u : Listing}
          (hr : some (item, choice ⟨rest ++ [t]⟩) = some (.ok w, u)) : IsRotation u := by
        cases hr
        refine ⟨rest ++ [t], rfl, List.forall_mem_append.2 ⟨hrest, ?_⟩⟩
        exact List.forall_mem_singleton.2 (hasks.next rfl)
      have hwhole := hasks.frame_answer (frames_choice rest) hlast hnext
      refine ⟨_, _, hwhole.mono ?_, fun hr ↦ nomatch hr⟩
      rintro k rfl
      exact Nat.lt_succ_self _

theorem isLively_choice (h : ∀ s ∈ queue, IsLively s) : IsLively (choice ⟨queue⟩) := by
  refine ⟨IsRotation, ⟨queue, rfl, h⟩, ?_⟩
  rintro _ ⟨queue, rfl, hqueue⟩
  obtain ⟨is, r, hasks, -⟩ := exists_asks_choice hqueue
  exact ⟨is, r, hasks.mono (Set.subset_univ _)⟩

theorem isFruitful_choice (hne : queue ≠ []) (h : ∀ s ∈ queue, IsFruitful s) :
    IsFruitful (choice ⟨queue⟩) := by
  have hlively : ∀ s ∈ queue, IsLively s := fun s hs ↦ (h s hs).1
  refine ⟨isLively_choice hlively, fun hp ↦ ?_⟩
  obtain ⟨is, r, hasks, hnone⟩ := exists_asks_choice hlively
  obtain ⟨s, hs⟩ := List.exists_mem_of_ne_nil queue hne
  exact (h s hs).2 (hnone (hasks.traces.pulls.unique hp) s hs)

end Choice

section Product

variable {factor : ℕ} {queue todo done : List (ℕ × Listing)} {grid : Grid String}
  {factors : List Listing}

theorem reply_product_of_tuple {tuple : List String} {grid' : Grid String}
    (h : grid.pop? = some (tuple, grid')) (queue : List (ℕ × Listing)) :
    (product ⟨queue, grid⟩).reply = .yield (.ok (String.join tuple)) (product ⟨queue, grid'⟩) := by
  rw [reply_product, Diagonal.step, h]
  rfl

theorem reply_product_nil (h : grid.pop? = none) : (product ⟨[], grid⟩).reply = .ended := by
  rw [reply_product, Diagonal.step, h]
  rfl

theorem reply_product_cons (h : grid.pop? = none) (factor : ℕ) (s : Listing)
    (rest : List (ℕ × Listing)) :
    (product ⟨(factor, s) :: rest, grid⟩).reply =
      ((Diagonal.receive factor rest grid s.reply).mapState product).mapItem ofTuple := by
  rw [reply_product, Diagonal.step, h]
  rfl

section Received

variable {rest : List (ℕ × Listing)}

theorem reply_product_of_ended (h : grid.pop? = none) (hs : s.reply = .ended) :
    (product ⟨(factor, s) :: rest, grid⟩).reply = .skip (product ⟨rest, grid⟩) := by
  rw [reply_product_cons h, hs]
  rfl

theorem reply_product_of_error {e : Obstacle} (h : grid.pop? = none)
    (hs : s.reply = .yield (.error e) t) :
    (product ⟨(factor, s) :: rest, grid⟩).reply = .yield (.error e) (product ⟨[], grid⟩) := by
  rw [reply_product_cons h, hs]
  rfl

theorem reply_product_of_value {value : String} (h : grid.pop? = none)
    (hs : s.reply = .yield (.ok value) t) :
    (product ⟨(factor, s) :: rest, grid⟩).reply =
      .skip (product ⟨rest ++ [(factor, t)], grid.add factor value⟩) := by
  rw [reply_product_cons h, hs]
  rfl

end Received

theorem incidents_product_of_tuple {x : List String × Grid String} (h : grid.pop? = some x)
    (queue : List (ℕ × Listing)) :
    (product ⟨queue, grid⟩).incidents = (product ⟨queue, grid⟩).ownAnswer := by
  cases queue with
  | nil => rfl
  | cons y queue =>
    obtain ⟨factor, s⟩ := y
    rw [incidents, h]
    rfl

theorem frames_product (h : grid.pop? = none) (factor : ℕ) (rest : List (ℕ × Listing)) :
    Frames factor fun s ↦ product ⟨(factor, s) :: rest, grid⟩ where
  incidents s := by
    rw [incidents, h]
    rfl
  skip hs := by
    rw [reply_product_cons h, hs]
    rfl

/-- Each factor that has given nothing yet is in `queue`, and it will give something. -/
def AsksUnseen (queue : List (ℕ × Listing)) (grid : Grid String) : Prop :=
  ∀ k : ℕ, grid.seen[k]? = some #[] → ∃ s, (k, s) ∈ queue ∧ IsFruitful s

structure IsReady (queue : List (ℕ × Listing)) (grid : Grid String) : Prop where
  nodup : (queue.map Prod.fst).Nodup
  lively : ∀ x ∈ queue, IsLively x.2
  asksUnseen : AsksUnseen queue grid

section Asked

variable {value : String}

theorem AsksUnseen.drop (h : AsksUnseen ((factor, s) :: queue) grid) (hs : Pulls reply s none) :
    AsksUnseen queue grid := by
  intro k hk
  obtain ⟨u, hu, hfruitful⟩ := h k hk
  rcases List.mem_cons.1 hu with he | hu
  · cases he
    exact absurd hs hfruitful.2
  · exact ⟨u, hu, hfruitful⟩

theorem AsksUnseen.add (h : AsksUnseen ((factor, s) :: queue) grid) :
    AsksUnseen queue (grid.add factor value) := by
  intro k hk
  obtain ⟨hseen, hne⟩ := Grid.eq_empty_of_add hk
  obtain ⟨u, hu, hfruitful⟩ := h k hseen
  rcases List.mem_cons.1 hu with he | hu
  · cases he
    exact absurd rfl hne
  · exact ⟨u, hu, hfruitful⟩

theorem IsReady.drop (h : IsReady ((factor, s) :: queue) grid) (hs : Pulls reply s none) :
    IsReady queue grid where
  nodup := h.nodup.of_cons
  lively := (List.forall_mem_cons.1 h.lively).2
  asksUnseen := h.asksUnseen.drop hs

theorem IsReady.turn (h : IsReady ((factor, s) :: queue) grid) (ht : IsLively t) :
    IsReady (queue ++ [(factor, t)]) (grid.add factor value) where
  nodup := by
    rw [List.map_append]
    exact (List.perm_append_singleton factor _).nodup_iff.2 h.nodup
  lively := List.forall_mem_append.2
    ⟨(List.forall_mem_cons.1 h.lively).2, List.forall_mem_singleton.2 ht⟩
  asksUnseen k hk := by
    obtain ⟨u, hu, hfruitful⟩ := h.asksUnseen.add k hk
    exact ⟨u, List.mem_append_left _ hu, hfruitful⟩

end Asked

def IsReadyProduct (l : Listing) : Prop :=
  ∃ queue grid, l = product ⟨queue, grid⟩ ∧ IsReady queue grid

theorem asks_product_of_tuple {tuple : List String} {grid' : Grid String}
    (h : grid.pop? = some (tuple, grid')) (hready : IsReady queue grid) (K : Set ℕ) :
    Asks K IsReadyProduct (product ⟨queue, grid⟩) [.answered []]
      (some (.ok (String.join tuple), product ⟨queue, grid'⟩)) := by
  refine .leaf (incidents_product_of_tuple h queue) (reply_product_of_tuple h queue) fun hr ↦ ?_
  cases hr
  refine ⟨queue, grid', rfl, hready.nodup, hready.lively, ?_⟩
  rw [AsksUnseen, Grid.seen_of_pop? h]
  exact hready.asksUnseen

/-- The pull of a product without a tuple at hand. The factors in `todo` are not asked yet, and
those in `done` have been asked without a tuple, since a factor in `todo` has given nothing. -/
theorem exists_asks_product (hpop : grid.pop? = none) (h : IsReady (todo ++ done) grid)
    (htodo : AsksUnseen todo grid) (hdone : done ≠ [] → ∃ k : ℕ, grid.seen[k]? = some #[]) :
    ∃ is r, Asks {k | k ∈ todo.map Prod.fst} IsReadyProduct (product ⟨todo ++ done, grid⟩) is r ∧
      (r = none → ∀ k : ℕ, grid.seen[k]? ≠ some #[]) := by
  induction todo generalizing done grid with
  | nil =>
    have hseen (k : ℕ) : grid.seen[k]? ≠ some #[] := fun hk ↦ by
      obtain ⟨s, hs, -⟩ := htodo k hk
      cases hs
    obtain rfl : done = [] := by
      by_contra hne
      obtain ⟨k, hk⟩ := hdone hne
      exact hseen k hk
    have hreply : (product ⟨[], grid⟩).reply = .ended := reply_product_nil hpop
    exact ⟨_, none, .leaf rfl hreply fun hr ↦ (nomatch hr), fun _ ↦ hseen⟩
  | cons x todo ih =>
    obtain ⟨factor, s⟩ := x
    have hs : IsLively s := h.lively _ List.mem_cons_self
    obtain ⟨is, r, hasks⟩ := hs.pull
    have hframes := frames_product hpop factor (todo ++ done)
    have hfactor : factor ∉ todo.map Prod.fst := fun hmem ↦
      (List.nodup_cons.1 h.nodup).1 (List.map_append ▸ List.mem_append_left _ hmem)
    have hasked {js : List Incident} {u : Listing} {r' : Option (Item × Listing)}
        (hlast : ∀ s, s.reply = Step.ofPull r →
          (product ⟨(factor, s) :: (todo ++ done), grid⟩).reply = .skip u)
        (hu : Asks {k | k ∈ todo.map Prod.fst} IsReadyProduct u js r') :
        Asks {k | k ∈ ((factor, s) :: todo).map Prod.fst} IsReadyProduct
          (product ⟨(factor, s) :: (todo ++ done), grid⟩) (is.map (.within factor) ++ js) r' :=
      (hasks.frame_skip hframes hfactor hlast hu).mono fun k hk ↦ List.mem_cons.2 hk
    cases r with
    | none =>
      have hended := hasks.traces.pulls
      obtain ⟨js, r, hjs, hnone⟩ := ih hpop (h.drop hended) (htodo.drop hended) hdone
      exact ⟨_, r, hasked (fun _ hs ↦ reply_product_of_ended hpop hs) hjs, hnone⟩
    | some x =>
      obtain ⟨item, t⟩ := x
      cases item with
      | error e =>
        have hlast (s : Listing) (hs : s.reply = .yield (.error e) t) :
            (product ⟨(factor, s) :: (todo ++ done), grid⟩).reply =
              Step.ofPull (some (.error e, product ⟨[], grid⟩)) :=
          reply_product_of_error hpop hs
        have hwhole := hasks.frame_answer (P := IsReadyProduct) hframes hlast fun hr ↦ (nomatch hr)
        refine ⟨_, _, hwhole.mono ?_, fun hr ↦ (nomatch hr)⟩
        rintro k rfl
        exact List.mem_cons_self
      | ok value =>
        have hready : IsReady (todo ++ (done ++ [(factor, t)])) (grid.add factor value) := by
          rw [← List.append_assoc]
          exact h.turn (hasks.next rfl)
        have hlast (s : Listing) (hs : s.reply = .yield (.ok value) t) :
            (product ⟨(factor, s) :: (todo ++ done), grid⟩).reply =
              .skip (product ⟨todo ++ (done ++ [(factor, t)]), grid.add factor value⟩) := by
          rw [reply_product_of_value hpop hs, List.append_assoc]
        cases hpop' : (grid.add factor value).pop? with
        | some x =>
          exact ⟨_, _, hasked hlast (asks_product_of_tuple hpop' hready _), fun hr ↦ (nomatch hr)⟩
        | none =>
          have hunseen := Grid.exists_unseen_of_pop?_add hpop'
          obtain ⟨js, r, hjs, hnone⟩ := ih hpop' hready htodo.add fun _ ↦ hunseen
          refine ⟨_, r, hasked hlast hjs, fun hr ↦ ?_⟩
          obtain ⟨k, hk⟩ := hunseen
          exact absurd hk (hnone hr k)

theorem IsReady.exists_asks (h : IsReady queue grid) :
    ∃ is r, Asks Set.univ IsReadyProduct (product ⟨queue, grid⟩) is r ∧
      (r = none → grid.pop? = none ∧ ∀ k : ℕ, grid.seen[k]? ≠ some #[]) := by
  cases hpop : grid.pop? with
  | some x => exact ⟨_, _, asks_product_of_tuple hpop h _, fun hr ↦ nomatch hr⟩
  | none =>
    rw [← List.append_nil queue] at h ⊢
    have hunseen := h.asksUnseen
    rw [List.append_nil] at hunseen
    obtain ⟨is, r, hasks, hnone⟩ := exists_asks_product hpop h hunseen fun hne ↦ absurd rfl hne
    exact ⟨is, r, hasks.mono (Set.subset_univ _), fun hr ↦ ⟨rfl, hnone hr⟩⟩

theorem isReady_ofFactors (h : ∀ s ∈ factors, IsFruitful s) :
    IsReady (factors.mapIdx fun i s ↦ (i, s)) (.ofFactors factors.length) where
  nodup := by
    have hpositions :
        (factors.mapIdx fun i s ↦ (i, s)).map Prod.fst = List.range factors.length :=
      List.ext_getElem (by simp) fun k _ _ ↦ by simp
    rw [hpositions]
    exact List.nodup_range
  lively x hx := by
    obtain ⟨k, hk, rfl⟩ := List.mem_mapIdx.1 hx
    exact (h _ (List.getElem_mem hk)).1
  asksUnseen k hk := by
    have hlt : k < factors.length := by
      obtain ⟨hlt, -⟩ := List.getElem?_eq_some_iff.1 hk
      simpa [Grid.ofFactors, Grid.ofLists] using hlt
    exact ⟨factors[k], List.mem_mapIdx.2 ⟨k, hlt, rfl⟩, h _ (List.getElem_mem hlt)⟩

theorem isFruitful_concatenation (h : ∀ s ∈ factors, IsFruitful s) :
    IsFruitful (concatenation factors) := by
  have hready := isReady_ofFactors h
  refine ⟨⟨IsReadyProduct, ⟨_, _, rfl, hready⟩, ?_⟩, fun hp ↦ ?_⟩
  · rintro _ ⟨queue, grid, rfl, hready⟩
    obtain ⟨is, r, hasks, -⟩ := hready.exists_asks
    exact ⟨is, r, hasks⟩
  · obtain ⟨is, r, hasks, hnone⟩ := hready.exists_asks
    obtain ⟨hpop, hseen⟩ := hnone (hasks.traces.pulls.unique hp)
    cases factors with
    | nil => cases hpop
    | cons s factors => exact hseen 0 rfl

/-- The first word of a pair takes a pull of each part. -/
example : (concatenation [words ["a"], words ["b"]]).incidentsIn 10 =
    [.answered [0], .answered [1], .answered []] := rfl

theorem isFruitful_power {body : Listing} (h : IsFruitful body) (n : ℕ) :
    IsFruitful (power body n) := by
  induction n using Nat.strong_induction_on with
  | _ n ih =>
    rw [power]
    split
    · exact isFruitful_words (List.cons_ne_nil _ _)
    · split
      · exact h
      · refine isFruitful_concatenation (List.forall_mem_cons.2 ⟨ih _ (by omega), ?_⟩)
        exact List.forall_mem_singleton.2 (ih _ (by omega))

end Product

end Listing

end RegexWords
