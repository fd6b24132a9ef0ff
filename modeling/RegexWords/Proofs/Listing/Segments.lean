import RegexWords.CharSet.ClassText
import RegexWords.Proofs.Listing.Failing
import RegexWords.Proofs.Listing.Productivity
import RegexWords.Proofs.Listing.Runs

namespace RegexWords

namespace Step

variable {σ τ α β : Type} {x : Step σ α}

@[simp] theorem mapState_eq_ended_iff {f : σ → τ} : x.mapState f = .ended ↔ x = .ended := by
  cases x <;> simp [mapState]

@[simp] theorem mapItem_eq_ended_iff {f : α → β} : x.mapItem f = .ended ↔ x = .ended := by
  cases x <;> simp [mapItem]

end Step

theorem Interleave.receive_ne_ended {σ α : Type} (rest : List σ) (x : Step σ α) :
    receive rest x ≠ .ended := by
  intro h
  cases x <;> cases h

theorem Diagonal.receive_ne_ended {σ α ε : Type} (factor : ℕ) (rest : List (ℕ × σ)) (grid : Grid α)
    (x : Step σ (Except ε α)) : receive factor rest grid x ≠ .ended := by
  intro h
  match x with
  | .yield (.ok _) _ | .yield (.error _) _ | .skip _ | .ended => cases h

theorem Repetition.receive_ne_ended {σ ε : Type} (r : Repetition σ) (count : ℕ)
    (x : Step σ (Except ε String)) : r.receive count x ≠ .ended := by
  intro h
  match x with
  | .yield (.ok _) _ | .yield (.error _) _ | .skip _ => cases h
  | .ended =>
    simp only [receive] at h
    split at h <;> cases h

namespace Counts

variable {c : Counts} {n : ℕ} {ns : List ℕ}

theorem next?_eq_none_of_toList (h : c.toList = []) : c.next? = Option.none := by
  rw [toList_eq] at h
  cases hnext : c.next? with
  | none => rfl
  | some p =>
    rw [hnext] at h
    cases h

theorem exists_next?_of_toList (h : c.toList = n :: ns) :
    ∃ c', c.next? = some (n, c') ∧ c'.toList = ns := by
  rw [toList_eq] at h
  cases hnext : c.next? with
  | none =>
    rw [hnext] at h
    cases h
  | some p =>
    rw [hnext, Option.elim_some] at h
    obtain ⟨rfl, hns⟩ := List.cons_eq_cons.1 h
    exact ⟨p.2, rfl, hns⟩

end Counts

namespace Listing

def answered (ws : List String) : List (Option Item) := ws.map fun w ↦ some (.ok w)

def anyText (ws : List String) : Bool := ws.any fun v ↦ !v.isEmpty

theorem anyText_eq_false_iff : anyText ws = false ↔ ∀ v ∈ ws, v = "" := by
  simp [anyText]

section Barren

variable {is : List Item} {ws vs : List String} {n m : ℕ}

theorem exists_map_ok_of_powered (hn : 0 < n) (h : powered is n = vs.map .ok) :
    ∃ ws : List String, is = ws.map .ok := by
  obtain hok | ⟨bs, e, cs, rfl⟩ := exists_map_ok_append is
  · exact hok
  · obtain ⟨K, hK⟩ := exists_failsWithin_powered _ hn
    obtain ⟨e', he'⟩ := hK _ (failsWithin_of_mem (List.mem_append_right _ List.mem_cons_self))
    rw [h] at he'
    exact absurd (List.mem_of_mem_take he') (error_notMem_map_ok vs e')

/-- Where a count above zero has nothing but empty words, every other one has nothing more. -/
theorem exists_powered_eq_of_forall_eq (hn : 0 < n) (h : powered is n = vs.map .ok)
    (hempty : ∀ v ∈ vs, v = "") (hm : 0 < m) :
    ∃ us : List String, powered is m = us.map .ok ∧ ∀ u ∈ us, u ∈ vs := by
  obtain ⟨ws, rfl⟩ := exists_map_ok_of_powered hn h
  rw [powered_map_ok] at h
  have hvs : vs = wordPower ws n := (List.map_injective_iff.2 (fun _ _ ↦ Except.ok.inj) h).symm
  have hws : ∀ w ∈ ws, w = "" := by
    by_contra hnot
    push Not at hnot
    obtain ⟨v, hv, hne⟩ := exists_mem_wordPower_ne hn hnot
    exact hne (hempty v (hvs ▸ hv))
  refine ⟨wordPower ws m, powered_map_ok ws m, fun u hu ↦ ?_⟩
  obtain ⟨us, hlen, hus, -⟩ := mem_wordPower.1 hu
  obtain ⟨w, hw⟩ := List.exists_mem_of_length_pos (by omega : 0 < us.length)
  have hpower : String.join (List.replicate n w) ∈ wordPower ws n :=
    mem_wordPower.2 ⟨_, List.length_replicate, fun v hv ↦
      List.eq_of_mem_replicate hv ▸ hus w hw, rfl⟩
  rw [hvs, eq_empty_of_mem_wordPower hws hu, ← eq_empty_of_mem_wordPower hws hpower]
  exact hpower

end Barren

section Unrolling

variable [Compiler]

/-- Pulls from the words of so many bodies, once the journal says that they are repeated. -/
def SegmentRun (p : Pattern) (body : Listing) (count : ℕ) (w : Workspace) (rs : List (Option Item))
    (w' : Workspace) : Prop :=
  ∃ t, Run proceed (power body count, (Workspace.record (.repeating p count) w).2) rs (t, w')

/-- What pulls from a repetition answer, with the counts to come before and after them. -/
inductive Unrolls (p : Pattern) (body : Listing) :
    List ℕ → Workspace → List (Option Item) → Workspace → List ℕ → Prop
  | unasked {counts : List ℕ} {w : Workspace} : Unrolls p body counts w [] w counts
  | exhausted {w : Workspace} (k : ℕ) : Unrolls p body [] w (List.replicate k none) w []
  /-- The words of the count are not yet at their end. -/
  | within {n : ℕ} {counts : List ℕ} {w w' : Workspace} {ws : List String} :
      SegmentRun p body n w (answered ws) w' → ws ≠ [] →
      Unrolls p body (n :: counts) w (answered ws) w' counts
  | failed {n : ℕ} {counts : List ℕ} {w w' : Workspace} {ws : List String} {e : Obstacle} (k : ℕ) :
      SegmentRun p body n w (answered ws ++ [some (.error e)]) w' →
      Unrolls p body (n :: counts) w (answered ws ++ some (.error e) :: List.replicate k none) w'
        counts
  /-- Nothing but empty words, and no more of them. -/
  | barren {n : ℕ} {counts : List ℕ} {w w' : Workspace} {ws : List String} (k : ℕ) :
      SegmentRun p body n w (answered ws ++ [none]) w' → 0 < n → (∀ v ∈ ws, v = "") →
      Unrolls p body (n :: counts) w (answered ws ++ none :: List.replicate k none) w' counts
  | onward {n : ℕ} {counts rest : List ℕ} {w w' w'' : Workspace} {ws : List String}
      {rs : List (Option Item)} :
      SegmentRun p body n w (answered ws ++ [none]) w' → (n = 0 ∨ ∃ v ∈ ws, v ≠ "") → rs ≠ [] →
      Unrolls p body counts w' rs w'' rest →
      Unrolls p body (n :: counts) w (answered ws ++ rs) w'' rest

section Steps

variable {r : Repetition Listing} {n : ℕ} {grew : Bool} {s t : Listing} {w w' : Workspace}

theorem snd_of_ended {l : Listing} (h : (l.step w).1 = .ended) : (l.step w).2 = w := by
  rw [step_fst] at h
  fun_cases step l with
  | case1 | case3 | case4 | case5 | case7 | case9 | case10 => rfl
  | case2 => cases h
  | case6 text candidates =>
    rw [reply_sampling] at h
    split at h <;> cases h
  | case8 t rest => exact absurd (Step.mapState_eq_ended_iff.1 h) (Interleave.receive_ne_ended _ _)
  | case11 grid hpop factor t rest =>
    simp only [reply_product, Diagonal.step, hpop, Step.mapItem_eq_ended_iff,
      Step.mapState_eq_ended_iff] at h
    exact absurd h (Diagonal.receive_ne_ended _ _ _ _)
  | case12 pattern body counts grew =>
    rw [reply_repeating_of_none _ rfl] at h
    unfold startCount
    cases hnext : counts.next? with
    | none => rfl
    | some c =>
      rw [hnext] at h
      cases h
  | case13 pattern body counts count t grew =>
    rw [reply_repeating_of_segment _ rfl, Step.mapState_eq_ended_iff] at h
    exact absurd h (Repetition.receive_ne_ended _ _ _)

theorem step_of_proceed_yield {i : Item} (h : proceed (s, w) = .yield i (t, w')) :
    s.step w = (.yield i t, w') := by
  rw [proceed] at h
  generalize s.step w = x at h
  obtain ⟨_ | _ | _, w'⟩ := x <;> cases h
  rfl

theorem step_of_proceed_skip (h : proceed (s, w) = .skip (t, w')) : s.step w = (.skip t, w') := by
  rw [proceed] at h
  generalize s.step w = x at h
  obtain ⟨_ | _ | _, w'⟩ := x <;> cases h
  rfl

theorem step_of_proceed_ended (h : proceed (s, w) = .ended) : s.step w = (.ended, w) := by
  have hfst : (s.step w).1 = .ended := by
    rw [proceed] at h
    cases hs : (s.step w).1 with
    | ended => rfl
    | yield i t => simp [hs, Step.mapState] at h
    | skip t => simp [hs, Step.mapState] at h
  exact Prod.ext hfst (snd_of_ended hfst)

def atCount (r : Repetition Listing) (n : ℕ) (s : Listing) (grew : Bool) : Listing :=
  repeating { r with segment := some (n, s), grew }

def behindCount (r : Repetition Listing) (n : ℕ) (grew : Bool) : Listing :=
  repeating (if 0 < n ∧ grew = false then { r with counts := .none, segment := none, grew }
    else { r with segment := none, grew })

theorem proceed_atCount :
    proceed (atCount r n s grew, w) =
      ((({ r with segment := some (n, s), grew } : Repetition Listing).receive n
        (s.step w).1).mapState repeating).mapState (·, (s.step w).2) := by
  rw [proceed, atCount, step_repeating_of_segment _ rfl]
  rfl

theorem proceed_atCount_of_word {v : String} (h : proceed (s, w) = .yield (.ok v) (t, w')) :
    proceed (atCount r n s grew, w) = .yield (.ok v) (atCount r n t (grew || !v.isEmpty), w') := by
  rw [proceed_atCount, step_of_proceed_yield h]
  rfl

theorem proceed_atCount_of_error {e : Obstacle} (h : proceed (s, w) = .yield (.error e) (t, w')) :
    proceed (atCount r n s grew, w) =
      .yield (.error e) (repeating { r with counts := .none, segment := none, grew }, w') := by
  rw [proceed_atCount, step_of_proceed_yield h]
  rfl

theorem proceed_atCount_of_skip (h : proceed (s, w) = .skip (t, w')) :
    proceed (atCount r n s grew, w) = .skip (atCount r n t grew, w') := by
  rw [proceed_atCount, step_of_proceed_skip h]
  rfl

theorem proceed_atCount_of_ended (h : proceed (s, w) = .ended) :
    proceed (atCount r n s grew, w) = .skip (behindCount r n grew, w) := by
  rw [proceed_atCount, step_of_proceed_ended h, behindCount]
  simp only [Repetition.receive]
  split <;> rfl

theorem proceed_atCount_ne_ended : proceed (atCount r n s grew, w) ≠ .ended := by
  rw [proceed_atCount]
  simpa using Repetition.receive_ne_ended _ _ _

variable {x y : Listing × Workspace} {v : String} {e : Obstacle} {a : Option Item}

theorem pullsTo_atCount_of_word (h : PullsTo proceed (s, w) (some (.ok v)) x) :
    PullsTo proceed (atCount r n s grew, w) (some (.ok v))
      (atCount r n x.1 (grew || !v.isEmpty), x.2) := by
  generalize hy : (s, w) = y at h
  generalize ha : (some (.ok v) : Option Item) = a at h
  induction h generalizing s w with
  | ended => cases ha
  | yield hs =>
    cases ha
    subst hy
    exact .yield (proceed_atCount_of_word hs)
  | skip hs _ ih =>
    subst hy
    exact .skip (proceed_atCount_of_skip hs) (ih rfl ha)

theorem pullsTo_atCount_of_error (h : PullsTo proceed (s, w) (some (.error e)) x) :
    PullsTo proceed (atCount r n s grew, w) (some (.error e))
      (repeating { r with counts := .none, segment := none, grew }, x.2) := by
  generalize hy : (s, w) = y at h
  generalize ha : (some (.error e) : Option Item) = a at h
  induction h generalizing s w with
  | ended => cases ha
  | yield hs =>
    cases ha
    subst hy
    exact .yield (proceed_atCount_of_error hs)
  | skip hs _ ih =>
    subst hy
    exact .skip (proceed_atCount_of_skip hs) (ih rfl ha)

theorem pullsTo_atCount_of_none (h : PullsTo proceed (s, w) none x)
    (hy : PullsTo proceed (behindCount r n grew, x.2) a y) :
    PullsTo proceed (atCount r n s grew, w) a y := by
  generalize hz : (s, w) = z at h
  generalize hb : (none : Option Item) = b at h
  induction h generalizing s w with
  | ended hs =>
    subst hz
    exact .skip (proceed_atCount_of_ended hs) hy
  | yield => cases hb
  | skip hs _ ih =>
    subst hz
    exact .skip (proceed_atCount_of_skip hs) (ih hy rfl hb)

/-- The first pull from a repetition at a count is one from its words, and where these have ended
it is one from what comes behind them. -/
theorem exists_of_pullsTo_atCount (h : PullsTo proceed (atCount r n s grew, w) a y) :
    (∃ v t, PullsTo proceed (s, w) (some (.ok v)) t ∧ a = some (.ok v) ∧
      y = (atCount r n t.1 (grew || !v.isEmpty), t.2)) ∨
    (∃ e t, PullsTo proceed (s, w) (some (.error e)) t ∧ a = some (.error e) ∧
      y = (repeating { r with counts := .none, segment := none, grew }, t.2)) ∨
    ∃ t, PullsTo proceed (s, w) none t ∧ PullsTo proceed (behindCount r n grew, t.2) a y := by
  generalize hx : (atCount r n s grew, w) = x at h
  induction h generalizing s w with
  | ended he => exact absurd (hx ▸ he) proceed_atCount_ne_ended
  | yield hy =>
    subst hx
    match hs : proceed (s, w) with
    | .yield (.ok v) (t, w') =>
      cases (proceed_atCount_of_word hs).symm.trans hy
      exact .inl ⟨v, _, .yield hs, rfl, rfl⟩
    | .yield (.error e) (t, w') =>
      cases (proceed_atCount_of_error hs).symm.trans hy
      exact .inr (.inl ⟨e, _, .yield hs, rfl, rfl⟩)
    | .skip (t, w') => cases (proceed_atCount_of_skip hs).symm.trans hy
    | .ended => cases (proceed_atCount_of_ended hs).symm.trans hy
  | skip hk ht ih =>
    subst hx
    match hs : proceed (s, w) with
    | .yield (.ok v) (t, w') => cases (proceed_atCount_of_word hs).symm.trans hk
    | .yield (.error e) (t, w') => cases (proceed_atCount_of_error hs).symm.trans hk
    | .skip (t, w') =>
      cases (proceed_atCount_of_skip hs).symm.trans hk
      obtain ⟨v, u, hu, ha, hy⟩ | ⟨e, u, hu, ha, hy⟩ | ⟨u, hu, hy⟩ := ih rfl
      · exact .inl ⟨v, u, .skip hs hu, ha, hy⟩
      · exact .inr (.inl ⟨e, u, .skip hs hu, ha, hy⟩)
      · exact .inr (.inr ⟨u, .skip hs hu, hy⟩)
    | .ended =>
      cases (proceed_atCount_of_ended hs).symm.trans hk
      exact .inr (.inr ⟨_, .ended hs, ht⟩)

end Steps

section Runs

variable {r : Repetition Listing} {n : ℕ} {counts rest : List ℕ} {grew : Bool} {s : Listing}
  {w w' : Workspace} {x y : Listing × Workspace} {ws : List String} {rs : List (Option Item)}

theorem proceed_stopped :
    proceed (repeating { r with counts := .none, segment := none, grew }, w) = .ended := by
  rw [proceed, step_repeating_of_none _ rfl]
  rfl

theorem proceed_repeating_of_nil (hr : r.segment = none) (hcounts : r.counts.toList = []) :
    proceed (repeating r, w) = .ended := by
  rw [proceed, step_repeating_of_none r hr, startCount_fst, Counts.next?_eq_none_of_toList hcounts]
  rfl

theorem exists_proceed_repeating_of_cons (hr : r.segment = none)
    (hcounts : r.counts.toList = n :: counts) (w : Workspace) :
    ∃ c : Counts, c.toList = counts ∧ proceed (repeating r, w) =
      .skip (atCount { r with counts := c } n (power r.body n) false,
        (Workspace.record (.repeating r.pattern n) w).2) := by
  obtain ⟨c, hnext, hc⟩ := Counts.exists_next?_of_toList hcounts
  refine ⟨c, hc, ?_⟩
  rw [proceed, step_repeating_of_none r hr, startCount, hnext]
  rfl

theorem run_atCount_of_words (h : Run proceed (s, w) (answered ws) x) :
    Run proceed (atCount r n s grew, w) (answered ws)
      (atCount r n x.1 (grew || anyText ws), x.2) := by
  induction ws generalizing s w grew with
  | nil =>
    cases h
    rw [anyText, List.any_nil, Bool.or_false]
    exact .nil
  | cons v ws ih =>
    cases h with
    | @cons _ t _ _ _ hp hr =>
      refine .cons (pullsTo_atCount_of_word hp) ?_
      rw [anyText, List.any_cons, ← Bool.or_assoc]
      exact ih hr

theorem exists_of_run_atCount (h : Run proceed (atCount r n s grew, w) rs y) :
    (∃ ws t, rs = answered ws ∧ Run proceed (s, w) (answered ws) t ∧ y.2 = t.2) ∨
    (∃ ws e k t, rs = answered ws ++ some (.error e) :: List.replicate k none ∧
      Run proceed (s, w) (answered ws ++ [some (.error e)]) t ∧ y.2 = t.2) ∨
    ∃ ws rs' t, rs' ≠ [] ∧ rs = answered ws ++ rs' ∧ Run proceed (s, w) (answered ws ++ [none]) t ∧
      Run proceed (behindCount r n (grew || anyText ws), t.2) rs' y := by
  induction rs generalizing s w grew with
  | nil =>
    cases h
    exact .inl ⟨[], (s, w), rfl, .nil, rfl⟩
  | cons a rs ih =>
    cases h with
    | cons hp hr =>
      obtain ⟨v, t, ht, rfl, rfl⟩ | ⟨e, t, ht, rfl, rfl⟩ | ⟨t, ht, hp'⟩ :=
        exists_of_pullsTo_atCount hp
      · obtain ⟨ws, u, rfl, hu, hy⟩ | ⟨ws, e, k, u, rfl, hu, hy⟩ | ⟨ws, rs', u, hne, rfl, hu, hy⟩ :=
          ih hr
        · exact .inl ⟨v :: ws, u, rfl, .cons ht hu, hy⟩
        · exact .inr (.inl ⟨v :: ws, e, k, u, rfl, .cons ht hu, hy⟩)
        · refine .inr (.inr ⟨v :: ws, rs', u, hne, rfl, .cons ht hu, ?_⟩)
          rwa [Bool.or_assoc] at hy
      · obtain ⟨hrs, rfl⟩ := (run_iff_of_ended proceed_stopped).1 hr
        exact .inr (.inl ⟨[], e, rs.length, t, by rw [← hrs]; rfl, .cons ht .nil, rfl⟩)
      · refine .inr (.inr ⟨[], a :: rs, t, List.cons_ne_nil _ _, rfl, .cons ht .nil, ?_⟩)
        rw [anyText, List.any_nil, Bool.or_false]
        exact .cons hp' hr

theorem exists_unrolls_of_run (hr : r.segment = none) (hcounts : r.counts.toList = counts)
    (h : Run proceed (repeating r, w) rs y) :
    ∃ rest, Unrolls r.pattern r.body counts w rs y.2 rest := by
  induction counts generalizing r w rs with
  | nil =>
    obtain ⟨hrs, rfl⟩ := (run_iff_of_ended (proceed_repeating_of_nil hr hcounts)).1 h
    rw [hrs]
    exact ⟨[], .exhausted _⟩
  | cons n counts ih =>
    by_cases hrs : rs = []
    · subst hrs
      cases h
      exact ⟨n :: counts, .unasked⟩
    obtain ⟨c, hc, hskip⟩ := exists_proceed_repeating_of_cons hr hcounts w
    have hrun := (run_iff_of_skip hskip hrs).1 h
    obtain ⟨ws, t, rfl, ht, hy⟩ | ⟨ws, e, k, t, rfl, ht, hy⟩ | ⟨ws, rs', t, hne, rfl, ht, hrest⟩ :=
      exists_of_run_atCount hrun
    · refine ⟨counts, .within ⟨t.1, hy ▸ ht⟩ ?_⟩
      rintro rfl
      exact hrs rfl
    · exact ⟨counts, .failed k ⟨t.1, hy ▸ ht⟩⟩
    · rw [Bool.false_or, behindCount] at hrest
      split at hrest
      · next hstop =>
        obtain ⟨hnone, rfl⟩ := (run_iff_of_ended proceed_stopped).1 hrest
        obtain ⟨k, hk⟩ := Nat.exists_eq_succ_of_ne_zero (List.length_eq_zero_iff.not.2 hne)
        rw [hnone, hk]
        exact ⟨counts, .barren k ⟨t.1, ht⟩ hstop.1 (anyText_eq_false_iff.1 hstop.2)⟩
      · next hstop =>
        obtain ⟨rest, hu⟩ := ih (r := { r with counts := c, segment := none, grew := anyText ws })
          rfl hc hrest
        refine ⟨rest, .onward ⟨t.1, ht⟩ ?_ hne hu⟩
        rw [anyText_eq_false_iff] at hstop
        by_contra hnot
        push Not at hnot
        exact hstop ⟨Nat.pos_of_ne_zero hnot.1, hnot.2⟩

theorem run_atCount_of_none {rs' : List (Option Item)} (hne : rs' ≠ [])
    (h : Run proceed (s, w) (answered ws ++ [none]) x)
    (hrest : Run proceed (behindCount r n (grew || anyText ws), x.2) rs' y) :
    Run proceed (atCount r n s grew, w) (answered ws ++ rs') y := by
  obtain ⟨t, ht, hx⟩ := run_append_iff.1 h
  obtain ⟨a, rs', rfl⟩ := List.exists_cons_of_ne_nil hne
  refine run_append_iff.2 ⟨_, run_atCount_of_words ht, ?_⟩
  cases hx with
  | cons hp hnil =>
    cases hnil
    cases hrest with
    | cons hq hr => exact .cons (pullsTo_atCount_of_none hp hq) hr

theorem run_atCount_of_error {e : Obstacle}
    (h : Run proceed (s, w) (answered ws ++ [some (.error e)]) x) (k : ℕ) :
    ∃ t, Run proceed (atCount r n s grew, w)
      (answered ws ++ some (.error e) :: List.replicate k none) (t, x.2) := by
  obtain ⟨t, ht, hx⟩ := run_append_iff.1 h
  cases hx with
  | cons hp hnil =>
    cases hnil
    refine ⟨_, run_append_iff.2 ⟨_, run_atCount_of_words ht,
      .cons (pullsTo_atCount_of_error hp) ((run_iff_of_ended proceed_stopped).2 ⟨?_, rfl⟩)⟩⟩
    rw [List.length_replicate]

theorem exists_run_of_unrolls (h : Unrolls r.pattern r.body counts w rs w' rest)
    (hr : r.segment = none) (hcounts : r.counts.toList = counts) :
    ∃ t, Run proceed (repeating r, w) rs (t, w') := by
  generalize hp : r.pattern = p at h
  generalize hb : r.body = body at h
  induction h generalizing r with
  | unasked => exact ⟨_, .nil⟩
  | exhausted k =>
    refine ⟨_, (run_iff_of_ended (proceed_repeating_of_nil hr hcounts)).2 ⟨?_, rfl⟩⟩
    rw [List.length_replicate]
  | within h hne =>
    subst hp hb
    obtain ⟨t, ht⟩ := h
    obtain ⟨c, -, hskip⟩ := exists_proceed_repeating_of_cons hr hcounts _
    have hrs : answered _ ≠ [] := fun he ↦ hne (List.map_eq_nil_iff.1 he)
    exact ⟨_, (run_iff_of_skip hskip hrs).2 (run_atCount_of_words ht)⟩
  | failed k h =>
    subst hp hb
    obtain ⟨t, ht⟩ := h
    obtain ⟨c, -, hskip⟩ := exists_proceed_repeating_of_cons hr hcounts _
    obtain ⟨u, hu⟩ := run_atCount_of_error ht k
    exact ⟨u, (run_iff_of_skip hskip (by simp)).2 hu⟩
  | @barren n counts w w' ws k h hn hempty =>
    subst hp hb
    obtain ⟨t, ht⟩ := h
    obtain ⟨c, -, hskip⟩ := exists_proceed_repeating_of_cons hr hcounts _
    have hstop : 0 < n ∧ (false || anyText ws) = false :=
      ⟨hn, by rw [Bool.false_or, anyText_eq_false_iff.2 hempty]⟩
    have hend : proceed (behindCount { r with counts := c } n (false || anyText ws), w') =
        .ended := by
      rw [behindCount, if_pos hstop]
      exact proceed_stopped
    have hrest : Run proceed (behindCount { r with counts := c } n (false || anyText ws), w')
        (none :: List.replicate k none)
        (behindCount { r with counts := c } n (false || anyText ws), w') := by
      refine (run_iff_of_ended hend).2 ⟨?_, rfl⟩
      rw [List.length_cons, List.length_replicate, List.replicate_succ]
    exact ⟨_, (run_iff_of_skip hskip (by simp)).2
      (run_atCount_of_none (List.cons_ne_nil _ _) ht hrest)⟩
  | @onward n _ _ _ _ _ ws rs h hgrew hne hu ih =>
    subst hp hb
    obtain ⟨t, ht⟩ := h
    obtain ⟨c, hc, hskip⟩ := exists_proceed_repeating_of_cons hr hcounts _
    obtain ⟨u, hu⟩ := ih (r := { r with counts := c, segment := none, grew := anyText ws })
      rfl hc rfl rfl
    have hgoes : ¬(0 < n ∧ (false || anyText ws) = false) := by
      rintro ⟨hn, hempty⟩
      rw [Bool.false_or, anyText_eq_false_iff] at hempty
      obtain rfl | ⟨v, hv, hv'⟩ := hgrew
      · exact hn.false
      · exact hv' (hempty v hv)
    refine ⟨u, (run_iff_of_skip hskip (by simp [hne])).2 (run_atCount_of_none hne ht ?_)⟩
    rw [behindCount, if_neg hgoes]
    exact hu

theorem exists_run_repeating_iff (hr : r.segment = none) :
    (∃ t, Run proceed (repeating r, w) rs (t, w')) ↔
      ∃ rest, Unrolls r.pattern r.body r.counts.toList w rs w' rest := by
  constructor
  · rintro ⟨t, ht⟩
    exact exists_unrolls_of_run hr rfl ht
  · rintro ⟨rest, hu⟩
    exact exists_run_of_unrolls hu hr rfl

end Runs

section Ends

variable {is : List Item} {vs : List String}

theorem eq_of_run_none {x y : Listing × Workspace} (h : Lists proceed x is)
    (hr : Run proceed x (answered vs ++ [none]) y) : is = vs.map .ok := by
  induction vs generalizing x is with
  | nil =>
    cases hr with
    | cons hp _ =>
      obtain ⟨h0, -⟩ := Gives.tail h hp
      cases is with
      | nil => rfl
      | cons i is => cases h0
  | cons v vs ih =>
    cases hr with
    | cons hp hr =>
      obtain ⟨h0, ht⟩ := Gives.tail h hp
      cases is with
      | nil => cases h0
      | cons i is =>
        cases h0
        exact congrArg (_ :: ·) (ih ht hr)

theorem exists_mem_of_mem_run {x y : Listing × Workspace} {rs : List (Option Item)}
    (h : Lists proceed x (vs.map .ok)) (hr : Run proceed x rs y) {a : Option Item} (ha : a ∈ rs) :
    a = none ∨ ∃ v ∈ vs, a = some (.ok v) := by
  rw [Gives.eq_of_run h hr, List.mem_map] at ha
  obtain ⟨k, -, rfl⟩ := ha
  rw [List.getElem?_map]
  cases hk : vs[k]? with
  | none => exact .inl rfl
  | some v => exact .inr ⟨v, List.mem_of_getElem? hk, rfl⟩

end Ends

/-- A repetition visits its counts in order, each in a run that is started when the one before it
has ended. It stops early only behind an error, and behind a count above zero that has given no
letters: then no count above zero gives a word that this one has not given. A body that is finite
and gives letters has the words of every count. -/
theorem exists_run_iff_unrolls (s : Settings) (b : Bounds) (greedy : Bool) (p : Pattern) :
    (Counts.ofBounds s b).toList.Pairwise (· < ·) ∧
    (∀ w rs w', (∃ t, Run proceed (ofPattern s (.repetition b greedy p), w) rs (t, w')) ↔
      ∃ rest, Unrolls p (ofPattern s p) (Counts.ofBounds s b).toList w rs w' rest) ∧
    (∀ w k, ∃ rs x, rs.length = k ∧ Run proceed (ofPattern s (.repetition b greedy p), w) rs x) ∧
    (∀ n w x (ws : List String), 0 < n →
      Run proceed (power (ofPattern s p) n, w) (answered ws ++ [none]) x →
      (∀ v ∈ ws, v = "") →
      ∀ m w' rs y, 0 < m → Run proceed (power (ofPattern s p) m, w') rs y →
        ∀ a ∈ rs, a = none ∨ ∃ v ∈ ws, a = some (.ok v)) ∧
    ∀ w (ws : List String), Lists proceed (ofPattern s p, w) (ws.map .ok) → (∃ v ∈ ws, v ≠ "") →
      ∃ segment : ℕ → List String,
        (∀ n w', Lists proceed (power (ofPattern s p) n, w') ((segment n).map .ok)) ∧
        ∀ w', Lists proceed (ofPattern s (.repetition b greedy p), w')
          (((Counts.ofBounds s b).toList.flatMap segment).map .ok) := by
  refine ⟨Counts.pairwise_ofBounds s b, fun w rs w' ↦ exists_run_repeating_iff rfl,
    fun w k ↦ ?_, fun n w x ws hn hrun hempty m w' rs y hm hrun' a ha ↦ ?_,
    fun w ws hbody hne ↦ ⟨wordPower ws, fun n w' ↦ ?_, fun w' ↦ ?_⟩⟩
  · obtain ⟨x, hx⟩ := Gives.exists_run (gives_proceed_iff (w := w).2 (lists_ofPattern s _)) k
    exact ⟨_, x, by simp, hx⟩
  · have hpower (k : ℕ) (w : Workspace) :
        Lists proceed (power (ofPattern s p) k, w) (powered (items s p) k) :=
      gives_proceed_iff.2 (lists_power (lists_ofPattern s p) k)
    have hvs := eq_of_run_none (hpower n w) hrun
    obtain ⟨us, hus, hsub⟩ := exists_powered_eq_of_forall_eq hn hvs hempty hm
    obtain hnone | ⟨u, hu, hau⟩ := exists_mem_of_mem_run (hus ▸ hpower m w') hrun' ha
    · exact .inl hnone
    · exact .inr ⟨u, hsub u hu, hau⟩
  · rw [← powered_map_ok]
    exact gives_proceed_iff.2 (lists_power (gives_proceed_iff.1 hbody) n)
  · rw [← repetitions_of_exists_ne hne, ← repeated_map_ok]
    have hlists := lists_repeating (r := .start p (ofPattern s p) (.ofBounds s b))
      (gives_proceed_iff.1 hbody) rfl
    exact gives_proceed_iff.2 hlists

end Unrolling

/-- A body with nothing but two empty words, and a letter. -/
theorem exists_run_iff_unrolls_empties :
    (∃ x, Run proceed
      (power (ofPattern (.ofMode .examples) (.choice [.anchor .textStart, .anchor .textEnd])) 1,
        .empty) (answered ["", ""] ++ [none]) x) ∧
    (∀ w rs y, Run proceed
      (power (ofPattern (.ofMode .examples) (.choice [.anchor .textStart, .anchor .textEnd])) 8, w)
        rs y → ∀ a ∈ rs, a = none ∨ ∃ v ∈ ["", ""], a = some (.ok v)) ∧
    Lists proceed (ofPattern (.ofMode .examples) (.literal 'a'), .empty) (["a"].map .ok) ∧
    ∃ segment : ℕ → List String,
      (∀ n w, Lists proceed (power (ofPattern (.ofMode .examples) (.literal 'a')) n, w)
        ((segment n).map .ok)) ∧
      ∀ w, Lists proceed
        (ofPattern (.ofMode .examples) (.repetition ⟨3, some 9⟩ true (.literal 'a')), w)
        (((Counts.ofBounds (.ofMode .examples) ⟨3, some 9⟩).toList.flatMap segment).map .ok) := by
  have hitems : powered (items (.ofMode .examples)
      (.choice [.anchor .textStart, .anchor .textEnd])) 1 = ["", ""].map .ok :=
    copies_one.trans (by decide)
  have hempties : Lists proceed
      (power (ofPattern (.ofMode .examples) (.choice [.anchor .textStart, .anchor .textEnd])) 1,
        .empty) (["", ""].map .ok) :=
    hitems ▸ gives_proceed_iff.2 (lists_power (lists_ofPattern _ _) 1)
  obtain ⟨x, hx⟩ := Gives.exists_run hempties 3
  have hletter : Lists proceed (ofPattern (.ofMode .examples) (.literal 'a'), .empty)
      (["a"].map .ok) := gives_proceed_iff.2 (lists_words ["a"])
  obtain ⟨-, -, -, hbarren, -⟩ := exists_run_iff_unrolls (.ofMode .examples) ⟨1, none⟩ true
    (.choice [.anchor .textStart, .anchor .textEnd])
  obtain ⟨-, -, -, -, hall⟩ := exists_run_iff_unrolls (.ofMode .examples) ⟨3, some 9⟩ true
    (.literal 'a')
  refine ⟨⟨x, hx⟩, fun w rs y ↦ ?_, hletter, hall _ _ hletter ⟨"a", by decide⟩⟩
  exact hbarren 1 .empty x ["", ""] (by decide) hx (by decide) 8 w rs y (by decide)

end Listing

end RegexWords
