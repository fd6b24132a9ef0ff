import RegexWords.CharSet.ClassText
import RegexWords.Proofs.Listing.Failing
import RegexWords.Proofs.Listing.Liveliness
import RegexWords.Proofs.Listing.Soundness
import RegexWords.Proofs.Pattern.Reach

namespace RegexWords

namespace Interval

open Text

theorem isSome_nearest? (first : ℕ) {last : Char} {point : ℕ} (h : point ≤ last.toNat) :
    (nearest? first last.toNat point).isSome := by
  unfold nearest?
  cases hs : scalar? point with
  | some c => rfl
  | none =>
    have habove : above ≤ last.toNat := by
      have hvalid : last.toNat.isValidChar := last.valid
      obtain ⟨hbelow, -⟩ := surrogate_of_scalar?_eq_none hs h
      simp only [Nat.isValidChar, below, above] at hvalid hbelow ⊢
      omega
    simp only [beside?, if_pos habove]
    split <;> rfl

theorem dedup_ne_nil {cs : List Char} (h : cs ≠ []) : dedup cs ≠ [] := by
  fun_induction dedup cs with
  | case1 c cs ih => exact ih (List.cons_ne_nil c cs)
  | case2 => exact List.cons_ne_nil _ _
  | case3 => exact h

theorem samples_ne_nil {first last : Char} (h : first ≤ last) : samples first last ≠ [] := by
  obtain ⟨point, hpoint⟩ : ∃ point, point ∈ quarterPoints first.toNat last.toNat :=
    ⟨_, List.mem_cons_self⟩
  have hlast := (quarterPoints_between (Char.le_def.1 h) hpoint).2
  obtain ⟨c, hc⟩ := Option.isSome_iff_exists.1 (isSome_nearest? first.toNat hlast)
  exact dedup_ne_nil (List.ne_nil_of_mem (List.mem_filterMap.2 ⟨point, hpoint, hc⟩))

end Interval

namespace Counts

theorem pairwise_doublings (last n : ℕ) : (doublings last n).Pairwise (· < ·) := by
  induction n using doublings.induct last with
  | case1 n ih =>
    rw [doublings, List.pairwise_cons]
    split
    · next hle =>
      refine ⟨fun k hk ↦ ?_, ih hle⟩
      exact (lt_doubled n).trans_le (le_of_mem_doublings hk).1
    · exact ⟨fun _ hk ↦ absurd hk List.not_mem_nil, .nil⟩

theorem pairwise_ofBounds (s : Settings) (b : Bounds) :
    (ofBounds s b).toList.Pairwise (· < ·) := by
  unfold ofBounds
  cases s.mode with
  | exhaustive => exact List.pairwise_lt_range'
  | examples => exact pairwise_doublings _ _

theorem ofBounds_ne_nil {s : Settings} {b : Bounds} (hb : b.inOrder)
    (hle : b.least ≤ s.greatestCount) : (ofBounds s b).toList ≠ [] := by
  unfold ofBounds
  cases s.mode with
  | exhaustive =>
    have hlast : b.least ≤ b.most.getD s.greatestCount := by
      cases hmost : b.most with
      | none => exact hle
      | some m => simpa [Bounds.inOrder, hmost] using hb
    simp only [toList, ne_eq, List.range'_eq_nil_iff]
    omega
  | examples =>
    simp only [toList]
    rw [doublings]
    exact List.cons_ne_nil _ _

end Counts

namespace Listing

section Repeating

variable [Compiler] {r : Repetition Listing} {count : ℕ} {s t : Listing} {is : List Incident}

/-- A repetition whose counts grow and whose body gives something. -/
structure IsGrowing (r : Repetition Listing) : Prop where
  body : IsFruitful r.body
  counts : r.counts.toList.Pairwise (· < ·)
  segment : ∀ count s, r.segment = some (count, s) → IsLively s ∧ ∀ n ∈ r.counts.toList, count < n

def IsGrowingRepetition (l : Listing) : Prop := ∃ r, l = repeating r ∧ IsGrowing r

theorem frames_repeating (r : Repetition Listing) (count : ℕ) :
    Frames count fun s ↦ repeating { r with segment := some (count, s) } where
  incidents _ := rfl
  skip hs := by
    rw [reply_repeating_of_segment _ rfl, hs]
    rfl

theorem exists_asks_item {item : Item} (hbody : IsFruitful r.body)
    (hcounts : r.counts.toList.Pairwise (· < ·)) (hcount : ∀ n ∈ r.counts.toList, count < n)
    (hs : Asks Set.univ IsLively s is (some (item, t))) :
    ∃ r', Asks {count} IsGrowingRepetition (repeating { r with segment := some (count, s) })
      (is.map (.within count) ++ [.answered []]) r' ∧ r' ≠ none := by
  cases item with
  | ok w =>
    have hlast (s : Listing) (hs : s.reply = .yield (.ok w) t) :
        (repeating { r with segment := some (count, s) }).reply =
          Step.ofPull (some (.ok w, repeating
            { r with segment := some (count, t), grew := r.grew || !w.isEmpty })) := by
      rw [reply_repeating_of_segment _ rfl, hs]
      rfl
    refine ⟨_, hs.frame_answer (frames_repeating r count) hlast fun hr ↦ ?_, fun hr ↦ nomatch hr⟩
    cases hr
    refine ⟨_, rfl, hbody, hcounts, ?_⟩
    rintro _ _ ⟨⟩
    exact ⟨hs.next rfl, hcount⟩
  | error e =>
    have hlast (s : Listing) (hs : s.reply = .yield (.error e) t) :
        (repeating { r with segment := some (count, s) }).reply =
          Step.ofPull (some (.error e, repeating r.stop)) := by
      rw [reply_repeating_of_segment _ rfl, hs]
      rfl
    exact ⟨_, hs.frame_answer (frames_repeating r count) hlast fun hr ↦ (nomatch hr),
      fun hr ↦ nomatch hr⟩

theorem incidents_repeating_of_none (h : r.segment = none) :
    (repeating r).incidents =
      (if r.counts.next?.isSome then [.started []] else []) ++ (repeating r).ownAnswer := by
  obtain ⟨pattern, body, counts, segment, grew⟩ := r
  subst h
  rfl

theorem exists_asks_start (hbody : IsFruitful r.body)
    (hcounts : r.counts.toList.Pairwise (· < ·)) (h : r.segment = none) :
    ∃ is r', Asks {n | n ∈ r.counts.toList} IsGrowingRepetition (repeating r) is r' ∧
      (r' = none → r.counts.toList = []) := by
  have hreply := reply_repeating_of_none r h
  have hincidents := incidents_repeating_of_none h
  rw [Counts.toList_eq] at hcounts ⊢
  cases hnext : r.counts.next? with
  | none =>
    rw [hnext] at hreply hincidents
    exact ⟨_, none, .leaf hincidents hreply fun hr ↦ (nomatch hr), fun _ ↦ rfl⟩
  | some x =>
    obtain ⟨count, counts⟩ := x
    rw [hnext] at hreply hincidents hcounts
    obtain ⟨hcount, hcounts⟩ := List.pairwise_cons.1 hcounts
    have hfruitful := isFruitful_power hbody count
    obtain ⟨is, item, hasks⟩ := hfruitful.1.pull
    cases item with
    | none => exact absurd hasks.traces.pulls hfruitful.2
    | some x =>
      obtain ⟨item, t⟩ := x
      obtain ⟨r', hitem, hne⟩ := exists_asks_item (r := { r with counts, grew := false })
        hbody hcounts hcount hasks
      have hstarted : (repeating r).incidents = [.started []] := by
        rw [hincidents, ownAnswer_of_skip hreply]
        rfl
      have htraces := Traces.skip hreply hitem.traces
      rw [hstarted, List.singleton_append] at htraces
      refine ⟨_, r', ⟨htraces, ?_, ?_, hitem.next⟩, fun hr ↦ absurd hr hne⟩
      · refine List.nodup_cons.2 ⟨fun hmem ↦ ?_, hitem.nodup⟩
        rcases List.mem_append.1 hmem with hmem | hmem
        · obtain ⟨i, -, hi⟩ := List.mem_map.1 hmem
          exact Incident.within_ne_started hi
        · cases List.mem_singleton.1 hmem
      · intro k i hi
        rcases List.mem_cons.1 hi with hi | hi
        · exact absurd hi Incident.within_ne_started
        · cases hitem.mem_of_within_mem hi
          exact List.mem_cons_self

/-- Behind a segment the repetition has stopped or its next count is due. -/
theorem IsGrowing.exists_rest (h : IsGrowing r) (count : ℕ) :
    ∃ rest : Repetition Listing, rest.segment = none ∧ IsFruitful rest.body ∧
      rest.counts.toList.Pairwise (· < ·) ∧ rest.counts.toList ⊆ r.counts.toList ∧
      ∀ s : Listing, s.reply = .ended →
        (repeating { r with segment := some (count, s) }).reply = .skip (repeating rest) := by
  have hreply (s : Listing) (hs : s.reply = .ended) :
      (repeating { r with segment := some (count, s) }).reply =
        Step.mapState repeating (if 0 < count ∧ r.grew = false then .skip r.stop
          else .skip { r with segment := none }) := by
    rw [reply_repeating_of_segment _ rfl, hs]
    rfl
  by_cases hstop : 0 < count ∧ r.grew = false
  · refine ⟨r.stop, rfl, h.body, .nil, List.nil_subset _, fun s hs ↦ ?_⟩
    rw [hreply s hs, if_pos hstop]
    rfl
  · refine ⟨{ r with segment := none }, rfl, h.body, h.counts, List.Subset.refl _, fun s hs ↦ ?_⟩
    rw [hreply s hs, if_neg hstop]
    rfl

theorem IsGrowing.exists_asks (h : IsGrowing r) :
    ∃ is r', Asks Set.univ IsGrowingRepetition (repeating r) is r' := by
  cases hsegment : r.segment with
  | none =>
    obtain ⟨is, r', hasks, -⟩ := exists_asks_start h.body h.counts hsegment
    exact ⟨is, r', hasks.mono (Set.subset_univ _)⟩
  | some x =>
    obtain ⟨count, s⟩ := x
    obtain ⟨hs, hcount⟩ := h.segment count s hsegment
    have hrepeating : repeating r = repeating { r with segment := some (count, s) } := by
      rw [← hsegment]
    obtain ⟨is, item, hasks⟩ := hs.pull
    rw [hrepeating]
    cases item with
    | some x =>
      obtain ⟨item, t⟩ := x
      obtain ⟨r', hitem, -⟩ := exists_asks_item h.body h.counts hcount hasks
      exact ⟨_, r', hitem.mono (Set.subset_univ _)⟩
    | none =>
      obtain ⟨rest, hrest, hbody, hcounts, hsub, hlast⟩ := h.exists_rest count
      obtain ⟨js, r', hjs, -⟩ := exists_asks_start hbody hcounts hrest
      have hcount : count ∉ {n | n ∈ rest.counts.toList} :=
        fun hmem ↦ Nat.lt_irrefl _ (hcount _ (hsub hmem))
      have hwhole := hasks.frame_skip (frames_repeating r count) hcount hlast hjs
      exact ⟨_, r', hwhole.mono (Set.subset_univ _)⟩

theorem isLively_repeating (h : IsGrowing r) : IsLively (repeating r) := by
  refine ⟨IsGrowingRepetition, ⟨r, rfl, h⟩, ?_⟩
  rintro _ ⟨r, rfl, h⟩
  exact h.exists_asks

theorem isFruitful_repeating {p : Pattern} {body : Listing} {counts : Counts}
    (hbody : IsFruitful body) (hcounts : counts.toList.Pairwise (· < ·))
    (hne : counts.toList ≠ []) : IsFruitful (repeating (.start p body counts)) := by
  refine ⟨isLively_repeating ⟨hbody, hcounts, fun _ _ h ↦ nomatch h⟩, fun hp ↦ ?_⟩
  obtain ⟨is, r', hasks, hnone⟩ := exists_asks_start (r := .start p body counts) hbody hcounts rfl
  exact hne (hnone (hasks.traces.pulls.unique hp))

end Repeating

section Patterns

variable [Compiler] {s : Settings} {p : Pattern}

theorem isFruitful_ofRange {first last : Char} (h : first ≤ last) :
    IsFruitful (ofRange s first last) := by
  unfold ofRange
  cases s.mode with
  | exhaustive => exact isFruitful_interval h
  | examples => exact isFruitful_characters (Interval.samples_ne_nil h)

theorem isFruitful_ofAnchor (a : Anchor) : IsFruitful (ofAnchor a) := by
  cases a with
  | textStart | textEnd => exact isFruitful_words (List.cons_ne_nil _ _)
  | wordBoundary | notWordBoundary => exact isFruitful_failing _

theorem isFruitful_ofShorthand (hs : s.alphabets.isFull) (tag : Char) :
    IsFruitful (ofShorthand s tag) := by
  obtain ⟨-, hspace, hword, hdigit⟩ := Alphabets.isFull_iff.1 hs
  unfold ofShorthand
  split
  · exact isFruitful_characters hdigit
  · exact isFruitful_characters hword
  · exact isFruitful_characters hspace
  · exact isFruitful_sampling _ _

theorem isFruitful_ofGroup {kind : GroupKind} {body : List Listing} (h : ∀ l ∈ body, IsFruitful l) :
    IsFruitful (ofGroup kind body) := by
  cases kind with
  | capturing | plain => exact isFruitful_concatenation h
  | lookahead | negativeLookahead | lookbehind | negativeLookbehind => exact isFruitful_failing _

theorem isFruitful_ofPattern (hs : s.alphabets.isFull)
    (hp : ∀ q ∈ p.nodes, q.isOrdered ∧ q.isInhabited ∧ q.isWithin s.greatestCount) :
    IsFruitful (ofPattern s p) := by
  have hparts {ps : List Pattern} (ih : ∀ p ∈ ps, (∀ q ∈ p.nodes,
      q.isOrdered ∧ q.isInhabited ∧ q.isWithin s.greatestCount) → IsFruitful (ofPattern s p))
      (hps : ∀ p ∈ ps, ∀ q ∈ p.nodes, q.isOrdered ∧ q.isInhabited ∧ q.isWithin s.greatestCount) :
      ∀ l ∈ ofPatterns s ps, IsFruitful l := by
    rw [ofPatterns_eq_map]
    intro l hl
    obtain ⟨p, hmem, rfl⟩ := List.mem_map.1 hl
    exact ih p hmem (hps p hmem)
  induction p with
  | sequence ps ih => exact isFruitful_concatenation (hparts ih (Pattern.forall_mem_nodes.1 hp).2)
  | choice ps ih =>
    obtain ⟨⟨-, hinhabited, -⟩, hps⟩ := Pattern.forall_mem_nodes.1 hp
    refine isFruitful_choice ?_ (hparts ih hps)
    rw [ofPatterns_eq_map]
    simpa [Pattern.isInhabited] using hinhabited
  | anchor x => exact isFruitful_ofAnchor x
  | group kind ps ih => exact isFruitful_ofGroup (hparts ih (Pattern.forall_mem_nodes.1 hp).2)
  | repetition b greedy p ih =>
    obtain ⟨⟨hordered, -, hwithin⟩, hbody⟩ := Pattern.forall_mem_nodes.1 hp
    have hle : b.least ≤ s.greatestCount := by simpa [Pattern.isWithin] using hwithin
    exact isFruitful_repeating (ih (hbody p (List.mem_singleton_self p)))
      (Counts.pairwise_ofBounds s b) (Counts.ofBounds_ne_nil hordered hle)
  | literal c => exact isFruitful_words (List.cons_ne_nil _ _)
  | range first last =>
    exact isFruitful_ofRange (of_decide_eq_true (Pattern.forall_mem_nodes.1 hp).1.1)
  | shorthand tag => exact isFruitful_ofShorthand hs tag
  | bracket ps negated text ih =>
    obtain ⟨⟨-, hinhabited, -⟩, hps⟩ := Pattern.forall_mem_nodes.1 hp
    cases negated with
    | false =>
      refine isFruitful_choice ?_ (hparts ih hps)
      rw [ofPatterns_eq_map]
      simpa [Pattern.isInhabited] using hinhabited
    | true => exact isFruitful_sampling _ _
  | anyCharacter => exact isFruitful_characters (Alphabets.isFull_iff.1 hs).1
  | reference id => exact isFruitful_failing _

end Patterns

section Runs

variable [Compiler] {l t : Listing} {x y : Listing × Workspace}

theorem IsLively.of_yield {w : String} (h : IsLively l) (hl : l.reply = .yield (.ok w) t) :
    IsLively t := by
  obtain ⟨is, r, hasks⟩ := h.pull
  cases hasks.traces.pulls.unique (.yield hl)
  exact hasks.next rfl

/-- A pull can be broken off and taken up again. -/
theorem IsLively.of_skip (h : IsLively l) (hl : l.reply = .skip t) : IsLively t := by
  obtain ⟨is, r, hasks⟩ := h.pull
  cases hasks.traces with
  | answer ha =>
    rw [hl] at ha
    cases r <;> cases ha
  | skip hskip hrest =>
    rw [hl] at hskip
    cases hskip
    exact isLively_of_asks ⟨hrest, hasks.nodup.of_append_right, fun _ ↦ trivial, hasks.next⟩

theorem IsLively.of_pullsTo {r : Option Item} (hx : IsLively x.1) (h : PullsTo advance x r y) :
    IsLively y.1 := by
  induction h with
  | ended => exact hx
  | @yield x y item hs =>
    have hfused := advance_mapState x
    rw [hs, fused] at hfused
    cases hreply : x.1.reply with
    | ended | skip => rw [hreply] at hfused; cases hfused
    | yield item' t =>
      rw [hreply] at hfused
      cases item' with
      | ok w =>
        obtain ⟨-, ht⟩ := Step.yield.inj hfused
        exact ht ▸ hx.of_yield hreply
      | error e =>
        obtain ⟨-, ht⟩ := Step.yield.inj hfused
        exact ht ▸ isLively_words []
  | @skip x y z r hs _ ih =>
    have hfused := advance_mapState x
    rw [hs, fused] at hfused
    cases hreply : x.1.reply with
    | ended => rw [hreply] at hfused; cases hfused
    | yield item t => rw [hreply] at hfused; cases item <;> cases hfused
    | skip t =>
      rw [hreply] at hfused
      exact ih (Step.skip.inj hfused ▸ hx.of_skip hreply)

theorem IsLively.of_run {rs : List (Option Item)} (hx : IsLively x.1) (h : Run advance x rs y) :
    IsLively y.1 := by
  induction h with
  | nil => exact hx
  | cons hp _ ih => exact ih (hx.of_pullsTo hp)

end Runs

section Productive

variable [Compiler] {s : Settings} {p : Pattern} {rs : List (Option Item)} {t : Listing}
  {w w' : Workspace}

/-- Whatever pulls were made of the listing of a pattern, the next one asks no part twice, starts no
two segments of one repetition and comes to an answer, and the very first one gives an item. Each
bound, choice and set of the pattern has to leave something to list. -/
theorem exists_nodup_incidentsIn (hs : s.alphabets.isFull)
    (hp : ∀ q ∈ p.nodes, q.isOrdered ∧ q.isInhabited ∧ q.isWithin s.greatestCount)
    (h : Run advance (ofPattern s p, w) rs (t, w')) :
    ∃ is r, is.Nodup ∧
      (∃ least, ∀ fuel ≥ least, t.incidentsIn fuel = is ∧ (t.next fuel w').1 = Step.ofPull r) ∧
      (rs = [] → r ≠ none) := by
  have hfruitful := isFruitful_ofPattern hs hp
  obtain ⟨is, r, hasks⟩ := (hfruitful.1.of_run h).pull
  obtain ⟨least, hincidents⟩ := hasks.traces.exists_fuel
  obtain ⟨least', hpull⟩ := hasks.traces.pulls.exists_fuel
  refine ⟨is, leave r, hasks.nodup, ⟨max least least', fun fuel hf ↦ ⟨?_, ?_⟩⟩, ?_⟩
  · exact hincidents fuel (by omega)
  · rw [next_fst, hpull fuel (by omega), endAfterError_ofPull]
  · rintro rfl hr
    cases h
    exact hfruitful.2 (leave_eq_none hr ▸ hasks.traces.pulls)

end Productive

/-- A loop in a loop. Each of its rounds can give the empty word. -/
def starOfChoice : Pattern :=
  .repetition ⟨0, none⟩ true
    (.choice [.repetition ⟨0, none⟩ true (.literal 'a'), .sequence [.literal 'b', .literal 'c']])

theorem exists_nodup_incidentsIn_starOfChoice :
    (Settings.ofMode .exhaustive).alphabets.isFull ∧
    (∀ q ∈ starOfChoice.nodes, q.isOrdered ∧ q.isInhabited ∧
      q.isWithin (Settings.ofMode .exhaustive).greatestCount) ∧
    ∃ rs t w', rs.length = 3 ∧
      Run advance (ofPattern (.ofMode .exhaustive) starOfChoice, .empty) rs (t, w') ∧
      ∃ is r, is.Nodup ∧
        (∃ least, ∀ fuel ≥ least, t.incidentsIn fuel = is ∧ (t.next fuel w').1 = Step.ofPull r) ∧
        (rs = [] → r ≠ none) := by
  have hfull : (Settings.ofMode .exhaustive).alphabets.isFull := by decide
  have hnodes : ∀ q ∈ starOfChoice.nodes, q.isOrdered ∧ q.isInhabited ∧
      q.isWithin (Settings.ofMode .exhaustive).greatestCount := by decide
  obtain ⟨⟨t, w'⟩, hrun⟩ :=
    Gives.exists_run (lists_advance (lists_ofPattern (.ofMode .exhaustive) starOfChoice) .empty) 3
  exact ⟨hfull, hnodes, _, t, w', by simp, hrun, exists_nodup_incidentsIn hfull hnodes hrun⟩

end Listing

end RegexWords
