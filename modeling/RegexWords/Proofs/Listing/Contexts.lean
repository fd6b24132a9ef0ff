import RegexWords.CharSet.ClassText
import RegexWords.Proofs.Listing.Evaluation
import RegexWords.Proofs.Listing.Failing
import RegexWords.Proofs.Sequence.Foretelling

namespace RegexWords

namespace Pattern

/-- A pattern around a hole. -/
inductive Frame where
  | sequence (before after : List Pattern)
  | choice (before after : List Pattern)
  | group (kind : GroupKind) (before after : List Pattern)
  | repetition (bounds : Bounds) (greedy : Bool)
  | bracket (before after : List Pattern) (negated : Bool) (text : String)

def Frame.fill : Frame → Pattern → Pattern
  | sequence before after, p => .sequence (before ++ p :: after)
  | choice before after, p => .choice (before ++ p :: after)
  | group kind before after, p => .group kind (before ++ p :: after)
  | repetition bounds greedy, p => .repetition bounds greedy p
  | bracket before after negated text, p => .bracket (before ++ p :: after) negated text

def plug (frames : List Frame) (p : Pattern) : Pattern :=
  frames.foldr Frame.fill p

end Pattern

open Pattern

namespace Foretells

variable {lists lists' : List (List Listing.Item)} {is js : List Listing.Item}

theorem joined (h : List.Forall₂ Foretells lists lists') :
    Foretells (Listing.joined lists) (Listing.joined lists') :=
  (product h).map String.join

theorem powered (h : Foretells is js) (n : ℕ) :
    Foretells (Listing.powered is n) (Listing.powered js n) := by
  refine copies_rel (refl _) h ?_ n
  intro _ _ _ _ has hbs
  exact .joined (.cons has (.cons hbs .nil))

theorem segment {rest rest' : List Listing.Item} (h : Foretells is js)
    (hrest : Foretells rest rest') (n : ℕ) (grew : Bool) :
    Foretells (Listing.segment n grew rest is) (Listing.segment n grew rest' js) := by
  induction h generalizing grew with
  | nil =>
    rw [Listing.segment, Listing.segment]
    split
    · exact .nil
    · exact hrest
  | ok _ ih => exact .ok (ih _)
  | error => exact .error

theorem repeated (h : Foretells is js) (counts : List ℕ) :
    Foretells (Listing.repeated is counts) (Listing.repeated js counts) := by
  induction counts with
  | nil => exact .nil
  | cons n counts ih => exact (h.powered n).segment ih n false

end Foretells

namespace Listing

section Patterns

variable [Compiler] {s : Settings} {p q : Pattern}

theorem forall₂_foretells (h : Foretells (items s p) (items s q)) (before after : List Pattern) :
    List.Forall₂ Foretells ((before ++ p :: after).map (items s))
      ((before ++ q :: after).map (items s)) := by
  have hrefl (ps : List Pattern) : List.Forall₂ Foretells (ps.map (items s)) (ps.map (items s)) :=
    List.forall₂_same.2 fun _ _ ↦ .refl _
  rw [List.map_append, List.map_append]
  exact List.rel_append (hrefl before) (.cons h (hrefl after))

theorem foretells_fill (h : Foretells (items s p) (items s q)) (f : Frame) :
    Foretells (items s (f.fill p)) (items s (f.fill q)) := by
  cases f with
  | sequence before after =>
    rw [Frame.fill, Frame.fill, items_sequence, items_sequence]
    exact .joined (forall₂_foretells h before after)
  | choice before after =>
    rw [Frame.fill, Frame.fill, items_choice, items_choice]
    exact .roundRobin (forall₂_foretells h before after)
  | group kind before after =>
    rw [Frame.fill, Frame.fill, items_group, items_group]
    split
    · exact .joined (forall₂_foretells h before after)
    · exact .refl _
  | repetition bounds greedy => exact h.repeated _
  | bracket before after negated text =>
    cases negated with
    | false =>
      rw [Frame.fill, Frame.fill, items_bracket, items_bracket]
      exact .roundRobin (forall₂_foretells h before after)
    | true => exact .refl _

theorem foretells_plug (h : Foretells (items s p) (items s q)) (frames : List Frame) :
    Foretells (items s (plug frames p)) (items s (plug frames q)) := by
  induction frames with
  | nil => exact h
  | cons f frames ih => exact foretells_fill ih f

theorem exists_run_of_foretells (h : Foretells (items s p) (items s q)) {w : Workspace}
    {rs : List (Option Item)} {t : Listing × Workspace}
    (hr : Run advance (ofPattern s p, w) rs t) (hrs : ∀ e, some (.error e) ∉ rs) (w' : Workspace) :
    ∃ t', Run advance (ofPattern s q, w') rs t' := by
  have heq := (exists_run_iff (lists_ofPattern s p) w rs).1 ⟨t, hr⟩
  rw [exists_run_iff (lists_ofPattern s q)]
  refine heq.trans (List.map_congr_left fun j hj ↦ ?_)
  refine (h.upToError.getElem? fun k hk e he ↦ hrs e ?_).symm
  rw [heq, List.mem_map]
  rw [List.mem_range] at hj
  exact ⟨k, List.mem_range.2 (by omega), he⟩

/-- Whatever stands in the place of a part that cannot be listed, the answers before the error are
the same. -/
theorem exists_run_plug {f : Pattern} (hf : f.isListable s.alphabets = false) (frames : List Frame)
    {w : Workspace} {rs : List (Option Item)} {t : Listing × Workspace}
    (hr : Run advance (ofPattern s (plug frames f), w) rs t) (hrs : ∀ e, some (.error e) ∉ rs)
    (u : Pattern) (w' : Workspace) :
    ∃ t', Run advance (ofPattern s (plug frames u), w') rs t' := by
  obtain ⟨e, he⟩ := items_of_isListable_eq_false hf
  have hfails : Foretells (items s f) (items s u) := by
    rw [he]
    exact .error
  exact exists_run_of_foretells (foretells_plug hfails frames) hr hrs w'

end Patterns

def lateHole : List Frame :=
  [.choice [.bracket [.literal 'a', .literal 'b', .literal 'c'] false "[abc]"] [],
    .repetition ⟨0, some 2⟩ true]

/-- The first error stops a repetition, so no count behind it is reached. -/
theorem evaluate_lateHole :
    evaluate (.ofMode .exhaustive) (plug lateHole (.anchor .wordBoundary)) =
      [.ok "a", .ok "", .ok "b", .error (.anchor .wordBoundary)] := by
  have hrepetition : evaluate (.ofMode .exhaustive)
      (.repetition ⟨0, some 2⟩ true (.anchor .wordBoundary)) =
        [.ok "", .error (.anchor .wordBoundary)] := by
    have hcounts : (⟨0, some 2⟩ : Bounds).counts (Settings.ofMode .exhaustive).greatestCount =
        [0, 1, 2] := rfl
    rw [evaluate, hcounts, appended, powered, copies_zero, appended, powered, copies_one]
    rfl
  have hchoice : evaluate (.ofMode .exhaustive) (plug lateHole (.anchor .wordBoundary)) =
      upToError (roundRobin [[.ok "a", .ok "b", .ok "c"], evaluate (.ofMode .exhaustive)
        (.repetition ⟨0, some 2⟩ true (.anchor .wordBoundary))]) := rfl
  rw [hchoice, hrepetition]
  rfl

theorem exists_run_plug_lateHole :
    (anchor .wordBoundary).isListable (Settings.ofMode .exhaustive).alphabets = false ∧
    (∃ t, Run advance
      (ofPattern (.ofMode .exhaustive) (plug lateHole (.anchor .wordBoundary)), .empty)
      [some (.ok "a"), some (.ok ""), some (.ok "b")] t) ∧
    (∀ e : Obstacle, some (Except.error e) ∉ [some (.ok "a"), some (.ok ""), some (.ok "b")]) ∧
    ∃ t, Run advance (ofPattern (.ofMode .exhaustive) (plug lateHole (.literal 'y')), .empty)
      [some (.ok "a"), some (.ok ""), some (.ok "b")] t := by
  have hrun : ∃ t, Run advance
      (ofPattern (.ofMode .exhaustive) (plug lateHole (.anchor .wordBoundary)), .empty)
      [some (.ok "a"), some (.ok ""), some (.ok "b")] t := by
    rw [exists_run_iff (lists_ofPattern _ _), upToError_items rfl, evaluate_lateHole]
    rfl
  have hrs : ∀ e : Obstacle,
      some (Except.error e) ∉ [some (.ok "a"), some (.ok ""), some (.ok "b")] := by
    intro e
    simp
  obtain ⟨t, ht⟩ := hrun
  exact ⟨rfl, ⟨t, ht⟩, hrs, exists_run_plug rfl lateHole ht hrs (.literal 'y') .empty⟩

end Listing

end RegexWords
