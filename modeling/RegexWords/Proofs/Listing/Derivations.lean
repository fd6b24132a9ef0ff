import RegexWords.CharSet.ClassText
import RegexWords.Proofs.Listing.Enumerations
import RegexWords.Proofs.Listing.Taking

namespace RegexWords

/-- How a word comes from a pattern. -/
inductive Derivation where
  /-- The character with a number among those of a set. -/
  | letter (k : ℕ)
  /-- The branch with a number. -/
  | member (i : ℕ) (d : Derivation)
  /-- One behind the other, for a sequence or a repetition. -/
  | parts (ds : List Derivation)

namespace Pattern

variable [Compiler]

/-- The derivations of a pattern with their words. A repetition stops at `greatest` when it names no
most, and when its body has no word but the empty one it stops at the first count above zero. -/
inductive Derives (a : Alphabets) (greatest : ℕ) : Pattern → Derivation → String → Prop
  | letter {p : Pattern} {k : ℕ} {w : String} :
      (p.leafWords a)[k]? = some w → Derives a greatest p (.letter k) w
  | sequence {ps : List Pattern} {xs : List (Derivation × String)} :
      List.Forall₂ (fun p x ↦ Derives a greatest p x.1 x.2) ps xs →
      Derives a greatest (.sequence ps) (.parts (xs.map Prod.fst)) (String.join (xs.map Prod.snd))
  | group {kind : GroupKind} {ps : List Pattern} {xs : List (Derivation × String)} :
      kind.isPlain → List.Forall₂ (fun p x ↦ Derives a greatest p x.1 x.2) ps xs →
      Derives a greatest (.group kind ps) (.parts (xs.map Prod.fst))
        (String.join (xs.map Prod.snd))
  | choice {ps : List Pattern} {i : ℕ} {p : Pattern} {d : Derivation} {w : String} :
      ps[i]? = some p → Derives a greatest p d w →
      Derives a greatest (.choice ps) (.member i d) w
  | bracket {ps : List Pattern} {text : String} {i : ℕ} {p : Pattern} {d : Derivation}
      {w : String} :
      ps[i]? = some p → Derives a greatest p d w →
      Derives a greatest (.bracket ps false text) (.member i d) w
  | repetition {b : Bounds} {greedy : Bool} {p : Pattern} {xs : List (Derivation × String)} :
      (∀ x ∈ xs, Derives a greatest p x.1 x.2) → b.least ≤ xs.length →
      xs.length ≤ b.most.getD greatest → xs.length ≤ max b.least 1 →
      Derives a greatest (.repetition b greedy p) (.parts (xs.map Prod.fst))
        (String.join (xs.map Prod.snd))
  | longRepetition {b : Bounds} {greedy : Bool} {p : Pattern} {xs : List (Derivation × String)}
      {d : Derivation} {w : String} :
      (∀ x ∈ xs, Derives a greatest p x.1 x.2) → b.least ≤ xs.length →
      xs.length ≤ b.most.getD greatest → Derives a greatest p d w → w ≠ "" →
      Derives a greatest (.repetition b greedy p) (.parts (xs.map Prod.fst))
        (String.join (xs.map Prod.snd))

variable {a : Alphabets} {greatest : ℕ} {d : Derivation} {w : String}

theorem parts_derives_iff {ps : List Pattern} {ds : List Derivation} :
    Parts (ps.map (Derives a greatest)) ds w ↔
      ∃ xs : List (Derivation × String),
        List.Forall₂ (fun p x ↦ Derives a greatest p x.1 x.2) ps xs ∧
        ds = xs.map Prod.fst ∧ w = String.join (xs.map Prod.snd) := by
  simp only [Parts, List.forall₂_map_left_iff]

theorem derives_sequence_iff {ps : List Pattern} :
    Derives a greatest (.sequence ps) d w ↔
      ∃ ds, .parts ds = d ∧ Parts (ps.map (Derives a greatest)) ds w := by
  simp only [parts_derives_iff]
  constructor
  · intro h
    cases h with
    | letter h => cases h
    | sequence h => exact ⟨_, rfl, _, h, rfl, rfl⟩
  · rintro ⟨_, rfl, xs, h, rfl, rfl⟩
    exact .sequence h

theorem derives_group_iff {kind : GroupKind} {ps : List Pattern} :
    Derives a greatest (.group kind ps) d w ↔
      kind.isPlain ∧ ∃ ds, .parts ds = d ∧ Parts (ps.map (Derives a greatest)) ds w := by
  simp only [parts_derives_iff]
  constructor
  · intro h
    cases h with
    | letter h => cases h
    | group hkind h => exact ⟨hkind, _, rfl, _, h, rfl, rfl⟩
  · rintro ⟨hkind, _, rfl, xs, h, rfl, rfl⟩
    exact .group hkind h

theorem derives_choice_iff {ps : List Pattern} :
    Derives a greatest (.choice ps) d w ↔
      ∃ x : ℕ × Derivation, .member x.1 x.2 = d ∧
        ∃ R, (ps.map (Derives a greatest))[x.1]? = some R ∧ R x.2 w := by
  constructor
  · intro h
    cases h with
    | letter h => cases h
    | @choice _ i p d _ hp h => exact ⟨(i, d), rfl, _, by rw [List.getElem?_map, hp]; rfl, h⟩
  · rintro ⟨⟨i, d⟩, rfl, R, hR, hd⟩
    rw [List.getElem?_map, Option.map_eq_some_iff] at hR
    obtain ⟨p, hp, rfl⟩ := hR
    exact .choice hp hd

theorem derives_bracket_iff {ps : List Pattern} {text : String} :
    Derives a greatest (.bracket ps false text) d w ↔
      ∃ x : ℕ × Derivation, .member x.1 x.2 = d ∧
        ∃ R, (ps.map (Derives a greatest))[x.1]? = some R ∧ R x.2 w := by
  rw [← derives_choice_iff]
  constructor
  · intro h
    cases h with
    | letter h => cases h
    | bracket hp h => exact .choice hp h
  · intro h
    cases h with
    | letter h => cases h
    | choice hp h => exact .bracket hp h

theorem derives_repetition_iff {b : Bounds} {greedy : Bool} {p : Pattern} :
    Derives a greatest (.repetition b greedy p) d w ↔
      ∃ ds, .parts ds = d ∧ ∃ n ∈ b.counts greatest, Copies (Derives a greatest p) n ds w ∧
        (n ≤ max b.least 1 ∨ ∃ d v, Derives a greatest p d v ∧ v ≠ "") := by
  constructor
  · intro h
    cases h with
    | letter h => cases h
    | repetition hxs hleast hmost hshort =>
      exact ⟨_, rfl, _, mem_counts.2 ⟨hleast, hmost⟩, ⟨_, rfl, hxs, rfl, rfl⟩, .inl hshort⟩
    | longRepetition hxs hleast hmost hd hne =>
      exact ⟨_, rfl, _, mem_counts.2 ⟨hleast, hmost⟩, ⟨_, rfl, hxs, rfl, rfl⟩,
        .inr ⟨_, _, hd, hne⟩⟩
  · rintro ⟨_, rfl, n, hn, ⟨xs, rfl, hxs, rfl, rfl⟩, hlong⟩
    obtain ⟨hleast, hmost⟩ := mem_counts.1 hn
    obtain hshort | ⟨d, v, hd, hne⟩ := hlong
    · exact .repetition hxs hleast hmost hshort
    · exact .longRepetition hxs hleast hmost hd hne

theorem derives_leaf_iff {p : Pattern} (h : p.isLeaf) :
    Derives a greatest p d w ↔ ∃ k, .letter k = d ∧ (p.leafWords a)[k]? = some w := by
  constructor
  · intro hd
    cases hd with
    | letter hk => exact ⟨_, rfl, hk⟩
    | sequence | group | choice | bracket | repetition | longRepetition => cases h
  · rintro ⟨k, rfl, hk⟩
    exact .letter hk

theorem enumerates_leaf {p : Pattern} (h : p.isLeaf) :
    Enumerates (Derives a greatest p) (p.wordList a greatest) := by
  rw [wordList_leaf h]
  refine ((Enumerates.getElem (p.leafWords a)).map (f := .letter) ?_).congr
    fun d w ↦ (derives_leaf_iff h).symm
  intro k w l w' _ _ he
  injection he

theorem enumerates_repetition {b : Bounds} {greedy : Bool} {p : Pattern}
    (h : Enumerates (Derives a greatest p) (p.wordList a greatest)) :
    Enumerates (Derives a greatest (.repetition b greedy p))
      (wordList a greatest (.repetition b greedy p)) := by
  have hlong : (∃ w ∈ p.wordList a greatest, w ≠ "") ↔ ∃ d w, Derives a greatest p d w ∧ w ≠ "" := by
    simp only [h.mem_iff]
    grind
  rw [wordList]
  by_cases hne : ∃ w ∈ p.wordList a greatest, w ≠ ""
  · rw [repetitions_of_exists_ne hne]
    refine ((h.flatMap_power (nodup_counts b greatest)).map (f := .parts) ?_).congr
      fun d w ↦ ?_
    · intro ds w es v _ _ he
      injection he
    · simp only [derives_repetition_iff, hlong.1 hne, or_true, and_true]
  · have hempty : ∀ w ∈ p.wordList a greatest, w = "" := by
      by_contra hnot
      push Not at hnot
      exact hne hnot
    rw [repetitions_of_forall_eq hempty]
    refine ((h.flatMap_power ((nodup_counts b greatest).filter _)).map (f := .parts) ?_).congr
      fun d w ↦ ?_
    · intro ds w es v _ _ he
      injection he
    · simp only [derives_repetition_iff, ← hlong, hne, or_false, List.mem_filter,
        decide_eq_true_eq, and_assoc]
      grind

theorem forall₂_enumerates {ps : List Pattern}
    (h : ∀ p ∈ ps, Enumerates (Derives a greatest p) (p.wordList a greatest)) :
    List.Forall₂ Enumerates (ps.map (Derives a greatest)) (ps.map (wordList a greatest)) := by
  rw [List.forall₂_map_left_iff, List.forall₂_map_right_iff, List.forall₂_same]
  exact h

theorem enumerates_parts {ps : List Pattern}
    (h : ∀ p ∈ ps, Enumerates (Derives a greatest p) (p.wordList a greatest)) :
    Enumerates (fun d w ↦ ∃ ds, Derivation.parts ds = d ∧ Parts (ps.map (Derives a greatest)) ds w)
      (concatenations (ps.map (wordList a greatest))) := by
  refine (Enumerates.product (forall₂_enumerates h)).map (f := Derivation.parts) ?_
  intro ds w es v _ _ he
  injection he

theorem enumerates_member {ps : List Pattern}
    (h : ∀ p ∈ ps, Enumerates (Derives a greatest p) (p.wordList a greatest)) :
    Enumerates
      (fun d w ↦ ∃ x : ℕ × Derivation, Derivation.member x.1 x.2 = d ∧
        ∃ R, (ps.map (Derives a greatest))[x.1]? = some R ∧ R x.2 w)
      (roundRobin (ps.map (wordList a greatest))) := by
  refine (Enumerates.roundRobin (forall₂_enumerates h)).map
    (f := fun x ↦ Derivation.member x.1 x.2) ?_
  intro x w y v _ _ he
  injection he with hi hd
  exact Prod.ext hi hd

theorem enumerates_wordList (p : Pattern) :
    Enumerates (Derives a greatest p) (p.wordList a greatest) := by
  induction p with
  | sequence ps ih =>
    rw [wordList_sequence]
    exact (enumerates_parts ih).congr fun d w ↦ derives_sequence_iff.symm
  | choice ps ih =>
    rw [wordList_choice]
    exact (enumerates_member ih).congr fun d w ↦ derives_choice_iff.symm
  | group kind ps ih =>
    by_cases hkind : kind.isPlain
    · rw [wordList_group hkind]
      exact (enumerates_parts ih).congr fun d w ↦ by simp [derives_group_iff, hkind]
    · rw [wordList, if_neg hkind]
      exact .nil fun d w ↦ by simp [derives_group_iff, hkind]
  | repetition b greedy p ih => exact enumerates_repetition ih
  | bracket ps negated text ih =>
    cases negated with
    | false =>
      rw [wordList_bracket]
      exact (enumerates_member ih).congr fun d w ↦ derives_bracket_iff.symm
    | true => exact enumerates_leaf rfl
  | anchor | literal | range | shorthand | anyCharacter | reference => exact enumerates_leaf rfl

end Pattern

namespace Listing

/-- In exhaustive mode the pulls that give a word and the derivations of the pattern correspond one
to one, and each pull gives the word of its derivation. -/
theorem exists_equiv_derivations [Compiler] {s : Settings} (hs : s.mode = .exhaustive)
    {p : Pattern} (h : ∀ q ∈ p.nodes, q.isListable s.alphabets) :
    ∃ e : {k : ℕ // ∃ w, (ofPattern s p).Yields k w} ≃
        {d : Derivation // ∃ w, p.Derives s.alphabets s.greatestCount d w},
      ∀ k w, (ofPattern s p).Yields k.1 w ↔ p.Derives s.alphabets s.greatestCount (e k).1 w := by
  have hyields : (ofPattern s p).Yields =
      fun k w ↦ (p.wordList s.alphabets s.greatestCount)[k]? = some w := by
    funext k w
    exact propext (yields_iff (lists_wordList hs h))
  rw [hyields]
  exact (Pattern.enumerates_wordList p).exists_equiv

theorem exists_equiv_derivations_sequence :
    ((Settings.ofMode .exhaustive).mode = .exhaustive ∧
      ∀ q ∈ (Pattern.sequence [.choice [.literal 'a', .literal 'a'],
        .repetition ⟨0, none⟩ true (.literal 'b')]).nodes, q.isListable .exhaustive) ∧
    ∃ e : {k : ℕ // ∃ w, (ofPattern (.ofMode .exhaustive)
          (.sequence [.choice [.literal 'a', .literal 'a'],
            .repetition ⟨0, none⟩ true (.literal 'b')])).Yields k w} ≃
        {d : Derivation // ∃ w, (Pattern.sequence [.choice [.literal 'a', .literal 'a'],
          .repetition ⟨0, none⟩ true (.literal 'b')]).Derives .exhaustive Bounds.greatest d w},
      ∀ k w, (ofPattern (.ofMode .exhaustive)
          (.sequence [.choice [.literal 'a', .literal 'a'],
            .repetition ⟨0, none⟩ true (.literal 'b')])).Yields k.1 w ↔
        (Pattern.sequence [.choice [.literal 'a', .literal 'a'],
          .repetition ⟨0, none⟩ true (.literal 'b')]).Derives .exhaustive Bounds.greatest
            (e k).1 w :=
  ⟨⟨rfl, by decide⟩, exists_equiv_derivations (s := .ofMode .exhaustive) rfl (by decide)⟩

end Listing

end RegexWords
