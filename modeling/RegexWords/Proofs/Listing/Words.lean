import RegexWords.Proofs.Listing.PatternItems

namespace RegexWords

def concatenations (lists : List (List String)) : List String :=
  (tuples lists).map String.join

def wordPower (ws : List String) (n : ℕ) : List String :=
  copies [""] concatenations ws n

/-- The words of a repetition at counts one after the other, as long as longer words may come. -/
def repetitions (ws : List String) : List ℕ → List String
  | [] => []
  | n :: counts =>
    wordPower ws n ++
      if 0 < n ∧ ∀ w ∈ wordPower ws n, w = "" then [] else repetitions ws counts

def Bounds.counts (b : Bounds) (greatest : ℕ) : List ℕ :=
  List.range' b.least (b.most.getD greatest + 1 - b.least)

namespace Pattern

def singletons (cs : List Char) : List String := cs.map String.singleton

def isLeaf : Pattern → Bool
  | .anchor _ | .literal _ | .range _ _ | .shorthand _ | .anyCharacter | .reference _ => true
  | .bracket _ negated _ => negated
  | .sequence _ | .choice _ | .group _ _ | .repetition _ _ _ => false

variable [Compiler]

mutual

def wordList (a : Alphabets) (greatest : ℕ) : Pattern → List String
  | .sequence ps => concatenations (wordLists a greatest ps)
  | .choice ps => roundRobin (wordLists a greatest ps)
  | .anchor x => if x.isEnd then [""] else []
  | .group kind ps => if kind.isPlain then concatenations (wordLists a greatest ps) else []
  | .repetition b _ p => repetitions (wordList a greatest p) (b.counts greatest)
  | .literal c => singletons [c]
  | .range first last => singletons (Interval.all first last)
  | .shorthand tag => singletons (a.shorthand tag)
  | .bracket ps negated text =>
    if negated then singletons (a.accepted text) else roundRobin (wordLists a greatest ps)
  | .anyCharacter => singletons a.anyCharacter
  | .reference _ => []

def wordLists (a : Alphabets) (greatest : ℕ) : List Pattern → List (List String)
  | [] => []
  | p :: ps => wordList a greatest p :: wordLists a greatest ps

end

variable {a : Alphabets} {greatest : ℕ}

theorem wordLists_eq_map (ps : List Pattern) :
    wordLists a greatest ps = ps.map (wordList a greatest) := by
  induction ps with
  | nil => rfl
  | cons p ps ih => rw [wordLists, ih, List.map_cons]

theorem wordList_sequence (ps : List Pattern) :
    wordList a greatest (.sequence ps) = concatenations (ps.map (wordList a greatest)) := by
  rw [wordList, wordLists_eq_map]

theorem wordList_choice (ps : List Pattern) :
    wordList a greatest (.choice ps) = roundRobin (ps.map (wordList a greatest)) := by
  rw [wordList, wordLists_eq_map]

theorem wordList_group {kind : GroupKind} (h : kind.isPlain) (ps : List Pattern) :
    wordList a greatest (.group kind ps) = concatenations (ps.map (wordList a greatest)) := by
  rw [wordList, wordLists_eq_map, if_pos h]

theorem wordList_bracket (ps : List Pattern) (text : String) :
    wordList a greatest (.bracket ps false text) = roundRobin (ps.map (wordList a greatest)) := by
  rw [wordList, wordLists_eq_map]
  rfl

def leafWords (a : Alphabets) : Pattern → List String
  | .anchor x => if x.isEnd then [""] else []
  | .literal c => singletons [c]
  | .range first last => singletons (Interval.all first last)
  | .shorthand tag => singletons (a.shorthand tag)
  | .bracket _ true text => singletons (a.accepted text)
  | .anyCharacter => singletons a.anyCharacter
  | _ => []

theorem wordList_leaf {p : Pattern} (h : p.isLeaf) : p.wordList a greatest = p.leafWords a := by
  cases p with
  | sequence | choice | group | repetition => cases h
  | bracket ps negated text =>
    obtain rfl : negated = true := h
    rfl
  | anchor | literal | range | shorthand | anyCharacter | reference => rfl

end Pattern

theorem mem_counts {b : Bounds} {greatest n : ℕ} :
    n ∈ b.counts greatest ↔ b.least ≤ n ∧ n ≤ b.most.getD greatest := by
  rw [Bounds.counts, List.mem_range'_1]
  omega

theorem nodup_counts (b : Bounds) (greatest : ℕ) : (b.counts greatest).Nodup :=
  List.nodup_range'

theorem mem_concatenations {lists : List (List String)} {w : String} :
    w ∈ concatenations lists ↔
      ∃ ws, List.Forall₂ (· ∈ ·) ws lists ∧ w = String.join ws := by
  simp only [concatenations, List.mem_map, mem_tuples, eq_comm]

theorem wordPower_zero (ws : List String) : wordPower ws 0 = [""] := copies_zero

theorem wordPower_one (ws : List String) : wordPower ws 1 = ws := copies_one

theorem mem_wordPower {ws : List String} {n : ℕ} {w : String} :
    w ∈ wordPower ws n ↔
      ∃ vs : List String, vs.length = n ∧ (∀ v ∈ vs, v ∈ ws) ∧ w = String.join vs := by
  refine copies_induction (motive := fun n us ↦ ∀ w, w ∈ us ↔
    ∃ vs : List String, vs.length = n ∧ (∀ v ∈ vs, v ∈ ws) ∧ w = String.join vs) ?_ ?_ ?_ n w
  · intro w
    simp
  · intro w
    simp [List.length_eq_one_iff]
  · intro k l as bs hk hl w
    rw [mem_concatenations]
    constructor
    · rintro ⟨_, _ | ⟨hv, _ | ⟨hv', _ | _⟩⟩, rfl⟩
      obtain ⟨vs, rfl, hvs, rfl⟩ := (hk _).1 hv
      obtain ⟨vs', rfl, hvs', rfl⟩ := (hl _).1 hv'
      refine ⟨vs ++ vs', List.length_append, fun v hv ↦ ?_, by simp⟩
      exact (List.mem_append.1 hv).elim (hvs v) (hvs' v)
    · rintro ⟨vs, hlen, hvs, rfl⟩
      refine ⟨[String.join (vs.take k), String.join (vs.drop k)], .cons ?_ (.cons ?_ .nil), ?_⟩
      · exact (hk _).2 ⟨_, by rw [List.length_take]; omega,
          fun v hv ↦ hvs v (List.mem_of_mem_take hv), rfl⟩
      · exact (hl _).2 ⟨_, by rw [List.length_drop]; omega,
          fun v hv ↦ hvs v (List.mem_of_mem_drop hv), rfl⟩
      · simp [← String.join_append]

theorem eq_empty_of_mem_wordPower {ws : List String} {n : ℕ} {w : String}
    (h : ∀ v ∈ ws, v = "") (hw : w ∈ wordPower ws n) : w = "" := by
  obtain ⟨vs, -, hvs, rfl⟩ := mem_wordPower.1 hw
  have hall : ∀ v ∈ vs, v = "" := fun v hv ↦ h v (hvs v hv)
  clear hvs hw
  induction vs with
  | nil => rfl
  | cons v vs ih =>
    rw [List.forall_mem_cons] at hall
    rw [String.join_cons, hall.1, ih hall.2]
    rfl

theorem exists_mem_wordPower_ne {ws : List String} {n : ℕ} (hn : 0 < n)
    (h : ∃ w ∈ ws, w ≠ "") : ∃ w ∈ wordPower ws n, w ≠ "" := by
  obtain ⟨w, hw, hne⟩ := h
  obtain ⟨n, rfl⟩ : ∃ k, n = k + 1 := ⟨n - 1, by omega⟩
  refine ⟨String.join (List.replicate (n + 1) w), mem_wordPower.2 ⟨_, List.length_replicate,
    fun v hv ↦ (List.eq_of_mem_replicate hv).symm ▸ hw, rfl⟩, fun he ↦ hne ?_⟩
  rw [List.replicate_succ, String.join_cons] at he
  exact (String.append_eq_empty_iff.1 he).1

theorem repetitions_of_exists_ne {ws : List String} (h : ∃ w ∈ ws, w ≠ "") (counts : List ℕ) :
    repetitions ws counts = counts.flatMap (wordPower ws) := by
  induction counts with
  | nil => rfl
  | cons n counts ih =>
    rw [repetitions, ih, List.flatMap_cons, if_neg]
    rintro ⟨hn, hall⟩
    obtain ⟨w, hw, hne⟩ := exists_mem_wordPower_ne hn h
    exact hne (hall w hw)

theorem repetitions_cons_of_pos {ws : List String} (h : ∀ w ∈ ws, w = "") {n : ℕ} (hn : 0 < n)
    (counts : List ℕ) : repetitions ws (n :: counts) = wordPower ws n := by
  rw [repetitions, if_pos ⟨hn, fun w hw ↦ eq_empty_of_mem_wordPower h hw⟩, List.append_nil]

theorem repetitions_range_of_pos {ws : List String} (h : ∀ w ∈ ws, w = "") {n : ℕ} (hn : 0 < n)
    (k : ℕ) :
    repetitions ws (List.range' n k) =
      ((List.range' n k).filter (· ≤ n)).flatMap (wordPower ws) := by
  cases k with
  | zero => rfl
  | succ k =>
    have htail : (List.range' (n + 1) k).filter (· ≤ n) = [] := by
      apply List.filter_eq_nil_iff.2
      intro m hm
      rw [List.mem_range'_1] at hm
      simp only [decide_eq_true_eq]
      omega
    rw [List.range'_succ, repetitions_cons_of_pos h hn, List.filter_cons_of_pos (by simp), htail]
    simp

/-- Without longer words to come only the first count above zero is listed, and zero before it. -/
theorem repetitions_of_forall_eq {ws : List String} (h : ∀ w ∈ ws, w = "") (b : Bounds)
    (greatest : ℕ) :
    repetitions ws (b.counts greatest) =
      ((b.counts greatest).filter (· ≤ max b.least 1)).flatMap (wordPower ws) := by
  rw [Bounds.counts]
  generalize b.most.getD greatest + 1 - b.least = k
  rcases Nat.eq_zero_or_pos b.least with hzero | hpos
  · rw [hzero]
    cases k with
    | zero => rfl
    | succ k =>
      rw [List.range'_succ, repetitions, if_neg (by simp), zero_add,
        repetitions_range_of_pos h one_pos, List.filter_cons_of_pos (by simp), List.flatMap_cons,
        max_eq_right (Nat.zero_le 1)]
  · rw [repetitions_range_of_pos h hpos, max_eq_left (by omega)]

namespace Listing

theorem letters_eq (cs : List Char) : letters cs = (Pattern.singletons cs).map .ok := by
  simp [letters, Pattern.singletons]

theorem joined_map_ok (lists : List (List String)) :
    joined (lists.map (List.map .ok)) = (concatenations lists).map .ok := by
  rw [joined, RegexWords.product_map_ok, concatenations, List.map_map, List.map_map]
  rfl

theorem powered_map_ok (ws : List String) (n : ℕ) :
    powered (ws.map .ok) n = (wordPower ws n).map .ok := by
  have hone : ([.ok ""] : List Item) = [""].map .ok := rfl
  rw [powered, hone, wordPower]
  exact copies_map (fun as bs ↦ joined_map_ok [as, bs]) n

theorem segment_map_ok (count : ℕ) (grew : Bool) (rest ws : List String) :
    segment count grew (rest.map .ok) (ws.map .ok) =
      (ws ++ if 0 < count ∧ grew = false ∧ ∀ w ∈ ws, w = "" then [] else rest).map .ok := by
  induction ws generalizing grew with
  | nil =>
    simp only [List.map_nil, segment, List.not_mem_nil, false_implies, implies_true, and_true,
      List.nil_append]
    split <;> rfl
  | cons w ws ih =>
    rw [List.map_cons, segment, ih, List.cons_append, List.map_cons]
    congr 3
    simp only [Bool.or_eq_false_iff, Bool.not_eq_false', String.isEmpty_iff, List.forall_mem_cons,
      and_assoc]

theorem repeated_map_ok (ws : List String) (counts : List ℕ) :
    repeated (ws.map .ok) counts = (repetitions ws counts).map .ok := by
  induction counts with
  | nil => rfl
  | cons n counts ih =>
    rw [repeated, repetitions, powered_map_ok, ih, segment_map_ok]
    simp

variable {s : Settings}

theorem toList_ofBounds (hs : s.mode = .exhaustive) (b : Bounds) :
    (Counts.ofBounds s b).toList = b.counts s.greatestCount := by
  rw [Counts.ofBounds, hs]
  rfl

variable [Compiler]

theorem sampled_map_ok {a : Alphabets} {text : String} (h : a.accepted text ≠ []) :
    sampled text a.candidates = (Pattern.singletons (a.accepted text)).map .ok := by
  obtain ⟨e, he⟩ := sampled_eq a text
  rw [he, if_neg h, letters_eq]

theorem items_map {ps : List Pattern}
    (h : ∀ p ∈ ps, items s p = (p.wordList s.alphabets s.greatestCount).map .ok) :
    ps.map (items s) =
      (ps.map (Pattern.wordList s.alphabets s.greatestCount)).map (List.map .ok) := by
  rw [List.map_map]
  exact List.map_congr_left h

theorem shorthandItems_eq {tag : Char} (h : (Pattern.shorthand tag).isListable s.alphabets) :
    shorthandItems s tag = (Pattern.singletons (s.alphabets.shorthand tag)).map .ok := by
  rw [Pattern.isListable] at h
  unfold shorthandItems
  unfold Alphabets.shorthand at h ⊢
  cases hnamed : s.alphabets.named? tag with
  | some cs => exact letters_eq cs
  | none =>
    rw [hnamed] at h
    exact sampled_map_ok (by simpa using h)

theorem items_eq_map_ok (hs : s.mode = .exhaustive) {p : Pattern}
    (h : ∀ q ∈ p.nodes, q.isListable s.alphabets) :
    items s p = (p.wordList s.alphabets s.greatestCount).map .ok := by
  induction p with
  | sequence ps ih =>
    have hps := (Pattern.forall_mem_nodes.1 h).2
    rw [items_sequence, items_map fun p hp ↦ ih p hp (hps p hp), joined_map_ok,
      Pattern.wordList_sequence]
  | choice ps ih =>
    have hps := (Pattern.forall_mem_nodes.1 h).2
    rw [items_choice, items_map fun p hp ↦ ih p hp (hps p hp), roundRobin_map,
      Pattern.wordList_choice]
  | anchor x =>
    have hx : x.isEnd := (Pattern.forall_mem_nodes.1 h).1
    rw [items, anchorItems, if_pos hx, Pattern.wordList, if_pos hx]
    rfl
  | group kind ps ih =>
    obtain ⟨hlist, hps⟩ := Pattern.forall_mem_nodes.1 h
    have hkind : kind.isPlain := hlist
    rw [items_group, if_pos hkind, items_map fun p hp ↦ ih p hp (hps p hp), joined_map_ok,
      Pattern.wordList_group hkind]
  | repetition b greedy p ih =>
    have hp := (Pattern.forall_mem_nodes.1 h).2 p (List.mem_singleton_self p)
    rw [items, ih hp, repeated_map_ok, toList_ofBounds hs, Pattern.wordList]
  | literal c => exact letters_eq [c]
  | range first last =>
    rw [items, rangeMembers, hs]
    exact letters_eq _
  | shorthand tag => exact shorthandItems_eq (Pattern.forall_mem_nodes.1 h).1
  | bracket ps negated text ih =>
    obtain ⟨htext, hps⟩ := Pattern.forall_mem_nodes.1 h
    cases negated with
    | false =>
      rw [items_bracket, items_map fun p hp ↦ ih p hp (hps p hp), roundRobin_map,
        Pattern.wordList_bracket]
    | true => exact sampled_map_ok (by simpa [Pattern.isListable] using htext)
  | anyCharacter => exact letters_eq _
  | reference id => cases (Pattern.forall_mem_nodes.1 h).1

theorem lists_wordList (hs : s.mode = .exhaustive) {p : Pattern}
    (h : ∀ q ∈ p.nodes, q.isListable s.alphabets) :
    Lists reply (ofPattern s p) ((p.wordList s.alphabets s.greatestCount).map .ok) := by
  rw [← items_eq_map_ok hs h]
  exact lists_ofPattern s p

end Listing

end RegexWords
