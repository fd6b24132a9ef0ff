import RegexWords.CharSet.ClassText
import RegexWords.Proofs.Listing.PatternItems
import RegexWords.Proofs.Listing.Taking

namespace RegexWords

namespace Counts

theorem le_of_mem_doublings {last n k : ℕ} (h : k ∈ doublings last n) :
    n ≤ k ∧ (k = n ∨ k ≤ last) := by
  induction n using doublings.induct last with
  | case1 n ih =>
    rw [doublings, List.mem_cons] at h
    have hlt := lt_doubled n
    rcases h with rfl | h
    · exact ⟨le_rfl, .inl rfl⟩
    · split at h
      · next hle =>
        have hk := ih hle h
        omega
      · cases h

theorem admits_of_mem {s : Settings} {b : Bounds} (hb : b.inOrder) {n : ℕ}
    (h : n ∈ (ofBounds s b).toList) : b.Admits n := by
  have hmost : ∀ m ∈ b.most, b.least ≤ m := by
    intro m hm
    simpa [Bounds.inOrder, Option.mem_def.1 hm] using hb
  unfold ofBounds at h
  cases hmode : s.mode with
  | exhaustive =>
    rw [hmode] at h
    simp only [toList, List.mem_range'_1] at h
    refine ⟨h.1, fun m hm ↦ ?_⟩
    rw [Option.mem_def.1 hm, Option.getD_some] at h
    omega
  | examples =>
    rw [hmode] at h
    obtain ⟨hle, heq | hlast⟩ := le_of_mem_doublings h
    · exact ⟨hle, fun m hm ↦ heq.trans_le (hmost m hm)⟩
    · refine ⟨hle, fun m hm ↦ hlast.trans ?_⟩
      rw [exampleEnd, Option.mem_def.1 hm, Option.getD_some]
      exact min_le_left _ _

end Counts

namespace Listing

def WordsIn (L : Language Char) (is : List Item) : Prop :=
  ∀ w, .ok w ∈ is → w.toList ∈ L

section Parts

variable {L : Language Char} {is rest : List Item} {lists : List (List Item)}
  {Ls : List (Language Char)}

theorem wordsIn_letters {cs ds : List Char} (h : cs ⊆ ds) : WordsIn (oneOf ds) (letters cs) := by
  intro w hw
  obtain ⟨c, hc, hcw⟩ := List.mem_map.1 hw
  cases hcw
  exact ⟨c, h hc, String.toList_singleton c⟩

theorem wordsIn_error (e : Obstacle) : WordsIn L [.error e] := by
  simp [WordsIn]

theorem forall₂_mem_of_wordsIn {as : List String} (h : List.Forall₂ WordsIn Ls lists)
    (has : List.Forall₂ (fun l a ↦ .ok a ∈ l) lists as) :
    List.Forall₂ (fun L v ↦ v.toList ∈ L) Ls as := by
  induction h generalizing as with
  | nil =>
    cases has
    exact .nil
  | cons hl _ ih =>
    obtain ⟨a, as, ha, htail, rfl⟩ := List.forall₂_cons_left_iff.1 has
    exact .cons (hl a ha) (ih htail)

theorem wordsIn_joined (h : List.Forall₂ WordsIn Ls lists) : WordsIn Ls.prod (joined lists) := by
  intro w hw
  obtain ⟨tuple, htuple, hw⟩ := List.mem_map.1 hw
  cases tuple with
  | error e => cases hw
  | ok as =>
    cases hw
    exact toList_mem_prod.2
      ⟨as, forall₂_mem_of_wordsIn h (forall₂_of_ok_mem_product htuple), rfl⟩

theorem wordsIn_roundRobin (h : List.Forall₂ WordsIn Ls lists) :
    WordsIn Ls.sum (roundRobin lists) := by
  intro w hw
  rw [mem_sum_iff]
  obtain ⟨l, hl, hwl⟩ := mem_roundRobin.1 hw
  clear hw
  induction h with
  | nil => cases hl
  | @cons L l' Ls lists hL _ ih =>
    rcases List.mem_cons.1 hl with rfl | hl
    · exact ⟨L, List.mem_cons_self, hL w hwl⟩
    · obtain ⟨L', hL', hw⟩ := ih hl
      exact ⟨L', List.mem_cons_of_mem L hL', hw⟩

theorem wordsIn_powered (h : WordsIn L is) (n : ℕ) : WordsIn (L ^ n) (powered is n) := by
  refine copies_induction (motive := fun n is ↦ WordsIn (L ^ n) is) ?_ ?_ ?_ n
  · rw [pow_zero]
    simp [WordsIn]
  · rwa [pow_one]
  · intro k l as bs hk hl
    have hjoin := wordsIn_joined (.cons hk (.cons hl .nil))
    rwa [List.prod_cons, List.prod_cons, List.prod_nil, mul_one, ← pow_add] at hjoin

theorem wordsIn_segment {count : ℕ} {grew : Bool} (h : WordsIn L is) (hrest : WordsIn L rest) :
    WordsIn L (segment count grew rest is) := by
  induction is generalizing grew with
  | nil =>
    rw [segment]
    split
    · simp [WordsIn]
    · exact hrest
  | cons item is ih =>
    cases item with
    | error e => exact wordsIn_error e
    | ok v =>
      have htail : WordsIn L is := fun w hw ↦ h w (List.mem_cons_of_mem _ hw)
      intro w hw
      rcases List.mem_cons.1 hw with hw | hw
      · exact h w (hw ▸ List.mem_cons_self)
      · exact ih htail w hw

theorem wordsIn_repeated (h : WordsIn L is) {counts : List ℕ} {P : ℕ → Prop}
    (hcounts : ∀ n ∈ counts, P n) :
    WordsIn {w | ∃ n, P n ∧ w ∈ L ^ n} (repeated is counts) := by
  induction counts with
  | nil => simp [WordsIn, repeated]
  | cons n counts ih =>
    rw [List.forall_mem_cons] at hcounts
    exact wordsIn_segment (fun w hw ↦ ⟨n, hcounts.1, wordsIn_powered h n w hw⟩) (ih hcounts.2)

end Parts

section Patterns

variable {s : Settings}

theorem forall₂_map {ps : List Pattern} {f : Pattern → Language Char} {g : Pattern → List Item}
    (h : ∀ p ∈ ps, WordsIn (f p) (g p)) : List.Forall₂ WordsIn (ps.map f) (ps.map g) := by
  rw [List.forall₂_map_left_iff, List.forall₂_map_right_iff, List.forall₂_same]
  exact h

theorem rangeMembers_subset {first last : Char} (h : first ≤ last) :
    rangeMembers s first last ⊆ Interval.all first last := by
  intro c hc
  unfold rangeMembers at hc
  cases hmode : s.mode with
  | exhaustive => rwa [hmode] at hc
  | examples =>
    rw [hmode] at hc
    exact Interval.mem_all.2 (Interval.between_of_mem_samples h hc)

variable [Compiler]

theorem wordsIn_sampled (a : Alphabets) (text : String) :
    WordsIn (oneOf (a.accepted text)) (sampled text a.candidates) := by
  obtain ⟨e, he⟩ := sampled_eq a text
  rw [he]
  split
  · exact wordsIn_error e
  · exact wordsIn_letters (List.Subset.refl _)

theorem wordsIn_shorthandItems (tag : Char) :
    WordsIn (oneOf (s.alphabets.shorthand tag)) (shorthandItems s tag) := by
  unfold Alphabets.shorthand shorthandItems
  cases s.alphabets.named? tag with
  | some cs => exact wordsIn_letters (List.Subset.refl _)
  | none => exact wordsIn_sampled s.alphabets _

theorem wordsIn_items {p : Pattern} (h : ∀ q ∈ p.nodes, q.isOrdered) :
    WordsIn (p.language s.alphabets) (items s p) := by
  induction p with
  | sequence ps ih =>
    have hps := (Pattern.forall_mem_nodes.1 h).2
    rw [Pattern.language, Pattern.languageWith_sequence, items_sequence]
    exact wordsIn_joined (forall₂_map fun p hp ↦ ih p hp (hps p hp))
  | choice ps ih =>
    have hps := (Pattern.forall_mem_nodes.1 h).2
    rw [Pattern.language, Pattern.languageWith_choice, items_choice]
    exact wordsIn_roundRobin (forall₂_map fun p hp ↦ ih p hp (hps p hp))
  | anchor x =>
    rw [Pattern.language, Pattern.languageWith, items, anchorItems]
    split
    · simp [WordsIn]
    · exact wordsIn_error _
  | group kind ps ih =>
    have hps := (Pattern.forall_mem_nodes.1 h).2
    rw [Pattern.language, Pattern.languageWith_group, items_group]
    split
    · exact wordsIn_joined (forall₂_map fun p hp ↦ ih p hp (hps p hp))
    · exact wordsIn_error _
  | repetition b greedy p ih =>
    obtain ⟨hb, hp⟩ := Pattern.forall_mem_nodes.1 h
    exact wordsIn_repeated (ih (hp p (List.mem_singleton_self p)))
      fun n hn ↦ Counts.admits_of_mem hb hn
  | literal c => exact wordsIn_letters (List.Subset.refl _)
  | range first last =>
    have hle := of_decide_eq_true (Pattern.forall_mem_nodes.1 h).1
    exact wordsIn_letters (rangeMembers_subset hle)
  | shorthand tag => exact wordsIn_shorthandItems tag
  | bracket ps negated text ih =>
    have hps := (Pattern.forall_mem_nodes.1 h).2
    cases negated with
    | false =>
      rw [Pattern.language, Pattern.languageWith_bracket, items_bracket]
      exact wordsIn_roundRobin (forall₂_map fun p hp ↦ ih p hp (hps p hp))
    | true => exact wordsIn_sampled s.alphabets text
  | anyCharacter => exact wordsIn_letters (List.Subset.refl _)
  | reference id => exact wordsIn_error _

/-- However many words are taken, and with whatever fuel, all are words of the pattern. -/
theorem mem_language_of_mem_take {p : Pattern} (h : ∀ q ∈ p.nodes, q.isOrdered) (fuel n : ℕ)
    (w : Workspace) :
    ∀ word ∈ ((ofPattern s p).take fuel n w).1.1, word.toList ∈ p.language s.alphabets := by
  intro word hword
  have hfirst := (take_isPrefix fuel n (lists_ofPattern s p) w).subset hword
  exact wordsIn_items h word (mem_of_mem_firstWords hfirst)

end Patterns

theorem mem_language_of_mem_take_range :
    (∀ q ∈ (Pattern.repetition ⟨1, none⟩ true (.range 'a' 'c')).nodes, q.isOrdered) ∧
    ∀ word ∈ ((ofPattern (.ofMode .examples)
        (.repetition ⟨1, none⟩ true (.range 'a' 'c'))).take 100 5 .empty).1.1,
      word.toList ∈ (Pattern.repetition ⟨1, none⟩ true (.range 'a' 'c')).language .examples :=
  ⟨by decide, mem_language_of_mem_take (s := .ofMode .examples) (by decide) 100 5 .empty⟩

end Listing

end RegexWords
