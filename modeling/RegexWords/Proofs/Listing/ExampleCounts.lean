import Mathlib.Data.Finset.Card
import RegexWords.CharSet.ClassText
import RegexWords.Proofs.Listing.Failing

namespace RegexWords

namespace Interval

def picks (first last : Char) : List Char :=
  (quarterPoints first.toNat last.toNat).filterMap (nearest? first.toNat last.toNat)

theorem length_dedup {cs : List Char} (h : cs.length ≤ 2) :
    (dedup cs).length = cs.toFinset.card := by
  match cs with
  | [] => rfl
  | [c] => rfl
  | [c, d] =>
    by_cases hcd : c = d
    · simp [dedup, hcd]
    · simp [dedup, hcd]
  | _ :: _ :: _ :: _ => simp at h

theorem length_samples (first last : Char) :
    (samples first last).length = (picks first last).toFinset.card :=
  length_dedup (List.length_filterMap_le _ _)

end Interval

/-- The counts of a repetition of which examples are listed: the least one and its doublings, as
long as they are neither beyond the most nor beyond four times the number behind the least. Where
there is no most, counts have an end in the settings. -/
def Bounds.visited (b : Bounds) (greatest : ℕ) : List ℕ :=
  b.least :: (List.iterate Counts.doubled (Counts.doubled b.least) 3).takeWhile
    fun n ↦ n ≤ b.most.getD greatest ∧ n ≤ 4 * (b.least + 1)

theorem Counts.toList_ofBounds_examples {s : Settings} (hs : s.mode = .examples) (b : Bounds) :
    (Counts.ofBounds s b).toList = b.visited s.greatestCount := by
  rw [Counts.ofBounds, hs, Bounds.visited]
  simp only [Counts.toList, Counts.exampleEnd, List.iterate]
  generalize b.most.getD s.greatestCount = most
  generalize b.least = least
  have hfourth : ¬ doubled (doubled (doubled (doubled least))) ≤ min most (4 * (least + 1)) := by
    simp only [doubled]
    grind
  rw [doublings, doublings, doublings, doublings, if_neg hfourth]
  simp only [List.takeWhile_cons, le_min_iff, List.takeWhile_nil, decide_eq_true_eq]

/-- The number of words of a repetition at counts one after the other when its body has `n` words.
Where they are all empty nothing is listed behind the first count above zero. -/
def powerSum (n : ℕ) (grows : Bool) : List ℕ → ℕ
  | [] => 0
  | c :: counts => n ^ c + if 0 < c ∧ grows = false then 0 else powerSum n grows counts

namespace Listing

variable {is : List Item}

theorem length_joined {lists : List (List Item)} (h : ∀ is ∈ lists, ∀ e, .error e ∉ is) :
    (joined lists).length = (lists.map List.length).prod := by
  have hok : ∃ wss : List (List String), lists = wss.map (List.map .ok) := by
    induction lists with
    | nil => exact ⟨[], rfl⟩
    | cons is lists ih =>
      obtain ⟨his, hlists⟩ := List.forall_mem_cons.1 h
      obtain ⟨ws, rfl⟩ := exists_eq_map_ok his
      obtain ⟨wss, rfl⟩ := ih hlists
      exact ⟨ws :: wss, rfl⟩
  obtain ⟨wss, rfl⟩ := hok
  rw [joined_map_ok, List.length_map, concatenations, List.length_map, length_tuples, List.map_map]
  simp only [Function.comp_def, List.length_map]

theorem length_wordPower (ws : List String) (n : ℕ) : (wordPower ws n).length = ws.length ^ n := by
  refine copies_induction (motive := fun n (vs : List String) ↦ vs.length = ws.length ^ n)
    ?_ ?_ ?_ n
  · rfl
  · rw [pow_one]
  · intro k l as bs hk hl
    rw [concatenations, List.length_map, length_tuples]
    simp [hk, hl, pow_add]

theorem length_repetitions (ws : List String) (counts : List ℕ) :
    (repetitions ws counts).length = powerSum ws.length (ws.any (!·.isEmpty)) counts := by
  induction counts with
  | nil => rfl
  | cons n counts ih =>
    have hgrows : (0 < n ∧ ∀ w ∈ wordPower ws n, w = "") ↔
        0 < n ∧ (ws.any (!·.isEmpty)) = false := by
      refine and_congr_right fun hn ↦ ?_
      have hall : (ws.any (!·.isEmpty)) = false ↔ ∀ w ∈ ws, w = "" := by simp
      rw [hall]
      constructor
      · intro h
        by_contra hne
        push Not at hne
        obtain ⟨w, hw, hw'⟩ := exists_mem_wordPower_ne hn hne
        exact hw' (h w hw)
      · exact fun h w hw ↦ eq_empty_of_mem_wordPower h hw
    rw [repetitions, powerSum, List.length_append, length_wordPower, ← ih]
    simp only [hgrows]
    split <;> rfl

theorem length_repeated (h : ∀ e, .error e ∉ is) (counts : List ℕ) :
    (repeated is counts).length = powerSum is.length (is.any isText) counts := by
  obtain ⟨ws, rfl⟩ := exists_eq_map_ok h
  rw [repeated_map_ok, List.length_map, length_repetitions, List.length_map, List.any_map]
  rfl

theorem length_repeated_of_forall_eq_zero {counts : List ℕ} (h : ∀ n ∈ counts, n = 0) (m : ℕ)
    (grows : Bool) : (repeated is counts).length = powerSum m grows counts := by
  induction counts with
  | nil => rfl
  | cons n counts ih =>
    obtain ⟨rfl, hcounts⟩ := List.forall_mem_cons.1 h
    rw [repeated_zero_cons, List.length_cons, ih hcounts, powerSum, if_neg (by simp), pow_zero,
      Nat.add_comm]

/-- A repetition without errors never comes to a body that has one. -/
theorem eq_zero_of_error_mem {counts : List ℕ} (h : ∀ e, .error e ∉ repeated is counts)
    {e : Obstacle} (he : .error e ∈ is) : ∀ n ∈ counts, n = 0 := by
  intro n hn
  by_contra hne
  obtain ⟨K, hK⟩ := exists_failsWithin_repeated is.length ⟨n, hn, Nat.pos_of_ne_zero hne⟩
  obtain ⟨e', he'⟩ := (hK is [] (failsWithin_of_mem he)).mem
  rw [List.append_nil] at he'
  exact h e' he'

theorem error_notMem_of_joined {lists : List (List Item)} (h : ∀ e, .error e ∉ joined lists) :
    ∀ is ∈ lists, ∀ e, .error e ∉ is := by
  intro is his e he
  obtain ⟨e', he'⟩ := (failsWithin_joined (failsWithin_of_mem he) his).mem
  exact h e' he'

theorem firstWords_of_length_lt {n : ℕ} (h : is.length < n) :
    ((∀ e, .error e ∉ is) ∧ (firstWords n is).2 = .exhausted ∧
      (firstWords n is).1.length = is.length) ∨ ∃ e, (firstWords n is).2 = .failed e := by
  induction is generalizing n with
  | nil =>
    obtain ⟨n, rfl⟩ : ∃ k, n = k + 1 := ⟨n - 1, by simp at h; omega⟩
    exact .inl ⟨by simp, rfl, rfl⟩
  | cons i is ih =>
    rw [List.length_cons] at h
    obtain ⟨n, rfl⟩ : ∃ k, n = k + 1 := ⟨n - 1, by omega⟩
    cases i with
    | error e => exact .inr ⟨e, rfl⟩
    | ok w =>
      obtain ⟨hok, hending, hlen⟩ | hfailed := ih (by omega : is.length < n)
      · exact .inl ⟨by simpa using hok, hending, congrArg (· + 1) hlen⟩
      · exact .inr hfailed

section Counted

variable [Compiler]

mutual

def exampleCount (s : Settings) : Pattern → ℕ
  | .sequence ps => (exampleCounts s ps).prod
  | .choice ps => (exampleCounts s ps).sum
  | .anchor a => if a.isEnd then 1 else 0
  | .group kind ps => if kind.isPlain then (exampleCounts s ps).prod else 0
  | .repetition b _ p =>
    powerSum (exampleCount s p) ((items s p).any isText) (b.visited s.greatestCount)
  | .literal _ => 1
  | .range first last => (Interval.picks first last).toFinset.card
  | .shorthand tag => (s.alphabets.shorthand tag).length
  | .bracket ps negated text =>
    if negated then (s.alphabets.accepted text).length else (exampleCounts s ps).sum
  | .anyCharacter => s.alphabets.anyCharacter.length
  | .reference _ => 0

def exampleCounts (s : Settings) : List Pattern → List ℕ
  | [] => []
  | p :: ps => exampleCount s p :: exampleCounts s ps

end

variable {s : Settings} {p : Pattern}

theorem exampleCounts_eq_map (ps : List Pattern) :
    exampleCounts s ps = ps.map (exampleCount s) := by
  induction ps with
  | nil => rfl
  | cons p ps ih => rw [exampleCounts, ih, List.map_cons]

theorem length_sampled {a : Alphabets} {text : String}
    (h : ∀ e, .error e ∉ sampled text a.candidates) :
    (sampled text a.candidates).length = (a.accepted text).length := by
  obtain ⟨e, he⟩ := sampled_eq a text
  rw [he] at h ⊢
  split
  · next hnil =>
    rw [if_pos hnil] at h
    exact absurd (List.mem_singleton_self _) (h e)
  · exact List.length_map _

theorem map_length_items {ps : List Pattern}
    (ih : ∀ p ∈ ps, (∀ e, .error e ∉ items s p) → (items s p).length = exampleCount s p)
    (h : ∀ is ∈ ps.map (items s), ∀ e, .error e ∉ is) :
    (ps.map (items s)).map List.length = exampleCounts s ps := by
  rw [exampleCounts_eq_map, List.map_map]
  exact List.map_congr_left fun p hp ↦ ih p hp (h _ (List.mem_map_of_mem hp))

theorem length_items (hs : s.mode = .examples) (h : ∀ e, .error e ∉ items s p) :
    (items s p).length = exampleCount s p := by
  induction p with
  | sequence ps ih =>
    rw [items_sequence] at h ⊢
    have hps := error_notMem_of_joined h
    rw [length_joined hps, map_length_items ih hps, exampleCount]
  | choice ps ih =>
    rw [items_choice] at h ⊢
    have hps : ∀ is ∈ ps.map (items s), ∀ e, .error e ∉ is :=
      fun is his e he ↦ h e (mem_roundRobin.2 ⟨is, his, he⟩)
    rw [length_roundRobin, map_length_items ih hps, exampleCount]
  | anchor a =>
    cases a with
    | textStart | textEnd => rfl
    | wordBoundary | notWordBoundary => exact absurd List.mem_cons_self (h _)
  | group kind ps ih =>
    rw [items_group] at h ⊢
    rw [exampleCount]
    split
    · next hkind =>
      rw [if_pos hkind] at h
      have hps := error_notMem_of_joined h
      rw [length_joined hps, map_length_items ih hps]
    · next hkind =>
      rw [if_neg hkind] at h
      exact absurd List.mem_cons_self (h _)
  | repetition b greedy p ih =>
    rw [items, Counts.toList_ofBounds_examples hs] at h ⊢
    rw [exampleCount]
    by_cases hbody : ∀ e, .error e ∉ items s p
    · rw [length_repeated hbody, ih hbody]
    · push Not at hbody
      obtain ⟨e, he⟩ := hbody
      exact length_repeated_of_forall_eq_zero (eq_zero_of_error_mem h he) _ _
  | literal c => rfl
  | range first last =>
    rw [items, rangeMembers, hs, exampleCount, ← Interval.length_samples]
    exact List.length_map _
  | shorthand tag =>
    rw [items, shorthandItems] at h ⊢
    rw [exampleCount, Alphabets.shorthand]
    cases hnamed : s.alphabets.named? tag with
    | some cs => exact List.length_map _
    | none =>
      rw [hnamed] at h
      exact length_sampled h
  | bracket ps negated text ih =>
    cases negated with
    | false =>
      rw [items_bracket] at h ⊢
      have hps : ∀ is ∈ ps.map (items s), ∀ e, .error e ∉ is :=
        fun is his e he ↦ h e (mem_roundRobin.2 ⟨is, his, he⟩)
      rw [length_roundRobin, map_length_items ih hps, exampleCount]
      rfl
    | true => exact length_sampled h
  | anyCharacter => exact List.length_map _
  | reference id => exact absurd List.mem_cons_self (h _)

/-- A listing of examples ends, and when it ends without an error the number of its words is that
which the parts of the pattern make. -/
theorem exists_take_examples (hs : s.mode = .examples) (p : Pattern) :
    Lists reply (ofPattern s p) (items s p) ∧
    ∃ K, ∀ n ≥ K, ∃ least, ∀ fuel ≥ least, ∀ w, ∃ words ending l',
      ((ofPattern s p).take fuel n w).1 = (words, ending, l') ∧
        (words, ending) = firstWords n (items s p) ∧
        (ending = .exhausted ∨ ∃ e, ending = .failed e) ∧
        (ending = .exhausted → words.length = exampleCount s p) := by
  refine ⟨lists_ofPattern s p, (items s p).length + 1, fun n hn ↦ ?_⟩
  obtain ⟨least, hleast⟩ := exists_fuel_take n (lists_ofPattern s p)
  refine ⟨least, fun fuel hfuel w ↦ ?_⟩
  obtain ⟨l', hl'⟩ := hleast fuel hfuel w
  refine ⟨_, _, l', hl', rfl, ?_⟩
  obtain ⟨hok, hending, hlen⟩ | ⟨e, he⟩ := firstWords_of_length_lt (Nat.lt_of_succ_le hn)
  · exact ⟨.inl hending, fun _ ↦ hlen.trans (length_items hs hok)⟩
  · refine ⟨.inr ⟨e, he⟩, fun hending ↦ ?_⟩
    rw [he] at hending
    cases hending

end Counted

/-- Two characters of the range, each with none, one, two and four characters behind it. -/
theorem exists_take_examples_star :
    let p : Pattern := .sequence [.range 'a' 'z', .repetition ⟨0, none⟩ true .anyCharacter]
    (Settings.ofMode .examples).mode = .examples ∧
    Lists reply (ofPattern (.ofMode .examples) p) (items (.ofMode .examples) p) ∧
    ∃ K, ∀ n ≥ K, ∃ least, ∀ fuel ≥ least, ∀ w, ∃ words ending l',
      ((ofPattern (.ofMode .examples) p).take fuel n w).1 = (words, ending, l') ∧
        (words, ending) = firstWords n (items (.ofMode .examples) p) ∧
        (ending = .exhausted ∨ ∃ e, ending = .failed e) ∧
        (ending = .exhausted → words.length = 8) := by
  intro p
  have hcount : exampleCount (.ofMode .examples) p = 8 := by
    decide
  have h := exists_take_examples (s := .ofMode .examples) rfl p
  rw [hcount] at h
  exact ⟨rfl, h⟩

end Listing

end RegexWords
