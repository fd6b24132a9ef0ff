import Mathlib.Data.List.GetD
import Mathlib.Data.List.Sort
import RegexWords.Proofs.Sequence.Answers
import RegexWords.Proofs.Sequence.Rotation
import RegexWords.Sequence.Interleave

namespace RegexWords

variable {σ α : Type}

def places (sizes : List ℕ) : List (ℕ × ℕ) :=
  (List.range (sizes.foldr max 0)).flatMap fun j ↦
    ((List.range sizes.length).filter fun i ↦ j < sizes.getD i 0).map fun i ↦ (j, i)

theorem le_foldr_max {sizes : List ℕ} {m : ℕ} (h : m ∈ sizes) : m ≤ sizes.foldr max 0 := by
  induction sizes with
  | nil => cases h
  | cons n sizes ih =>
    rcases List.mem_cons.1 h with rfl | h
    · exact le_max_left _ _
    · exact (ih h).trans (le_max_right _ _)

theorem mem_places {sizes : List ℕ} {j i : ℕ} :
    (j, i) ∈ places sizes ↔ i < sizes.length ∧ j < sizes.getD i 0 := by
  simp only [places, List.mem_flatMap, List.mem_range, List.mem_map, List.mem_filter,
    decide_eq_true_eq, Prod.mk.injEq]
  constructor
  · rintro ⟨j', -, i', h, rfl, rfl⟩
    exact h
  · rintro ⟨hi, hj⟩
    refine ⟨j, hj.trans_le (le_foldr_max ?_), i, ⟨hi, hj⟩, rfl, rfl⟩
    rw [List.getD_eq_getElem _ _ hi]
    exact List.getElem_mem hi

theorem pairwise_places (sizes : List ℕ) :
    (places sizes).Pairwise fun p r ↦ place p.1 p.2 < place r.1 r.2 := by
  rw [places, List.pairwise_flatMap]
  constructor
  · intro j _
    rw [List.pairwise_map]
    exact (List.pairwise_lt_range.filter _).imp fun h ↦ place_lt_place.2 (.inr ⟨rfl, h⟩)
  · refine List.pairwise_lt_range.imp fun hj p hp r hr ↦ ?_
    obtain ⟨i, -, rfl⟩ := List.mem_map.1 hp
    obtain ⟨k, -, rfl⟩ := List.mem_map.1 hr
    exact place_lt_place.2 (.inl hj)

def itemAt (lists : List (List α)) (j i : ℕ) : Option α :=
  lists[i]?.bind (·[j]?)

def placed (lists : List (List α)) : List ((ℕ × ℕ) × α) :=
  (places (lists.map List.length)).filterMap fun p ↦ (itemAt lists p.1 p.2).map (p, ·)

/-- The items of lists round by round. -/
def roundRobin (lists : List (List α)) : List α :=
  (placed lists).map Prod.snd

theorem itemAt_eq_some {lists : List (List α)} {j i : ℕ} {a : α} :
    itemAt lists j i = some a ↔ ∃ l, lists[i]? = some l ∧ l[j]? = some a :=
  Option.bind_eq_some_iff

theorem itemAt_eq_none_of_le {lists : List (List α)} {j k i : ℕ} (h : itemAt lists j i = none)
    (hk : j ≤ k) : itemAt lists k i = none := by
  cases hl : lists[i]? with
  | none => simp [itemAt, hl]
  | some l =>
    simp only [itemAt, hl, Option.bind_some, List.getElem?_eq_none_iff] at h ⊢
    omega

theorem mem_placed {lists : List (List α)} {j i : ℕ} {a : α} :
    ((j, i), a) ∈ placed lists ↔ itemAt lists j i = some a := by
  simp only [placed, List.mem_filterMap, Option.map_eq_some_iff, Prod.mk.injEq]
  constructor
  · rintro ⟨p, -, b, hb, rfl, rfl⟩
    exact hb
  · intro h
    refine ⟨(j, i), ?_, a, h, rfl, rfl⟩
    obtain ⟨l, hl, ha⟩ := itemAt_eq_some.1 h
    obtain ⟨hi, rfl⟩ := List.getElem?_eq_some_iff.1 hl
    obtain ⟨hj, -⟩ := List.getElem?_eq_some_iff.1 ha
    rw [mem_places, List.length_map]
    refine ⟨hi, ?_⟩
    rwa [List.getD_eq_getElem _ _ (by simpa using hi), List.getElem_map]

theorem mem_roundRobin {lists : List (List α)} {a : α} :
    a ∈ roundRobin lists ↔ ∃ l ∈ lists, a ∈ l := by
  simp only [roundRobin, List.mem_map, Prod.exists, exists_eq_right]
  constructor
  · rintro ⟨j, i, h⟩
    obtain ⟨l, hl, ha⟩ := itemAt_eq_some.1 (mem_placed.1 h)
    exact ⟨l, List.mem_of_getElem? hl, List.mem_of_getElem? ha⟩
  · rintro ⟨l, hl, ha⟩
    obtain ⟨i, hi⟩ := List.mem_iff_getElem?.1 hl
    obtain ⟨j, hj⟩ := List.mem_iff_getElem?.1 ha
    exact ⟨j, i, mem_placed.2 (itemAt_eq_some.2 ⟨l, hi, hj⟩)⟩

theorem itemAt_map {β : Type} (f : α → β) (lists : List (List α)) (j i : ℕ) :
    itemAt (lists.map (List.map f)) j i = (itemAt lists j i).map f := by
  rw [itemAt, itemAt, List.getElem?_map]
  cases lists[i]? with
  | none => rfl
  | some l => exact List.getElem?_map

theorem roundRobin_map {β : Type} (f : α → β) (lists : List (List α)) :
    roundRobin (lists.map (List.map f)) = (roundRobin lists).map f := by
  have hlen : (lists.map (List.map f)).map List.length = lists.map List.length := by simp
  simp only [roundRobin, placed, hlen, itemAt_map, List.map_filterMap, Option.map_map]
  rfl

theorem pairwise_placed (lists : List (List α)) :
    (placed lists).Pairwise fun x y ↦ place x.1.1 x.1.2 < place y.1.1 y.1.2 := by
  apply (pairwise_places _).filterMap _
  intro p r h x hx y hy
  obtain ⟨a, -, rfl⟩ := Option.map_eq_some_iff.1 hx
  obtain ⟨b, -, rfl⟩ := Option.map_eq_some_iff.1 hy
  exact h

theorem nodup_roundRobin {lists : List (List α)} (h : ∀ l ∈ lists, l.Nodup)
    (hdisjoint : lists.Pairwise List.Disjoint) : (roundRobin lists).Nodup := by
  have hnodup : (placed lists).Nodup :=
    (pairwise_placed lists).imp fun hlt he ↦ by simp [he] at hlt
  refine hnodup.map_on ?_
  rintro ⟨⟨j, i⟩, a⟩ hx ⟨⟨k, l⟩, b⟩ hy hab
  obtain rfl : a = b := hab
  obtain ⟨as, has, haj⟩ := itemAt_eq_some.1 (mem_placed.1 hx)
  obtain ⟨bs, hbs, hbk⟩ := itemAt_eq_some.1 (mem_placed.1 hy)
  obtain rfl : i = l := by
    obtain ⟨hi, rfl⟩ := List.getElem?_eq_some_iff.1 has
    obtain ⟨hl, rfl⟩ := List.getElem?_eq_some_iff.1 hbs
    by_contra hne
    rcases Nat.lt_or_gt_of_ne hne with hlt | hlt
    · exact List.pairwise_iff_getElem.1 hdisjoint i l hi hl hlt (List.mem_of_getElem? haj)
        (List.mem_of_getElem? hbk)
    · exact List.pairwise_iff_getElem.1 hdisjoint l i hl hi hlt (List.mem_of_getElem? hbk)
        (List.mem_of_getElem? haj)
  cases has.symm.trans hbs
  obtain ⟨hj, hja⟩ := List.getElem?_eq_some_iff.1 haj
  obtain ⟨hk, hka⟩ := List.getElem?_eq_some_iff.1 hbk
  have hjk := (h as (List.mem_of_getElem? has)).getElem_inj_iff.1 (hja.trans hka.symm)
  rw [hjk]

theorem gives_itemAt {next : σ → Step σ α} {sources : List σ} {lists : List (List α)}
    (h : List.Forall₂ (Lists next) sources lists) (i : ℕ) (hi : i < sources.length) :
    Gives next sources[i] fun j ↦ itemAt lists j i := by
  obtain ⟨hlen, hget⟩ := List.forall₂_iff_get.1 h
  have hl : lists[i]? = some (lists.get ⟨i, hlen ▸ hi⟩) := List.getElem?_eq_getElem _
  simp only [itemAt, hl, Option.bind_some]
  exact hget i hi (hlen ▸ hi)

namespace Interleave

variable {next : σ → Step σ α} {rest : List σ} {s : σ}

theorem pulls_of_ended {r : Option (α × Interleave σ)} (h : Pulls next s none)
    (hr : Pulls (step (m := Id) next) ⟨rest⟩ r) : Pulls (step (m := Id) next) ⟨s :: rest⟩ r := by
  generalize hn : none = p at h
  induction h with
  | ended hs => exact .skip (t := ⟨rest⟩) (by simp only [step, hs]; rfl) hr
  | yield => cases hn
  | @skip s t _ hs _ ih => exact .skip (t := ⟨t :: rest⟩) (by simp only [step, hs]; rfl) (ih hn)

theorem pulls_of_yield {a : α} {t : σ} (h : Pulls next s (some (a, t))) :
    Pulls (step (m := Id) next) ⟨s :: rest⟩ (some (a, ⟨rest ++ [t]⟩)) := by
  generalize hn : some (a, t) = p at h
  induction h with
  | ended => cases hn
  | yield hs => cases hn; exact .yield (by simp only [step, hs]; rfl)
  | @skip s t _ hs _ ih => exact .skip (t := ⟨t :: rest⟩) (by simp only [step, hs]; rfl) (ih hn)

/-- Item `j` of source `i` is `q i j`, the first `count i` of them are listed in `E`, and the queue
holds what is left of the sources in `live`. -/
structure Reached (next : σ → Step σ α) (q : ℕ → ℕ → Option α) (n : ℕ) (count : ℕ → ℕ)
    (live : List ℕ) (E : List ((ℕ × ℕ) × α)) (queue : List σ) : Prop where
  rotation : Rotation count live
  sources : List.Forall₂ (fun i s ↦ Gives next s fun k ↦ q i (count i + k)) live queue
  lt_of_live : ∀ i ∈ live, i < n
  ended : ∀ i < n, i ∉ live → q i (count i) = none
  sorted : E.Pairwise fun x y ↦ place x.1.1 x.1.2 < place y.1.1 y.1.2
  mem_iff : ∀ {j i a}, ((j, i), a) ∈ E ↔ i < n ∧ j < count i ∧ q i j = some a

namespace Reached

variable {q : ℕ → ℕ → Option α} {n i : ℕ} {count : ℕ → ℕ} {live : List ℕ}
  {E : List ((ℕ × ℕ) × α)} {queue : List σ}

theorem start {sources : List σ} (h : ∀ i (hi : i < sources.length), Gives next sources[i] (q i)) :
    Reached next q sources.length (fun _ ↦ 0) (List.range sources.length) [] sources where
  rotation := .start _
  sources := by
    rw [List.forall₂_iff_get]
    refine ⟨by simp, fun i _ hi ↦ ?_⟩
    simpa using h i hi
  lt_of_live := by simp
  ended i hi hl := absurd (List.mem_range.2 hi) hl
  sorted := .nil
  mem_iff := by simp

theorem drop (h : Reached next q n count (i :: live) E (s :: queue)) (hi : q i (count i) = none) :
    Reached next q n count live E queue where
  rotation := h.rotation.drop
  sources := (List.forall₂_cons.1 h.sources).2
  lt_of_live k hk := h.lt_of_live k (List.mem_cons_of_mem i hk)
  ended k hk hl := by
    by_cases he : k = i
    · rw [he]
      exact hi
    · exact h.ended k hk (by simp [he, hl])
  sorted := h.sorted
  mem_iff := h.mem_iff

theorem turn {a : α} {t : σ} (h : Reached next q n count (i :: live) E (s :: queue))
    (hi : q i (count i) = some a) (ht : Gives next t fun k ↦ q i (count i + (k + 1))) :
    Reached next q n (Function.update count i (count i + 1)) (live ++ [i])
      (E ++ [((count i, i), a)]) (queue ++ [t]) where
  rotation := h.rotation.turn
  sources := by
    apply h.rotation.forall₂_turn h.sources
    · intro k hk u hu
      rwa [Function.update_of_ne hk]
    · simpa only [Function.update_self, Nat.add_assoc, Nat.add_comm 1] using ht
  lt_of_live k hk := h.lt_of_live k ((List.perm_append_singleton i live).mem_iff.1 hk)
  ended k hk hl := by
    rw [(List.perm_append_singleton i live).mem_iff] at hl
    rw [Function.update_of_ne (List.ne_of_not_mem_cons hl)]
    exact h.ended k hk hl
  sorted := by
    rw [List.pairwise_append]
    refine ⟨h.sorted, List.pairwise_singleton _ _, ?_⟩
    rintro ⟨⟨j, k⟩, b⟩ hx y hy
    rw [List.mem_singleton.1 hy]
    exact h.rotation.taken_lt i List.mem_cons_self k j (h.mem_iff.1 hx).2.1
  mem_iff {j k b} := by
    have hin := h.lt_of_live i List.mem_cons_self
    rw [List.mem_append, h.mem_iff, List.mem_singleton, Prod.mk.injEq, Prod.mk.injEq]
    by_cases hk : k = i
    · subst hk
      rw [Function.update_self]
      grind
    · rw [Function.update_of_ne hk]
      grind

/-- A pull lists the item at the next place, and ends when no source is left. -/
theorem pull (h : Reached next q n count live E queue) :
    (∃ x queue' count' live', Pulls (step (m := Id) next) ⟨queue⟩ (some (x.2, ⟨queue'⟩)) ∧
      Reached next q n count' live' (E ++ [x]) queue') ∨
    Pulls (step (m := Id) next) ⟨queue⟩ none ∧ Reached next q n count [] E [] := by
  induction live generalizing queue with
  | nil =>
    cases h.sources
    exact .inr ⟨.ended rfl, h⟩
  | cons i live ih =>
    obtain ⟨s, queue, hs, -, rfl⟩ := List.forall₂_cons_left_iff.1 h.sources
    obtain ⟨hp, hn⟩ | ⟨a, t, hp, h0, ht⟩ := hs.pull
    · obtain ⟨x, queue', count', live', hp', hr⟩ | ⟨hp', hr⟩ := ih (h.drop (hn 0))
      · exact .inl ⟨x, queue', count', live', pulls_of_ended hp hp', hr⟩
      · exact .inr ⟨pulls_of_ended hp hp', hr⟩
    · exact .inl ⟨((count i, i), a), _, _, _, pulls_of_yield hp, h.turn h0 ht⟩

end Reached

theorem Reached.eq_placed {lists : List (List α)} {count : ℕ → ℕ} {E : List ((ℕ × ℕ) × α)}
    (h : Reached next (fun i j ↦ itemAt lists j i) lists.length count [] E []) :
    E = placed lists := by
  refine List.Pairwise.eq_of_mem_iff h.sorted (pairwise_placed lists) ?_
  rintro ⟨⟨j, i⟩, a⟩
  rw [h.mem_iff, mem_placed]
  refine ⟨fun hx ↦ hx.2.2, fun ha ↦ ?_⟩
  obtain ⟨l, hl, -⟩ := itemAt_eq_some.1 ha
  have hi : i < lists.length := (List.getElem?_eq_some_iff.1 hl).1
  refine ⟨hi, ?_, ha⟩
  by_contra hj
  have hn := itemAt_eq_none_of_le (h.ended i hi (by simp)) (not_lt.1 hj)
  rw [ha] at hn
  cases hn

theorem lists_step {sources : List σ} {lists : List (List α)}
    (h : List.Forall₂ (Lists next) sources lists) :
    Lists (step (m := Id) next) ⟨sources⟩ (roundRobin lists) := by
  let Inv (E : List ((ℕ × ℕ) × α)) (t : Interleave σ) :=
    ∃ count live, Reached next (fun i j ↦ itemAt lists j i) lists.length count live E t.queue
  have start : Inv [] ⟨sources⟩ := by
    have hstart := Reached.start (gives_itemAt h)
    rw [h.length_eq] at hstart
    exact ⟨_, _, hstart⟩
  have bounded : ∀ E t, Inv E t → E.length ≤ (placed lists).length := by
    rintro E t ⟨count, live, hr⟩
    refine (List.subperm_of_subset hr.sorted.nodup fun x hx ↦ ?_).length_le
    exact mem_placed.2 (hr.mem_iff.1 hx).2.2
  have progress : ∀ E t, Inv E t →
      (∃ x u, Pulls (step (m := Id) next) t (some (x.2, u)) ∧ Inv (E ++ [x]) u) ∨
      ∃ tail, Lists (step (m := Id) next) t tail ∧ tail = [] ∧ E = placed lists := by
    rintro E ⟨queue⟩ ⟨count, live, hr⟩
    obtain ⟨x, queue', count', live', hp, hr'⟩ | ⟨hp, hr'⟩ := hr.pull
    · exact .inl ⟨x, ⟨queue'⟩, hp, count', live', hr'⟩
    · exact .inr ⟨[], Gives.of_ended hp, rfl, hr'.eq_placed⟩
  obtain ⟨F, tail, hl, rfl, hF⟩ := exists_lists_of_progress bounded progress [] _ start
  simp only [List.nil_append, List.append_nil] at hF hl
  rwa [roundRobin, ← hF]

end Interleave

end RegexWords
