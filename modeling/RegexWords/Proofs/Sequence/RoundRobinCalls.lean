import Mathlib.Data.Set.Card
import RegexWords.Proofs.Sequence.Calls
import RegexWords.Proofs.Sequence.RoundRobin
import RegexWords.Proofs.Sequence.Sources

namespace RegexWords.Interleave

variable {α : Type} {answers : ℕ → ℕ → Option α} {n i j : ℕ} {count : ℕ → ℕ} {live : List ℕ}
  {E : List ((ℕ × ℕ) × α)} {log : Log α}

noncomputable def itemsBefore (answers : ℕ → ℕ → Option α) (n j i : ℕ) : ℕ :=
  {p : ℕ × ℕ | p.2 < n ∧ untilNone (answers p.2) p.1 ≠ none ∧ place p.1 p.2 < place j i}.ncard

section Places

variable {σ : Type} {next : σ → Step σ α} {queue : List σ} {a : α}

theorem itemsBefore_lt {l k : ℕ} (hi : i < n) (ha : untilNone (answers i) j ≠ none)
    (hlt : place j i < place l k) : itemsBefore answers n j i < itemsBefore answers n l k := by
  refine Set.ncard_lt_ncard ⟨fun p hp ↦ ⟨hp.1, hp.2.1, hp.2.2.trans hlt⟩, fun hsub ↦ ?_⟩ ?_
  · have hself : place j i < place j i := (hsub (a := (j, i)) ⟨hi, ha, hlt⟩).2.2
    exact lt_irrefl _ hself
  · refine ((Set.finite_lt_nat (l + 1)).prod (Set.finite_lt_nat n)).subset ?_
    rintro ⟨j', i'⟩ ⟨hi', -, hlt'⟩
    rw [place_lt_place] at hlt'
    exact ⟨show j' < l + 1 by omega, hi'⟩

variable (h : Reached next (fun i ↦ untilNone (answers i)) n count live E queue)
include h

theorem Reached.lt_count (hi : i < n) (ha : untilNone (answers i) j = some a)
    (hl : i ∉ live) : j < count i := by
  by_contra hj
  rw [untilNone_eq_none_of_le (h.ended i hi hl) (not_lt.1 hj)] at ha
  cases ha

theorem Reached.mem_of_place_lt {x : (ℕ × ℕ) × α} (hx : x ∈ E) (hi : i < n)
    (ha : untilNone (answers i) j = some a) (hlt : place j i < place x.1.1 x.1.2) :
    ((j, i), a) ∈ E := by
  obtain ⟨-, htaken, -⟩ := h.mem_iff.1 hx
  refine h.mem_iff.2 ⟨hi, ?_, ha⟩
  by_cases hl : i ∈ live
  · have hbefore := h.rotation.taken_lt i hl x.1.2 x.1.1 htaken
    simp only [place_lt_place] at hlt hbefore
    omega
  · exact h.lt_count hi ha hl

theorem Reached.itemsBefore_eq {m : ℕ} (hm : E[m]? = some ((j, i), a)) :
    itemsBefore answers n j i = m := by
  obtain ⟨hlt, hE⟩ := List.getElem?_eq_some_iff.1 hm
  have hsorted := List.pairwise_iff_getElem.1 h.sorted
  have hset : {p : ℕ × ℕ | p.2 < n ∧ untilNone (answers p.2) p.1 ≠ none ∧
      place p.1 p.2 < place j i} = ((E.take m).map Prod.fst).toFinset := by
    ext ⟨l, k⟩
    rw [Set.mem_ofPred_eq, List.coe_toFinset, Set.mem_ofPred_eq, List.mem_map]
    constructor
    · rintro ⟨hk, hne, hbefore⟩
      obtain ⟨b, hb⟩ := Option.ne_none_iff_exists'.1 hne
      obtain ⟨m', hm', he⟩ := List.mem_iff_getElem.1
        (h.mem_of_place_lt (List.mem_of_getElem? hm) hk hb hbefore)
      refine ⟨((l, k), b), List.mem_take_iff_getElem.2 ⟨m', ?_, he⟩, rfl⟩
      rw [lt_min_iff]
      refine ⟨?_, hm'⟩
      by_contra hle
      rcases (not_lt.1 hle).lt_or_eq with hgt | rfl
      · have hlater := hsorted m m' hlt hm' hgt
        rw [hE, he] at hlater
        exact absurd hlater hbefore.asymm
      · rw [hE] at he
        cases he
        exact lt_irrefl _ hbefore
    · rintro ⟨⟨p, b⟩, hb, hp⟩
      obtain rfl : p = (l, k) := hp
      obtain ⟨m', hm', he⟩ := List.mem_take_iff_getElem.1 hb
      rw [lt_min_iff] at hm'
      obtain ⟨hk, -, hb⟩ := h.mem_iff.1 (List.mem_of_mem_take hb)
      have hearlier := hsorted m' m hm'.2 hlt hm'.1
      rw [hE, he] at hearlier
      exact ⟨hk, hb ▸ Option.some_ne_none b, hearlier⟩
  have hnodup : ((E.take m).map Prod.fst).Nodup := by
    rw [List.nodup_iff_pairwise_ne, List.pairwise_map]
    exact (h.sorted.sublist (List.take_sublist m E)).imp fun hxy he ↦ by simp [he] at hxy
  rw [itemsBefore, hset, Set.ncard_coe_finset, List.toFinset_card_of_nodup hnodup, List.length_map,
    List.length_take, min_eq_left hlt.le]

theorem Reached.mem_of_itemsBefore_lt (hi : i < n) (ha : untilNone (answers i) j = some a)
    (hlt : itemsBefore answers n j i < E.length) : ((j, i), a) ∈ E := by
  have hx := List.getElem?_eq_getElem hlt
  generalize E[itemsBefore answers n j i] = x at hx
  obtain ⟨⟨l, k⟩, b⟩ := x
  have heq := h.itemsBefore_eq hx
  have hmem := List.mem_of_getElem? hx
  obtain ⟨hk, -, hb⟩ := h.mem_iff.1 hmem
  rcases lt_trichotomy (place j i) (place l k) with hearlier | hsame | hlater
  · exact absurd heq (itemsBefore_lt hi (by simp [ha]) hearlier).ne'
  · obtain ⟨rfl, rfl⟩ := place_inj.1 hsame
    rw [ha, Option.some.injEq] at hb
    exact hb ▸ hmem
  · exact absurd heq (itemsBefore_lt hk (by simp [hb]) hlater).ne

end Places

/-- Of each source `k` the first `count k` items are listed in `E`, and the sources in `live` are in
the rotation. -/
structure Attended (answers : ℕ → ℕ → Option α) (n : ℕ) (count : ℕ → ℕ) (live : List ℕ)
    (E : List ((ℕ × ℕ) × α)) (log : Log α) : Prop where
  attends : Attends answers n count live log
  reached : Reached (counted answers) (fun i ↦ untilNone (answers i)) n count live E
    (live.map fun i ↦ (i, count i))

namespace Attended

theorem start (answers : ℕ → ℕ → Option α) (n : ℕ) :
    Attended answers n (fun _ ↦ 0) (List.range n) [] [] where
  attends := .start answers n
  reached := by simpa using Reached.start (gives_counted_range answers n)

theorem drop (h : Attended answers n count (i :: live) E log)
    (hi : answers i (count i) = none) : Attended answers n count live E (log ++ [(i, none)]) where
  attends := h.attends.drop
  reached := h.reached.drop ((h.attends.untilNone_eq i).trans hi)

theorem turn {a : α} (h : Attended answers n count (i :: live) E log)
    (hi : answers i (count i) = some a) :
    Attended answers n (Function.update count i (count i + 1)) (live ++ [i])
      (E ++ [((count i, i), a)]) (log ++ [(i, some a)]) where
  attends := h.attends.turn hi
  reached := by
    rw [h.attends.map_turn Prod.mk]
    exact h.reached.turn ((h.attends.untilNone_eq i).trans hi) (h.attends.gives_counted_succ hi)

end Attended

theorem step_ask : step (ask answers) ⟨i :: live⟩ log =
    (receive live ((answers i (log.pulls i)).elim .ended (.yield · i)),
      log ++ [(i, answers i (log.pulls i))]) := by
  simp only [step, bind, StateT.bind, ask_eq]
  rfl

theorem Attended.exists_call (h : Attended answers n count live E log) :
    ∃ asked : Log α, asked.map Prod.fst <+: live ∧
      ((∃ x count' live', Call (step (ask answers)) ⟨live⟩ log (some x.2) ⟨live'⟩ (log ++ asked) ∧
          Attended answers n count' live' (E ++ [x]) (log ++ asked)) ∨
        Call (step (ask answers)) ⟨live⟩ log none ⟨[]⟩ (log ++ asked) ∧
          Attended answers n count [] E (log ++ asked)) := by
  induction live generalizing log with
  | nil =>
    refine ⟨[], List.prefix_refl _, .inr ?_⟩
    rw [List.append_nil]
    exact ⟨.ended rfl, h⟩
  | cons i live ih =>
    have hstep : step (ask answers) ⟨i :: live⟩ log = _ := step_ask
    rw [h.attends.pulls_eq i List.mem_cons_self] at hstep
    cases hi : answers i (count i) with
    | none =>
      rw [hi] at hstep
      obtain ⟨asked, hpre, hcall⟩ := ih (h.drop hi)
      refine ⟨(i, none) :: asked, List.cons_prefix_cons.2 ⟨rfl, hpre⟩, ?_⟩
      rw [List.append_assoc, List.singleton_append] at hcall
      obtain ⟨x, count', live', hc, h'⟩ | ⟨hc, h'⟩ := hcall
      · exact .inl ⟨x, count', live', .skip hstep hc, h'⟩
      · exact .inr ⟨.skip hstep hc, h'⟩
    | some a =>
      rw [hi] at hstep
      refine ⟨[(i, some a)], List.cons_prefix_cons.2 ⟨rfl, List.nil_prefix⟩, .inl ?_⟩
      exact ⟨((count i, i), a), _, _, .yield hstep, h.turn hi⟩

def Answered (answers : ℕ → ℕ → Option α) (n : ℕ) (replies : List (Option α)) (s : Interleave ℕ)
    (log : Log α) : Prop :=
  ∃ count E m, Attended answers n count s.queue E log ∧
    replies = E.map (fun x ↦ some x.2) ++ List.replicate m none ∧ (0 < m → s.queue = [])

namespace Answered

variable {rs : List (Option α)} {s : Interleave ℕ}

theorem start (answers : ℕ → ℕ → Option α) (n : ℕ) :
    Answered answers n [] ⟨List.range n⟩ [] :=
  ⟨_, [], 0, .start answers n, rfl, by simp⟩

theorem exists_call (h : Answered answers n rs s log) :
    ∃ asked : Log α, asked.map Prod.fst <+: s.queue ∧ ∃ r t,
      Call (step (ask answers)) s log r t (log ++ asked) ∧
        Answered answers n (rs ++ [r]) t (log ++ asked) := by
  obtain ⟨count, E, m, h, rfl, hm⟩ := h
  obtain ⟨asked, hpre, ⟨x, count', live', hc, h'⟩ | ⟨hc, h'⟩⟩ := h.exists_call
  · refine ⟨asked, hpre, some x.2, ⟨live'⟩, hc, count', E ++ [x], 0, h', ?_, by simp⟩
    obtain rfl : m = 0 := by
      by_contra hne
      have hnil := hm (Nat.pos_of_ne_zero hne)
      rw [hnil] at hc
      obtain ⟨hr, -, -⟩ := hc.unique (.ended rfl)
      cases hr
    simp
  · refine ⟨asked, hpre, none, ⟨[]⟩, hc, count, E, m + 1, h', ?_, fun _ ↦ rfl⟩
    rw [List.replicate_succ', List.append_assoc]

/-- Where there have been as many calls as there are items before an item, and one more, the item is
among those so far. -/
theorem getElem?_itemsBefore (h : Answered answers n rs s log) {a : α} (hi : i < n)
    (ha : untilNone (answers i) j = some a) (hlen : itemsBefore answers n j i < rs.length) :
    rs[itemsBefore answers n j i]? = some (some a) := by
  obtain ⟨count, E, m, ⟨-, h⟩, rfl, hm⟩ := h
  have hmem : ((j, i), a) ∈ E := by
    rcases Nat.eq_zero_or_pos m with rfl | hpos
    · exact h.mem_of_itemsBefore_lt hi ha (by simpa using hlen)
    · exact h.mem_iff.2 ⟨hi, h.lt_count hi ha (by simp [hm hpos]), ha⟩
  obtain ⟨k, hk⟩ := List.mem_iff_getElem?.1 hmem
  rw [h.itemsBefore_eq hk]
  have hlt : k < E.length := (List.getElem?_eq_some_iff.1 hk).1
  rw [List.getElem?_append_left (by simpa using hlt), List.getElem?_map, hk]
  rfl

theorem getElem?_eq_item (h : Answered answers n rs s log) {k : ℕ} {r : Option α}
    (hk : rs[k]? = some r) (hr : r ≠ none) : ∃ i < n, ∃ j, untilNone (answers i) j = r ∧
      itemsBefore answers n j i = k := by
  obtain ⟨count, E, m, ⟨-, h⟩, rfl, -⟩ := h
  rcases Nat.lt_or_ge k E.length with hlt | hge
  · obtain ⟨⟨⟨j, i⟩, a⟩, hx⟩ : ∃ x, E[k]? = some x := ⟨_, List.getElem?_eq_getElem hlt⟩
    rw [List.getElem?_append_left (by simpa using hlt), List.getElem?_map, hx] at hk
    cases hk
    obtain ⟨hi, -, ha⟩ := h.mem_iff.1 (List.mem_of_getElem? hx)
    exact ⟨i, hi, j, ha, h.itemsBefore_eq hx⟩
  · rw [List.getElem?_append_right (by simpa using hge)] at hk
    exact absurd (List.eq_of_mem_replicate (List.mem_of_getElem? hk)) hr

theorem queue_eq_nil (h : Answered answers n rs s log) (hr : none ∈ rs) : s.queue = [] := by
  obtain ⟨count, E, m, -, rfl, hm⟩ := h
  rcases List.mem_append.1 hr with hr | hr
  · simp at hr
  · exact hm (Nat.pos_of_ne_zero (List.mem_replicate.1 hr).1)

theorem exists_call_answered (h : Answered answers n rs s log) : ∃ r t log',
    Call (step (ask answers)) s log r t log' ∧ Answered answers n (rs ++ [r]) t log' := by
  obtain ⟨asked, -, r, t, hc⟩ := h.exists_call
  exact ⟨r, t, _, hc⟩

end Answered

/-- Calls without end answer item `j` of source `i` at the call whose number says how many items
come before it, and where they once answer that there are no more, this is the answer for ever. A
call pulls no source twice, and none is pulled behind its end. -/
theorem reply_itemsBefore (answers : ℕ → ℕ → Option α) (n : ℕ) :
    Nonempty (Execution (step (ask answers)) ⟨List.range n⟩ []) ∧
    (∀ i < n, ∀ j l k, untilNone (answers i) j ≠ none → place j i < place l k →
      itemsBefore answers n j i < itemsBefore answers n l k) ∧
    ∀ e : Execution (step (ask answers)) ⟨List.range n⟩ [],
      (∀ i < n, ∀ j, untilNone (answers i) j ≠ none →
        e.reply (itemsBefore answers n j i) = untilNone (answers i) j) ∧
      (∀ k, e.reply k ≠ none → ∃ i < n, ∃ j, untilNone (answers i) j = e.reply k ∧
        itemsBefore answers n j i = k) ∧
      (∀ k l, e.reply k = none → k < l →
        e.reply l = none ∧ e.world l = e.world (k + 1)) ∧
      (∀ k, ∃ asked, e.world (k + 1) = e.world k ++ asked ∧ (asked.map Prod.fst).Nodup) ∧
      ∀ k, (e.world k).Pairwise fun p r ↦ p.2 = none → r.1 ≠ p.1 := by
  have hcall : ∀ rs s log, Answered answers n rs s log → _ :=
    fun _ _ _ ↦ Answered.exists_call_answered
  have hstart := Answered.start answers n
  refine ⟨Execution.nonempty hstart hcall, fun i hi j l k ha hlt ↦ itemsBefore_lt hi ha hlt,
    fun e ↦ ?_⟩
  have hinv (k : ℕ) := Execution.invariant hstart hcall e k
  have hreply (k : ℕ) : (e.replies (k + 1))[k]? = some (e.reply k) :=
    e.getElem?_replies (Nat.lt_succ_self k)
  have hlen (k : ℕ) : k < (e.replies (k + 1)).length := by simp [Execution.replies]
  refine ⟨fun i hi j ha ↦ ?_, fun k hk ↦ ?_, fun k l hk hl ↦ ?_, fun k ↦ ?_, fun k ↦ ?_⟩
  · obtain ⟨a, ha⟩ := Option.ne_none_iff_exists'.1 ha
    have hget := (hinv _).getElem?_itemsBefore hi ha (hlen _)
    rw [hreply, Option.some.injEq] at hget
    rw [hget, ha]
  · exact (hinv (k + 1)).getElem?_eq_item (hreply k) hk
  · have hnil := (hinv (k + 1)).queue_eq_nil (List.mem_of_getElem? (hk ▸ hreply k))
    have hend : step (ask answers) (e.state (k + 1)) (e.world (k + 1)) =
        (.ended, e.world (k + 1)) := by
      obtain ⟨queue, hq⟩ : ∃ queue, e.state (k + 1) = ⟨queue⟩ := ⟨_, rfl⟩
      rw [hq] at hnil ⊢
      cases hnil
      rfl
    obtain ⟨hr, -, hw⟩ := e.eq_none_of_ended hend hl
    exact ⟨hr, hw⟩
  · obtain ⟨asked, hpre, r, t, hc, -⟩ := (hinv k).exists_call
    obtain ⟨-, -, hw⟩ := hc.unique (e.call k)
    obtain ⟨count, E, m, h, -⟩ := hinv k
    refine ⟨asked, hw.symm, hpre.sublist.nodup ?_⟩
    exact h.attends.waiting_eq ▸ Log.nodup_waiting _ n
  · obtain ⟨count, E, m, h, -⟩ := hinv k
    exact h.attends.ended

end RegexWords.Interleave
