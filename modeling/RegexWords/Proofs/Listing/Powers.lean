import Mathlib.Data.Finite.Prod
import Mathlib.Data.Fintype.BigOperators
import Mathlib.Logic.Equiv.Fin.Basic
import RegexWords.CharSet.ClassText
import RegexWords.Proofs.Listing.Runs
import RegexWords.Proofs.Listing.Words
import RegexWords.Proofs.Sequence.DiagonalSequence

namespace RegexWords

namespace Listing

variable {ι κ τ : Type} {f : ι → String} {g : κ → String} {v : ℕ → Option ι}

section Indexed

def NamesEach (v : ℕ → Option ι) : Prop := ∀ i, ∃! k, v k = some i

theorem NamesEach.eq_of_eq_some (h : NamesEach v) {k l : ℕ} {i : ι} (hk : v k = some i)
    (hl : v l = some i) : k = l :=
  (h i).unique hk hl

theorem NamesEach.exists_eq_none [Finite ι] (h : NamesEach v) : ∃ k, v k = none := by
  by_contra hnot
  push Not at hnot
  choose i hi using fun k ↦ Option.ne_none_iff_exists'.1 (hnot k)
  have hinjective : Function.Injective i := by
    intro k l hkl
    exact h.eq_of_eq_some (hi k) (hkl ▸ hi l)
  exact not_injective_infinite_finite i hinjective

theorem NamesEach.map_symm (h : NamesEach v) (e : κ ≃ ι) :
    NamesEach fun k ↦ (v k).map e.symm := by
  intro i
  obtain ⟨k, hk, hunique⟩ := h (e i)
  refine ⟨k, by simp [hk], fun l hl ↦ hunique l ?_⟩
  obtain ⟨j, hj, rfl⟩ := Option.map_eq_some_iff.1 hl
  rw [hj, e.apply_symm_apply]

theorem namesEach_fin (n : ℕ) :
    NamesEach fun k ↦ if h : k < n then some (⟨k, h⟩ : Fin n) else none := by
  intro i
  refine ⟨i, by simp, fun k hk ↦ ?_⟩
  simp only [Option.dite_none_right_eq_some, Option.some.injEq] at hk
  obtain ⟨hlt, rfl⟩ := hk
  rfl

theorem namesEach_some : NamesEach (some : ℕ → Option ℕ) :=
  fun i ↦ ⟨i, rfl, fun _ ↦ Option.some.inj⟩

theorem exists_list_of_getElem? {β : Type} {as : List β} {F : ι → β}
    (h : ∀ k, as[k]? = (v k).map F) : ∃ is : List ι, v = fun k ↦ is[k]? := by
  induction as generalizing v with
  | nil =>
    refine ⟨[], funext fun k ↦ ?_⟩
    simpa using h k
  | cons a as ih =>
    obtain ⟨i, hi, -⟩ := Option.map_eq_some_iff.1 (h 0).symm
    obtain ⟨is, his⟩ := ih (v := fun k ↦ v (k + 1)) fun k ↦ h (k + 1)
    refine ⟨i :: is, funext fun k ↦ ?_⟩
    cases k with
    | zero => exact hi
    | succ k => exact congrFun his k

end Indexed

/-- A sequence that gives the word of each index at one pull, and nothing else. -/
def GivesEach (next : τ → Step τ Item) (s : τ) (word : ι → String) : Prop :=
  ∃ v : ℕ → Option ι, Gives next s (fun k ↦ (v k).map fun i ↦ .ok (word i)) ∧ NamesEach v

namespace GivesEach

variable {next : τ → Step τ Item} {s t : τ}

theorem of_lists {ws : List String} (h : Lists next s (ws.map .ok)) :
    GivesEach next s fun i : Fin ws.length ↦ ws[i] := by
  refine ⟨_, fun k ↦ ?_, namesEach_fin ws.length⟩
  have hk := h k
  by_cases hlt : k < ws.length
  · simpa [hlt] using hk
  · simpa [hlt] using hk

theorem of_gives {word : ℕ → String} (h : Gives next s fun k ↦ some (.ok (word k))) :
    GivesEach next s word :=
  ⟨some, h, namesEach_some⟩

theorem reindex (h : GivesEach next s f) (e : κ ≃ ι) (hg : ∀ k, g k = f (e k)) :
    GivesEach next s g := by
  obtain ⟨v, hv, heach⟩ := h
  refine ⟨_, fun k ↦ ?_, heach.map_symm e⟩
  simpa [hg, Function.comp_def] using hv k

theorem exists_list_of_eq_none {n : ℕ} (h : Gives next s fun k ↦ (v k).map fun i ↦ .ok (f i))
    (heach : NamesEach v) (hn : v n = none) :
    ∃ is : List ι, (v = fun k ↦ is[k]?) ∧ is.Nodup ∧ ∀ i, i ∈ is := by
  obtain ⟨as, has⟩ := h.exists_list (n := n) (by rw [hn, Option.map_none])
  obtain ⟨is, rfl⟩ := exists_list_of_getElem? fun k ↦ (congrFun has k).symm
  refine ⟨is, rfl, ?_, fun i ↦ ?_⟩
  · rw [List.nodup_iff_getElem?_ne_getElem?]
    intro k l hkl hl heq
    have hget : is[l]? = some is[l] := List.getElem?_eq_getElem hl
    exact hkl.ne (heach.eq_of_eq_some (heq.trans hget) hget)
  · obtain ⟨k, hk, -⟩ := heach i
    exact List.mem_of_getElem? hk

theorem ne_none [Nonempty ι] (h : Gives next s fun k ↦ (v k).map fun i ↦ .ok (f i))
    (heach : NamesEach v) : v 0 ≠ none := by
  intro h0
  obtain ⟨i⟩ := ‹Nonempty ι›
  obtain ⟨k, hk, -⟩ := heach i
  have hnone := h.eq_none_of_le (k := 0) (by rw [h0, Option.map_none]) (Nat.zero_le k)
  rw [hk] at hnone
  cases hnone

theorem exists_lists [Fintype ι] (h : GivesEach next s f) :
    ∃ is : List ι, (is : Multiset ι) = Finset.univ.val ∧
      Lists next s (is.map fun i ↦ .ok (f i)) := by
  obtain ⟨v, hv, heach⟩ := h
  obtain ⟨n, hn⟩ := heach.exists_eq_none
  obtain ⟨is, rfl, hnodup, hmem⟩ := exists_list_of_eq_none hv heach hn
  refine ⟨is, ?_, fun k ↦ ?_⟩
  · refine (Multiset.Nodup.ext (Multiset.coe_nodup.2 hnodup) Finset.univ.nodup).2 fun i ↦ ?_
    simpa using hmem i
  · simpa only [List.getElem?_map] using hv k

theorem exists_equiv [Infinite ι] (h : GivesEach next s f) :
    ∃ e : ℕ ≃ ι, Gives next s fun k ↦ some (.ok (f (e k))) := by
  obtain ⟨v, hv, heach⟩ := h
  have hne : ∀ k, v k ≠ none := by
    intro n hn
    obtain ⟨is, -, -, hmem⟩ := exists_list_of_eq_none hv heach hn
    exact Set.infinite_univ ((List.finite_toSet is).subset fun i _ ↦ hmem i)
  choose i hi using fun k ↦ Option.ne_none_iff_exists'.1 (hne k)
  have hbijective : Function.Bijective i := by
    constructor
    · intro k l hkl
      exact heach.eq_of_eq_some (hi k) (hkl ▸ hi l)
    · intro j
      obtain ⟨k, hk, -⟩ := heach j
      exact ⟨k, Option.some.inj ((hi k).symm.trans hk)⟩
  refine ⟨.ofBijective i hbijective, fun k ↦ ?_⟩
  simpa [hi] using hv k

end GivesEach

section Pair

variable {next : τ → Step τ Item} {s t : τ} {v' : ℕ → Option κ}

def pairWords (f : ι → String) (g : κ → String) (v : ℕ → Option ι) (v' : ℕ → Option κ) :
    ℕ → ℕ → Option String
  | 0, j => (v j).map f
  | _, j => (v' j).map g

def pairIndex (v : ℕ → Option ι) (v' : ℕ → Option κ) : List ℕ → Option (ι × κ)
  | [j, j'] => (v j).bind fun i ↦ (v' j').map (i, ·)
  | _ => none

theorem pairIndex_eq_some {w : List ℕ} {i : ι} {k : κ} :
    pairIndex v v' w = some (i, k) ↔ ∃ j j', w = [j, j'] ∧ v j = some i ∧ v' j' = some k := by
  unfold pairIndex
  split
  · simp [Option.bind_eq_some_iff, Option.map_eq_some_iff]
  · next hne =>
    simp only [reduceCtorEq, false_iff]
    rintro ⟨j, j', rfl, -⟩
    exact hne j j' rfl

theorem exists_of_isTuple {w : List ℕ} {as : List String}
    (hw : Within (pairWords f g v v') 2 w) (h : IsTuple (pairWords f g v v') w as) :
    ∃ i k, pairIndex v v' w = some (i, k) ∧ as = [f i, g k] := by
  obtain ⟨j, j', rfl⟩ := List.length_eq_two.1 hw.1
  obtain ⟨a, a', rfl⟩ := List.length_eq_two.1 h.1
  obtain ⟨i, hi, hfi⟩ := Option.map_eq_some_iff.1 (h.2 0 j rfl).symm
  obtain ⟨k, hk, hgk⟩ := Option.map_eq_some_iff.1 (h.2 1 j' rfl).symm
  exact ⟨i, k, pairIndex_eq_some.2 ⟨j, j', rfl, hi, hk⟩, by rw [hfi, hgk]⟩

theorem within_of_eq_some {j j' : ℕ} {i : ι} {k : κ} (hi : v j = some i) (hk : v' j' = some k) :
    Within (pairWords f g v v') 2 [j, j'] := by
  refine ⟨rfl, fun l m hm ↦ ?_⟩
  match l with
  | 0 =>
    obtain rfl : j = m := Option.some.inj hm
    simp [pairWords, hi]
  | 1 =>
    obtain rfl : j' = m := Option.some.inj hm
    simp [pairWords, hk]
  | l + 2 => simp at hm

end Pair

def IsConcatenation (next : τ → Step τ Item) (product : Diagonal τ String → τ) : Prop :=
  ∀ factors, next (product factors) =
    ((factors.step (m := Id) next).mapState product).mapItem ofTuple

def halves (one : τ) (product : Diagonal τ String → τ) (s : τ) (n : ℕ) : τ :=
  if n = 0 then one
  else if n = 1 then s
  else product (.ofFactors [halves one product s (n / 2), halves one product s (n - n / 2)])
termination_by n

theorem power_eq_halves (body : Listing) (n : ℕ) :
    power body n = halves (words [""]) product body n := by
  induction n using Nat.strong_induction_on with
  | _ n ih =>
    rw [power, halves]
    split
    · rfl
    · split
      · rfl
      · rw [ih _ (by omega), ih _ (by omega)]
        rfl

def tupleWord {n : ℕ} (f : ι → String) (x : Fin n → ι) : String :=
  String.join (List.ofFn fun i ↦ f (x i))

section Halves

variable {next : τ → Step τ Item} {product : Diagonal τ String → τ} {one s t : τ}
  (hstep : IsConcatenation next product)

include hstep

theorem GivesEach.pair (hs : GivesEach next s f) (ht : GivesEach next t g)
    (h : Finite ι ∧ Finite κ ∨ Nonempty ι ∧ Nonempty κ) :
    GivesEach next (product (.ofFactors [s, t])) fun x : ι × κ ↦ f x.1 ++ g x.2 := by
  obtain ⟨v, hv, heach⟩ := hs
  obtain ⟨v', hv', heach'⟩ := ht
  have hgives : ∀ i (hi : i < [s, t].length),
      Gives next [s, t][i] fun j ↦ (pairWords f g v v' i j).map .ok := by
    intro i hi
    match i with
    | 0 => simpa [pairWords, Function.comp_def] using hv
    | 1 => simpa [pairWords, Function.comp_def] using hv'
  have hends : (∀ i < [s, t].length, ∃ j, pairWords f g v v' i j = none) ∨
      ∀ i < [s, t].length, pairWords f g v v' i 0 ≠ none := by
    refine h.imp (fun ⟨hι, hκ⟩ i hi ↦ ?_) fun ⟨hι, hκ⟩ i hi ↦ ?_
    · match i with
      | 0 => exact heach.exists_eq_none.imp fun j hj ↦ by simp [pairWords, hj]
      | 1 => exact heach'.exists_eq_none.imp fun j hj ↦ by simp [pairWords, hj]
    · match i with
      | 0 => simpa [pairWords] using GivesEach.ne_none hv heach
      | 1 => simpa [pairWords] using GivesEach.ne_none hv' heach'
  obtain ⟨u, hu, hreached, hlisted⟩ :=
    Diagonal.exists_gives_reached (ε := Obstacle) hgives hends
  have hword (k : ℕ) (w : List ℕ) (as : List String) (hk : u k = some (w, as)) :
      ∃ i l, pairIndex v v' w = some (i, l) ∧ as = [f i, g l] := by
    obtain ⟨count, live, stage, d, hr⟩ := hreached (k + 1)
    have hwithin := hr.within
      (List.mem_map.2 ⟨_, Diagonal.mem_filterMap_range (Nat.lt_succ_self k) hk, rfl⟩)
    exact exists_of_isTuple hwithin (Diagonal.isTuple_of_eq_some hreached hk)
  refine ⟨fun k ↦ (u k).bind fun x ↦ pairIndex v v' x.1, fun k ↦ ?_, fun x ↦ ?_⟩
  · have hk := (hu k).map hstep
    cases huk : u k with
    | none => simpa [huk] using hk
    | some x =>
      obtain ⟨i, l, hpair, has⟩ := hword k x.1 x.2 huk
      simpa [huk, hpair, has, ofTuple, Except.map] using hk
  · obtain ⟨i, l⟩ := x
    obtain ⟨j, hj, -⟩ := heach i
    obtain ⟨j', hj', -⟩ := heach' l
    obtain ⟨k, as, hk⟩ := Diagonal.exists_listed (Diagonal.closed_okItems hgives) hreached hlisted
      (within_of_eq_some hj hj')
    refine ⟨k, by simp [hk, pairIndex, hj, hj'], fun k' hk' ↦ ?_⟩
    obtain ⟨y, hy, hpair⟩ := Option.bind_eq_some_iff.1 hk'
    obtain ⟨m, m', hw, hm, hm'⟩ := pairIndex_eq_some.1 hpair
    obtain rfl := heach.eq_of_eq_some hm hj
    obtain rfl := heach'.eq_of_eq_some hm' hj'
    exact Diagonal.eq_of_fst_eq hreached hy hk hw

omit hstep in
theorem tupleWord_append {k l : ℕ} (x : Fin (k + l) → ι) :
    tupleWord f x =
      tupleWord f (fun i ↦ x (Fin.castAdd l i)) ++ tupleWord f fun i ↦ x (Fin.natAdd k i) := by
  rw [tupleWord, List.ofFn_add, String.join_append]
  rfl

theorem GivesEach.append {k l n : ℕ} (hn : k + l = n)
    (hs : GivesEach next s fun x : Fin k → ι ↦ tupleWord f x)
    (ht : GivesEach next t fun x : Fin l → ι ↦ tupleWord f x) :
    GivesEach next (product (.ofFactors [s, t])) fun x : Fin n → ι ↦ tupleWord f x := by
  subst hn
  have h : Finite (Fin k → ι) ∧ Finite (Fin l → ι) ∨
      Nonempty (Fin k → ι) ∧ Nonempty (Fin l → ι) := by
    cases finite_or_infinite ι with
    | inl hfinite => exact .inl ⟨inferInstance, inferInstance⟩
    | inr hinfinite => exact .inr ⟨inferInstance, inferInstance⟩
  exact (hs.pair hstep ht h).reindex (Fin.appendEquiv k l).symm tupleWord_append

/-- Each choice of an index for every one of `n` bodies is given once. -/
theorem GivesEach.halves (hone : Lists next one [.ok ""]) (hs : GivesEach next s f) (n : ℕ) :
    GivesEach next (halves one product s n) fun x : Fin n → ι ↦ tupleWord f x := by
  induction n using Nat.strong_induction_on with
  | _ n ih =>
    obtain rfl | rfl | hn : n = 0 ∨ n = 1 ∨ 2 ≤ n := by omega
    · rw [Listing.halves, if_pos rfl]
      have hunit : GivesEach next one fun i : Fin [""].length ↦ [""][i] := of_lists hone
      refine hunit.reindex (.ofUnique (Fin 0 → ι) (Fin 1)) fun x ↦ ?_
      simp [tupleWord]
    · rw [Listing.halves, if_neg (by omega), if_pos rfl]
      refine hs.reindex (.funUnique (Fin 1) ι) fun x ↦ ?_
      simp [tupleWord]
    · rw [Listing.halves, if_neg (by omega), if_neg (by omega)]
      exact append hstep (by omega) (ih (n / 2) (by omega)) (ih (n - n / 2) (by omega))

theorem lists_halves {items : List Item} (hone : Lists next one [.ok ""])
    (hs : Lists next s items) (n : ℕ) :
    Lists next (halves one product s n) (powered items n) := by
  induction n using Nat.strong_induction_on with
  | _ n ih =>
    rw [Listing.halves, powered, copies]
    split
    · exact hone
    · split
      · exact hs
      · have hpair := Diagonal.lists_step (.cons (ih (n / 2) (by omega))
          (.cons (ih (n - n / 2) (by omega)) .nil))
        exact hpair.map hstep

end Halves

theorem isConcatenation_reply [Compiler] : IsConcatenation reply product := reply_product

end Listing

/-- Words, sequences of any kind, and products of such. A listing is never endless, and the
sequences at the leaves of a tower may be. -/
inductive Tower (σ : Type) where
  | words (ws : List String)
  | leaf (s : σ)
  | product (factors : Diagonal (Tower σ) String)

namespace Tower

open Listing

variable {σ ι : Type} {next : σ → Step σ Item} {s : σ}

/-- The words and the products make the steps that they make in a listing. -/
def step (next : σ → Step σ Item) : Tower σ → Step (Tower σ) Item
  | words [] => .ended
  | words (w :: ws) => .yield (.ok w) (words ws)
  | leaf s => (next s).mapState leaf
  | product ⟨queue, grid⟩ =>
    match grid.pop? with
    | some (tuple, grid) => .yield (.ok (String.join tuple)) (product ⟨queue, grid⟩)
    | none =>
      match queue with
      | [] => .ended
      | (factor, t) :: rest =>
        ((Diagonal.receive factor rest grid (t.step next)).mapState product).mapItem ofTuple
termination_by structural t => t

def power (s : σ) (n : ℕ) : Tower σ := halves (words [""]) product (leaf s) n

theorem isConcatenation_step : IsConcatenation (step next) product := by
  rintro ⟨queue, grid⟩
  unfold step Diagonal.step
  cases grid.pop? with
  | some r => rfl
  | none => cases queue <;> rfl

theorem lists_one : Lists (step next) (words [""]) [.ok ""] :=
  .cons rfl (.nil rfl)

theorem answers_leaf {k : ℕ} {r : Option Item} (h : Answers next s k r) :
    Answers (step next) (leaf s) k r := by
  have hstep (s : σ) : step next (leaf s) = ((next s).mapState leaf).mapItem id := by
    rw [step]
    cases next s <;> rfl
  simpa using h.map hstep

theorem givesEach_power {word : ι → String} (h : GivesEach next s word) (n : ℕ) :
    GivesEach (step next) (power s n) fun x : Fin n → ι ↦ tupleWord word x := by
  obtain ⟨v, hv, heach⟩ := h
  exact GivesEach.halves isConcatenation_step lists_one ⟨v, fun k ↦ answers_leaf (hv k), heach⟩ n

theorem lists_power {items : List Item} (h : Lists next s items) (n : ℕ) :
    Lists (step next) (power s n) (powered items n) :=
  lists_halves isConcatenation_step lists_one (fun k ↦ answers_leaf (h k)) n

end Tower

namespace Listing

theorem givesEach_power [Compiler] {ι : Type} {body : Listing} {word : ι → String}
    (h : GivesEach reply body word) (n : ℕ) :
    GivesEach reply (power body n) fun x : Fin n → ι ↦ tupleWord word x := by
  rw [power_eq_halves]
  exact .halves isConcatenation_reply (lists_words [""]) h n

/-- A body without errors gives, `n` at a time, the words of all choices of a word for every place.
They are a permutation of these where the body is finite, and each choice has a pull of its own
where it is endless. Over a listing a tower gives what the listing gives. -/
theorem gives_power [Compiler] (body : Listing) (n : ℕ) (w w' : Workspace) :
    Lists proceed (power body 0, w) [.ok ""] ∧
    (∀ ws : List String, Lists proceed (body, w') (ws.map .ok) → ∃ outputs : List String,
      Lists proceed (power body n, w) (outputs.map .ok) ∧
      outputs.length = ws.length ^ n ∧
      (outputs : Multiset String) = (Finset.univ : Finset (Fin n → Fin ws.length)).val.map
        (tupleWord fun i ↦ ws[i])) ∧
    (∀ {σ : Type} (next : σ → Step σ Item) (s : σ),
      Lists (Tower.step next) (Tower.power s 0) [.ok ""] ∧
      ∀ word : ℕ → String, Gives next s (fun k ↦ some (.ok (word k))) → 0 < n →
        ∃ e : ℕ ≃ (Fin n → ℕ), Gives (Tower.step next) (Tower.power s n) fun k ↦
          some (.ok (tupleWord word (e k)))) ∧
    ∀ items : List Item, Lists proceed (body, w') items → ∀ q,
      Gives proceed (power body n, w) q ↔ Gives (Tower.step reply) (Tower.power body n) q := by
  refine ⟨?_, fun ws h ↦ ?_, fun next s ↦ ⟨?_, fun word h hn ↦ ?_⟩, fun items h q ↦ ?_⟩
  · rw [Lists, gives_proceed_iff, power, if_pos rfl]
    exact lists_words [""]
  · rw [Lists, gives_proceed_iff] at h
    obtain ⟨is, his, hlists⟩ := (givesEach_power (.of_lists h) n).exists_lists
    refine ⟨is.map (tupleWord fun i ↦ ws[i]), ?_, ?_, ?_⟩
    · rw [Lists, gives_proceed_iff, List.map_map]
      exact hlists
    · have hcard := congrArg Multiset.card his
      simpa [Fintype.card_fun] using hcard
    · rw [← his, Multiset.map_coe]
  · rw [Tower.power, halves, if_pos rfl]
    exact Tower.lists_one
  · have hnonempty : Nonempty (Fin n) := Fin.pos_iff_nonempty.1 hn
    have hconst : Function.Injective (Function.const (Fin n) : ℕ → Fin n → ℕ) :=
      Function.const_injective
    have hinfinite := Infinite.of_injective _ hconst
    exact (Tower.givesEach_power (.of_gives h) n).exists_equiv
  · rw [Lists, gives_proceed_iff] at h
    rw [gives_proceed_iff]
    have hlisting := lists_power h n
    have htower := Tower.lists_power h n
    constructor
    · intro hq
      rwa [hq.unique hlisting]
    · intro hq
      rwa [hq.unique htower]

def numerals (k : ℕ) : Step ℕ Item := .yield (.ok (toString k)) (k + 1)

theorem gives_numerals : Gives numerals 0 fun k ↦ some (.ok (toString k)) := by
  have hstep (k : ℕ) : numerals k =
      ((Diagonal.counting Obstacle k).mapState id).mapItem (Except.map toString) := rfl
  intro k
  simpa [Except.map] using (Diagonal.gives_counting 0 k).map hstep

/-- Two letters three at a time, and all numerals three at a time. -/
theorem gives_power_letters :
    Lists proceed (words ["a", "b"], .empty) (["a", "b"].map .ok) ∧
    (∃ outputs : List String,
      Lists proceed (power (words ["a", "b"]) 3, .empty) (outputs.map .ok) ∧
      outputs.length = 2 ^ 3 ∧
      (outputs : Multiset String) = (Finset.univ : Finset (Fin 3 → Fin 2)).val.map
        (tupleWord fun i ↦ ["a", "b"][i])) ∧
    0 < 3 ∧ ∃ e : ℕ ≃ (Fin 3 → ℕ), Gives (Tower.step numerals) (Tower.power 0 3) fun k ↦
      some (.ok (tupleWord toString (e k))) := by
  have hletters : Lists proceed (words ["a", "b"], .empty) (["a", "b"].map .ok) :=
    gives_proceed_iff.2 (lists_words ["a", "b"])
  obtain ⟨-, hfinite, hendless, -⟩ := gives_power (words ["a", "b"]) 3 .empty .empty
  exact ⟨hletters, hfinite _ hletters, by decide,
    (hendless numerals 0).2 toString gives_numerals (by decide)⟩

end Listing

end RegexWords
