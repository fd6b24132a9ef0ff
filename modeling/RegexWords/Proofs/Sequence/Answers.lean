import Mathlib.Data.List.Basic
import RegexWords.Sequence.Step

namespace RegexWords

variable {σ τ α β ι : Type} {next : σ → Step σ α} {s t : σ}

/-- A pull makes steps without an item until there is one or the end. -/
inductive Pulls (next : σ → Step σ α) : σ → Option (α × σ) → Prop
  | ended {s : σ} : next s = .ended → Pulls next s none
  | yield {s t : σ} {a : α} : next s = .yield a t → Pulls next s (some (a, t))
  | skip {s t : σ} {r : Option (α × σ)} : next s = .skip t → Pulls next t r → Pulls next s r

/-- The answer to pull number `k`, counted from zero. -/
inductive Answers (next : σ → Step σ α) : σ → ℕ → Option α → Prop
  | ended {s : σ} {k : ℕ} : Pulls next s none → Answers next s k none
  | now {s t : σ} {a : α} : Pulls next s (some (a, t)) → Answers next s 0 (some a)
  | later {s t : σ} {a : α} {k : ℕ} {r : Option α} :
      Pulls next s (some (a, t)) → Answers next t k r → Answers next s (k + 1) r

def Gives (next : σ → Step σ α) (s : σ) (q : ℕ → Option α) : Prop :=
  ∀ k, Answers next s k (q k)

/-- A finite sequence is given item by item and then ends. -/
def Lists (next : σ → Step σ α) (s : σ) (as : List α) : Prop :=
  Gives next s fun k ↦ as[k]?

theorem Pulls.unique {r r' : Option (α × σ)} (h : Pulls next s r) (h' : Pulls next s r') :
    r = r' := by
  induction h with
  | ended hs => cases h' <;> simp_all
  | yield hs => cases h' <;> simp_all
  | skip hs _ ih =>
    cases h' with
    | ended hs' => simp [hs] at hs'
    | yield hs' => simp [hs] at hs'
    | skip hs' ht' =>
      rw [hs] at hs'
      cases hs'
      exact ih ht'

theorem Answers.unique {k : ℕ} {r r' : Option α} (h : Answers next s k r)
    (h' : Answers next s k r') : r = r' := by
  induction h with
  | ended hs =>
    cases h' with
    | ended => rfl
    | now hs' => cases hs.unique hs'
    | later hs' => cases hs.unique hs'
  | now hs =>
    cases h' with
    | ended hs' => cases hs.unique hs'
    | now hs' => cases hs.unique hs'; rfl
  | later hs _ ih =>
    cases h' with
    | ended hs' => cases hs.unique hs'
    | later hs' ht' => cases hs.unique hs'; exact ih ht'

theorem Answers.of_pulls {k : ℕ} {r : Option α}
    (h : ∀ x, Pulls next t x → Pulls next s x) (ht : Answers next t k r) : Answers next s k r := by
  cases ht with
  | ended hp => exact .ended (h _ hp)
  | now hp => exact .now (h _ hp)
  | later hp ha => exact .later (h _ hp) ha

theorem Answers.tail {k : ℕ} {r : Option α} {a : α} (h : Answers next s (k + 1) r)
    (hp : Pulls next s (some (a, t))) : Answers next t k r := by
  cases h with
  | ended hp' => cases hp.unique hp'
  | later hp' ha => cases hp.unique hp'; exact ha

namespace Gives

variable {q : ℕ → Option α}

theorem unique {q' : ℕ → Option α} (h : Gives next s q) (h' : Gives next s q') : q = q' :=
  funext fun k ↦ (h k).unique (h' k)

theorem of_ended (h : Pulls next s none) : Gives next s fun _ ↦ none :=
  fun _ ↦ .ended h

theorem of_yield {a : α} (h : Pulls next s (some (a, t))) (hq : q 0 = some a)
    (ht : Gives next t fun k ↦ q (k + 1)) : Gives next s q := by
  intro k
  cases k with
  | zero => rw [hq]; exact .now h
  | succ k => exact .later h (ht k)

theorem of_skip (h : next s = .skip t) (ht : Gives next t q) : Gives next s q :=
  fun k ↦ (ht k).of_pulls fun _ ↦ .skip h

theorem pull (h : Gives next s q) :
    (Pulls next s none ∧ ∀ k, q k = none) ∨
    ∃ a t, Pulls next s (some (a, t)) ∧ q 0 = some a ∧ Gives next t fun k ↦ q (k + 1) := by
  generalize h0 : q 0 = r
  have first := h 0
  rw [h0] at first
  cases first with
  | ended hp => exact .inl ⟨hp, fun k ↦ (h k).unique (.ended hp)⟩
  | @now _ t a hp => exact .inr ⟨a, t, hp, rfl, fun k ↦ (h (k + 1)).tail hp⟩

theorem eq_none_of_le (h : Gives next s q) {k l : ℕ} (hk : q k = none) (hl : k ≤ l) :
    q l = none := by
  induction k generalizing s q l with
  | zero =>
    obtain ⟨-, hn⟩ | ⟨a, t, -, h0, -⟩ := h.pull
    · exact hn l
    · rw [h0] at hk
      cases hk
  | succ k ih =>
    obtain ⟨-, hn⟩ | ⟨a, t, -, -, ht⟩ := h.pull
    · exact hn l
    · obtain ⟨l, rfl⟩ : ∃ m, l = m + 1 := ⟨l - 1, by omega⟩
      exact ih ht hk (by omega)

end Gives

namespace Lists

variable {as : List α}

theorem nil (h : next s = .ended) : Lists next s [] :=
  Gives.of_ended (.ended h)

theorem cons {a : α} (h : next s = .yield a t) (ht : Lists next t as) : Lists next s (a :: as) :=
  Gives.of_yield (.yield h) rfl ht

theorem skip (h : next s = .skip t) (ht : Lists next t as) : Lists next s as :=
  Gives.of_skip h ht

theorem pull_nil (h : Lists next s []) : Pulls next s none := by
  obtain ⟨hp, -⟩ | ⟨a, t, -, h0, -⟩ := Gives.pull h
  · exact hp
  · cases h0

theorem pull_cons {a : α} (h : Lists next s (a :: as)) :
    ∃ t, Pulls next s (some (a, t)) ∧ Lists next t as := by
  obtain ⟨-, hn⟩ | ⟨b, t, hp, h0, ht⟩ := Gives.pull h
  · cases hn 0
  · cases h0
    exact ⟨t, hp, ht⟩

end Lists

section Map

variable {next' : τ → Step τ β} {f : σ → τ} {g : α → β}
  (hstep : ∀ s, next' (f s) = ((next s).mapState f).mapItem g)
include hstep

theorem Pulls.map {r : Option (α × σ)} (h : Pulls next s r) :
    Pulls next' (f s) (r.map (Prod.map g f)) := by
  induction h with
  | ended hs => exact .ended (by rw [hstep, hs]; rfl)
  | yield hs => exact .yield (by rw [hstep, hs]; rfl)
  | skip hs _ ih => exact .skip (by rw [hstep, hs]; rfl) ih

theorem Answers.map {k : ℕ} {r : Option α} (h : Answers next s k r) :
    Answers next' (f s) k (r.map g) := by
  induction h with
  | ended hp => exact .ended (hp.map hstep)
  | now hp => exact .now (hp.map hstep)
  | later hp _ ih => exact .later (hp.map hstep) ih

theorem Lists.map {as : List α} (h : Lists next s as) : Lists next' (f s) (as.map g) := by
  intro k
  simpa only [List.getElem?_map] using (h k).map hstep

end Map

def Step.ofPull : Option (α × σ) → Step σ α
  | none => .ended
  | some (a, s) => .yield a s

theorem Pulls.exists_fuel {r : Option (α × σ)} (h : Pulls next s r) :
    ∃ least, ∀ fuel ≥ least, RegexWords.pull (m := Id) next fuel s = Step.ofPull r := by
  induction h with
  | ended hs =>
    refine ⟨1, fun fuel hf ↦ ?_⟩
    obtain ⟨fuel, rfl⟩ : ∃ k, fuel = k + 1 := ⟨fuel - 1, by omega⟩
    simp only [RegexWords.pull, hs]
    rfl
  | yield hs =>
    refine ⟨1, fun fuel hf ↦ ?_⟩
    obtain ⟨fuel, rfl⟩ : ∃ k, fuel = k + 1 := ⟨fuel - 1, by omega⟩
    simp only [RegexWords.pull, hs]
    rfl
  | skip hs _ ih =>
    obtain ⟨least, ih⟩ := ih
    refine ⟨least + 1, fun fuel hf ↦ ?_⟩
    obtain ⟨fuel, rfl⟩ : ∃ k, fuel = k + 1 := ⟨fuel - 1, by omega⟩
    simp only [RegexWords.pull, hs]
    exact ih fuel (by omega)

theorem pulls_of_pull_eq {fuel : ℕ} {r : Option (α × σ)}
    (h : RegexWords.pull (m := Id) next fuel s = Step.ofPull r) : Pulls next s r := by
  induction fuel generalizing s with
  | zero => cases r <;> cases h
  | succ fuel ih =>
    generalize hs : next s = x at h
    simp only [RegexWords.pull, hs] at h
    cases x with
    | yield a t =>
      cases r with
      | none => cases h
      | some p => cases h; exact .yield hs
    | skip t => exact .skip hs (ih h)
    | ended =>
      cases r with
      | none => exact .ended hs
      | some p => cases h

section Progress

variable {Inv : List ι → σ → Prop} {value : ι → α}

/-- Where the places are bounded in number, all are listed, and then a tail. -/
theorem exists_lists_of_progress {Complete : List ι → List α → Prop} {B : ℕ}
    (bounded : ∀ E s, Inv E s → E.length ≤ B)
    (progress : ∀ E s, Inv E s →
      (∃ a t, Pulls next s (some (value a, t)) ∧ Inv (E ++ [a]) t) ∨
      ∃ tail, Lists next s tail ∧ Complete E tail)
    (E : List ι) (s : σ) (h : Inv E s) :
    ∃ F tail, Lists next s (F.map value ++ tail) ∧ Complete (E ++ F) tail := by
  generalize hm : B - E.length = m
  induction m generalizing E s with
  | zero =>
    obtain ⟨a, t, -, ht⟩ | ⟨tail, hl, hc⟩ := progress E s h
    · have hb := bounded _ _ ht
      simp only [List.length_append, List.length_singleton] at hb
      omega
    · exact ⟨[], tail, hl, by simpa only [List.append_nil] using hc⟩
  | succ m ih =>
    obtain ⟨a, t, hp, ht⟩ | ⟨tail, hl, hc⟩ := progress E s h
    · have hlen : B - (E ++ [a]).length = m := by
        simp only [List.length_append, List.length_singleton]
        omega
      obtain ⟨F, tail, hl, hc⟩ := ih _ t ht hlen
      refine ⟨a :: F, tail, Gives.of_yield hp rfl hl, ?_⟩
      simpa only [List.append_assoc, List.singleton_append] using hc
    · exact ⟨[], tail, hl, by simpa only [List.append_nil] using hc⟩

def unfold {ξ : Type} (f : ξ → Option (ι × ξ)) : ℕ → ξ → Option ι
  | 0, x => (f x).map Prod.fst
  | k + 1, x => (f x).bind fun p ↦ unfold f k p.2

theorem filterMap_range_succ (v : ℕ → Option ι) (k : ℕ) :
    (List.range (k + 1)).filterMap v =
      (v 0).toList ++ (List.range k).filterMap fun k ↦ v (k + 1) := by
  rw [List.range_succ_eq_map, List.filterMap_cons, List.filterMap_map]
  cases v 0 <;> rfl

/-- The choice of a successor pulls an item and adds it to those listed, and there is none when the
sequence has ended with its list complete. -/
structure Chooses {ξ : Type} (next : σ → Step σ α) (value : ι → α) (Complete : List ι → Prop)
    (state : ξ → σ) (listed : ξ → List ι) (f : ξ → Option (ι × ξ)) : Prop where
  some : ∀ x a y, f x = some (a, y) →
    Pulls next (state x) (some (value a, state y)) ∧ listed y = listed x ++ [a]
  none : ∀ x, f x = none → Pulls next (state x) none ∧ Complete (listed x)

section Chooses

variable {ξ : Type} {Complete : List ι → Prop} {state : ξ → σ} {listed : ξ → List ι}
  {f : ξ → Option (ι × ξ)} (hf : Chooses next value Complete state listed f)

include hf

theorem Chooses.answers (k : ℕ) (x : ξ) :
    Answers next (state x) k ((unfold f k x).map value) := by
  induction k generalizing x with
  | zero =>
    cases hx : f x with
    | none => simpa [unfold, hx] using Answers.ended (hf.none x hx).1
    | some p => simpa [unfold, hx] using Answers.now (hf.some x p.1 p.2 hx).1
  | succ k ih =>
    cases hx : f x with
    | none => simpa [unfold, hx] using Answers.ended (hf.none x hx).1
    | some p => simpa [unfold, hx] using Answers.later (hf.some x p.1 p.2 hx).1 (ih p.2)

theorem Chooses.exists_listed_eq (k : ℕ) (x : ξ) :
    (∃ y, listed y = listed x ++ (List.range k).filterMap fun l ↦ unfold f l x) ∧
    (unfold f k x = .none →
      Complete (listed x ++ (List.range k).filterMap fun l ↦ unfold f l x)) := by
  induction k generalizing x with
  | zero =>
    refine ⟨⟨x, by simp⟩, fun hx ↦ ?_⟩
    simpa using (hf.none x (by simpa [unfold] using hx)).2
  | succ k ih =>
    rw [filterMap_range_succ]
    cases hx : f x with
    | none =>
      have hz : (unfold f 0 x).toList ++
          (List.range k).filterMap (fun l ↦ unfold f (l + 1) x) = [] := by
        simp [unfold, hx]
      rw [hz, List.append_nil]
      exact ⟨⟨x, rfl⟩, fun _ ↦ (hf.none x hx).2⟩
    | some p =>
      have hs := ih p.2
      simp only [(hf.some x p.1 p.2 hx).2, List.append_assoc] at hs
      simpa only [unfold, hx, Option.map_some, Option.toList_some, Option.bind_some] using hs

end Chooses

variable {Complete : List ι → Prop}
  (progress : ∀ E s, Inv E s →
    (∃ a t, Pulls next s (some (value a, t)) ∧ Inv (E ++ [a]) t) ∨
    Pulls next s none ∧ Complete E)

include progress

theorem exists_chooses :
    ∃ f : {x : List ι × σ // Inv x.1 x.2} → Option (ι × {x : List ι × σ // Inv x.1 x.2}),
      Chooses next value Complete (fun x ↦ x.1.2) (fun x ↦ x.1.1) f := by
  have exists_next (x : {x : List ι × σ // Inv x.1 x.2}) :
      ∃ r : Option (ι × {x : List ι × σ // Inv x.1 x.2}),
        (∀ a y, r = some (a, y) →
          Pulls next x.1.2 (some (value a, y.1.2)) ∧ y.1.1 = x.1.1 ++ [a]) ∧
        (r = none → Pulls next x.1.2 none ∧ Complete x.1.1) := by
    obtain ⟨a, t, hp, ht⟩ | hn := progress x.1.1 x.1.2 x.2
    · refine ⟨some (a, ⟨(_, t), ht⟩), ?_, by simp⟩
      rintro b y ⟨⟩
      exact ⟨hp, rfl⟩
    · exact ⟨none, by simp, fun _ ↦ hn⟩
  choose f hf using exists_next
  exact ⟨f, fun x ↦ (hf x).1, fun x ↦ (hf x).2⟩

theorem exists_gives_of_progress (h : Inv [] s) :
    ∃ v : ℕ → Option ι, Gives next s (fun k ↦ (v k).map value) ∧
      ∀ k, (∃ t, Inv ((List.range k).filterMap v) t) ∧
        (v k = none → Complete ((List.range k).filterMap v)) := by
  obtain ⟨f, hf⟩ := exists_chooses progress
  refine ⟨fun k ↦ unfold f k ⟨([], s), h⟩, fun k ↦ hf.answers k ⟨([], s), h⟩, fun k ↦ ?_⟩
  obtain ⟨⟨y, hy⟩, hc⟩ := hf.exists_listed_eq k ⟨([], s), h⟩
  simp only [List.nil_append] at hy hc
  exact ⟨⟨y.1.2, hy ▸ y.2⟩, hc⟩

end Progress

end RegexWords
