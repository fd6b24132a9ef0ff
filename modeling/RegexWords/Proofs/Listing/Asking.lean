import Mathlib.Data.List.Nodup
import Mathlib.Data.Set.Insert
import RegexWords.Proofs.Listing.Taking

namespace RegexWords

/-- What happens to a part of a listing. The part is named by the numbers of the parts that it lies
in, from the outermost on, so that the whole has no number. -/
inductive Incident where
  /-- A pull of the part is over. -/
  | answered (place : List ℕ)
  /-- The part, which is a repetition, starts a segment. -/
  | started (place : List ℕ)
  deriving DecidableEq, Repr

namespace Incident

def within (k : ℕ) : Incident → Incident
  | answered place => answered (k :: place)
  | started place => started (k :: place)

theorem within_inj {k l : ℕ} {i j : Incident} : i.within k = j.within l ↔ k = l ∧ i = j := by
  cases i <;> cases j <;> simp [within]

theorem within_ne_answered {k : ℕ} {i : Incident} : i.within k ≠ answered [] := by
  cases i <;> simp [within]

theorem within_ne_started {k : ℕ} {i : Incident} : i.within k ≠ started [] := by
  cases i <;> simp [within]

variable {k : ℕ} {K : Set ℕ} {is js : List Incident}

theorem nodup_within_append (h : is.Nodup) (hjs : js.Nodup)
    (hk : ∀ i : Incident, i.within k ∉ js) : (is.map (within k) ++ js).Nodup := by
  have hinj : Function.Injective (within k) := fun i j he ↦ (within_inj.1 he).2
  refine (h.map hinj).append hjs fun i hi hj ↦ ?_
  obtain ⟨j, -, rfl⟩ := List.mem_map.1 hi
  exact hk j hj

theorem mem_insert_of_within_mem (h : ∀ {n : ℕ} {i : Incident}, i.within n ∈ js → n ∈ K)
    {n : ℕ} {i : Incident} (hi : i.within n ∈ is.map (within k) ++ js) : n ∈ insert k K := by
  rcases List.mem_append.1 hi with hi | hi
  · obtain ⟨j, -, he⟩ := List.mem_map.1 hi
    exact .inl (within_inj.1 he).1.symm
  · exact .inr (h hi)

end Incident

namespace Listing

variable [Compiler]

def ownAnswer (l : Listing) : List Incident :=
  match l.reply with
  | .skip _ => []
  | .yield _ _ | .ended => [.answered []]

/-- What happens in the next step of a listing. A branch is numbered by how many stand behind it in
the rotation, a factor by its position, and a segment by its count. -/
def incidents : Listing → List Incident
  | words ws => (words ws).ownAnswer
  | interval next? last => (interval next? last).ownAnswer
  | failing e => (failing e).ownAnswer
  | sampling text candidates => (sampling text candidates).ownAnswer
  | choice ⟨[]⟩ => (choice ⟨[]⟩).ownAnswer
  | choice ⟨s :: rest⟩ =>
    s.incidents.map (.within rest.length) ++ (choice ⟨s :: rest⟩).ownAnswer
  | product ⟨[], grid⟩ => (product ⟨[], grid⟩).ownAnswer
  | product ⟨(factor, s) :: rest, grid⟩ =>
    (if grid.pop?.isNone then s.incidents.map (.within factor) else []) ++
      (product ⟨(factor, s) :: rest, grid⟩).ownAnswer
  | repeating ⟨pattern, body, counts, none, grew⟩ =>
    (if counts.next?.isSome then [.started []] else []) ++
      (repeating ⟨pattern, body, counts, none, grew⟩).ownAnswer
  | repeating ⟨pattern, body, counts, some (count, s), grew⟩ =>
    s.incidents.map (.within count) ++
      (repeating ⟨pattern, body, counts, some (count, s), grew⟩).ownAnswer
termination_by structural l => l

def incidentsIn : ℕ → Listing → List Incident
  | 0, _ => []
  | fuel + 1, l =>
    l.incidents ++ match l.reply with
      | .skip t => incidentsIn fuel t
      | .yield _ _ | .ended => []

inductive Traces : Listing → List Incident → Option (Item × Listing) → Prop
  | answer {l : Listing} {r : Option (Item × Listing)} :
      l.reply = Step.ofPull r → Traces l l.incidents r
  | skip {l t : Listing} {is : List Incident} {r : Option (Item × Listing)} :
      l.reply = .skip t → Traces t is r → Traces l (l.incidents ++ is) r

variable {l s t : Listing} {is js : List Incident} {r r' : Option (Item × Listing)}

theorem Traces.pulls (h : Traces l is r) : Pulls reply l r := by
  induction h with
  | @answer l r hl =>
    cases r with
    | none => exact .ended hl
    | some x => exact .yield hl
  | skip hl _ ih => exact .skip hl ih

theorem Traces.exists_fuel (h : Traces l is r) :
    ∃ least, ∀ fuel ≥ least, incidentsIn fuel l = is := by
  induction h with
  | @answer l r hl =>
    refine ⟨1, fun fuel hf ↦ ?_⟩
    obtain ⟨fuel, rfl⟩ : ∃ k, fuel = k + 1 := ⟨fuel - 1, by omega⟩
    rw [incidentsIn, hl]
    cases r <;> exact List.append_nil _
  | skip hl _ ih =>
    obtain ⟨least, ih⟩ := ih
    refine ⟨least + 1, fun fuel hf ↦ ?_⟩
    obtain ⟨fuel, rfl⟩ : ∃ k, fuel = k + 1 := ⟨fuel - 1, by omega⟩
    simp only [incidentsIn, hl, ih fuel (by omega)]

theorem ownAnswer_of_reply (h : l.reply = Step.ofPull r) : l.ownAnswer = [.answered []] := by
  rw [ownAnswer, h]
  cases r <;> rfl

theorem ownAnswer_of_skip (h : l.reply = .skip t) : l.ownAnswer = [] := by
  rw [ownAnswer, h]

theorem Traces.leaf (hl : l.incidents = l.ownAnswer) (h : l.reply = Step.ofPull r) :
    Traces l [.answered []] r := by
  rw [← ownAnswer_of_reply h, ← hl]
  exact .answer h

/-- The whole makes the steps of part number `k` until that answers. -/
structure Frames (k : ℕ) (F : Listing → Listing) : Prop where
  incidents (s : Listing) : (F s).incidents = s.incidents.map (.within k) ++ (F s).ownAnswer
  skip {s t : Listing} : s.reply = .skip t → (F s).reply = .skip (F t)

section Frames

variable {k : ℕ} {F : Listing → Listing}

theorem Traces.frame (h : Traces s is r) (hF : Frames k F)
    (hlast : ∀ s, s.reply = Step.ofPull r → Traces (F s) (s.incidents.map (.within k) ++ js) r') :
    Traces (F s) (is.map (.within k) ++ js) r' := by
  induction h with
  | answer hs => exact hlast _ hs
  | @skip s t is r hs _ ih =>
    have hreply := hF.skip hs
    have hincidents : (F s).incidents = s.incidents.map (.within k) := by
      rw [hF.incidents, ownAnswer_of_skip hreply, List.append_nil]
    rw [List.map_append, List.append_assoc, ← hincidents]
    exact .skip hreply (ih hlast)

theorem Traces.frame_skip (h : Traces s is r) (hF : Frames k F)
    (hlast : ∀ s, s.reply = Step.ofPull r → (F s).reply = .skip t) (ht : Traces t js r') :
    Traces (F s) (is.map (.within k) ++ js) r' := by
  refine h.frame hF fun s hs ↦ ?_
  have hskip := Traces.skip (hlast s hs) ht
  rwa [hF.incidents, ownAnswer_of_skip (hlast s hs), List.append_nil] at hskip

theorem Traces.frame_answer (h : Traces s is r) (hF : Frames k F)
    (hlast : ∀ s, s.reply = Step.ofPull r → (F s).reply = Step.ofPull r') :
    Traces (F s) (is.map (.within k) ++ [.answered []]) r' := by
  refine h.frame hF fun s hs ↦ ?_
  have hanswer := Traces.answer (hlast s hs)
  rwa [hF.incidents, ownAnswer_of_reply (hlast s hs)] at hanswer

end Frames

/-- A pull in which nothing happens twice, and something happens only in the parts with numbers in
`K`. Behind a word it leaves one of the listings `P`. -/
structure Asks (K : Set ℕ) (P : Listing → Prop) (l : Listing) (is : List Incident)
    (r : Option (Item × Listing)) : Prop where
  traces : Traces l is r
  nodup : is.Nodup
  mem_of_within_mem : ∀ {k : ℕ} {i : Incident}, i.within k ∈ is → k ∈ K
  next : ∀ {w : String} {t : Listing}, r = some (.ok w, t) → P t

namespace Asks

variable {k : ℕ} {K K' : Set ℕ} {P P' : Listing → Prop} {F : Listing → Listing}

theorem leaf (hl : l.incidents = l.ownAnswer) (h : l.reply = Step.ofPull r)
    (hnext : ∀ {w t}, r = some (.ok w, t) → P t) : Asks K P l [.answered []] r where
  traces := .leaf hl h
  nodup := List.nodup_singleton _
  mem_of_within_mem hi := absurd (List.mem_singleton.1 hi) Incident.within_ne_answered
  next := hnext

theorem mono (h : Asks K P l is r) (hK : K ⊆ K') : Asks K' P l is r where
  traces := h.traces
  nodup := h.nodup
  mem_of_within_mem hi := hK (h.mem_of_within_mem hi)
  next := h.next

theorem frame_skip (h : Asks K' P' s is r) (hF : Frames k F) (hk : k ∉ K)
    (hlast : ∀ s, s.reply = Step.ofPull r → (F s).reply = .skip t) (ht : Asks K P t js r') :
    Asks (insert k K) P (F s) (is.map (.within k) ++ js) r' where
  traces := h.traces.frame_skip hF hlast ht.traces
  nodup := Incident.nodup_within_append h.nodup ht.nodup fun _ hi ↦ hk (ht.mem_of_within_mem hi)
  mem_of_within_mem := Incident.mem_insert_of_within_mem ht.mem_of_within_mem
  next := ht.next

theorem frame_answer (h : Asks K' P' s is r) (hF : Frames k F)
    (hlast : ∀ s, s.reply = Step.ofPull r → (F s).reply = Step.ofPull r')
    (hnext : ∀ {w t}, r' = some (.ok w, t) → P t) :
    Asks {k} P (F s) (is.map (.within k) ++ [.answered []]) r' where
  traces := h.traces.frame_answer hF hlast
  nodup := Incident.nodup_within_append h.nodup (List.nodup_singleton _)
    fun _ hi ↦ Incident.within_ne_answered (List.mem_singleton.1 hi)
  mem_of_within_mem := by
    intro n i hi
    rw [← LawfulSingleton.insert_empty_eq k]
    exact Incident.mem_insert_of_within_mem
      (fun hi ↦ absurd (List.mem_singleton.1 hi) Incident.within_ne_answered) hi
  next := hnext

end Asks

end Listing

end RegexWords
