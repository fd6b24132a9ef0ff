import RegexWords.Proofs.Listing.Intervals
import RegexWords.Proofs.Listing.Replies
import RegexWords.Proofs.Sequence.DiagonalLists

namespace RegexWords

namespace Counts

def toList : Counts → List ℕ
  | upTo n last => List.range' n (last + 1 - n)
  | these counts => counts

theorem toList_eq (c : Counts) :
    c.toList = c.next?.elim [] fun p ↦ p.1 :: p.2.toList := by
  cases c with
  | upTo n last =>
    by_cases h : n ≤ last
    · have hn : last + 1 - n = (last + 1 - (n + 1)) + 1 := by omega
      simp only [next?, h, if_true, Option.elim_some, toList]
      rw [hn, List.range'_succ]
    · have hn : last + 1 - n = 0 := by omega
      simp [next?, h, toList, hn]
  | these counts => cases counts <;> rfl

end Counts

/-- The members of a list taken `n` at a time, in halves. -/
def copies {β : Type} (one : List β) (join : List (List β) → List β) (xs : List β) (n : ℕ) :
    List β :=
  if n = 0 then one
  else if n = 1 then xs
  else join [copies one join xs (n / 2), copies one join xs (n - n / 2)]
termination_by n

section Copies

variable {β γ : Type} {one xs : List β} {join : List (List β) → List β}

theorem copies_zero : copies one join xs 0 = one := by
  rw [copies, if_pos rfl]

theorem copies_one : copies one join xs 1 = xs := by
  rw [copies, if_neg (by omega), if_pos rfl]

theorem copies_of_two_le {n : ℕ} (h : 2 ≤ n) :
    copies one join xs n =
      join [copies one join xs (n / 2), copies one join xs (n - n / 2)] := by
  rw [copies, if_neg (by omega), if_neg (by omega)]

/-- To show something of all copies it suffices to show it of none, of one and of two halves. -/
theorem copies_induction {motive : ℕ → List β → Prop} (zero : motive 0 one) (single : motive 1 xs)
    (halves : ∀ k l as bs, motive k as → motive l bs → motive (k + l) (join [as, bs])) (n : ℕ) :
    motive n (copies one join xs n) := by
  induction n using Nat.strong_induction_on with
  | _ n ih =>
    obtain rfl | rfl | h : n = 0 ∨ n = 1 ∨ 2 ≤ n := by omega
    · rwa [copies_zero]
    · rwa [copies_one]
    · have hsplit : n / 2 + (n - n / 2) = n := by omega
      have hjoin := halves _ _ _ _ (ih (n / 2) (by omega)) (ih (n - n / 2) (by omega))
      rw [copies_of_two_le h]
      rwa [hsplit] at hjoin

theorem copies_rel {R : List β → List γ → Prop} {one' ys : List γ}
    {join' : List (List γ) → List γ} (zero : R one one') (single : R xs ys)
    (halves : ∀ as bs as' bs', R as as' → R bs bs' → R (join [as, bs]) (join' [as', bs'])) (n : ℕ) :
    R (copies one join xs n) (copies one' join' ys n) := by
  induction n using Nat.strong_induction_on with
  | _ n ih =>
    obtain rfl | rfl | hn : n = 0 ∨ n = 1 ∨ 2 ≤ n := by omega
    · rwa [copies_zero, copies_zero]
    · rwa [copies_one, copies_one]
    · rw [copies_of_two_le hn, copies_of_two_le hn]
      exact halves _ _ _ _ (ih (n / 2) (by omega)) (ih (n - n / 2) (by omega))

theorem copies_hom {f : List β → List γ} {join' : List (List γ) → List γ}
    (h : ∀ as bs, join' [f as, f bs] = f (join [as, bs])) (n : ℕ) :
    copies (f one) join' (f xs) n = f (copies one join xs n) := by
  refine copies_rel (R := fun as bs ↦ as = f bs) rfl rfl ?_ n
  intro _ _ as bs has hbs
  rw [has, hbs, h]

theorem copies_map {f : β → γ} {join' : List (List γ) → List γ}
    (h : ∀ as bs, join' [as.map f, bs.map f] = (join [as, bs]).map f) (n : ℕ) :
    copies (one.map f) join' (xs.map f) n = (copies one join xs n).map f :=
  copies_hom h n

end Copies

namespace Listing

variable [Compiler]

def letters (cs : List Char) : List Item :=
  cs.map fun c ↦ .ok (String.singleton c)

def sampled (text : String) (candidates : List Char) : List Item :=
  match (ClassText.matcher? text).map candidates.filter with
  | none => [.error (.unreadable text)]
  | some [] => [.error (.unsatisfiable candidates text)]
  | some found => letters found

def joined (lists : List (List Item)) : List Item :=
  (RegexWords.product lists).map ofTuple

def powered (items : List Item) (n : ℕ) : List Item :=
  copies [.ok ""] joined items n

/-- The items of a segment of a repetition and, unless it ends there, those behind it. -/
def segment (count : ℕ) (grew : Bool) (rest : List Item) : List Item → List Item
  | [] => if 0 < count ∧ grew = false then [] else rest
  | .ok w :: items => .ok w :: segment count (grew || !w.isEmpty) rest items
  | .error e :: _ => [.error e]

def repeated (items : List Item) : List ℕ → List Item
  | [] => []
  | n :: counts => segment n false (repeated items counts) (powered items n)

theorem lists_words (ws : List String) : Lists reply (words ws) (ws.map .ok) := by
  induction ws with
  | nil => exact .nil rfl
  | cons w ws ih => exact .cons rfl ih

theorem lists_characters (cs : List Char) : Lists reply (characters cs) (letters cs) := by
  have h := lists_words (cs.map String.singleton)
  rwa [List.map_map] at h

theorem lists_failing (e : Obstacle) : Lists reply (failing e) [.error e] :=
  .cons rfl (lists_words [])

theorem lists_sampling (text : String) (candidates : List Char) :
    Lists reply (sampling text candidates) (sampled text candidates) := by
  have h := reply_sampling text candidates
  unfold sampled
  generalize (ClassText.matcher? text).map candidates.filter = found at h
  match found with
  | none => exact .cons h (lists_words [])
  | some [] => exact .cons h (lists_words [])
  | some (c :: cs) => exact .skip h (lists_characters (c :: cs))

theorem lists_interval (first last : Char) :
    Lists reply (interval (some first) last) (letters (Interval.all first last)) := by
  generalize hcs : Interval.all first last = cs
  induction cs generalizing first with
  | nil =>
    have hle : ¬ first ≤ last := fun h ↦ by
      rw [Interval.all_eq, if_pos h] at hcs
      cases hcs
    exact .nil (by simp [reply, step, hle]; rfl)
  | cons c cs ih =>
    have hle : first ≤ last := by
      by_contra h
      rw [Interval.all_eq, if_neg h] at hcs
      cases hcs
    rw [Interval.all_eq, if_pos hle] at hcs
    obtain ⟨rfl, htail⟩ := List.cons_eq_cons.1 hcs
    refine .cons (t := interval first.succ? last) (by simp [reply, step, hle]; rfl) ?_
    cases hsucc : first.succ? with
    | none =>
      rw [hsucc, Option.elim_none] at htail
      subst htail
      exact .nil rfl
    | some d =>
      rw [hsucc, Option.elim_some] at htail
      exact ih d htail

theorem lists_choice {branches : List Listing} {lists : List (List Item)}
    (h : List.Forall₂ (Lists reply) branches lists) :
    Lists reply (choice ⟨branches⟩) (roundRobin lists) := by
  have hstep (b : Interleave Listing) :
      reply (choice b) = ((b.step (m := Id) reply).mapState choice).mapItem id := by
    rw [reply_choice]
    cases b.step (m := Id) reply <;> rfl
  have hl := (Interleave.lists_step h).map hstep
  rwa [List.map_id] at hl

theorem lists_concatenation {factors : List Listing} {lists : List (List Item)}
    (h : List.Forall₂ (Lists reply) factors lists) :
    Lists reply (concatenation factors) (joined lists) :=
  (Diagonal.lists_step h).map reply_product

theorem lists_power {body : Listing} {items : List Item} (h : Lists reply body items) (n : ℕ) :
    Lists reply (power body n) (powered items n) := by
  induction n using Nat.strong_induction_on with
  | _ n ih =>
    rw [power, powered, copies]
    split
    · exact lists_words [""]
    · split
      · exact h
      · exact lists_concatenation (.cons (ih _ (by omega)) (.cons (ih _ (by omega)) .nil))

section Repeating

variable {r : Repetition Listing} {count : ℕ} {grew : Bool} {s t : Listing}

theorem pulls_repeating_of_word {w : String} (h : Pulls reply s (some (.ok w, t))) :
    Pulls reply (repeating { r with segment := some (count, s), grew })
      (some (.ok w,
        repeating { r with segment := some (count, t), grew := grew || !w.isEmpty })) := by
  generalize hn : some ((.ok w : Item), t) = p at h
  induction h with
  | ended => cases hn
  | yield hs =>
    cases hn
    exact .yield (by rw [reply_repeating_of_segment _ rfl, hs]; rfl)
  | skip hs _ ih => exact .skip (by rw [reply_repeating_of_segment _ rfl, hs]; rfl) (ih hn)

theorem pulls_repeating_of_error {e : Obstacle} (h : Pulls reply s (some (.error e, t))) :
    Pulls reply (repeating { r with segment := some (count, s), grew })
      (some (.error e, repeating { r with counts := .none, segment := none, grew })) := by
  generalize hn : some ((.error e : Item), t) = p at h
  induction h with
  | ended => cases hn
  | yield hs =>
    cases hn
    exact .yield (by rw [reply_repeating_of_segment _ rfl, hs]; rfl)
  | skip hs _ ih => exact .skip (by rw [reply_repeating_of_segment _ rfl, hs]; rfl) (ih hn)

theorem pulls_repeating_of_ended {x : Option (Item × Listing)} (h : Pulls reply s none)
    (hx : Pulls reply
      (repeating (if 0 < count ∧ grew = false then
        { r with counts := .none, segment := none, grew }
        else { r with segment := none, grew })) x) :
    Pulls reply (repeating { r with segment := some (count, s), grew }) x := by
  generalize hn : (none : Option (Item × Listing)) = p at h
  induction h with
  | ended hs =>
    refine .skip ?_ hx
    rw [reply_repeating_of_segment _ rfl, hs]
    simp only [Repetition.receive]
    split <;> rfl
  | yield => cases hn
  | skip hs _ ih => exact .skip (by rw [reply_repeating_of_segment _ rfl, hs]; rfl) (ih hn)

theorem lists_stopped (h : r.counts = .none) (hs : r.segment = none) :
    Lists reply (repeating r) [] :=
  .nil (by rw [reply_repeating_of_none r hs, h]; rfl)

theorem lists_segment {items rest : List Item} (hs : Lists reply s items)
    (hrest : ∀ grew, Lists reply (repeating { r with segment := none, grew }) rest) :
    Lists reply (repeating { r with segment := some (count, s), grew })
      (segment count grew rest items) := by
  induction items generalizing s grew with
  | nil =>
    have hend : Lists reply
        (repeating (if 0 < count ∧ grew = false then
          { r with counts := .none, segment := none, grew }
          else { r with segment := none, grew }))
        (segment count grew rest []) := by
      rw [segment]
      split
      · exact lists_stopped rfl rfl
      · exact hrest grew
    exact fun k ↦ (hend k).of_pulls fun x ↦ pulls_repeating_of_ended hs.pull_nil
  | cons item items ih =>
    obtain ⟨t, hp, ht⟩ := hs.pull_cons
    cases item with
    | ok w => exact Gives.of_yield (pulls_repeating_of_word hp) rfl (ih ht)
    | error e => exact Gives.of_yield (pulls_repeating_of_error hp) rfl (lists_stopped rfl rfl)

theorem lists_repeating {items : List Item} (hbody : Lists reply r.body items)
    (hr : r.segment = none) : Lists reply (repeating r) (repeated items r.counts.toList) := by
  generalize hcounts : r.counts.toList = counts
  induction counts generalizing r with
  | nil =>
    rw [Counts.toList_eq] at hcounts
    cases hnext : r.counts.next? with
    | none => exact .nil (by rw [reply_repeating_of_none r hr, hnext])
    | some p => rw [hnext] at hcounts; cases hcounts
  | cons n counts ih =>
    rw [Counts.toList_eq] at hcounts
    cases hnext : r.counts.next? with
    | none => rw [hnext] at hcounts; cases hcounts
    | some p =>
      obtain ⟨m, rest⟩ := p
      rw [hnext, Option.elim_some] at hcounts
      obtain ⟨rfl, hrest⟩ := List.cons_eq_cons.1 hcounts
      refine .skip (by rw [reply_repeating_of_none r hr, hnext]) ?_
      exact lists_segment (r := { r with counts := rest }) (lists_power hbody m)
        fun grew ↦ ih hbody rfl hrest

end Repeating

end Listing

end RegexWords
