import RegexWords.CharSet.ClassText
import RegexWords.CommandLine.Request
import RegexWords.Proofs.Listing.PatternItems
import RegexWords.Proofs.Sequence.FirstError

namespace RegexWords

open Listing (Item reply)

namespace Step

variable {σ α : Type}

/-- How many pulls such answers make up. A pull goes on until there is an item or the end, and the
last one may be unanswered. -/
def pulls : List (Step σ α) → ℕ
  | [] => 0
  | [.skip _] => 1
  | .skip _ :: rs => pulls rs
  | _ :: rs => pulls rs + 1

theorem pulls_skip_le (s : σ) {rs : List (Step σ α)} {n : ℕ} (h : pulls rs ≤ n) (hn : 0 < n) :
    pulls (.skip s :: rs) ≤ n := by
  cases rs with
  | nil => exact hn
  | cons r rs => exact h

end Step

namespace CommandLine

def lineOf : Item → String
  | .ok word => word ++ "\n"
  | .error _ => ""

def linesOf (is : List Item) : String :=
  String.join (is.map lineOf)

def obstacle? (is : List Item) : Option Obstacle :=
  is.findSome? fun
    | .ok _ => none
    | .error e => some e

def shown (limit? : Option ℕ) (is : List Item) : List Item :=
  upToError (limit?.elim is is.take)

def reportOf (pattern : String) (is : List Item) : Report where
  code := if (obstacle? is).isSome then 1 else 0
  output := linesOf is
  complaint := (obstacle? is).elim "" fun e ↦ complain "cannot enumerate" pattern e.message

variable {limit? : Option ℕ} {is : List Item}

theorem linesOf_cons (i : Item) (is : List Item) : linesOf (i :: is) = lineOf i ++ linesOf is := by
  rw [linesOf, List.map_cons, String.join_cons, linesOf]

theorem shown_zero (is : List Item) : shown (some 0) is = [] := rfl

theorem shown_nil (limit? : Option ℕ) : shown limit? [] = [] := by
  cases limit? <;> simp [shown, upToError]

theorem shown_ok_cons (h : limit? ≠ some 0) (word : String) (is : List Item) :
    shown limit? (.ok word :: is) = .ok word :: shown (limit?.map (· - 1)) is := by
  match limit? with
  | none => rfl
  | some 0 => exact absurd rfl h
  | some (n + 1) => rfl

theorem shown_error_cons (h : limit? ≠ some 0) (e : Obstacle) (is : List Item) :
    shown limit? (.error e :: is) = [.error e] := by
  match limit? with
  | none => rfl
  | some 0 => exact absurd rfl h
  | some (n + 1) => rfl

def endingObstacle? : Ending → Option Obstacle
  | .failed e => some e
  | _ => none

theorem conclusion_eq {ending : Ending} (h : endingObstacle? ending = obstacle? is)
    (pattern : String) : conclusion pattern (linesOf is) ending = reportOf pattern is := by
  rw [reportOf, ← h]
  cases ending <;> rfl

namespace LineBuffer

theorem wanted_add (lines : LineBuffer) (word : String) :
    (lines.add word).2.wanted? = lines.wanted?.map (· - 1) := by
  rw [add]
  split <;> rfl

end LineBuffer

section Requests

variable [Compiler]

namespace Printing

def asked : Printing → Option (Step Listing Item)
  | running listing workspace lines =>
    if lines.wanted? = some 0 then none else some (listing.step workspace).1
  | finished _ => none

def effect? : Step Printing String → Option (String × Printing)
  | .yield text p => some (text, p)
  | .skip p => some ("", p)
  | .ended => none

/-- Steps of printing, with the answers that it has had from its listing and what it has written. -/
inductive Prints : Printing → List (Step Listing Item) → String → Printing → Prop
  | nil (p : Printing) : Prints p [] "" p
  | cons {p q r : Printing} {rs : List (Step Listing Item)} {text texts : String} :
      effect? p.step = some (text, q) → Prints q rs texts r →
      Prints p (p.asked.toList ++ rs) (text ++ texts) r

variable {l : Listing} {w : Workspace} {lines : LineBuffer} {p q r : Printing}
  {rs : List (Step Listing Item)} {text : String} {ending : Ending}

theorem step_running (h : lines.wanted? ≠ some 0) (l : Listing) (w : Workspace) :
    (running l w lines).step = receive lines (l.step w).2 l.reply := by
  rw [← Listing.step_fst l w, step, if_neg h]
  rfl

theorem step_running_of_enough (h : lines.wanted? = some 0) (l : Listing) (w : Workspace) :
    (running l w lines).step = .yield lines.held (finished .enough) := by
  rw [step, if_pos h]

theorem asked_running (h : lines.wanted? ≠ some 0) (l : Listing) (w : Workspace) :
    (running l w lines).asked = some l.reply := by
  rw [← Listing.step_fst l w, asked, if_neg h]

theorem effect_receive_word (lines : LineBuffer) (w : Workspace) (word : String) (t : Listing) :
    effect? (receive lines w (.yield (.ok word) t)) =
      some ((lines.add word).1.getD "", running t w (lines.add word).2) := by
  rw [receive]
  rcases lines.add word with ⟨_ | text, lines'⟩ <;> rfl

theorem run_succ (p : Printing) (fuel : ℕ) (written : String) :
    p.run (fuel + 1) written =
      match effect? p.step with
      | some (text, q) => q.run fuel (written ++ text)
      | none => (written, p) := by
  rw [run]
  cases p.step <;> simp [effect?]

theorem run_finished (ending : Ending) (fuel : ℕ) (written : String) :
    (finished ending).run fuel written = (written, finished ending) := by
  cases fuel <;> rfl

namespace Prints

theorem one (h : effect? p.step = some (text, q)) : ∃ rs, Prints p rs text q := by
  have hone := Prints.cons h (.nil q)
  rw [String.append_empty] at hone
  exact ⟨_, hone⟩

theorem trans {rs' : List (Step Listing Item)} {text' : String} (h : Prints p rs text q)
    (h' : Prints q rs' text' r) : Prints p (rs ++ rs') (text ++ text') r := by
  induction h with
  | nil => simpa using h'
  | cons hstep _ ih => simpa [String.append_assoc] using Prints.cons hstep (ih h')

theorem eq_nil_of_finished (h : Prints (finished ending) rs text q) : rs = [] := by
  cases h with
  | nil => rfl
  | cons hstep => cases hstep

theorem exists_fuel (h : Prints p rs text (finished ending)) :
    ∃ least, ∀ fuel ≥ least, ∀ written,
      p.run fuel written = (written ++ text, finished ending) := by
  generalize hq : finished ending = q at h
  induction h with
  | nil =>
    subst hq
    exact ⟨0, fun fuel _ written ↦ by rw [run_finished, String.append_empty]⟩
  | cons hstep _ ih =>
    obtain ⟨least, hleast⟩ := ih hq
    refine ⟨least + 1, fun fuel hfuel written ↦ ?_⟩
    obtain ⟨fuel, rfl⟩ : ∃ k, fuel = k + 1 := ⟨fuel - 1, by omega⟩
    rw [run_succ, hstep]
    simp only [hleast fuel (by omega), String.append_assoc]

/-- A pull that is made may take many steps of the listing, and it is made only where an item is
still wanted. -/
theorem pulls_le (h : Prints (running l w lines) rs text q) {n : ℕ}
    (hn : lines.wanted? = some n) : Step.pulls rs ≤ n := by
  generalize hp : running l w lines = p at h
  induction h generalizing l w lines n with
  | nil => exact Nat.zero_le n
  | @cons p q r rs text texts hstep htail ih =>
    subst hp
    cases n with
    | zero =>
      rw [step_running_of_enough hn] at hstep
      cases hstep
      rw [htail.eq_nil_of_finished, asked, if_pos hn]
      exact Nat.le_refl 0
    | succ n =>
      have hwanted : lines.wanted? ≠ some 0 := by rw [hn]; nofun
      rw [step_running hwanted] at hstep
      rw [asked_running hwanted]
      cases hreply : l.reply with
      | ended =>
        rw [hreply] at hstep
        cases hstep
        rw [htail.eq_nil_of_finished]
        exact Nat.le_add_left 1 n
      | skip t =>
        rw [hreply] at hstep
        cases hstep
        exact Step.pulls_skip_le t (ih hn rfl) n.succ_pos
      | yield i t =>
        rw [hreply] at hstep
        cases i with
        | error e =>
          cases hstep
          rw [htail.eq_nil_of_finished]
          exact Nat.le_add_left 1 n
        | ok word =>
          rw [effect_receive_word] at hstep
          cases hstep
          have hless : (lines.add word).2.wanted? = some n := by
            rw [LineBuffer.wanted_add, hn]
            rfl
          exact Nat.succ_le_succ (ih hless rfl)

end Prints

theorem exists_prints_pull {a : Option (Item × Listing)} (h : Pulls reply l a)
    (hwanted : lines.wanted? ≠ some 0) (w : Workspace) :
    ∃ w', ∀ text q, effect? (receive lines w' (Step.ofPull a)) = some (text, q) →
      ∃ rs, Prints (running l w lines) rs text q := by
  induction h generalizing w with
  | @ended l hl =>
    refine ⟨(l.step w).2, fun text q hq ↦ Prints.one ?_⟩
    rw [step_running hwanted, hl]
    exact hq
  | @yield l t i hl =>
    refine ⟨(l.step w).2, fun text q hq ↦ Prints.one ?_⟩
    rw [step_running hwanted, hl]
    exact hq
  | @skip l t a hl _ ih =>
    obtain ⟨w', hw'⟩ := ih (l.step w).2
    refine ⟨w', fun text q hq ↦ ?_⟩
    obtain ⟨rs, hrs⟩ := hw' text q hq
    have hstep : effect? (running l w lines).step = some ("", running t (l.step w).2 lines) := by
      rw [step_running hwanted, hl]
      rfl
    exact ⟨_, by simpa using Prints.cons hstep hrs⟩

theorem exists_prints_enough (h : lines.wanted? = some 0) (l : Listing) (w : Workspace) :
    ∃ rs, Prints (running l w lines) rs lines.held (finished .enough) :=
  Prints.one (by rw [step_running_of_enough h]; rfl)

theorem exists_prints (h : Lists reply l is) (w : Workspace) (lines : LineBuffer) :
    ∃ rs ending, endingObstacle? ending = obstacle? (shown lines.wanted? is) ∧
      Prints (running l w lines) rs (lines.held ++ linesOf (shown lines.wanted? is))
        (finished ending) := by
  induction is generalizing l w lines with
  | nil =>
    by_cases hwanted : lines.wanted? = some 0
    · obtain ⟨rs, hrs⟩ := exists_prints_enough hwanted l w
      exact ⟨rs, .enough, by rw [shown_nil]; rfl, by simpa [shown_nil, linesOf] using hrs⟩
    · obtain ⟨w', hw'⟩ := exists_prints_pull h.pull_nil hwanted w
      obtain ⟨rs, hrs⟩ := hw' lines.held (finished .exhausted) rfl
      exact ⟨rs, .exhausted, by rw [shown_nil]; rfl, by simpa [shown_nil, linesOf] using hrs⟩
  | cons i is ih =>
    by_cases hwanted : lines.wanted? = some 0
    · obtain ⟨rs, hrs⟩ := exists_prints_enough hwanted l w
      rw [hwanted, shown_zero]
      exact ⟨rs, .enough, rfl, by simpa [linesOf] using hrs⟩
    · obtain ⟨t, hpull, ht⟩ := h.pull_cons
      obtain ⟨w', hw'⟩ := exists_prints_pull hpull hwanted w
      cases i with
      | error e =>
        obtain ⟨rs, hrs⟩ := hw' lines.held (finished (.failed e)) rfl
        rw [shown_error_cons hwanted]
        exact ⟨rs, .failed e, rfl, by simpa [linesOf, lineOf] using hrs⟩
      | ok word =>
        obtain ⟨rs, hrs⟩ := hw' _ _ (effect_receive_word lines w' word t)
        obtain ⟨rs', ending, hending, hrest⟩ := ih ht w' (lines.add word).2
        rw [LineBuffer.wanted_add] at hending hrest
        rw [shown_ok_cons hwanted]
        refine ⟨rs ++ rs', ending, hending, ?_⟩
        have htext : (lines.add word).1.getD "" ++ ((lines.add word).2.held ++
            linesOf (shown (lines.wanted?.map (· - 1)) is)) =
            lines.held ++ linesOf (.ok word :: shown (lines.wanted?.map (· - 1)) is) := by
          rw [← String.append_assoc, lines.written_append_held, linesOf_cons, lineOf]
          simp only [String.append_assoc]
        rw [← htext]
        exact hrs.trans hrest

end Printing

theorem run_of_parse {request : Request} {p : Pattern} {chunk fuel : ℕ} {written : String}
    {ending : Ending} (hp : Pattern.parse request.pattern = .ok p)
    (hrun : (Printing.start chunk request.settings request.limit? p).run fuel "" =
      (written, .finished ending)) :
    request.run fuel chunk = conclusion request.pattern written ending := by
  simp only [Request.run, Request.plan, hp, hrun, Printing.ending]

theorem run_of_parse_error {request : Request} {e : ParseError}
    (he : Pattern.parse request.pattern = .error e) (fuel chunk : ℕ) :
    request.run fuel chunk = unreadablePattern request.pattern e := by
  simp only [Request.run, Request.plan, he]

/-- The program writes the words of the first items, as many as are wanted and up to an error, one a
line, and its code says whether there is an error among them. It asks for no more items than are
wanted. When the pattern cannot be read it writes nothing. -/
theorem run_eq_reportOf (request : Request) (chunk : ℕ) :
    (∀ p, Pattern.parse request.pattern = .ok p →
      Lists reply (.ofPattern request.settings p) (Listing.items request.settings p) ∧
      (∃ least, ∀ fuel ≥ least, request.run fuel chunk =
        reportOf request.pattern (shown request.limit? (Listing.items request.settings p))) ∧
      ∀ n, request.limit? = some n → ∀ rs text q,
        Printing.Prints (.start chunk request.settings request.limit? p) rs text q →
          Step.pulls rs ≤ n) ∧
    ∀ e, Pattern.parse request.pattern = .error e → ∀ fuel,
      (request.run fuel chunk).code = 1 ∧ (request.run fuel chunk).output = "" := by
  refine ⟨fun p hp ↦ ?_, fun e he fuel ↦ ?_⟩
  · have hlists := Listing.lists_ofPattern request.settings p
    obtain ⟨rs, ending, hending, hprints⟩ :=
      Printing.exists_prints hlists _ ⟨chunk, request.limit?, ""⟩
    obtain ⟨least, hleast⟩ := hprints.exists_fuel
    refine ⟨hlists, ⟨least, fun fuel hfuel ↦ ?_⟩, fun n hn rs text q hprints ↦ ?_⟩
    · rw [run_of_parse hp (hleast fuel hfuel ""), String.empty_append, String.empty_append,
        conclusion_eq hending]
    · exact hprints.pulls_le hn
  · rw [run_of_parse_error he]
    exact ⟨rfl, rfl⟩

end Requests

/-- The second item is an error, which shows only where two items are wanted. -/
theorem run_eq_reportOf_lateError :
    ∃ least, ∀ fuel ≥ least,
      Request.run fuel (chunkSize true) ⟨"a|b\\b|c", .ofMode .exhaustive, some 1⟩ =
        ⟨0, "a\n", ""⟩ ∧
      Request.run fuel (chunkSize false) ⟨"a|b\\b|c", .ofMode .exhaustive, some 2⟩ =
        ⟨1, "a\n", complain "cannot enumerate" "a|b\\b|c" "No boundary anchor support"⟩ := by
  have hparse : Pattern.parse "a|b\\b|c" =
      .ok (.choice [.literal 'a', .sequence [.literal 'b', .anchor .wordBoundary],
        .literal 'c']) := by cbv
  have hitems : Listing.items (.ofMode .exhaustive)
      (.choice [.literal 'a', .sequence [.literal 'b', .anchor .wordBoundary], .literal 'c']) =
      [.ok "a", .error (.anchor .wordBoundary), .ok "c"] := by decide +kernel
  obtain ⟨-, ⟨least, hleast⟩, -⟩ := (run_eq_reportOf
    ⟨"a|b\\b|c", .ofMode .exhaustive, some 1⟩ (chunkSize true)).1 _ hparse
  obtain ⟨-, ⟨least', hleast'⟩, -⟩ := (run_eq_reportOf
    ⟨"a|b\\b|c", .ofMode .exhaustive, some 2⟩ (chunkSize false)).1 _ hparse
  rw [hitems] at hleast hleast'
  refine ⟨max least least', fun fuel hfuel ↦ ⟨?_, ?_⟩⟩
  · exact hleast fuel (by omega)
  · exact hleast' fuel (by omega)

end CommandLine

end RegexWords
