import RegexWords.Proofs.CharSet.CommonText
import RegexWords.Proofs.Listing.PatternItems
import RegexWords.Proofs.Listing.Runs
import RegexWords.Proofs.Listing.Taking
import RegexWords.Proofs.Pattern.RoundTrip
import RegexWords.Session

namespace RegexWords

namespace Listing

def pulled (words : List String) (ending : Ending) : List (Option Item) :=
  words.map (some <| .ok ·) ++
    match ending with
    | .enough | .unfinished => []
    | .exhausted => [none]
    | .failed e => [some (.error e)]

theorem pulled_cons (v : String) (words : List String) (ending : Ending) :
    pulled (v :: words) ending = some (.ok v) :: pulled words ending := rfl

variable [Compiler] {l : Listing} {q : ℕ → Option Item}

theorem next_fst_eq_pull_fused (fuel : ℕ) (l : Listing) (w : Workspace) :
    (l.next fuel w).1 = RegexWords.pull (m := Id) fused fuel l :=
  (pull_advance_mapState fuel l w).symm.trans (pull_lift advance_mapState fuel (l, w))

theorem begins_takeOnto (fuel n : ℕ) (taken : List String) (h : Gives fused l q) (w : Workspace) :
    ∃ words ending t, (takeOnto fuel taken n l w).1 = (words.reverse ++ taken, ending, t) ∧
      Begins q (pulled words ending) ∧
      Gives fused t fun k ↦ q (k + (pulled words ending).length) := by
  induction n generalizing taken l w q with
  | zero => exact ⟨[], .enough, l, rfl, begins_nil, h⟩
  | succ n ih =>
    rw [takeOnto_succ_fst, next_fst_eq_pull_fused]
    cases hp : RegexWords.pull (m := Id) fused fuel l with
    | skip t => exact ⟨[], .unfinished, t, rfl, begins_nil, h.of_pull_eq_skip hp⟩
    | ended =>
      have hend : ∀ k, q k = none := fun k ↦
        (h k).unique (.ended (pulls_of_pull_eq (r := none) hp))
      refine ⟨[], .exhausted, nothing, rfl, begins_cons.2 ⟨(hend 0).symm, begins_nil⟩, ?_⟩
      simp only [hend]
      exact Gives.of_ended (.ended rfl)
    | yield i t =>
      obtain ⟨h0, ht⟩ := h.tail (pulls_of_pull_eq (r := some (i, t)) hp).pullsTo
      cases i with
      | error e => exact ⟨[], .failed e, t, rfl, begins_cons.2 ⟨h0, begins_nil⟩, ht⟩
      | ok v =>
        obtain ⟨words, ending, u, htake, hbegins, hu⟩ := ih (v :: taken) ht (l.next fuel w).2
        refine ⟨v :: words, ending, u, ?_, begins_cons.2 ⟨h0, hbegins⟩, ?_⟩
        · simpa using htake
        · simpa only [pulled_cons, List.length_cons, Nat.add_assoc] using hu

theorem begins_take {fuel n : ℕ} (h : Gives fused l q) {w : Workspace} {words : List String}
    {ending : Ending} {t : Listing} (ht : (l.take fuel n w).1 = (words, ending, t)) :
    Begins q (pulled words ending) ∧
      Gives fused t fun k ↦ q (k + (pulled words ending).length) := by
  obtain ⟨words', ending', t', htake, hbegins, hgives⟩ := begins_takeOnto fuel n [] h w
  rw [take_fst, htake, List.append_nil, List.reverse_reverse] at ht
  cases ht
  exact ⟨hbegins, hgives⟩

theorem exists_fuel_takeOnto_finished (n : ℕ) (h : Gives fused l q) :
    ∃ least, ∀ fuel ≥ least, ∀ taken w, (takeOnto fuel taken n l w).1.2.1 ≠ .unfinished := by
  induction n generalizing l q with
  | zero => exact ⟨0, fun fuel _ taken w ↦ nofun⟩
  | succ n ih =>
    obtain ⟨hn, -⟩ | ⟨i, t, hp, -, ht⟩ := h.pull
    · obtain ⟨least, hf⟩ := hn.exists_fuel
      refine ⟨least, fun fuel hfuel taken w ↦ ?_⟩
      rw [takeOnto_succ_fst, next_fst_eq_pull_fused, hf fuel hfuel]
      nofun
    · obtain ⟨least, hf⟩ := hp.exists_fuel
      obtain ⟨least', hf'⟩ := ih ht
      refine ⟨max least least', fun fuel hfuel taken w ↦ ?_⟩
      rw [takeOnto_succ_fst, next_fst_eq_pull_fused, hf fuel (by omega)]
      cases i with
      | error e => nofun
      | ok v => exact hf' fuel (by omega) _ _

end Listing

namespace Session

/-- What may be done with a session, with the answers that come back. -/
inductive Move where
  | opens (p : Pattern)
  | takes (k : ℕ) (words : List String) (ending : Ending)
  | closes (k : ℕ)
  | takesEvents

def opened : List Move → List Pattern
  | [] => []
  | .opens p :: ms => p :: opened ms
  | _ :: ms => opened ms

def answers (k : ℕ) : List Move → List (Option Listing.Item)
  | [] => []
  | .takes j ws ending :: ms =>
    if j = k then Listing.pulled ws ending ++ answers k ms else answers k ms
  | _ :: ms => answers k ms

theorem opened_append (ms ms' : List Move) : opened (ms ++ ms') = opened ms ++ opened ms' := by
  induction ms with
  | nil => rfl
  | cons m ms ih => cases m <;> simp [opened, ih]

theorem answers_append (k : ℕ) (ms ms' : List Move) :
    answers k (ms ++ ms') = answers k ms ++ answers k ms' := by
  induction ms with
  | nil => rfl
  | cons m ms ih =>
    cases m with
    | takes j ws ending => by_cases h : j = k <;> simp [answers, h, ih]
    | _ => simp [answers, ih]

theorem getElem?_concat_eq_some {α : Type} {as : List α} {a b : α} {k : ℕ} :
    (as ++ [a])[k]? = some b ↔ as[k]? = some b ∨ k = as.length ∧ a = b := by
  grind

section Sharing

variable [Compiler]

inductive Moves : Session → Move → Session → Prop
  | opens {s : Session} (p : Pattern) : Moves s (.opens p) (s.openCursor p).2
  | takes {s t : Session} {fuel k n : ℕ} {words : List String} {ending : Ending} :
      s.take fuel k n = some ((words, ending), t) → Moves s (.takes k words ending) t
  | closes {s : Session} (k : ℕ) : Moves s (.closes k) (s.close k)
  | takesEvents {s : Session} : Moves s .takesEvents s.takeEvents.2

inductive Run : Session → List Move → Session → Prop
  | nil {s : Session} : Run s [] s
  | cons {s t u : Session} {m : Move} {ms : List Move} :
      Moves s m t → Run t ms u → Run s (m :: ms) u

def alone (settings : Settings) (p : Pattern) (k : ℕ) : Option Listing.Item :=
  (upToError (Listing.items settings p))[k]?

/-- Every listing has given the first items of its pattern and will give the others. -/
structure Follows (settings : Settings) (ms : List Move) (s : Session) : Prop where
  settings_eq : s.settings = settings
  length_eq : s.cursors.length = (opened ms).length
  answers_eq_nil : ∀ k, (opened ms).length ≤ k → answers k ms = []
  begins : ∀ k p, (opened ms)[k]? = some p → Begins (alone settings p) (answers k ms)
  gives : ∀ k p l, (opened ms)[k]? = some p → s.cursor? k = some l →
    Gives Listing.fused l fun j ↦ alone settings p (j + (answers k ms).length)

variable {settings : Settings} {s t u : Session} {ms ms' : List Move} {m : Move}

theorem follows_start (settings : Settings) : Follows settings [] (start settings) where
  settings_eq := rfl
  length_eq := rfl
  answers_eq_nil _ _ := rfl
  begins _ _ hp := nomatch hp
  gives _ _ _ hp := nomatch hp

theorem cursor?_set (cs : List (Option Listing)) {settings : Settings} {w : Workspace} (k j : ℕ)
    (c : Option Listing) : (⟨settings, w, cs.set k c⟩ : Session).cursor? j =
      if k = j ∧ k < cs.length then c else cs[j]?.join := by
  simp only [cursor?, List.getElem?_set]
  grind

theorem lt_length_of_cursor? {k : ℕ} {l : Listing} (h : s.cursor? k = some l) :
    k < s.cursors.length := by
  by_contra hge
  rw [cursor?, List.getElem?_eq_none (by omega)] at h
  cases h

theorem take_of_cursor? {k : ℕ} {l : Listing} (h : s.cursor? k = some l) (fuel n : ℕ) :
    s.take fuel k n =
      some (((l.take fuel n s.workspace).1.1, (l.take fuel n s.workspace).1.2.1),
        { s with
          workspace := (l.take fuel n s.workspace).2
          cursors := s.cursors.set k (some (l.take fuel n s.workspace).1.2.2) }) := by
  rw [Session.take, h]
  rfl

theorem exists_of_take {fuel k n : ℕ} {words : List String} {ending : Ending}
    (h : s.take fuel k n = some ((words, ending), t)) :
    ∃ l l' w, s.cursor? k = some l ∧ (l.take fuel n s.workspace).1 = (words, ending, l') ∧
      t = { s with workspace := w, cursors := s.cursors.set k (some l') } := by
  cases hl : s.cursor? k with
  | none => simp [Session.take, hl] at h
  | some l =>
    rw [take_of_cursor? hl] at h
    cases h
    exact ⟨l, _, _, rfl, rfl, rfl⟩

/-- Nothing but a pull changes what the listings give. -/
theorem Follows.of_cursor? (h : Follows settings ms s) (hset : t.settings = s.settings)
    (hlen : t.cursors.length = s.cursors.length)
    (hcursor : ∀ k l, t.cursor? k = some l → s.cursor? k = some l)
    (hopened : opened ms' = opened ms) (hanswers : ∀ k, answers k ms' = answers k ms) :
    Follows settings ms' t where
  settings_eq := hset.trans h.settings_eq
  length_eq := by rw [hlen, h.length_eq, hopened]
  answers_eq_nil k hk := by rw [hanswers, h.answers_eq_nil k (hopened ▸ hk)]
  begins k p hp := by rw [hanswers]; exact h.begins k p (hopened ▸ hp)
  gives k p l hp hl := by rw [hanswers]; exact h.gives k p l (hopened ▸ hp) (hcursor k l hl)

theorem Follows.openCursor (h : Follows settings ms s) (p : Pattern) :
    Follows settings (ms ++ [.opens p]) (s.openCursor p).2 := by
  have hopened : opened (ms ++ [.opens p]) = opened ms ++ [p] := opened_append ms _
  have hanswers (k : ℕ) : answers k (ms ++ [.opens p]) = answers k ms :=
    (answers_append k ms _).trans (List.append_nil _)
  constructor
  · exact h.settings_eq
  · simp [Session.openCursor, hopened, h.length_eq]
  · intro k hk
    rw [hopened, List.length_append] at hk
    rw [hanswers, h.answers_eq_nil k (by omega)]
  · intro k p' hp
    rw [hopened, getElem?_concat_eq_some] at hp
    rw [hanswers]
    obtain hp | ⟨rfl, rfl⟩ := hp
    · exact h.begins k p' hp
    · rw [h.answers_eq_nil _ le_rfl]
      exact begins_nil
  · intro k p' l hp hl
    rw [hopened, getElem?_concat_eq_some] at hp
    rw [cursor?, Option.join_eq_some_iff, Session.openCursor, getElem?_concat_eq_some,
      h.length_eq, h.settings_eq] at hl
    rw [hanswers]
    obtain hp | ⟨rfl, rfl⟩ := hp
    · have hlt := (List.getElem?_eq_some_iff.1 hp).1
      have hold : s.cursors[k]? = some (some l) := hl.resolve_right fun he ↦ hlt.ne he.1
      exact h.gives k p' l hp (by rw [cursor?, hold]; rfl)
    · obtain ⟨-, hnew⟩ := hl.resolve_left fun he ↦ by simp [← h.length_eq] at he
      cases hnew
      rw [h.answers_eq_nil _ le_rfl]
      exact Listing.lists_fused (Listing.lists_ofPattern settings p)

theorem Follows.take (h : Follows settings ms s) {fuel k n : ℕ} {words : List String}
    {ending : Ending} (ht : s.take fuel k n = some ((words, ending), t)) :
    Follows settings (ms ++ [.takes k words ending]) t := by
  obtain ⟨l, l', w, hl, htake, rfl⟩ := exists_of_take ht
  have hopened : opened (ms ++ [.takes k words ending]) = opened ms := by
    rw [opened_append]
    exact List.append_nil _
  have hk : k < (opened ms).length := h.length_eq ▸ lt_length_of_cursor? hl
  have hother {j : ℕ} (hj : k ≠ j) : answers j (ms ++ [.takes k words ending]) = answers j ms := by
    simp [answers_append, answers, hj]
  have hown : answers k (ms ++ [.takes k words ending]) =
      answers k ms ++ Listing.pulled words ending := by
    simp [answers_append, answers]
  constructor
  · exact h.settings_eq
  · simp [hopened, h.length_eq]
  · intro j hj
    rw [hopened] at hj
    rw [hother (by omega), h.answers_eq_nil j hj]
  · intro j p hp
    rw [hopened] at hp
    by_cases hj : k = j
    · subst hj
      rw [hown, begins_append]
      exact ⟨h.begins k p hp, (Listing.begins_take (h.gives k p l hp hl) htake).1⟩
    · rw [hother hj]
      exact h.begins j p hp
  · intro j p m hp hm
    rw [hopened] at hp
    rw [cursor?_set] at hm
    by_cases hj : k = j
    · subst hj
      rw [if_pos ⟨rfl, h.length_eq ▸ hk⟩] at hm
      cases hm
      rw [hown]
      have := (Listing.begins_take (h.gives k p l hp hl) htake).2
      simpa only [List.length_append, Nat.add_assoc, Nat.add_comm, Nat.add_left_comm] using this
    · rw [if_neg (fun he ↦ hj he.1)] at hm
      rw [hother hj]
      exact h.gives j p m hp hm

theorem Follows.close (h : Follows settings ms s) (k : ℕ) :
    Follows settings (ms ++ [.closes k]) (s.close k) := by
  refine h.of_cursor? rfl (by simp [Session.close]) (fun j l hl ↦ ?_) ?_ fun j ↦ ?_
  · rw [Session.close, cursor?_set] at hl
    split at hl
    · cases hl
    · exact hl
  · simp [opened_append, opened]
  · simp [answers_append, answers]

theorem Follows.takeEvents (h : Follows settings ms s) :
    Follows settings (ms ++ [.takesEvents]) s.takeEvents.2 := by
  refine h.of_cursor? rfl rfl (fun _ _ hl ↦ hl) ?_ fun j ↦ ?_
  · simp [opened_append, opened]
  · simp [answers_append, answers]

theorem Follows.moves (h : Follows settings ms s) (hm : Moves s m t) :
    Follows settings (ms ++ [m]) t := by
  cases hm with
  | opens p => exact h.openCursor p
  | takes ht => exact h.take ht
  | closes k => exact h.close k
  | takesEvents => exact h.takeEvents

theorem Follows.run (h : Follows settings ms s) (hr : Run s ms' t) :
    Follows settings (ms ++ ms') t := by
  induction hr generalizing ms with
  | nil => rwa [List.append_nil]
  | cons hm _ ih => simpa using ih (h.moves hm)

/-- What is taken from a listing of a session are the first answers that the listing of its pattern
gives by itself, and every listing that is open answers when there is fuel enough. -/
theorem run_alone_iff_eq_answers (h : Run (start settings) ms s) {k : ℕ} {p : Pattern}
    (hp : (opened ms)[k]? = some p) :
    (∀ rs, rs.length = (answers k ms).length →
      ((∃ x, RegexWords.Run Listing.advance (.ofPattern settings p, .empty) rs x) ↔
        rs = answers k ms)) ∧
    ∀ l n, s.cursor? k = some l → ∃ least, ∀ fuel ≥ least,
      ∃ words ending u, ending ≠ .unfinished ∧ s.take fuel k n = some ((words, ending), u) := by
  have hf : Follows settings ms s := (follows_start settings).run h
  constructor
  · intro rs hlen
    have hbegins := hf.begins k p hp
    rw [Listing.exists_run_iff (Listing.lists_ofPattern settings p), hlen]
    rw [Begins] at hbegins
    exact iff_of_eq (congrArg _ hbegins.symm)
  · intro l n hl
    obtain ⟨least, hleast⟩ := Listing.exists_fuel_takeOnto_finished n (hf.gives k p l hp hl)
    refine ⟨least, fun fuel hfuel ↦ ⟨_, _, _, ?_, take_of_cursor? hl fuel n⟩⟩
    exact hleast fuel hfuel [] s.workspace

theorem exists_run_cons (hm : Moves s m t) (h : ∃ u, Run t ms u) : ∃ u, Run s (m :: ms) u :=
  h.imp fun _ ↦ .cons hm

/-- What a listing gives does not depend on the workspace, so the rest of a run may not, either. -/
theorem exists_run_takes {k : ℕ} (fuel n : ℕ) {l l' : Listing} {words : List String}
    {ending : Ending} (hl : s.cursor? k = some l)
    (htake : ∀ w, (l.take fuel n w).1 = (words, ending, l'))
    (h : ∀ w, ∃ u, Run { s with workspace := w, cursors := s.cursors.set k (some l') } ms u) :
    ∃ u, Run s (.takes k words ending :: ms) u := by
  have hmove := take_of_cursor? hl fuel n
  rw [htake] at hmove
  exact exists_run_cons (.takes hmove) (h (l.take fuel n s.workspace).2)

end Sharing

def negatedF : Pattern := .bracket [.literal 'F'] true "[^F]"

/-- Two listings ask for the same class text. One is closed, and the other fails and ends. -/
def sharingMoves : List Move :=
  [.opens negatedF, .opens (.choice [negatedF, .reference 1]), .takes 1 ["7"] .enough,
    .takes 0 ["7", "."] .enough, .takes 1 [] (.failed .reference), .closes 0, .takesEvents,
    .takes 1 [] .exhausted]

section SharingMoves

open Listing

theorem reply_negatedF :
    (ofPattern (.ofMode .exhaustive) negatedF).reply =
      .skip (characters ['7', '.', '$', ' ', '\ufffd']) := by
  have hparse : Pattern.parse "[^F]" = .ok negatedF :=
    Pattern.parse_of_reads ⟨'[', "^F]".toList, rfl, by cbv⟩
  obtain ⟨-, m, hm, hnames⟩ := ClassText.exists_matcher?_of_parse hparse (by decide) (by decide)
  have hfilter : Alphabets.defaultCandidates.filter m = ['7', '.', '$', ' ', '\ufffd'] := by
    rw [funext hnames]
    decide
  have hreply := reply_sampling "[^F]" Alphabets.defaultCandidates
  rw [hm, Option.map_some, hfilter] at hreply
  exact hreply

theorem fused_negatedF :
    fused (ofPattern (.ofMode .exhaustive) negatedF) =
      .skip (characters ['7', '.', '$', ' ', '\ufffd']) := by
  rw [fused, reply_negatedF]
  rfl

theorem fused_choice_negatedF :
    fused (ofPattern (.ofMode .exhaustive) (.choice [negatedF, .reference 1])) =
      .skip (choice ⟨[characters ['7', '.', '$', ' ', '\ufffd'], failing .reference]⟩) := by
  have hstep : Interleave.step (m := Id) reply
      ⟨[ofPattern (.ofMode .exhaustive) negatedF, failing .reference]⟩ =
      Interleave.receive [failing .reference]
        (ofPattern (.ofMode .exhaustive) negatedF).reply := rfl
  have hpattern : ofPattern (.ofMode .exhaustive) (.choice [negatedF, .reference 1]) =
      choice ⟨[ofPattern (.ofMode .exhaustive) negatedF, failing .reference]⟩ := rfl
  rw [fused, hpattern, reply_choice, hstep, reply_negatedF]
  rfl

theorem exists_run_sharingMoves : ∃ s, Run (start (.ofMode .exhaustive)) sharingMoves s := by
  have hchoice : ∀ w,
      ((ofPattern (.ofMode .exhaustive) (.choice [negatedF, .reference 1])).take 2 1 w).1 =
        (["7"], .enough, choice ⟨[failing .reference, words [".", "$", " ", "\ufffd"]]⟩) := by
    intro w
    rw [take_fst, takeOnto_succ_fst, next_fst_eq_pull_fused, RegexWords.pull]
    simp only [fused_choice_negatedF]
    rfl
  have hbracket : ∀ w, ((ofPattern (.ofMode .exhaustive) negatedF).take 2 2 w).1 =
      (["7", "."], .enough, words ["$", " ", "\ufffd"]) := by
    intro w
    rw [take_fst, takeOnto_succ_fst, next_fst_eq_pull_fused, RegexWords.pull]
    simp only [fused_negatedF]
    rfl
  apply exists_run_cons (.opens negatedF)
  apply exists_run_cons (.opens (.choice [negatedF, .reference 1]))
  apply exists_run_takes 2 1 rfl hchoice
  intro w
  apply exists_run_takes 2 2 rfl hbracket
  intro w
  apply exists_run_takes 1 1 rfl (fun w ↦ rfl)
  intro w
  apply exists_run_cons (.closes 0)
  apply exists_run_cons .takesEvents
  apply exists_run_takes 1 1 rfl (fun w ↦ rfl)
  intro w
  exact ⟨_, .nil⟩

end SharingMoves

theorem run_alone_iff_eq_answers_sharing :
    ∃ s, Run (start (.ofMode .exhaustive)) sharingMoves s ∧
      (opened sharingMoves)[1]? = some (.choice [negatedF, .reference 1]) ∧
      (∀ rs, rs.length = 3 →
        ((∃ x, RegexWords.Run Listing.advance
            (.ofPattern (.ofMode .exhaustive) (.choice [negatedF, .reference 1]), .empty) rs x) ↔
          rs = [some (.ok "7"), some (.error .reference), none])) ∧
      ∀ l n, s.cursor? 1 = some l → ∃ least, ∀ fuel ≥ least,
        ∃ words ending u, ending ≠ .unfinished ∧ s.take fuel 1 n = some ((words, ending), u) := by
  obtain ⟨s, hs⟩ := exists_run_sharingMoves
  have hp : (opened sharingMoves)[1]? = some (.choice [negatedF, .reference 1]) := rfl
  exact ⟨s, hs, hp, run_alone_iff_eq_answers hs hp⟩

end Session

end RegexWords
