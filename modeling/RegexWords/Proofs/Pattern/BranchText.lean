import RegexWords.Proofs.Pattern.BracketText
import RegexWords.Proofs.Pattern.Drafts

namespace RegexWords

open Text

inductive BehindBranch : List Char → Prop
  | textEnd : BehindBranch []
  | bar (rest : List Char) : BehindBranch ('|' :: rest)
  | close (rest : List Char) : BehindBranch (')' :: rest)

variable {cs rest after : List Char}

namespace BehindBranch

theorem of_mem_head? (h : BehindBranch after) {c : Char} (hc : c ∈ after.head?) :
    c = '|' ∨ c = ')' := by
  cases h with
  | textEnd => cases hc
  | bar => exact .inl (Option.some.inj hc).symm
  | close => exact .inr (Option.some.inj hc).symm

theorem append_ne {c : Char} {tail : List Char} (h : BehindBranch after)
    (hcs : ∀ tail, cs ≠ c :: tail) (hc : c ≠ '|' ∧ c ≠ ')') : cs ++ after ≠ c :: tail := by
  intro he
  cases cs with
  | nil =>
    rw [List.nil_append] at he
    rcases h.of_mem_head? (c := c) (by rw [he]; rfl) with hbar | hclose
    · exact hc.1 hbar
    · exact hc.2 hclose
  | cons d cs => exact hcs cs ((List.cons.inj he).1 ▸ rfl)

theorem append_ne_pair {c d : Char} {tail : List Char} (h : BehindBranch after)
    (hcs : ∀ tail, cs ≠ c :: d :: tail) (hc : c ≠ '|' ∧ c ≠ ')') (hd : d ≠ '|' ∧ d ≠ ')') :
    cs ++ after ≠ c :: d :: tail := by
  cases cs with
  | nil => exact h.append_ne (fun _ he ↦ nomatch he) hc
  | cons e cs =>
    intro he
    obtain ⟨rfl, htail⟩ := List.cons.inj he
    exact h.append_ne (fun tail he ↦ hcs tail (he ▸ rfl)) hd htail

theorem quiet (h : BehindBranch after) (hcs : Token.Quiet cs) : Token.Quiet (cs ++ after) :=
  fun _ ↦ h.append_ne hcs (by decide)

end BehindBranch

namespace Text

variable {p : Char → Bool}

theorem takeWhile_append_of_head? (h : ∀ c ∈ after.head?, p c = false) :
    (cs ++ after).takeWhile p = cs.takeWhile p := by
  induction cs with
  | nil =>
    cases after with
    | nil => rfl
    | cons c after => exact List.takeWhile_cons_of_neg (by simp [h c rfl])
  | cons c cs ih => simp only [List.cons_append, List.takeWhile_cons, ih]

theorem dropWhile_append_of_head? (h : ∀ c ∈ after.head?, p c = false) :
    (cs ++ after).dropWhile p = cs.dropWhile p ++ after := by
  induction cs with
  | nil =>
    cases after with
    | nil => rfl
    | cons c after => exact List.dropWhile_cons_of_neg (by simp [h c rfl])
  | cons c cs ih =>
    simp only [List.cons_append, List.dropWhile_cons, ih]
    split <;> rfl

theorem fixedHex?_append_of_behindBranch (h : BehindBranch after) (width : ℕ) :
    fixedHex? width (cs ++ after) = (fixedHex? width cs).map fun x ↦ (x.1, x.2 ++ after) := by
  by_cases hlen : width ≤ cs.length
  · exact fixedHex?_append_of_le after hlen
  · have hnone : fixedHex? width cs = none := if_neg (by rw [List.length_take]; omega)
    rw [hnone, Option.map_none]
    cases after with
    | nil => rwa [List.append_nil]
    | cons d after =>
      have hd : hexValue? d = none := by
        rcases h.of_mem_head? (c := d) rfl with rfl | rfl <;> rfl
      refine fixedHex?_eq_none_of_mem hd ?_
      obtain ⟨k, hk⟩ : ∃ k, width - cs.length = k + 1 := ⟨width - cs.length - 1, by omega⟩
      rw [List.take_append, hk, List.take_succ_cons]
      exact List.mem_append_right _ List.mem_cons_self

end Text

namespace Escape

theorem bracedHex?_append_of_eq_some {c : Char} (h : bracedHex? cs = some (c, rest))
    (after : List Char) : bracedHex? (cs ++ after) = some (c, rest ++ after) := by
  unfold bracedHex? at h ⊢
  split at h
  · cases h
  · next d tail hdrop =>
    have hlen : (cs.takeWhile (· != '}')).length ≠ cs.length := by
      intro hlen
      have hsplit := congrArg List.length
        (List.takeWhile_append_dropWhile (p := (· != '}')) (l := cs))
      rw [List.length_append, hlen, hdrop, List.length_cons] at hsplit
      omega
    rw [List.dropWhile_append, List.takeWhile_append, hdrop, if_neg hlen]
    obtain ⟨e, he, hrest⟩ := Option.map_eq_some_iff.1 h
    cases hrest
    rw [he]
    rfl

theorem read?_append_of_eq_some {e : Escape} (h : read? cs = some (e, rest))
    (hafter : BehindBranch after) : read? (cs ++ after) = some (e, rest ++ after) := by
  fun_cases read? cs with
  | case1 => cases h
  | case2 cs =>
    obtain ⟨⟨c, tail⟩, hc, he⟩ := Option.map_eq_some_iff.1 h
    cases he
    simp [read?, bracedHex?_append_of_eq_some hc]
  | case3 cs hbrace c tail hc =>
    simp only [read?, hc] at h
    cases h
    have hne (tail : List Char) : cs ++ after ≠ '{' :: tail :=
      hafter.append_ne hbrace (by decide)
    simp [read?, fixedHex?_append_of_behindBranch hafter, hc]
  | case4 _ hbrace hc =>
    simp only [read?, hc] at h
    cases h
    have hne (tail : List Char) : rest ++ after ≠ '{' :: tail :=
      hafter.append_ne hbrace (by decide)
    simp [read?, fixedHex?_append_of_behindBranch hafter, hc]
  | case5 cs c tail hc =>
    simp only [read?, hc] at h
    cases h
    simp [read?, fixedHex?_append_of_behindBranch hafter, hc]
  | case6 cs hc =>
    simp only [read?, hc] at h
    cases h
    simp [read?, fixedHex?_append_of_behindBranch hafter, hc]
  | case7 c cs _ hu hx hc =>
    rw [read?_of_ne hu hx, if_pos hc] at h
    cases h
    rw [List.cons_append, read?_of_ne hu hx, if_pos hc]
  | case8 c cs _ hu hx hc =>
    rw [read?_of_ne hu hx, if_neg hc] at h
    cases h
    rw [List.cons_append, read?_of_ne hu hx, if_neg hc]

end Escape

namespace Bounds

theorem readNumber?_append (h : BehindBranch after) :
    readNumber? (cs ++ after) = (readNumber? cs).map fun x ↦ (x.1, x.2 ++ after) := by
  have hdigit : ∀ c ∈ after.head?, c.isDigit = false := by
    intro c hc
    rcases h.of_mem_head? hc with rfl | rfl <;> rfl
  simp only [readNumber?, takeWhile_append_of_head? hdigit, dropWhile_append_of_head? hdigit]
  split <;> rfl

/-- Whether a brace opens bounds is decided within its branch. -/
theorem read?_append (h : BehindBranch after) :
    read? (cs ++ after) = (read? cs).map fun x ↦ (x.1, x.2 ++ after) := by
  rw [read?, readNumber?_append h]
  fun_cases read? cs with
  | case1 n rest hn => simp [hn]
  | case2 n rest hn => simp [hn]
  | case3 n tail htail hn m rest hm =>
    have hne (cs : List Char) : tail ++ after ≠ '}' :: cs :=
      h.append_ne htail (by decide)
    simp [hn, readNumber?_append h, hm]
  | case4 n tail htail hn hm =>
    have hne (cs : List Char) : tail ++ after ≠ '}' :: cs :=
      h.append_ne htail (by decide)
    simp only [hn, Option.map_some, List.cons_append, readNumber?_append h]
    cases hx : readNumber? tail with
    | none => rfl
    | some x =>
      have hbrace (cs : List Char) : x.2 ++ after ≠ '}' :: cs :=
        h.append_ne (fun cs he ↦ hm x.1 cs (by rw [hx, ← he])) (by decide)
      rw [Option.map_some]
      generalize x.2 ++ after = tail at hbrace
      split
      · next he =>
        cases he
        exact absurd rfl (hbrace _)
      · rfl
  | case5 hclose _ hboth =>
    cases hx : readNumber? cs with
    | none => rfl
    | some x =>
      have hbrace (cs : List Char) : x.2 ++ after ≠ '}' :: cs :=
        h.append_ne (fun cs he ↦ hclose x.1 cs (by rw [hx, ← he])) (by decide)
      have hcomma (cs : List Char) : x.2 ++ after ≠ ',' :: cs :=
        h.append_ne (fun cs he ↦ hboth x.1 cs (by rw [hx, ← he])) (by decide)
      rw [Option.map_some]
      generalize x.2 ++ after = tail at hbrace hcomma
      split
      · next he =>
        cases he
        exact absurd rfl (hbrace _)
      · next he =>
        cases he
        exact absurd rfl (hcomma _)
      · next he =>
        cases he
        exact absurd rfl (hcomma _)
      · rfl

end Bounds

namespace Token

variable {t : Token}

theorem readRepetition_append (bounds : Bounds) (h : BehindBranch after) :
    readRepetition bounds (cs ++ after) =
      ((readRepetition bounds cs).1, (readRepetition bounds cs).2 ++ after) := by
  fun_cases readRepetition bounds cs with
  | case1 => rfl
  | case2 cs hcs =>
    have hquiet : Quiet (cs ++ after) := h.quiet hcs
    exact readRepetition_reluctance bounds true hquiet

theorem readName_append (h : readName cs = .ok rest) (after : List Char) :
    readName (cs ++ after) = .ok (rest ++ after) := by
  unfold readName at h
  split at h
  · cases h
  · next c cs =>
    split at h
    · cases h
    · next hc =>
      split at h
      · next hd =>
        cases h
        rw [List.cons_append, readName, if_neg hc, ← List.cons_append, List.dropWhile_append, hd]
        rfl
      · cases h

theorem readOpening_append (h : readOpening cs = .ok (t, rest)) (hafter : BehindBranch after) :
    readOpening (cs ++ after) = .ok (t, rest ++ after) := by
  unfold readOpening at h
  split at h
  case h_6 cs hequal hbang =>
    obtain ⟨r, hr, he⟩ := Failure.exists_of_map_ok h
    cases he
    rw [List.cons_append, List.cons_append, readOpening, readName_append hr]
    · rfl
    · exact fun _ ↦ hafter.append_ne hequal (by decide)
    · exact fun _ ↦ hafter.append_ne hbang (by decide)
  case h_7 hcolon hequal hbang _ _ hless =>
    cases h
    have hne (d : Char) (hd : d ≠ '|' ∧ d ≠ ')') (hcs : ∀ tail, cs ≠ '?' :: d :: tail)
        (tail : List Char) : cs ++ after ≠ '?' :: d :: tail :=
      hafter.append_ne_pair hcs (by decide) hd
    rw [readOpening]
    · exact hne ':' (by decide) hcolon
    · exact hne '=' (by decide) hequal
    · exact hne '!' (by decide) hbang
    · exact fun _ ↦ hne '<' (by decide) hless _
    · exact fun _ ↦ hne '<' (by decide) hless _
    · exact hne '<' (by decide) hless
  all_goals
    cases h
    rfl

theorem readEscape_append (h : readEscape cs = .ok (t, rest)) (hafter : BehindBranch after) :
    readEscape (cs ++ after) = .ok (t, rest ++ after) := by
  have hcharacter {cs : List Char} (h : readEscape.readCharacter cs = .ok (t, rest)) :
      readEscape.readCharacter (cs ++ after) = .ok (t, rest ++ after) := by
    unfold readEscape.readCharacter at h
    split at h
    · next he =>
      cases h
      rw [readEscape.readCharacter, Escape.read?_append_of_eq_some he hafter]
    · cases h
  unfold readEscape at h
  split at h
  · cases h
    rfl
  · cases h
    rfl
  · next hb hB =>
    split at h
    · next c cs =>
      rw [List.cons_append, readEscape]
      · split at h
        · next hc =>
          cases h
          rw [if_pos hc]
        · next hc =>
          rw [if_neg hc]
          exact hcharacter h
      · exact fun _ he ↦ hb cs ((List.cons.inj he).1 ▸ rfl)
      · exact fun _ he ↦ hB cs ((List.cons.inj he).1 ▸ rfl)
    · cases h

theorem read_append {c : Char} (h : read c cs = .ok (t, rest)) (hafter : BehindBranch after) :
    read c (cs ++ after) = .ok (t, rest ++ after) := by
  have hrepetition {bounds : Bounds} {cs : List Char}
      (h : Except.ok (readRepetition bounds cs) = (.ok (t, rest) : Except Failure _)) :
      Except.ok (readRepetition bounds (cs ++ after)) =
        (.ok (t, rest ++ after) : Except Failure _) := by
    rw [readRepetition_append bounds hafter, Except.ok.inj h]
  unfold read at h
  split at h
  case h_3 => exact readOpening_append h hafter
  case h_4 =>
    obtain ⟨r, hr, he⟩ := Failure.exists_of_map_ok h
    cases he
    rw [read, Bracket.read_append hr]
    rfl
  case h_5 => exact readEscape_append h hafter
  case h_9 => exact hrepetition h
  case h_10 => exact hrepetition h
  case h_11 => exact hrepetition h
  case h_12 =>
    rw [read, Bounds.read?_append hafter]
    split at h
    · next hb =>
      rw [hb]
      exact hrepetition h
    · next hb =>
      cases h
      rw [hb]
      rfl
  case h_13 =>
    cases h
    rw [read] <;> assumption
  all_goals
    cases h
    rfl

end Token

end RegexWords
