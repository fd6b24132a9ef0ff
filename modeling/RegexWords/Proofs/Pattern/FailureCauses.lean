import RegexWords.Proofs.Pattern.FailurePlaces
import RegexWords.Proofs.Pattern.Joining
import RegexWords.Proofs.Pattern.NumericEscapes

namespace RegexWords

open Text

namespace Bounds

structure WritesNumber (digits : List Char) (n : ℕ) : Prop where
  ne_nil : digits ≠ []
  isDigit : ∀ c ∈ digits, c.isDigit
  value : Nat.ofDigitChars 10 digits 0 = n
  le_greatest : n ≤ greatest

/-- How bounds are written behind the brace that opens them. -/
inductive Spells : List Char → Bounds → Prop
  | exactly {digits : List Char} {n : ℕ} :
      WritesNumber digits n → Spells (digits ++ ['}']) ⟨n, some n⟩
  | atLeast {digits : List Char} {n : ℕ} :
      WritesNumber digits n → Spells (digits ++ [',', '}']) ⟨n, none⟩
  | between {least most : List Char} {n m : ℕ} :
      WritesNumber least n → WritesNumber most m →
      Spells (least ++ ',' :: (most ++ ['}'])) ⟨n, some m⟩

variable {cs rest : List Char} {n : ℕ} {b : Bounds}

theorem exists_of_readNumber? (h : readNumber? cs = some (n, rest)) :
    ∃ digits, cs = digits ++ rest ∧ WritesNumber digits n := by
  simp only [readNumber?] at h
  split at h
  · next hdigits =>
    cases h
    exact ⟨_, (List.takeWhile_append_dropWhile).symm,
      hdigits.1, fun c hc ↦ List.mem_takeWhile_imp hc, rfl, hdigits.2⟩
  · cases h

theorem exists_of_read? (h : read? cs = some (b, rest)) :
    ∃ text, cs = text ++ rest ∧ Spells text b := by
  unfold read? at h
  split at h
  · next hn =>
    cases h
    obtain ⟨digits, rfl, hdigits⟩ := exists_of_readNumber? hn
    exact ⟨_, by simp, .exactly hdigits⟩
  · next hn =>
    cases h
    obtain ⟨digits, rfl, hdigits⟩ := exists_of_readNumber? hn
    exact ⟨_, by simp, .atLeast hdigits⟩
  · next hn =>
    obtain ⟨least, rfl, hleast⟩ := exists_of_readNumber? hn
    split at h
    · next hm =>
      cases h
      obtain ⟨most, rfl, hmost⟩ := exists_of_readNumber? hm
      exact ⟨_, by simp, .between hleast hmost⟩
    · cases h
  · cases h

/-- A mark that repeats what stands before it. -/
inductive Marks : List Char → Bounds → Prop
  | star : Marks ['*'] ⟨0, none⟩
  | plus : Marks ['+'] ⟨1, none⟩
  | optional : Marks ['?'] ⟨0, some 1⟩
  | braces {text : List Char} {b : Bounds} : Spells text b → Marks ('{' :: text) b

theorem Marks.exists_of_not_inOrder {mark : List Char} (h : Marks mark b) (hb : ¬b.inOrder) :
    ∃ least most n m, mark = '{' :: (least ++ ',' :: (most ++ ['}'])) ∧ WritesNumber least n ∧
      WritesNumber most m ∧ m < n := by
  cases h with
  | star | plus | optional => exact absurd rfl hb
  | braces h =>
    cases h with
    | exactly => simp [inOrder] at hb
    | atLeast => exact absurd rfl hb
    | between hleast hmost =>
      refine ⟨_, _, _, _, rfl, hleast, hmost, ?_⟩
      simpa [inOrder] using hb

end Bounds

namespace Token

variable {c : Char} {cs rest : List Char} {t : Token} {e : Failure}

theorem exists_openGroup_of_readOpening (h : readOpening cs = .ok (t, rest)) :
    ∃ kind, t = .openGroup kind := by
  unfold readOpening at h
  split at h
  case h_6 =>
    obtain ⟨r, -, he⟩ := Failure.exists_of_map_ok h
    cases he
    exact ⟨_, rfl⟩
  all_goals
    cases h
    exact ⟨_, rfl⟩

/-- An escape outside brackets is an anchor, a reference or what it is between brackets too. -/
theorem readEscape_cases (cs : List Char) :
    (∃ a rest, readEscape cs = .ok (.item (.anchor a), rest)) ∨
      (∃ n rest, readEscape cs = .ok (.item (.reference n), rest)) ∨
      readEscape cs = readEscape.readCharacter cs := by
  unfold readEscape
  split
  · exact .inl ⟨_, _, rfl⟩
  · exact .inl ⟨_, _, rfl⟩
  · split
    · split
      · exact .inr (.inl ⟨_, _, rfl⟩)
      · exact .inr (.inr rfl)
    · exact .inr (.inr rfl)

theorem exists_item_of_readEscape (h : readEscape cs = .ok (t, rest)) :
    ∃ p, t = .item p ∧ ∀ bounds greedy body, p ≠ .repetition bounds greedy body := by
  obtain ⟨a, tail, he⟩ | ⟨n, tail, he⟩ | he := readEscape_cases cs
  · rw [he] at h
    cases h
    refine ⟨_, rfl, fun _ _ _ hp ↦ ?_⟩
    cases hp
  · rw [he] at h
    cases h
    refine ⟨_, rfl, fun _ _ _ hp ↦ ?_⟩
    cases hp
  · rw [he, readEscape.readCharacter] at h
    split at h
    · next escape _ _ =>
      cases h
      refine ⟨_, rfl, fun _ _ _ hp ↦ ?_⟩
      cases escape <;> cases hp
    · cases h

/-- What a token is written as, as far as it is no item. -/
def BeginsAt (place : List Char) : Token → Prop
  | .item _ => True
  | .repetition bounds _ => ∃ mark, mark <+: place ∧ bounds.Marks mark
  | .bar => ∃ cs, place = '|' :: cs
  | .openGroup _ => ∃ cs, place = '(' :: cs
  | .closeGroup => ∃ cs, place = ')' :: cs

theorem beginsAt_readRepetition {bounds : Bounds} {mark place : List Char}
    (h : bounds.Marks mark) (hmark : mark <+: place) (tail : List Char) :
    (readRepetition bounds tail).1.BeginsAt place := by
  obtain ⟨greedy, hfst⟩ := readRepetition_fst bounds tail
  rw [hfst]
  exact ⟨mark, hmark, h⟩

theorem beginsAt_of_read (h : read c cs = .ok (t, rest)) : t.BeginsAt (c :: cs) := by
  have hrepetition {bounds : Bounds} {mark tail : List Char} (hbounds : bounds.Marks mark)
      (hmark : mark <+: c :: cs)
      (h : Except.ok (readRepetition bounds tail) = (.ok (t, rest) : Except Failure _)) :
      t.BeginsAt (c :: cs) := by
    have hbegins := beginsAt_readRepetition hbounds hmark tail
    rwa [Except.ok.inj h] at hbegins
  unfold read at h
  split at h
  case h_1 | h_2 =>
    cases h
    exact ⟨_, rfl⟩
  case h_3 =>
    obtain ⟨kind, rfl⟩ := exists_openGroup_of_readOpening h
    exact ⟨_, rfl⟩
  case h_4 =>
    obtain ⟨r, -, he⟩ := Failure.exists_of_map_ok h
    cases he
    trivial
  case h_5 =>
    obtain ⟨p, rfl, -⟩ := exists_item_of_readEscape h
    trivial
  case h_9 => exact hrepetition .star ⟨cs, rfl⟩ h
  case h_10 => exact hrepetition .plus ⟨cs, rfl⟩ h
  case h_11 => exact hrepetition .optional ⟨cs, rfl⟩ h
  case h_12 =>
    split at h
    · next hb =>
      obtain ⟨text, rfl, htext⟩ := Bounds.exists_of_read? hb
      exact hrepetition (.braces htext) ⟨_, rfl⟩ h
    · cases h
      trivial
  all_goals
    cases h
    trivial

theorem exists_of_readName (h : readName cs = .error e) :
    e.kind = .invalidGroupName ∧
      ∃ name, cs = name ++ e.place ∧ ∀ c ∈ name, isNameCharacter c := by
  unfold readName at h
  split at h
  · cases h
    exact ⟨rfl, [], rfl, List.forall_mem_nil _⟩
  · next c cs =>
    split at h
    · cases h
      exact ⟨rfl, [], rfl, List.forall_mem_nil _⟩
    · split at h
      · cases h
      · cases h
        exact ⟨rfl, _, List.takeWhile_append_dropWhile.symm, fun c hc ↦ List.mem_takeWhile_imp hc⟩

theorem exists_of_readOpening (h : readOpening cs = .error e) :
    e.kind = .invalidGroupName ∧
      ∃ name, cs = '?' :: '<' :: (name ++ e.place) ∧ ∀ c ∈ name, isNameCharacter c := by
  unfold readOpening at h
  split at h
  case h_6 =>
    obtain ⟨hkind, name, rfl, hname⟩ := exists_of_readName (Failure.eq_error_of_map h)
    exact ⟨hkind, name, rfl, hname⟩
  all_goals cases h

theorem exists_of_readEscape (h : readEscape cs = .error e) :
    e = ⟨.invalidEscape, '\\' :: cs⟩ ∧ Escape.read? cs = none := by
  obtain ⟨a, tail, he⟩ | ⟨n, tail, he⟩ | he := readEscape_cases cs
  · rw [he] at h
    cases h
  · rw [he] at h
    cases h
  · rw [he, readEscape.readCharacter] at h
    split at h
    · cases h
    · next hnone =>
      cases h
      exact ⟨rfl, hnone⟩

/-- Only a parenthesis, a bracket or a backslash can begin a token that cannot be read. -/
theorem exists_of_read_error (h : read c cs = .error e) :
    (c = '(' ∧ readOpening cs = .error e) ∨ (c = '[' ∧ Bracket.read cs = .error e) ∨
      c = '\\' ∧ readEscape cs = .error e := by
  unfold read at h
  split at h
  case h_3 => exact .inl ⟨rfl, h⟩
  case h_4 => exact .inr (.inl ⟨rfl, Failure.eq_error_of_map h⟩)
  case h_5 => exact .inr (.inr ⟨rfl, h⟩)
  case h_12 => split at h <;> cases h
  all_goals cases h

end Token

namespace Bracket

variable {c : Char} {cs body place : List Char} {e : Failure}

theorem exists_of_readAtom (h : readAtom c cs = .error e) :
    c = '\\' ∧ e = ⟨.invalidEscape, '\\' :: cs⟩ ∧ Escape.read? cs = none := by
  fun_cases readAtom c cs with
  | case4 cs hb hd he =>
    simp only [readAtom, he] at h
    cases h
    exact ⟨rfl, rfl, he⟩
  | case1 | case2 => cases h
  | case3 cs hb hd f rest hf => simp [readAtom, hf] at h
  | case5 c cs _ _ hc =>
    rw [readAtom] at h
    · cases h
    all_goals assumption

theorem exists_of_join {first last : Pattern} (h : join place first last = .error e) :
    e = ⟨.rangeOutOfOrder, place⟩ ∧ ∃ a b, first = .literal a ∧ last = .literal b ∧ b < a := by
  unfold join at h
  split at h
  · split at h
    · cases h
    · next a b hle =>
      cases h
      exact ⟨rfl, a, b, rfl, rfl, Char.not_le.1 hle⟩
  · cases h

inductive Fault (body : List Char) : ParseErrorKind → List Char → Prop
  /-- An escape that names nothing. -/
  | invalidEscape {cs : List Char} :
      AtomAt body ('\\' :: cs) → Escape.read? cs = none → Fault body .invalidEscape ('\\' :: cs)
  /-- Two characters with a dash between them, the first of which is the later one. -/
  | rangeOutOfOrder {c d a b : Char} {cs tail rest : List Char} :
      StandsAt body (c :: cs) → ReadsAtom c cs (.literal a) ('-' :: d :: tail) → d ≠ ']' →
      ReadsAtom d tail (.literal b) rest → b < a → Fault body .rangeOutOfOrder (c :: cs)

theorem fault_of_readMember (h : readMember c cs = .error e) (hstands : StandsAt body (c :: cs))
    (hc : c ≠ ']') : Fault body e.kind e.place := by
  unfold readMember at h
  split at h
  · next ha =>
    cases h
    obtain ⟨rfl, rfl, hescape⟩ := exists_of_readAtom ha
    exact .invalidEscape (.first hstands hc) hescape
  · cases h
  · cases h
  · next first d tail hclose ha =>
    split at h
    · next hb =>
      cases h
      obtain ⟨rfl, rfl, hescape⟩ := exists_of_readAtom hb
      exact .invalidEscape (.last hstands hc ha (by decide)) hescape
    · next hb =>
      obtain ⟨rfl, a, b, rfl, rfl, hlt⟩ := exists_of_join (Failure.eq_error_of_map h)
      exact .rangeOutOfOrder hstands (readAtom_eq_ok_iff.1 ha) hclose (readAtom_eq_ok_iff.1 hb) hlt
  · cases h

theorem fault_of_readMembers (h : readMembers place cs = .error e) (hstands : StandsAt body cs) :
    e = ⟨.unclosedBracket, place⟩ ∨ Fault body e.kind e.place := by
  fun_induction readMembers place cs with
  | case1 =>
    cases h
    exact .inl rfl
  | case2 => cases h
  | case3 c cs hc e' he =>
    cases h
    exact .inr (fault_of_readMember he hstands hc)
  | case4 c cs hc ps rest hm _ ih =>
    exact ih (Failure.eq_error_of_map h) (.behind hstands hc hm)

theorem fault_of_read (h : read cs = .error e) :
    (e = ⟨.unclosedBracket, '[' :: cs⟩ ∧ ∀ ms tail, ¬ReadsMembers (membersText cs) ms tail) ∨
      Fault (membersText cs) e.kind e.place := by
  obtain ⟨negated, hread⟩ := exists_read_eq cs
  rw [hread] at h
  have hmembers := Failure.eq_error_of_map h
  refine (fault_of_readMembers hmembers .front).imp_left fun he ↦ ⟨he, fun ms tail hreads ↦ ?_⟩
  rw [readMembers_eq_ok_iff.2 hreads] at hmembers
  cases hmembers

end Bracket

namespace Escape

theorem exists_of_read?_eq_none {cs : List Char} (h : read? cs = none) (hne : cs ≠ []) :
    ∃ inside, cs = 'u' :: '{' :: inside ∧ bracedHex? inside = none := by
  cases cs with
  | nil => exact absurd rfl hne
  | cons c tail =>
    by_cases hx : c = 'x'
    · rw [hx, read?_x] at h
      cases h
    by_cases hu : c = 'u'
    · subst hu
      by_cases hbrace : tail.head? = some '{'
      · obtain ⟨inside, rfl⟩ := List.head?_eq_some_iff.1 hbrace
        refine ⟨inside, rfl, ?_⟩
        simpa [read?] using h
      · rw [read?_u hbrace] at h
        cases h
    · rw [read?_of_ne hu hx] at h
      split at h <;> cases h

theorem bracedHex?_of_append {cs rest after : List Char} {c : Char}
    (h : bracedHex? (cs ++ after) = some (c, rest ++ after)) : bracedHex? cs = some (c, rest) := by
  obtain ⟨digits, hcs, hbrace, hdigits⟩ := bracedHex?_eq_some_iff.1 h
  rw [← List.cons_append, ← List.append_assoc] at hcs
  exact bracedHex?_eq_some_iff.2 ⟨digits, List.append_cancel_right hcs, hbrace, hdigits⟩

end Escape

theorem Bracket.read_of_append {cs rest after : List Char} {p : Pattern}
    (h : read (cs ++ after) = .ok (p, rest ++ after)) : read cs = .ok (p, rest) := by
  obtain ⟨ms, negated, used, htext, hne, hused, rfl⟩ := exists_of_read h
  rw [← List.append_assoc] at htext
  rw [List.append_cancel_right htext]
  exact read_of_readsMembers hused hne rest

namespace Token

variable {c : Char} {cs rest after : List Char} {t : Token}

theorem readName_of_append (h : readName (cs ++ after) = .ok (rest ++ after))
    (hafter : BehindBranch after) : readName cs = .ok rest := by
  have hname : ∀ c ∈ after.head?, isNameCharacter c = false := by
    intro c hc
    rcases hafter.of_mem_head? hc with rfl | rfl <;> decide
  cases cs with
  | nil =>
    cases hafter with
    | textEnd => cases h
    | bar | close => simp [readName, hname _ rfl] at h
  | cons c cs =>
    rw [List.cons_append, readName] at h
    split at h
    · cases h
    · next hc =>
      rw [← List.cons_append, dropWhile_append_of_head? hname] at h
      rw [readName, if_neg hc]
      cases hdrop : (c :: cs).dropWhile isNameCharacter with
      | nil =>
        rw [hdrop] at h
        cases hafter <;> cases h
      | cons d tail =>
        rw [hdrop] at h
        split at h
        · next he =>
          obtain ⟨rfl, rfl⟩ := List.cons.inj he
          obtain rfl : tail = rest := List.append_cancel_right (Except.ok.inj h)
          rfl
        · cases h

theorem readOpening_of_append (h : readOpening (cs ++ after) = .ok (t, rest ++ after))
    (hafter : BehindBranch after) : readOpening cs = .ok (t, rest) := by
  cases hread : readOpening cs with
  | ok r =>
    rw [readOpening_append hread hafter] at h
    simpa [Prod.ext_iff] using h
  | error e =>
    unfold readOpening at hread
    split at hread
    case h_6 name hequal hbang =>
      have herror := Failure.eq_error_of_map hread
      rw [List.cons_append, List.cons_append, readOpening] at h
      · obtain ⟨tail, hname, he⟩ := Failure.exists_of_map_ok h
        cases he
        rw [readName_of_append hname hafter] at herror
        cases herror
      · exact fun _ ↦ hafter.append_ne hequal (by decide)
      · exact fun _ ↦ hafter.append_ne hbang (by decide)
    all_goals cases hread

theorem readEscape_of_append (h : readEscape (cs ++ after) = .ok (t, rest ++ after))
    (hafter : BehindBranch after) : readEscape cs = .ok (t, rest) := by
  cases hread : readEscape cs with
  | ok r =>
    rw [readEscape_append hread hafter] at h
    simpa [Prod.ext_iff] using h
  | error e =>
    obtain ⟨-, hnone⟩ := exists_of_readEscape hread
    by_cases hcs : cs = []
    · subst hcs
      cases hafter with
      | textEnd => cases h
      | bar tail | close tail =>
        have hlength := congrArg (List.length ∘ Prod.snd) (Except.ok.inj h)
        simp at hlength
        omega
    · obtain ⟨inside, rfl, hinside⟩ := Escape.exists_of_read?_eq_none hnone hcs
      have hread : readEscape ('u' :: '{' :: (inside ++ after)) =
          readEscape.readCharacter ('u' :: '{' :: (inside ++ after)) := by
        have hshared : Escape.IsShared 'u' := by decide
        exact read_of_isShared hshared _
      rw [List.cons_append, List.cons_append, hread, readEscape.readCharacter, Escape.read?] at h
      cases hbraced : Escape.bracedHex? (inside ++ after) with
      | none =>
        rw [hbraced] at h
        cases h
      | some x =>
        obtain ⟨c, tail⟩ := x
        rw [hbraced] at h
        obtain ⟨-, rfl⟩ := Prod.mk.inj (Except.ok.inj h)
        rw [Escape.bracedHex?_of_append hbraced] at hinside
        cases hinside

theorem read_of_append (h : read c (cs ++ after) = .ok (t, rest ++ after))
    (hafter : BehindBranch after) : read c cs = .ok (t, rest) := by
  cases hread : read c cs with
  | ok r =>
    obtain ⟨u, tail⟩ := r
    rw [read_append hread hafter] at h
    simpa using h
  | error e =>
    obtain ⟨rfl, he⟩ | ⟨rfl, he⟩ | ⟨rfl, he⟩ := exists_of_read_error hread
    · rw [readOpening_of_append h hafter] at he
      cases he
    · obtain ⟨⟨p, tail⟩, hr, hpair⟩ := Failure.exists_of_map_ok h
      obtain ⟨rfl, rfl⟩ := Prod.mk.inj hpair
      rw [Bracket.read_of_append hr] at he
      cases he
    · rw [readEscape_of_append h hafter] at he
      cases he

end Token

namespace Draft

variable {d d' : Draft} {text place cs rest after : List Char} {t : Token} {e : Failure}
  {kind : ParseErrorKind}

theorem groups_embed (d : Draft) : (d.embed [] [] after).groups = [] ↔ d.groups = [] := by
  obtain ⟨b, groups⟩ := d
  cases groups with
  | nil => exact iff_of_true rfl rfl
  | cons g groups => exact iff_of_false (List.cons_ne_nil _ _) (List.cons_ne_nil _ _)

/-- What a token does to a draft in a longer text it does in the text cut short. -/
theorem Pushes.of_embed {D : Draft} (h : Pushes (place ++ after) (d.embed [] [] after) t D) :
    ∃ d', Pushes place d t d' ∧ D = d'.embed [] [] after := by
  suffices h : ∃ d', Pushes place d t d' by
    obtain ⟨d', hd'⟩ := h
    refine ⟨d', hd', ?_⟩
    have hD := push_eq_ok h
    rw [push_eq_ok hd'.embed] at hD
    exact (Except.ok.inj hD).symm
  have hitems : (d.embed [] [] after).branches.items = d.branches.items := by
    obtain ⟨b, groups⟩ := d
    cases groups <;> rfl
  obtain ⟨⟨closed, items⟩, groups⟩ := d
  generalize hD : Draft.embed [] [] after ⟨⟨closed, items⟩, groups⟩ = embedded at h hitems
  cases h with
  | item => exact ⟨_, .item⟩
  | repetition hp hb =>
    obtain rfl := hitems
    exact ⟨_, .repetition hp hb⟩
  | bar => exact ⟨_, .bar⟩
  | openGroup => exact ⟨_, .openGroup⟩
  | closeGroup =>
    cases groups with
    | nil => cases hD
    | cons g groups => exact ⟨_, .closeGroup⟩

/-- What is read of a text before the end of a branch is read of the text cut off there as well. -/
theorem StandsAt.of_append {D : Draft} {tail : List Char} (h : D.StandsAt (cs ++ after) tail)
    (htail : tail = rest ++ after) (hafter : BehindBranch after) :
    ∃ d, StandsAt cs d rest ∧ D = d.embed [] [] after := by
  induction h generalizing rest with
  | front =>
    rw [← List.append_cancel_right htail]
    exact ⟨.empty, .front, rfl⟩
  | @behind D D' c tail' tail t _ hread hpush ih =>
    subst htail
    obtain ⟨taken, rfl⟩ := Token.isSuffix_of_read hread
    rw [← List.append_assoc] at hread hpush
    rw [← List.cons_append] at hpush
    have htail : c :: (taken ++ (rest ++ after)) = c :: (taken ++ rest) ++ after := by simp
    obtain ⟨d, hstands, rfl⟩ := ih htail
    obtain ⟨d', hpushes, rfl⟩ := (pushes_of_push hpush).of_embed
    exact ⟨d', .behind hstands (Token.read_of_append hread hafter) (push_eq_ok hpushes), rfl⟩

theorem StandsAt.isSuffix (h : d.StandsAt text cs) : cs <:+ text := by
  induction h with
  | front => exact List.suffix_refl _
  | behind _ hread _ ih =>
    exact ((Token.isSuffix_of_read hread).trans (List.suffix_cons _ _)).trans ih

theorem StandsAt.extend (h : d.StandsAt text cs) (hextend : d.extend cs = .ok d') :
    d'.StandsAt text [] := by
  fun_induction Draft.extend d cs with
  | case1 =>
    cases hextend
    exact h
  | case2 => cases hextend
  | case3 => cases hextend
  | case4 d c cs t rest hread _ e hpush ih => exact ih (.behind h hread hpush) hextend

/-- Reading fails at a token that cannot be read, or at one that cannot be taken. -/
theorem StandsAt.exists_of_extend (h : d.StandsAt text cs) (hextend : d.extend cs = .error e) :
    ∃ d c cs, StandsAt text d (c :: cs) ∧ (Token.read c cs = .error e ∨
      ∃ t rest kind, Token.read c cs = .ok (t, rest) ∧ d.push (c :: cs) t = .error kind ∧
        e = ⟨kind, c :: cs⟩) := by
  fun_induction Draft.extend d cs with
  | case1 => cases hextend
  | case2 d c cs e' hread =>
    cases hextend
    exact ⟨d, c, cs, h, .inl hread⟩
  | case3 d c cs t rest hread _ kind hpush =>
    cases hextend
    exact ⟨d, c, cs, h, .inr ⟨t, rest, kind, hread, hpush, rfl⟩⟩
  | case4 d c cs t rest hread _ e' hpush ih => exact ih (.behind h hread hpush) hextend

/-- Every group that is open was opened by a parenthesis at its place. -/
theorem StandsAt.exists_of_mem_groups (h : d.StandsAt text cs) {g : OpenGroup} (hg : g ∈ d.groups) :
    ∃ before tail, g.place = '(' :: tail ∧ StandsAt text before g.place := by
  induction h with
  | front => cases hg
  | @behind d d' c cs rest t hstands hread hpush ih =>
    cases pushes_of_push hpush with
    | item | repetition | bar => exact ih hg
    | openGroup =>
      obtain rfl | hg := List.mem_cons.1 hg
      · obtain ⟨tail, htail⟩ := Token.beginsAt_of_read hread
        exact ⟨_, tail, htail, hstands⟩
      · exact ih hg
    | closeGroup => exact ih (List.mem_cons_of_mem _ hg)

theorem of_repeatLast_eq_error {b : Branches} {bounds : Bounds} {greedy : Bool}
    (h : b.repeatLast bounds greedy = .error kind) :
    (kind = .nothingToRepeat ∧ ∀ p ∈ b.items.head?, ¬p.isRepeatable) ∨
      kind = .boundsOutOfOrder ∧ ¬bounds.inOrder := by
  unfold Branches.repeatLast at h
  split at h
  · next hitems =>
    cases h
    exact .inl ⟨rfl, by simp [hitems]⟩
  · next hitems =>
    cases h
    exact .inl ⟨rfl, by simp [hitems, Pattern.isRepeatable]⟩
  · next hitems =>
    cases h
    exact .inl ⟨rfl, by simp [hitems, Pattern.isRepeatable]⟩
  · split at h
    · cases h
    · next hb =>
      cases h
      exact .inr ⟨rfl, hb⟩

theorem of_push_eq_error (h : d.push place t = .error kind) :
    (t = .closeGroup ∧ d.groups = [] ∧ kind = .unmatchedClose) ∨
      ∃ bounds greedy, t = .repetition bounds greedy ∧
        ((kind = .nothingToRepeat ∧ ∀ p ∈ d.branches.items.head?, ¬p.isRepeatable) ∨
          kind = .boundsOutOfOrder ∧ ¬bounds.inOrder) := by
  obtain ⟨b, groups⟩ := d
  cases t with
  | item | bar | openGroup => cases h
  | closeGroup =>
    cases groups with
    | nil =>
      cases h
      exact .inl ⟨rfl, rfl, rfl⟩
    | cons g groups => cases h
  | repetition bounds greedy =>
    cases hrepeat : b.repeatLast bounds greedy with
    | ok b' =>
      rw [push, hrepeat] at h
      cases h
    | error kind' =>
      rw [push, hrepeat] at h
      cases h
      exact .inr ⟨bounds, greedy, rfl, of_repeatLast_eq_error hrepeat⟩

end Draft

namespace Pattern

variable {text cs rest : List Char} {c : Char} {d : Draft} {e : Failure}

/-- What is wrong with a text, where `front` stands before the place of the error. -/
inductive Fault : (front : List Char) → ParseErrorKind → (place : List Char) → Prop
  /-- A parenthesis that closes nothing, since what stands before it is a pattern by itself. -/
  | unmatchedClose {front cs : List Char} {p : Pattern} :
      read front = .ok p → Fault front .unmatchedClose (')' :: cs)
  /-- The parenthesis of the innermost group that is open at the end of the text. -/
  | unclosedGroup {front cs : List Char} {d : Draft} {kind : GroupKind} {b around : Branches}
      {groups : List OpenGroup} :
      d.StandsAt (front ++ '(' :: cs) ('(' :: cs) →
      Draft.StandsAt (front ++ '(' :: cs) ⟨b, ⟨kind, '(' :: cs, around⟩ :: groups⟩ [] →
      Fault front .unclosedGroup ('(' :: cs)
  /-- A mark with nothing before it that it could repeat. -/
  | nothingToRepeat {front mark cs : List Char} {d : Draft} {bounds : Bounds} :
      d.StandsAt (front ++ (mark ++ cs)) (mark ++ cs) → bounds.Marks mark →
      (∀ p ∈ d.branches.items.head?, ¬p.isRepeatable) → Fault front .nothingToRepeat (mark ++ cs)
  /-- A bracket that is never closed. -/
  | unclosedBracket {front cs : List Char} {d : Draft} :
      d.StandsAt (front ++ '[' :: cs) ('[' :: cs) →
      (∀ ms tail, ¬Bracket.ReadsMembers (Bracket.membersText cs) ms tail) →
      Fault front .unclosedBracket ('[' :: cs)
  /-- Two characters between brackets with a dash between them, the first of which is the later. -/
  | rangeOutOfOrder {front body cs tail rest : List Char} {c x a b : Char} {d : Draft} :
      d.StandsAt (front ++ c :: cs) ('[' :: body) →
      Bracket.StandsAt (Bracket.membersText body) (c :: cs) →
      Bracket.ReadsAtom c cs (.literal a) ('-' :: x :: tail) → x ≠ ']' →
      Bracket.ReadsAtom x tail (.literal b) rest → b < a → Fault front .rangeOutOfOrder (c :: cs)
  /-- Two numbers in braces, the first of which is the greater. -/
  | boundsOutOfOrder {front least most cs : List Char} {n m : ℕ} {d : Draft} :
      d.StandsAt (front ++ '{' :: (least ++ ',' :: (most ++ '}' :: cs)))
        ('{' :: (least ++ ',' :: (most ++ '}' :: cs))) →
      Bounds.WritesNumber least n → Bounds.WritesNumber most m → m < n →
      Fault front .boundsOutOfOrder ('{' :: (least ++ ',' :: (most ++ '}' :: cs)))
  /-- A backslash before what names nothing. -/
  | invalidEscape {front cs : List Char} {site : Site} :
      site.ComesTo (front ++ '\\' :: cs) ('\\' :: cs) → Escape.read? cs = none →
      Fault front .invalidEscape ('\\' :: cs)
  /-- The end of the characters that a name may have, behind what opens a group with a name. -/
  | invalidGroupName {front name place : List Char} {d : Draft} :
      d.StandsAt (front ++ '(' :: '?' :: '<' :: (name ++ place))
        ('(' :: '?' :: '<' :: (name ++ place)) →
      (∀ c ∈ name, Token.isNameCharacter c) →
      Fault (front ++ '(' :: '?' :: '<' :: name) .invalidGroupName place

theorem fault_of_token (h : d.StandsAt text (c :: cs)) (hread : Token.read c cs = .error e) :
    ∃ front, text = front ++ e.place ∧ Fault front e.kind e.place := by
  obtain ⟨front, rfl⟩ := h.isSuffix
  obtain ⟨taken, htaken⟩ := Token.place_isSuffix_of_read hread
  obtain ⟨rfl, he⟩ | ⟨rfl, he⟩ | ⟨rfl, he⟩ := Token.exists_of_read_error hread
  · obtain ⟨hkind, name, rfl, hname⟩ := Token.exists_of_readOpening he
    rw [hkind]
    exact ⟨front ++ '(' :: '?' :: '<' :: name, by simp, .invalidGroupName h hname⟩
  · obtain ⟨rfl, hopen⟩ | hfault := Bracket.fault_of_read he
    · exact ⟨front, rfl, .unclosedBracket h hopen⟩
    · obtain ⟨kind, place⟩ := e
      rw [← htaken, ← List.append_assoc] at h ⊢
      refine ⟨front ++ taken, rfl, ?_⟩
      cases hfault with
      | invalidEscape hatom hescape =>
        rw [htaken] at h
        exact .invalidEscape (.member h hatom) hescape
      | rangeOutOfOrder hstands ha hx hb hlt =>
        rw [htaken] at h
        exact .rangeOutOfOrder h hstands ha hx hb hlt
  · obtain ⟨rfl, hescape⟩ := Token.exists_of_readEscape he
    exact ⟨front, rfl, .invalidEscape (.item h) hescape⟩

theorem exists_read_of_standsAt_close {front : List Char}
    (h : d.StandsAt (front ++ ')' :: cs) (')' :: cs)) (hgroups : d.groups = []) :
    ∃ p, read front = .ok p := by
  have hclose : ')' :: cs = [] ++ ')' :: cs := rfl
  obtain ⟨d', hstands, rfl⟩ := h.of_append hclose (.close cs)
  rw [Draft.groups_embed] at hgroups
  refine ⟨d'.branches.pattern, ?_⟩
  rw [read, hstands.extend_eq, Draft.extend]
  simp only [Draft.finish, hgroups]

theorem fault_of_push {t : Token} {kind : ParseErrorKind} (h : d.StandsAt text (c :: cs))
    (hread : Token.read c cs = .ok (t, rest)) (hpush : d.push (c :: cs) t = .error kind) :
    ∃ front, text = front ++ c :: cs ∧ Fault front kind (c :: cs) := by
  obtain ⟨front, rfl⟩ := h.isSuffix
  refine ⟨front, rfl, ?_⟩
  have hbegins := Token.beginsAt_of_read hread
  obtain ⟨rfl, hgroups, rfl⟩ | ⟨bounds, greedy, rfl, hkind⟩ := Draft.of_push_eq_error hpush
  · obtain ⟨tail, htail⟩ := hbegins
    rw [htail] at h ⊢
    obtain ⟨p, hp⟩ := exists_read_of_standsAt_close h hgroups
    exact .unmatchedClose hp
  · obtain ⟨mark, ⟨tail, htail⟩, hmark⟩ := hbegins
    rw [← htail] at h ⊢
    obtain ⟨rfl, hitems⟩ | ⟨rfl, horder⟩ := hkind
    · exact .nothingToRepeat h hmark hitems
    · obtain ⟨least, most, n, m, rfl, hleast, hmost, hlt⟩ := hmark.exists_of_not_inOrder horder
      simp only [List.cons_append, List.append_assoc, List.nil_append] at h ⊢
      exact .boundsOutOfOrder h hleast hmost hlt

theorem fault_of_read (h : read text = .error e) :
    ∃ front, text = front ++ e.place ∧ Fault front e.kind e.place := by
  unfold read at h
  split at h
  · next he =>
    cases h
    obtain ⟨d, c, cs, hstands, hread | ⟨t, rest, kind, hread, hpush, rfl⟩⟩ :=
      Draft.StandsAt.front.exists_of_extend he
    · exact fault_of_token hstands hread
    · exact fault_of_push hstands hread hpush
  · next d hd =>
    have hend := Draft.StandsAt.front.extend hd
    obtain ⟨b, groups⟩ := d
    cases groups with
    | nil => cases h
    | cons g groups =>
      cases h
      obtain ⟨before, tail, hplace, hstands⟩ := hend.exists_of_mem_groups List.mem_cons_self
      obtain ⟨front, hfront⟩ := hstands.isSuffix
      obtain ⟨kind, place, around⟩ := g
      subst hplace
      refine ⟨front, hfront.symm, ?_⟩
      subst hfront
      exact .unclosedGroup hstands hend

/-- An error is at the place of what is wrong, a character boundary of the text. When it is a group
that is never closed, the text was read to its end. -/
theorem fault_of_parse {text : String} {e : ParseError} (h : parse text = .error e) :
    e.offset ≤ text.utf8ByteSize ∧
      (∃ front place, text.toList = front ++ place ∧ e.offset = byteLength front ∧
        Fault front e.kind place) ∧
      (e.kind = .unclosedGroup → parseFrom text 0 = some (.error e, text.utf8ByteSize)) := by
  rw [← byteLength_toList]
  have hfrom := parseFrom_zero text
  rw [h, readLength] at hfrom
  rw [parse] at h
  cases hread : read text.toList with
  | ok p =>
    rw [hread] at h
    cases h
  | error f =>
    rw [hread] at h hfrom
    obtain rfl : f.located text.toList = e := Except.error.inj h
    obtain ⟨front, htext, hfault⟩ := fault_of_read hread
    refine ⟨Nat.sub_le _ _, ⟨front, f.place, htext, ?_, hfault⟩, fun hkind ↦ ?_⟩
    · rw [htext]
      simp [Failure.located]
    · have hrest : f.rest = [] := by
        rw [Failure.rest, show f.kind = .unclosedGroup from hkind]
      simpa [hrest] using hfrom

/-- The second of two parentheses closes nothing, four bytes behind the front. -/
theorem fault_of_parse_close :
    parse "(é))" = .error ⟨.unmatchedClose, 4⟩ ∧
      ∃ front place, "(é))".toList = front ++ place ∧ 4 = byteLength front ∧
        Fault front .unmatchedClose place := by
  have hread : read "(é))".toList = .error ⟨.unmatchedClose, [')']⟩ := by cbv
  have hparse : parse "(é))" = .error ⟨.unmatchedClose, 4⟩ := by
    rw [parse, hread]
    rfl
  exact ⟨hparse, (fault_of_parse hparse).2.1⟩

end Pattern

end RegexWords
