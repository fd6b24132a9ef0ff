import RegexWords.Proofs.Pattern.ByteReading

namespace RegexWords

open Text

namespace Token

variable {c : Char} {cs rest : List Char} {p : Pattern}

theorem ne_repetition_of_read (h : read c cs = .ok (.item p, rest)) (bounds : Bounds)
    (greedy : Bool) (body : Pattern) : p ≠ .repetition bounds greedy body := by
  rintro rfl
  unfold read at h
  split at h
  case h_3 => exact readOpening_ne_item h
  case h_4 =>
    obtain ⟨⟨q, tail⟩, hr, he⟩ := Failure.exists_of_map_ok h
    obtain ⟨ms, negated, used, -, -, -, rfl⟩ := Bracket.exists_of_read hr
    cases he
  case h_5 =>
    obtain ⟨q, he, hq⟩ := exists_item_of_readEscape h
    cases he
    exact hq bounds greedy body rfl
  case h_9 | h_10 | h_11 => exact readRepetition_ne_item h
  case h_12 =>
    split at h
    · exact readRepetition_ne_item h
    · cases h
  all_goals cases h

end Token

namespace Draft

variable {d d' : Draft} {c : Char} {cs rest : List Char} {t : Token} {e : Failure}
  {kind : ParseErrorKind}

def complete (d : Draft) (cs : List Char) : Except Failure Pattern :=
  match d.extend cs with
  | .error e => .error e
  | .ok d => d.finish

theorem complete_cons (hread : Token.read c cs = .ok (t, rest)) (hpush : Pushes (c :: cs) d t d') :
    d.complete (c :: cs) = d'.complete rest := by
  rw [complete, extend_cons hread hpush]
  rfl

theorem complete_of_read_error (hread : Token.read c cs = .error e) :
    d.complete (c :: cs) = .error e := by
  have hextend : d.extend (c :: cs) = .error e := by
    rw [extend]
    split
    · next he =>
      rw [hread] at he
      cases he
      rfl
    · next he =>
      rw [hread] at he
      cases he
  rw [complete, hextend]

theorem complete_of_push_error (hread : Token.read c cs = .ok (t, rest))
    (hpush : d.push (c :: cs) t = .error kind) : d.complete (c :: cs) = .error ⟨kind, c :: cs⟩ := by
  have hextend : d.extend (c :: cs) = .error ⟨kind, c :: cs⟩ := by
    rw [extend]
    split
    · next he =>
      rw [hread] at he
      cases he
    · next he =>
      rw [hread] at he
      cases he
      rw [hpush]
  rw [complete, hextend]

theorem complete_of_repeatLast_error {b : Branches} {groups : List OpenGroup} {bounds : Bounds}
    {greedy : Bool} (hread : Token.read c cs = .ok (.repetition bounds greedy, rest))
    (hrepeat : b.repeatLast bounds greedy = .error kind) :
    complete ⟨b, groups⟩ (c :: cs) = .error ⟨kind, c :: cs⟩ := by
  refine complete_of_push_error hread ?_
  rw [push, hrepeat]
  rfl

theorem repeatLast_eq_nothingToRepeat {b : Branches} {bounds : Bounds} {greedy : Bool}
    (h : ∀ p ∈ b.items.head?, ¬p.isRepeatable) :
    b.repeatLast bounds greedy = .error .nothingToRepeat := by
  obtain ⟨closed, items⟩ := b
  cases items with
  | nil => rfl
  | cons p items =>
    have hp := h p rfl
    cases p with
    | anchor | repetition => rfl
    | _ => exact absurd rfl hp

end Draft

namespace ByteReader

section Tracking

variable {α β : Type} {text cs rest : List Char} {x : ByteReader α} {f : α → ByteReader β} {a : α}
  {d : Draft} {k : Except Failure Pattern} {e : Failure}
  {After : α → Draft → List Char → Prop} {Behind : β → Draft → List Char → Prop}

/-- Where the outcome for the whole text is `k`, the reader comes upon its error, or it takes a part
of the text and leaves a draft with which the rest comes to the same outcome. -/
def Tracks (text : List Char) (x : ByteReader α) (cs : List Char) (k : Except Failure Pattern)
    (After : α → Draft → List Char → Prop) : Prop :=
  (∃ e, k = .error e ∧ Gives text x cs (.error e)) ∨
    ∃ a rest d, rest <:+ cs ∧ After a d rest ∧ k = d.complete rest ∧
      Gives text x cs (.ok (a, rest))

theorem tracks_pure (h : After a d cs) : Tracks text (pure a) cs (d.complete cs) After :=
  .inr ⟨a, cs, d, List.suffix_refl cs, h, rfl, gives_pure a⟩

theorem Gives.tracks_error (hx : Gives text x cs (.error e)) (hk : k = .error e) :
    Tracks text x cs k After :=
  .inl ⟨e, hk, hx⟩

theorem Tracks.bind (hx : Tracks text x cs k After)
    (hf : ∀ a d rest, rest <:+ cs → After a d rest →
      Tracks text (f a) rest (d.complete rest) Behind) :
    Tracks text (x >>= f) cs k Behind := by
  obtain ⟨e, hk, he⟩ | ⟨a, rest, d, hrest, hafter, rfl, ha⟩ := hx
  · exact .inl ⟨e, hk, he.bind_error⟩
  · obtain ⟨e, hk, he⟩ | ⟨b, tail, d', htail, hbehind, hk, hb⟩ := hf a d rest hrest hafter
    · exact .inl ⟨e, hk, ha.bind he⟩
    · exact .inr ⟨b, tail, d', htail.trans hrest, hbehind, hk, ha.bind hb⟩

theorem Gives.tracks_bind (hx : Gives text x cs (.ok (a, rest))) (hrest : rest <:+ cs)
    (hf : Tracks text (f a) rest k Behind) : Tracks text (x >>= f) cs k Behind := by
  obtain ⟨e, hk, he⟩ | ⟨b, tail, d, htail, hbehind, hk, hb⟩ := hf
  · exact .inl ⟨e, hk, hx.bind he⟩
  · exact .inr ⟨b, tail, d, htail.trans hrest, hbehind, hk, hx.bind hb⟩

theorem tracks_get_bind {f : ℕ → ByteReader β}
    (h : Tracks text (f (offsetOf text cs)) cs k Behind) :
    Tracks text (get >>= f) cs k Behind := h

end Tracking

section Descent

variable {text cs rest : List Char} {c : Char} {d : Draft} {closed taken : List Pattern}
  {groups : List OpenGroup} {fuel : ℕ} {p : Pattern}

def Settled (taken : List Pattern) (cs : List Char) : Prop :=
  ∀ p ∈ taken.head?, p.isRepeatable → ¬BeginsRepetition cs

theorem settled_nil (cs : List Char) : Settled [] cs := fun _ hp ↦ nomatch hp

theorem beginsRepetition_of_read {bounds : Bounds} {tail : List Char}
    (h : Token.read c cs = .ok (Token.readRepetition bounds tail)) :
    BeginsRepetition (c :: cs) := by
  obtain ⟨greedy, hgreedy⟩ := Token.readRepetition_fst bounds tail
  refine ⟨c, cs, bounds, greedy, (Token.readRepetition bounds tail).2, rfl, ?_⟩
  rw [h, ← hgreedy]

theorem complete_of_settled (h : Settled taken (c :: cs)) (hbegins : BeginsRepetition (c :: cs)) :
    Draft.complete ⟨⟨closed, taken⟩, groups⟩ (c :: cs) = .error ⟨.nothingToRepeat, c :: cs⟩ := by
  have hrefused : ∀ p ∈ taken.head?, ¬p.isRepeatable := fun p hp hr ↦ h p hp hr hbegins
  obtain ⟨d, tail, bounds, greedy, rest, he, hread⟩ := hbegins
  obtain ⟨rfl, rfl⟩ := List.cons.inj he
  exact Draft.complete_of_repeatLast_error hread (Draft.repeatLast_eq_nothingToRepeat hrefused)

def AddsItem (d : Draft) (cs : List Char) (p : Pattern) (d' : Draft) (rest : List Char) : Prop :=
  d' = d.add p ∧ rest.length < cs.length

def AddsAtom (d : Draft) (cs : List Char) (p : Pattern) (d' : Draft) (rest : List Char) : Prop :=
  AddsItem d cs p d' rest ∧ ∀ bounds greedy body, p ≠ .repetition bounds greedy body

theorem tracks_token {x : ByteReader Pattern} {r : Except Failure (Pattern × List Char)}
    (hread : Token.read c cs = r.map fun x ↦ (.item x.1, x.2)) (hx : Gives text x (c :: cs) r) :
    Tracks text x (c :: cs) (d.complete (c :: cs)) (AddsAtom d (c :: cs)) := by
  cases r with
  | error e => exact Gives.tracks_error hx (Draft.complete_of_read_error hread)
  | ok y =>
    obtain ⟨p, rest⟩ := y
    have hrest : rest <:+ cs := Token.isSuffix_of_read hread
    refine .inr ⟨p, rest, d.add p, hrest.trans (List.suffix_cons c cs), ⟨⟨rfl, ?_⟩, ?_⟩,
      Draft.complete_cons hread .item, hx⟩
    · exact Nat.lt_succ_of_le hrest.length_le
    · exact Token.ne_repetition_of_read hread

def Finishes (groups : List OpenGroup) (p : Pattern) (d : Draft) (rest : List Char) : Prop :=
  (∃ b : Branches, p = b.pattern ∧ d = ⟨b, groups⟩) ∧ (rest = [] ∨ ∃ tail, rest = ')' :: tail)

/-- What is inside a group is read where there is fuel enough for it. Between one group and the next
there are five calls at most, and the next one has fewer characters to read. -/
def Descends (text : List Char) (fuel : ℕ) : Prop :=
  ∀ tail : List Char, 5 * tail.length + 2 ≤ fuel → tail <:+ text → ∀ groups,
    Tracks text (disjunction text fuel) tail (Draft.complete ⟨.empty, groups⟩ tail)
      (Finishes groups)

theorem tracks_group (ih : Descends text fuel) (hfuel : 5 * cs.length + 2 ≤ fuel)
    (h : '(' :: cs <:+ text) :
    Tracks text (group text (fuel + 1)) ('(' :: cs) (d.complete ('(' :: cs))
      (AddsAtom d ('(' :: cs)) := by
  have hcs := (List.suffix_cons '(' cs).trans h
  obtain ⟨r, hread, hopening⟩ := gives_opening hcs
  rw [group]
  refine tracks_get_bind ((gives_advance h).tracks_bind (List.suffix_cons '(' cs) ?_)
  cases r with
  | error e => exact Gives.tracks_error hopening.bind_error (Draft.complete_of_read_error hread)
  | ok x =>
    obtain ⟨kind, rest⟩ := x
    have hrest : rest <:+ cs := Token.isSuffix_of_readOpening hread
    refine hopening.tracks_bind hrest ?_
    have hopen : Token.read '(' cs = .ok (.openGroup kind, rest) := hread
    rw [Draft.complete_cons hopen .openGroup]
    have hless : 5 * rest.length + 2 ≤ fuel := by
      have hle := hrest.length_le
      omega
    refine (ih rest hless (hrest.trans hcs) _).bind ?_
    rintro p d' tail htail ⟨⟨b, rfl, rfl⟩, rfl | ⟨behind, rfl⟩⟩
    · have hopened : Draft.complete ⟨b, ⟨kind, '(' :: cs, d.branches⟩ :: d.groups⟩ [] =
          .error ⟨.unclosedGroup, '(' :: cs⟩ := by
        rw [Draft.complete, Draft.extend]
        rfl
      exact Gives.tracks_error ((gives_expect_nil ')').bind (gives_throw rfl)) hopened
    · have hlength := htail.length_le.trans hrest.length_le
      have hclose : Token.read ')' behind = .ok (.closeGroup, behind) := rfl
      refine (gives_expect (htail.trans (hrest.trans hcs))).tracks_bind (List.suffix_cons _ _) ?_
      rw [Draft.complete_cons hclose .closeGroup]
      refine tracks_pure ⟨⟨rfl, ?_⟩, fun _ _ _ he ↦ ?_⟩
      · rw [List.length_cons] at hlength ⊢
        omega
      · cases he

theorem tracks_atom (ih : Descends text fuel) (hfuel : 5 * cs.length + 2 ≤ fuel)
    (h : c :: cs <:+ text) (hclose : c ≠ ')') (hbar : c ≠ '|')
    (hsettled : Settled taken (c :: cs)) :
    Tracks text (atom text (fuel + 2)) (c :: cs)
      (Draft.complete ⟨⟨closed, taken⟩, groups⟩ (c :: cs))
      (AddsAtom ⟨⟨closed, taken⟩, groups⟩ (c :: cs)) := by
  have hlone (p : Pattern) (hread : Token.read c cs = .ok (.item p, cs)) :
      Tracks text (advance text >>= fun _ ↦ pure p) (c :: cs)
        (Draft.complete ⟨⟨closed, taken⟩, groups⟩ (c :: cs))
        (AddsAtom ⟨⟨closed, taken⟩, groups⟩ (c :: cs)) :=
    have hr : Token.read c cs =
        (Except.ok (p, cs) : Except Failure _).map fun x ↦ (.item x.1, x.2) := hread
    tracks_token hr ((gives_advance h).bind (gives_pure p))
  have hnothing {bounds : Bounds} {tail : List Char}
      (hread : Token.read c cs = .ok (Token.readRepetition bounds tail)) :
      Tracks text (fail .nothingToRepeat) (c :: cs)
        (Draft.complete ⟨⟨closed, taken⟩, groups⟩ (c :: cs))
        (AddsAtom ⟨⟨closed, taken⟩, groups⟩ (c :: cs)) :=
    Gives.tracks_error (gives_fail rfl)
      (complete_of_settled hsettled (beginsRepetition_of_read hread))
  rw [atom]
  refine (gives_peek h).tracks_bind (List.suffix_refl _) ?_
  split
  case h_1 he =>
    cases he
    exact tracks_group ih hfuel h
  case h_2 he =>
    cases he
    have hbracket : cs.length < fuel + 1 := by omega
    exact tracks_token rfl (gives_bracket hbracket h)
  case h_3 he =>
    cases he
    obtain ⟨r, hread, hr⟩ := gives_itemEscape h
    exact tracks_token hread hr
  case h_4 he | h_5 he | h_6 he =>
    cases he
    exact hlone _ rfl
  case h_7 he | h_8 he | h_9 he =>
    cases he
    exact hnothing rfl
  case h_10 he =>
    cases he
    split
    · next hbrace =>
      subst hbrace
      refine (gives_isBounds h).tracks_bind (List.suffix_refl _) ?_
      cases hread : Bounds.read? cs with
      | none => exact hlone _ (by simp only [Token.read, hread])
      | some x =>
        have hbounds : Token.read '{' cs = .ok (Token.readRepetition x.1 x.2) := by
          simp only [Token.read, hread]
        exact hnothing hbounds
    · refine hlone _ ?_
      rw [Token.read] <;> assumption
  case h_11 he => cases he

theorem gives_reluctance (bounds : Bounds) (h : cs <:+ text) :
    ∃ reluctant rest, Token.readRepetition bounds cs = (.repetition bounds (!reluctant), rest) ∧
      rest <:+ cs ∧ Gives text (expect text '?') cs (.ok (reluctant, rest)) := by
  fun_cases Token.readRepetition bounds cs with
  | case1 rest => exact ⟨true, rest, rfl, List.suffix_cons _ _, gives_expect h⟩
  | case2 cs hne => exact ⟨false, cs, rfl, List.suffix_refl cs, gives_expect_of_ne h hne⟩

theorem repeatLast_eq_error {bounds : Bounds} (greedy : Bool) (hp : p.isRepeatable)
    (horder : ¬bounds.inOrder) :
    Branches.repeatLast ⟨closed, p :: taken⟩ bounds greedy = .error .boundsOutOfOrder := by
  cases p with
  | anchor | repetition => cases hp
  | _ => exact if_neg horder

theorem tracks_repeated {bounds : Bounds} {opened : List Char}
    (hp : ∀ bounds greedy body, p ≠ .repetition bounds greedy body)
    (hread : Token.read c cs = .ok (Token.readRepetition bounds rest)) (hrest : rest <:+ text)
    (hlength : rest.length < opened.length) :
    Tracks text (repeated text (offsetOf text (c :: cs)) bounds p) rest
      (Draft.complete ⟨⟨closed, p :: taken⟩, groups⟩ (c :: cs))
      fun q d' tail ↦ AddsItem ⟨⟨closed, taken⟩, groups⟩ opened q d' tail ∧
        Settled (q :: taken) tail := by
  obtain ⟨reluctant, tail, hmark, htail, hexpect⟩ := gives_reluctance bounds hrest
  rw [hmark] at hread
  by_cases hanchor : ∃ a, p = .anchor a
  · obtain ⟨a, rfl⟩ := hanchor
    exact Gives.tracks_error (gives_set_bind (gives_fail rfl))
      (Draft.complete_of_repeatLast_error hread rfl)
  rw [not_exists] at hanchor
  have hrepeatable : p.isRepeatable := by
    cases p with
    | anchor a => exact absurd rfl (hanchor a)
    | repetition bounds greedy body => exact absurd rfl (hp bounds greedy body)
    | _ => rfl
  rw [repeated]
  · by_cases horder : bounds.inOrder
    · rw [if_neg (by simp [horder])]
      refine hexpect.tracks_bind htail ?_
      rw [Draft.complete_cons hread (.repetition hrepeatable horder)]
      refine tracks_pure ⟨⟨rfl, htail.length_le.trans_lt hlength⟩, fun q hq hq' ↦ ?_⟩
      cases hq
      cases hq'
    · rw [if_pos (by simp [horder])]
      exact Gives.tracks_error (gives_set_bind (gives_fail rfl))
        (Draft.complete_of_repeatLast_error hread
          (repeatLast_eq_error (!reluctant) hrepeatable horder))
  · exact hanchor

theorem tracks_term (ih : Descends text fuel) (hfuel : 5 * cs.length + 2 ≤ fuel)
    (h : c :: cs <:+ text) (hclose : c ≠ ')') (hbar : c ≠ '|')
    (hsettled : Settled taken (c :: cs)) :
    Tracks text (term text (fuel + 3)) (c :: cs)
      (Draft.complete ⟨⟨closed, taken⟩, groups⟩ (c :: cs))
      fun p d' rest ↦ AddsItem ⟨⟨closed, taken⟩, groups⟩ (c :: cs) p d' rest ∧
        Settled (p :: taken) rest := by
  rw [term]
  refine (tracks_atom ih hfuel h hclose hbar hsettled).bind ?_
  rintro p d' rest hrest ⟨⟨rfl, hlength⟩, hp⟩
  have htext := hrest.trans h
  refine tracks_get_bind ?_
  obtain ⟨d, behind, bounds, tail, rfl, htail, hread, hquantifier⟩ | ⟨hnone, hquantifier⟩ :=
    gives_quantifier htext
  · have hrest := htail.trans (List.suffix_cons d behind)
    exact hquantifier.tracks_bind hrest
      (tracks_repeated hp hread (hrest.trans htext) (hrest.length_le.trans_lt hlength))
  · refine hquantifier.tracks_bind (List.suffix_refl rest) (tracks_pure ⟨⟨rfl, hlength⟩, ?_⟩)
    rintro q hq -
    exact hnone

def EndsBranch (closed : List Pattern) (groups : List OpenGroup) (p : Pattern) (d : Draft)
    (rest : List Char) : Prop :=
  (∃ ps : List Pattern, p = Pattern.ofItems ps.reverse ∧ d = ⟨⟨closed, ps⟩, groups⟩) ∧
    BehindBranch rest

theorem tracks_items (ih : ∀ k < fuel, Descends text k) (hfuel : 5 * cs.length + 1 ≤ fuel)
    (h : cs <:+ text) (hsettled : Settled taken cs) :
    Tracks text (items text fuel taken) cs (Draft.complete ⟨⟨closed, taken⟩, groups⟩ cs)
      (EndsBranch closed groups) := by
  induction fuel generalizing cs taken with
  | zero => exact absurd hfuel (Nat.not_succ_le_zero _)
  | succ fuel ihitems =>
    rw [items]
    refine (gives_peek h).tracks_bind (List.suffix_refl cs) ?_
    cases cs with
    | nil => exact tracks_pure ⟨⟨taken, rfl, rfl⟩, .textEnd⟩
    | cons c cs =>
      simp only [List.head?_cons]
      split
      · next hc =>
        refine tracks_pure ⟨⟨taken, rfl, rfl⟩, ?_⟩
        rcases hc with rfl | rfl
        · exact .close cs
        · exact .bar cs
      · next hc =>
        rw [not_or] at hc
        -- The character that an item takes at least pays for the calls down to the next group.
        obtain ⟨k, rfl, hk⟩ : ∃ k, fuel = k + 3 ∧ 5 * cs.length + 2 ≤ k := by
          rw [List.length_cons] at hfuel
          exact ⟨fuel - 3, by omega, by omega⟩
        refine (tracks_term (ih k (by omega)) hk h hc.1 hc.2 hsettled).bind ?_
        rintro p d' rest hrest ⟨⟨rfl, hlt⟩, hp⟩
        have hless : 5 * rest.length + 1 ≤ k + 3 := by
          rw [List.length_cons] at hlt
          omega
        exact ihitems (fun m hm ↦ ih m (hm.trans (Nat.lt_succ_self _))) hless (hrest.trans h) hp

theorem tracks_branches {b : Branches} (ih : ∀ k < fuel, Descends text k)
    (hfuel : 5 * cs.length + 1 ≤ fuel) (h : cs <:+ text) (hcs : BehindBranch cs) :
    Tracks text (branches text fuel b.closeBranch.closed) cs (Draft.complete ⟨b, groups⟩ cs)
      (Finishes groups) := by
  induction fuel generalizing cs b with
  | zero => exact absurd hfuel (Nat.not_succ_le_zero _)
  | succ fuel ihbranches =>
    have ih' (k : ℕ) (hk : k < fuel) : Descends text k := ih k (hk.trans (Nat.lt_succ_self _))
    rw [branches]
    cases hcs with
    | textEnd =>
      exact (gives_expect_nil '|').tracks_bind (List.suffix_refl _)
        (tracks_pure ⟨⟨b, rfl, rfl⟩, .inl rfl⟩)
    | close rest =>
      have hexpect : Gives text (expect text '|') (')' :: rest) (.ok (false, ')' :: rest)) :=
        gives_expect_of_ne h fun tail he ↦ absurd (List.cons.inj he).1 (by decide)
      exact hexpect.tracks_bind (List.suffix_refl _)
        (tracks_pure ⟨⟨b, rfl, rfl⟩, .inr ⟨rest, rfl⟩⟩)
    | bar rest =>
      have hbar : Token.read '|' rest = .ok (.bar, rest) := rfl
      have hrest := List.suffix_cons '|' rest
      have hless : 5 * rest.length + 1 ≤ fuel := by
        rw [List.length_cons] at hfuel
        omega
      refine (gives_expect h).tracks_bind hrest ?_
      rw [Draft.complete_cons hbar .bar]
      refine (tracks_items ih' hless (hrest.trans h) (settled_nil rest)).bind ?_
      rintro p d tail htail ⟨⟨ps, rfl, rfl⟩, hend⟩
      have hless' : 5 * tail.length + 1 ≤ fuel := by
        have hle := htail.length_le
        omega
      exact ihbranches ih' hless' (htail.trans (hrest.trans h)) hend

theorem descends_succ (ih : ∀ k < fuel, Descends text k) : Descends text (fuel + 1) := by
  intro cs hfuel h groups
  have hless := Nat.le_of_succ_le_succ hfuel
  rw [disjunction]
  refine (tracks_items ih hless h (settled_nil cs)).bind ?_
  rintro p d rest hrest ⟨⟨ps, rfl, rfl⟩, hend⟩
  have hle := hrest.length_le
  exact tracks_branches ih (by omega) (hrest.trans h) hend

theorem descends (text : List Char) (fuel : ℕ) : Descends text fuel := by
  induction fuel using Nat.strong_induction_on with
  | _ fuel ih =>
    cases fuel with
    | zero => exact fun _ hfuel ↦ absurd hfuel (Nat.not_succ_le_zero _)
    | succ fuel => exact descends_succ fun k hk ↦ ih k (hk.trans (Nat.lt_succ_self _))

theorem gives_pattern (hfuel : 5 * cs.length + 2 ≤ fuel) (h : cs <:+ text) :
    Gives text (pattern text fuel) cs ((Pattern.read cs).map (·, [])) := by
  have hread : Pattern.read cs = Draft.complete ⟨.empty, []⟩ cs := rfl
  obtain ⟨e, hk, he⟩ | ⟨p, rest, d, hrest, ⟨⟨b, rfl, rfl⟩, rfl | ⟨tail, rfl⟩⟩, hk, hp⟩ :=
    descends text fuel cs hfuel h []
  · rw [hread, hk]
    exact he.bind_error
  · rw [hread, hk, Draft.complete, Draft.extend]
    exact hp.bind ((gives_peek List.nil_suffix).bind (gives_pure _))
  · have hclose : Token.read ')' tail = .ok (.closeGroup, tail) := rfl
    rw [hread, hk, Draft.complete_of_push_error hclose rfl]
    exact hp.bind ((gives_peek (hrest.trans h)).bind (gives_fail rfl))

end Descent

section Calls

variable {text : String} {cs : List Char}

theorem exists_pos_of_isSuffix (h : cs <:+ text.toList) :
    ∃ p : text.Pos, p.offset.byteIdx = offsetOf text.toList cs := by
  obtain ⟨front, hfront⟩ := h
  have htext : text = String.ofList front ++ String.ofList cs := by
    rw [← String.ofList_append, hfront, String.ofList_toList]
  have hvalid := String.Pos.Raw.isValid_iff_exists_append.2 ⟨_, _, htext, rfl⟩
  refine ⟨⟨_, hvalid⟩, ?_⟩
  rw [← hfront, offsetOf_append]
  change (String.ofList front).utf8ByteSize = byteLength front
  rw [← byteLength_toList, String.toList_ofList]

theorem exists_isSuffix_of_pos (p : text.Pos) :
    ∃ cs, cs <:+ text.toList ∧ p.offset.byteIdx = offsetOf text.toList cs := by
  have hsplits := p.splits
  generalize (text.sliceTo p).copy = front at hsplits
  generalize (text.sliceFrom p).copy = tail at hsplits
  have htext : text.toList = front.toList ++ tail.toList := by
    rw [← String.toList_append, ← hsplits.eq_append]
  refine ⟨tail.toList, ⟨front.toList, htext.symm⟩, ?_⟩
  rw [htext, offsetOf_append, byteLength_toList, hsplits.offset_eq_rawEndPos]
  rfl

def enough (text : String) : ℕ := 5 * text.toList.length + 2

theorem enough_of_isSuffix {fuel : ℕ} (hfuel : enough text ≤ fuel) (h : cs <:+ text.toList) :
    5 * cs.length + 2 ≤ fuel := by
  have hle := h.length_le
  rw [enough] at hfuel
  omega

/-- With fuel enough there is an answer from a place on just when the other reader has one, and it
is the same. -/
theorem pattern_eq_parseFrom {fuel : ℕ} (hfuel : enough text ≤ fuel) (pos : ℕ) :
    pattern text.toList fuel pos = Pattern.parseFrom text pos := by
  cases hdrop : dropBytes pos text.toList with
  | none =>
    have hrest : ByteReader.rest text.toList pos = none := by
      change (dropBytes pos text.toList).map _ = none
      rw [hdrop]
      rfl
    have hpeek : peek text.toList pos = none := by
      rw [peek, bind_apply, hrest]
      rfl
    have hitems (k : ℕ) : items text.toList k [] pos = none := by
      cases k with
      | zero => rfl
      | succ k =>
        rw [items, bind_apply, hpeek]
        rfl
    have hdisjunction : disjunction text.toList fuel pos = none := by
      cases fuel with
      | zero => rfl
      | succ fuel =>
        rw [disjunction, bind_apply, hitems]
        rfl
    rw [pattern, bind_apply, hdisjunction, Pattern.parseFrom, hdrop]
    rfl
  | some cs =>
    obtain ⟨front, htext, rfl⟩ := exists_append_of_dropBytes hdrop
    have hcs : cs <:+ text.toList := ⟨front, htext.symm⟩
    have hgives := gives_pattern (enough_of_isSuffix hfuel hcs) hcs
    rw [Gives, htext, offsetOf_append, ← htext] at hgives
    rw [hgives, Pattern.parseFrom, hdrop]
    cases hread : Pattern.read cs with
    | ok p => simp [hread, outcome, Except.map, offsetOf_nil]
    | error e => simp [hread, outcome, Except.map, offsetOf]

theorem exists_call (before : text.Pos) :
    ∃ (after : text.Pos) (r : Except ParseError Pattern),
      (∀ fuel ≥ enough text, pattern text.toList fuel before.offset.byteIdx =
        some (r, after.offset.byteIdx)) ∧
      before ≤ after ∧ (∀ p, r = .ok p → after = text.endPos) ∧
      ∀ e, r = .error e → ∃ fault : text.Pos, fault.offset.byteIdx = e.offset ∧ before ≤ fault := by
  obtain ⟨cs, hcs, hbefore⟩ := exists_isSuffix_of_pos before
  have hgives (fuel : ℕ) (hfuel : fuel ≥ enough text) :
      pattern text.toList fuel before.offset.byteIdx =
        outcome text.toList ((Pattern.read cs).map (·, [])) := by
    rw [hbefore]
    exact gives_pattern (enough_of_isSuffix hfuel hcs) hcs
  have hle {rest : List Char} {p : text.Pos} (hrest : rest <:+ cs)
      (hp : p.offset.byteIdx = offsetOf text.toList rest) : before ≤ p := by
    rw [String.Pos.le_iff, String.Pos.Raw.le_iff, hbefore, hp]
    exact offsetOf_le_offsetOf hrest _
  cases hread : Pattern.read cs with
  | ok p =>
    have hend : text.endPos.offset.byteIdx = offsetOf text.toList [] := by
      rw [offsetOf_nil, byteLength_toList]
      rfl
    refine ⟨text.endPos, .ok p, fun fuel hfuel ↦ ?_, hle List.nil_suffix hend, fun _ _ ↦ rfl,
      fun e he ↦ nomatch he⟩
    rw [hgives fuel hfuel, hread, hend]
    rfl
  | error e =>
    have hplace := Pattern.place_isSuffix_of_read hread
    have hrest := Failure.isSuffix_rest hplace
    obtain ⟨after, hafter⟩ := exists_pos_of_isSuffix (hrest.trans hcs)
    obtain ⟨fault, hfault⟩ := exists_pos_of_isSuffix (hplace.trans hcs)
    refine ⟨after, .error (e.located text.toList), fun fuel hfuel ↦ ?_, hle hrest hafter, ?_, ?_⟩
    · rw [hgives fuel hfuel, hread, hafter]
      rfl
    · rintro p ⟨⟩
    · rintro e' ⟨⟩
      exact ⟨fault, hfault, hle hplace hfault⟩

def standsAfter (text : List Char) (fuel start : ℕ) : ℕ → Option ℕ
  | 0 => some start
  | k + 1 => (standsAfter text fuel start k).bind fun pos ↦ (pattern text fuel pos).map Prod.snd

theorem exists_standsAfter (start : text.Pos) (k : ℕ) :
    ∃ before : text.Pos, start ≤ before ∧ ∀ fuel ≥ enough text,
      standsAfter text.toList fuel start.offset.byteIdx k = some before.offset.byteIdx := by
  induction k with
  | zero => exact ⟨start, String.Pos.le_refl start, fun _ _ ↦ rfl⟩
  | succ k ih =>
    obtain ⟨before, hle, hbefore⟩ := ih
    obtain ⟨after, r, hcall, hle', -, -⟩ := exists_call before
    refine ⟨after, String.Pos.le_trans hle hle', fun fuel hfuel ↦ ?_⟩
    rw [standsAfter, hbefore fuel hfuel, Option.bind_some, hcall fuel hfuel]
    rfl

/-- However often the reader is called on a text, from a character boundary on and each time from
where the last call stopped: it comes to an end, takes no slice that is out of range or cuts through
a character, and stops at a boundary that is not before the one where it began. When a pattern is
read that is the end of the text, and an error is at a boundary that is not before the start of its
call. What a call answers is what is read from there on. -/
theorem exists_calls (text : String) :
    ∃ least, ∀ (start : text.Pos) (k : ℕ),
      ∃ (before after : text.Pos) (r : Except ParseError Pattern),
        (∀ fuel ≥ least,
          standsAfter text.toList fuel start.offset.byteIdx k = some before.offset.byteIdx ∧
            pattern text.toList fuel before.offset.byteIdx = some (r, after.offset.byteIdx)) ∧
        Pattern.parseFrom text before.offset.byteIdx = some (r, after.offset.byteIdx) ∧
        start ≤ before ∧ before ≤ after ∧ (∀ p, r = .ok p → after = text.endPos) ∧
        ∀ e, r = .error e →
          ∃ fault : text.Pos, fault.offset.byteIdx = e.offset ∧ before ≤ fault := by
  refine ⟨enough text, fun start k ↦ ?_⟩
  obtain ⟨before, hle, hbefore⟩ := exists_standsAfter start k
  obtain ⟨after, r, hcall, hcalled⟩ := exists_call before
  have hparse := (pattern_eq_parseFrom (Nat.le_refl (enough text)) before.offset.byteIdx).symm
  exact ⟨before, after, r, fun fuel hfuel ↦ ⟨hbefore fuel hfuel, hcall fuel hfuel⟩,
    hparse.trans (hcall _ (Nat.le_refl _)), hle, hcalled⟩

end Calls

end ByteReader

namespace Pattern

/-- Reading from a character boundary on gives what the text behind it gives by itself, with all
places shifted, and a text that is read is read to its end. That holds of the reader that keeps its
place in bytes as well. -/
theorem parseFrom_offset (text : String) (p : text.Pos) :
    ∃ stop ≤ (text.sliceFrom p).copy.utf8ByteSize,
      parseFrom (text.sliceFrom p).copy 0 = some (parse (text.sliceFrom p).copy, stop) ∧
      parseFrom text p.offset.byteIdx =
        some ((parse (text.sliceFrom p).copy).mapError (·.shift p.offset.byteIdx),
          p.offset.byteIdx + stop) ∧
      (∃ least, ∀ fuel ≥ least,
        ByteReader.pattern (text.sliceFrom p).copy.toList fuel 0 =
          some (parse (text.sliceFrom p).copy, stop) ∧
        ByteReader.pattern text.toList fuel p.offset.byteIdx =
          some ((parse (text.sliceFrom p).copy).mapError (·.shift p.offset.byteIdx),
            p.offset.byteIdx + stop)) ∧
      ∀ t, parse (text.sliceFrom p).copy = .ok t → p.offset.byteIdx + stop = text.utf8ByteSize := by
  have hsplits := p.splits
  generalize (text.sliceTo p).copy = front at hsplits
  generalize (text.sliceFrom p).copy = tail at hsplits
  have htext := hsplits.eq_append
  have hoffset : p.offset.byteIdx = front.utf8ByteSize := by rw [hsplits.offset_eq_rawEndPos]; rfl
  have hshifted : parseFrom text p.offset.byteIdx =
      some ((parse tail).mapError (·.shift p.offset.byteIdx),
        p.offset.byteIdx + readLength tail.toList) := by
    rw [hoffset, ← parseFrom_append, ← htext]
  refine ⟨readLength tail.toList, ?_, parseFrom_zero tail, hshifted, ?_, fun t ht ↦ ?_⟩
  · rw [← byteLength_toList]
    exact readLength_le _
  · refine ⟨max (ByteReader.enough tail) (ByteReader.enough text), fun fuel hfuel ↦ ⟨?_, ?_⟩⟩
    · rw [ByteReader.pattern_eq_parseFrom (by omega), parseFrom_zero]
    · rw [ByteReader.pattern_eq_parseFrom (by omega), hshifted]
  · rw [readLength_of_parse ht, byteLength_toList, hoffset, htext, String.utf8ByteSize_append]

example : parseFrom "é|(a" 3 = some (.error ⟨.unclosedGroup, 3⟩, 5) := by cbv

end Pattern

end RegexWords
