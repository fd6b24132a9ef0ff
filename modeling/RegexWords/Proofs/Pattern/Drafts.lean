import RegexWords.Proofs.Pattern.Spelling

namespace RegexWords

namespace Token

theorem readOpening_ne_item {cs rest : List Char} {p : Pattern} :
    readOpening cs ≠ .ok (.item p, rest) := by
  intro h
  unfold readOpening at h
  split at h
  case h_6 =>
    obtain ⟨r, -, he⟩ := Failure.exists_of_map_ok h
    cases he
  all_goals cases h

theorem readEscape_ne_bracket {cs rest : List Char} {ms : List Pattern} {negated : Bool}
    {text : String} : readEscape cs ≠ .ok (.item (.bracket ms negated text), rest) := by
  have hcharacter {cs rest : List Char} :
      readEscape.readCharacter cs ≠ .ok (.item (.bracket ms negated text), rest) := by
    intro h
    unfold readEscape.readCharacter at h
    split at h
    · next e _ _ => cases e <;> cases h
    · cases h
  intro h
  unfold readEscape at h
  split at h
  · cases h
  · cases h
  · split at h
    · split at h
      · cases h
      · exact hcharacter h
    · exact hcharacter h

theorem readRepetition_ne_item {b : Bounds} {cs rest : List Char} {p : Pattern} :
    (.ok (readRepetition b cs) : Except Failure _) ≠ .ok (.item p, rest) := by
  intro h
  unfold readRepetition at h
  split at h <;> cases h

theorem eq_bracket_of_read {c : Char} {cs rest : List Char} {ms : List Pattern} {negated : Bool}
    {text : String} (h : read c cs = .ok (.item (.bracket ms negated text), rest)) :
    c = '[' ∧ Bracket.read cs = .ok (.bracket ms negated text, rest) := by
  unfold read at h
  split at h
  case h_3 => exact absurd h readOpening_ne_item
  case h_4 =>
    obtain ⟨⟨p, tail⟩, hr, he⟩ := Failure.exists_of_map_ok h
    cases he
    exact ⟨rfl, hr⟩
  case h_5 => exact absurd h readEscape_ne_bracket
  case h_9 | h_10 | h_11 => exact absurd h readRepetition_ne_item
  case h_12 =>
    split at h
    · exact absurd h readRepetition_ne_item
    · cases h
  all_goals cases h

end Token

namespace Pattern

def isRepeatable : Pattern → Bool
  | .anchor _ | .repetition _ _ _ => false
  | _ => true

theorem eq_singleton_of_ofItems {ps : List Pattern} {p : Pattern} (hp : ∀ qs, p ≠ .sequence qs)
    (h : ofItems ps = p) : ps = [p] := by
  unfold ofItems at h
  split at h
  · rw [h]
  · exact absurd h.symm (hp _)

theorem eq_singleton_of_ofBranches {ps : List Pattern} {p : Pattern} (hp : ∀ qs, p ≠ .choice qs)
    (h : ofBranches ps = p) : ps = [p] := by
  unfold ofBranches at h
  split at h
  · rw [h]
  · exact absurd h.symm (hp _)

end Pattern

namespace Draft

def add (d : Draft) (p : Pattern) : Draft := { d with branches := d.branches.push p }

inductive Pushes (place : List Char) : Draft → Token → Draft → Prop
  | item {d : Draft} {p : Pattern} : Pushes place d (.item p) (d.add p)
  | repetition {closed items : List Pattern} {groups : List OpenGroup} {p : Pattern}
      {bounds : Bounds} {greedy : Bool} :
      p.isRepeatable → bounds.inOrder →
      Pushes place ⟨⟨closed, p :: items⟩, groups⟩ (.repetition bounds greedy)
        ⟨⟨closed, .repetition bounds greedy p :: items⟩, groups⟩
  | bar {b : Branches} {groups : List OpenGroup} :
      Pushes place ⟨b, groups⟩ .bar ⟨b.closeBranch, groups⟩
  | openGroup {b : Branches} {groups : List OpenGroup} {kind : GroupKind} :
      Pushes place ⟨b, groups⟩ (.openGroup kind) ⟨.empty, ⟨kind, place, b⟩ :: groups⟩
  | closeGroup {b : Branches} {g : OpenGroup} {groups : List OpenGroup} :
      Pushes place ⟨b, g :: groups⟩ .closeGroup
        ⟨g.around.push (.group g.kind b.pattern.items), groups⟩

variable {d d' : Draft} {place cs : List Char} {t : Token}

theorem repeatLast_eq_ok {closed items : List Pattern} {p : Pattern} {bounds : Bounds}
    {greedy : Bool} (hp : p.isRepeatable) (hb : bounds.inOrder) :
    Branches.repeatLast ⟨closed, p :: items⟩ bounds greedy =
      .ok ⟨closed, .repetition bounds greedy p :: items⟩ := by
  cases p with
  | anchor | repetition => cases hp
  | _ => exact if_pos hb

theorem push_eq_ok (h : Pushes place d t d') : d.push place t = .ok d' := by
  cases h with
  | item => rfl
  | repetition hp hb => simp only [push, repeatLast_eq_ok hp hb]; rfl
  | bar => rfl
  | openGroup => rfl
  | closeGroup => rfl

theorem exists_of_repeatLast {b b' : Branches} {bounds : Bounds} {greedy : Bool}
    (h : b.repeatLast bounds greedy = .ok b') :
    ∃ p items, b.items = p :: items ∧ p.isRepeatable ∧ bounds.inOrder ∧
      b' = ⟨b.closed, .repetition bounds greedy p :: items⟩ := by
  unfold Branches.repeatLast at h
  split at h
  case h_4 p items hanchor hrepetition hitems =>
    split at h
    · next hb =>
      cases h
      refine ⟨p, items, hitems, ?_, hb, rfl⟩
      cases p with
      | anchor a => exact (hanchor a rfl).elim
      | repetition bounds greedy body => exact (hrepetition bounds greedy body rfl).elim
      | _ => rfl
    · cases h
  all_goals cases h

theorem pushes_of_push (h : d.push place t = .ok d') : Pushes place d t d' := by
  obtain ⟨⟨closed, items⟩, groups⟩ := d
  cases t with
  | item p =>
    cases h
    exact .item
  | repetition bounds greedy =>
    simp only [push] at h
    cases hr : Branches.repeatLast ⟨closed, items⟩ bounds greedy with
    | error kind =>
      rw [hr] at h
      cases h
    | ok b =>
      rw [hr] at h
      cases h
      obtain ⟨p, items, rfl, hp, hb, rfl⟩ := exists_of_repeatLast hr
      exact .repetition hp hb
  | bar =>
    cases h
    exact .bar
  | openGroup kind =>
    cases h
    exact .openGroup
  | closeGroup =>
    cases groups with
    | nil => cases h
    | cons g groups =>
      cases h
      exact .closeGroup

theorem extend_cons {c : Char} {rest : List Char} (hread : Token.read c cs = .ok (t, rest))
    (hpush : Pushes (c :: cs) d t d') : d.extend (c :: cs) = d'.extend rest := by
  rw [extend]
  split
  · next e he =>
    rw [hread] at he
    cases he
  · next u rest' hu =>
    rw [hread] at hu
    cases hu
    rw [push_eq_ok hpush]

theorem extend_append {text rest : List Char} (hread : t.Reads text rest)
    (hpush : Pushes (text ++ rest) d t d') : d.extend (text ++ rest) = d'.extend rest := by
  obtain ⟨c, cs, rfl, hread⟩ := hread
  exact extend_cons hread hpush

theorem extend_bar (b : Branches) (groups : List OpenGroup) (rest : List Char) :
    (⟨b, groups⟩ : Draft).extend ('|' :: rest) = (⟨b.closeBranch, groups⟩ : Draft).extend rest :=
  have hread : Token.bar.Reads ['|'] rest := ⟨'|', [], rfl, rfl⟩
  extend_append hread .bar

theorem extend_close (b : Branches) (g : OpenGroup) (groups : List OpenGroup) (rest : List Char) :
    (⟨b, g :: groups⟩ : Draft).extend (')' :: rest) =
      (⟨g.around.push (.group g.kind b.pattern.items), groups⟩ : Draft).extend rest :=
  have hread : Token.closeGroup.Reads [')'] rest := ⟨')', [], rfl, rfl⟩
  extend_append hread .closeGroup

def lone (p : Pattern) : Draft := ⟨⟨[], [p]⟩, []⟩

theorem Pushes.ne_empty (h : Pushes place d t d') : d' ≠ empty := by
  intro he
  cases h <;>
    simp [empty, Branches.empty, add, Branches.push, Branches.closeBranch] at he

theorem Pushes.eq_empty_of_lone {ms : List Pattern} {negated : Bool} {text : String}
    (h : Pushes place d t (lone (.bracket ms negated text))) :
    d = empty ∧ t = .item (.bracket ms negated text) := by
  generalize hd : lone (.bracket ms negated text) = e at h
  cases h with
  | @item d p =>
    obtain ⟨⟨closed, items⟩, groups⟩ := d
    simp only [lone, add, Branches.push, Draft.mk.injEq, Branches.mk.injEq, List.cons.injEq] at hd
    obtain ⟨⟨rfl, rfl, rfl⟩, rfl⟩ := hd
    exact ⟨rfl, rfl⟩
  | _ => simp [lone, Branches.push, Branches.closeBranch] at hd

theorem eq_bracket_of_extend {ms : List Pattern} {negated : Bool} {text : String}
    (h : d.extend cs = .ok (lone (.bracket ms negated text))) :
    (d = lone (.bracket ms negated text) ∧ cs = []) ∨
      d = empty ∧ ∃ body, cs = '[' :: body ∧
        Bracket.read body = .ok (.bracket ms negated text, []) := by
  fun_induction extend d cs with
  | case1 d =>
    cases h
    exact .inl ⟨rfl, rfl⟩
  | case2 => cases h
  | case3 => cases h
  | case4 d c cs token rest hread _ d' hpush ih =>
    obtain ⟨rfl, rfl⟩ | ⟨rfl, -⟩ := ih h
    · obtain ⟨rfl, rfl⟩ := (pushes_of_push hpush).eq_empty_of_lone
      obtain ⟨rfl, hbody⟩ := Token.eq_bracket_of_read hread
      exact .inr ⟨rfl, cs, rfl, hbody⟩
    · exact absurd rfl (pushes_of_push hpush).ne_empty

theorem eq_lone_of_finish {p : Pattern} (hs : ∀ ps, p ≠ .sequence ps) (hc : ∀ ps, p ≠ .choice ps)
    (h : d.finish = .ok p) : d = lone p := by
  obtain ⟨⟨closed, items⟩, groups⟩ := d
  cases groups with
  | cons g groups => cases h
  | nil =>
    have hbranches := Pattern.eq_singleton_of_ofBranches hc (Except.ok.inj h)
    rw [List.reverse_eq_iff, List.reverse_singleton, Branches.closeBranch,
      List.cons.injEq] at hbranches
    obtain ⟨hitems, rfl⟩ := hbranches
    have hitems := Pattern.eq_singleton_of_ofItems hs hitems
    rw [List.reverse_eq_iff, List.reverse_singleton] at hitems
    exact congrArg (fun items ↦ (⟨⟨[], items⟩, []⟩ : Draft)) hitems

end Draft

namespace Pattern

theorem parse_eq_ok_iff {text : String} {p : Pattern} :
    parse text = .ok p ↔ read text.toList = .ok p := by
  rw [parse]
  cases read text.toList <;> simp [Except.mapError]

theorem exists_of_read_eq_bracket {cs : List Char} {ms : List Pattern} {negated : Bool}
    {text : String}
    (h : read cs = .ok (.bracket ms negated text)) :
    ∃ body, cs = '[' :: body ∧ Bracket.read body = .ok (.bracket ms negated text, []) := by
  unfold read at h
  split at h
  · cases h
  · next d hd =>
    obtain rfl := Draft.eq_lone_of_finish (by simp) (by simp) h
    obtain ⟨he, -⟩ | ⟨-, hbody⟩ := Draft.eq_bracket_of_extend hd
    · cases he
    · exact hbody

end Pattern

end RegexWords
