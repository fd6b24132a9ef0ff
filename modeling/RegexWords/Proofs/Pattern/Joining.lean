import RegexWords.Proofs.Pattern.BranchText
import RegexWords.Proofs.Pattern.ParsedForm

namespace RegexWords

open Text

namespace Token

variable {rest name : List Char}

theorem readRepetition_fst (b : Bounds) (cs : List Char) :
    ∃ greedy, (readRepetition b cs).1 = .repetition b greedy := by
  unfold readRepetition
  split
  · exact ⟨false, rfl⟩
  · exact ⟨true, rfl⟩

/-- A name of one character or more, none of which ends it. It begins with no digit. -/
structure IsGroupName (name : List Char) : Prop where
  ne_nil : name ≠ []
  head : ∀ c ∈ name.head?, c.isDigit = false
  characters : ∀ c ∈ name, isNameCharacter c

theorem readName_append_close (h : IsGroupName name) :
    readName (name ++ '>' :: rest) = .ok rest := by
  obtain ⟨c, name, rfl⟩ := List.exists_cons_of_ne_nil h.ne_nil
  have hdrop : (c :: name ++ '>' :: rest).dropWhile isNameCharacter = '>' :: rest :=
    dropWhile_append_cons h.characters (by decide) rest
  have hfirst : ¬(c.isDigit || !isNameCharacter c) := by
    simp [h.head c rfl, h.characters c List.mem_cons_self]
  rw [List.cons_append] at hdrop ⊢
  simp only [readName, if_neg hfirst, hdrop]

theorem reads_named (h : IsGroupName name) :
    Reads ('(' :: '?' :: '<' :: (name ++ ['>'])) (.openGroup .capturing) rest := by
  refine ⟨'(', _, rfl, ?_⟩
  have hread : readName (name ++ ['>'] ++ rest) = .ok rest := by
    rw [List.append_assoc, List.singleton_append, readName_append_close h]
  have hne {c : Char} (hc : isNameCharacter c = false) (tail : List Char) :
      name ++ ['>'] ++ rest ≠ c :: tail := by
    intro he
    obtain ⟨d, name, rfl⟩ := List.exists_cons_of_ne_nil h.ne_nil
    obtain ⟨rfl, -⟩ := List.cons.inj he
    exact absurd (h.characters d List.mem_cons_self) (by simp [hc])
  rw [List.cons_append, List.cons_append, read, readOpening, hread]
  · rfl
  · exact hne (by decide)
  · exact hne (by decide)

end Token

def Branches.behind (b : Branches) (closed : List Pattern) : Branches :=
  ⟨b.closed ++ closed, b.items⟩

namespace Draft

def within (closed : List Pattern) (outer : List OpenGroup) (after : List Char) :
    Branches → List OpenGroup → Draft
  | b, [] => ⟨b.behind closed, outer⟩
  | b, g :: groups =>
    ⟨b, ⟨g.kind, g.place ++ after, (within closed outer after g.around groups).branches⟩ ::
      (within closed outer after g.around groups).groups⟩

/-- A draft as a part of a longer one. -/
def embed (closed : List Pattern) (outer : List OpenGroup) (after : List Char)
    (d : Draft) : Draft :=
  within closed outer after d.branches d.groups

variable {closed : List Pattern} {outer : List OpenGroup} {after place cs : List Char}
  {d d' : Draft} {t : Token}

theorem embed_push (b : Branches) (groups : List OpenGroup) (p : Pattern) :
    embed closed outer after ⟨b.push p, groups⟩ = (embed closed outer after ⟨b, groups⟩).add p := by
  cases groups <;> rfl

theorem Pushes.embed (h : Pushes place d t d') :
    Pushes (place ++ after) (d.embed closed outer after) t (d'.embed closed outer after) := by
  cases h with
  | @item d p =>
    rw [add, embed_push d.branches d.groups p]
    exact .item
  | @repetition _ _ groups _ _ _ hp hb => cases groups <;> exact .repetition hp hb
  | @bar b groups => cases groups <;> exact .bar
  | openGroup => exact .openGroup
  | @closeGroup b g groups =>
    rw [embed_push]
    exact .closeGroup

/-- A text that can be read by itself is read in the same way as a part of a longer text. -/
theorem extend_embed (closed : List Pattern) (outer : List OpenGroup) (h : d.extend cs = .ok d')
    (hafter : BehindBranch after) :
    (d.embed closed outer after).extend (cs ++ after) =
      (d'.embed closed outer after).extend after := by
  fun_induction Draft.extend d cs with
  | case1 =>
    cases h
    rfl
  | case2 => cases h
  | case3 => cases h
  | case4 d c cs t rest hread _ e hpush ih =>
    have hpushes := pushes_of_push hpush
    rw [List.cons_append, extend_cons (Token.read_append hread hafter) hpushes.embed, ih h]

theorem extend_behind {b : Branches} (closed : List Pattern) (outer : List OpenGroup)
    (h : empty.extend cs = .ok ⟨b, []⟩) (hafter : BehindBranch after) :
    (⟨⟨closed, []⟩, outer⟩ : Draft).extend (cs ++ after) =
      (⟨b.behind closed, outer⟩ : Draft).extend after :=
  extend_embed closed outer h hafter

/-- There is nothing at the start of a text that a question mark could repeat. -/
theorem extend_empty_ne_ok : empty.extend ('?' :: cs) ≠ .ok d := by
  intro h
  rw [extend] at h
  split at h
  · cases h
  · next hread =>
    obtain ⟨greedy, htoken⟩ := Token.readRepetition_fst ⟨0, some 1⟩ cs
    rw [Except.ok.inj hread] at htoken
    cases htoken
    cases h

end Draft

namespace Pattern

variable {cs ds : List Char} {t u p : Pattern}

def branches : Pattern → List Pattern
  | choice ps => ps
  | p => [p]

theorem Canonical.branches_eq (h : Canonical .branch p) : p.branches = [p] := by
  cases h with
  | sequence => rfl
  | single h => cases h <;> rfl

theorem branches_ofBranches {ps : List Pattern} (h : ∀ p ∈ ps, Canonical .branch p) :
    (ofBranches ps).branches = ps := by
  fun_cases ofBranches ps with
  | case1 p => exact (h p List.mem_cons_self).branches_eq
  | case2 => rfl

theorem exists_branches_of_read (h : read cs = .ok t) :
    ∃ b : Branches, Draft.empty.extend cs = .ok ⟨b, []⟩ ∧ b.pattern = t ∧
      t.branches = b.closeBranch.closed.reverse := by
  have hempty : Draft.empty.ReadFrom cs := ⟨.empty, List.forall_mem_nil _⟩
  unfold read at h
  split at h
  · cases h
  · next d hd =>
    have hread := hempty.extend (List.infix_refl cs) hd
    obtain ⟨b, groups⟩ := d
    cases groups with
    | cons g groups => cases h
    | nil =>
      cases h
      refine ⟨b, hd, rfl, branches_ofBranches fun p hp ↦ ?_⟩
      exact (hread.branches.closeBranch.closed p (List.mem_reverse.1 hp)).1

theorem read_bar (hcs : read cs = .ok t) (hds : read ds = .ok u) :
    read (cs ++ '|' :: ds) = .ok (.choice (t.branches ++ u.branches)) := by
  obtain ⟨b, hb, -, ht⟩ := exists_branches_of_read hcs
  obtain ⟨b', hb', -, hu⟩ := exists_branches_of_read hds
  have hfirst : Draft.empty.extend (cs ++ '|' :: ds) =
      (⟨⟨b.closeBranch.closed, []⟩, []⟩ : Draft).extend (ds ++ []) := by
    rw [Draft.empty, Branches.empty, Draft.extend_behind [] [] hb (.bar ds), Draft.extend_bar,
      Branches.behind, List.append_nil, List.append_nil]
    rfl
  have hclosed : (b'.behind b.closeBranch.closed).closeBranch.closed.reverse =
      t.branches ++ u.branches := by
    rw [ht, hu, ← List.reverse_append]
    rfl
  have hlength : (t.branches ++ u.branches).length ≠ 1 := by
    rw [ht, hu]
    simp [Branches.closeBranch]
    omega
  rw [read, hfirst, Draft.extend_behind _ _ hb' .textEnd, Draft.extend]
  rw [← ofBranches_eq_choice hlength, ← hclosed]
  rfl

theorem quiet_of_read (h : read cs = .ok t) : Token.Quiet cs := by
  rintro tail rfl
  unfold read at h
  split at h
  · cases h
  · next hd => exact Draft.extend_empty_ne_ok hd

theorem read_group {opening : List Char} {kind : GroupKind} (hcs : read cs = .ok t)
    (hopening : Token.Reads opening (.openGroup kind) (cs ++ [')'])) :
    read (opening ++ (cs ++ [')'])) = .ok (.group kind t.items) := by
  obtain ⟨b, hb, ht, -⟩ := exists_branches_of_read hcs
  have hbehind : b.behind [] = b := by rw [Branches.behind, List.append_nil]
  rw [read, Draft.extend_append hopening .openGroup, Branches.empty,
    Draft.extend_behind [] _ hb (.close []), Draft.extend_close, hbehind, ht, Draft.extend]
  rfl

/-- Two patterns that can be read can be read with a bar between them, and one of them as the body
of a group of any kind, with a name or without: the pattern of the longer text has their branches,
or their items, as they are. -/
theorem parse_joined {first second : String} (hfirst : parse first = .ok t)
    (hsecond : parse second = .ok u) :
    parse (first ++ "|" ++ second) = .ok (.choice (t.branches ++ u.branches)) ∧
      (∀ kind : GroupKind,
        parse (String.ofList kind.render ++ first ++ ")") = .ok (.group kind t.items)) ∧
      ∀ name : String, Token.IsGroupName name.toList →
        parse ("(?<" ++ name ++ ">" ++ first ++ ")") = .ok (.group .capturing t.items) := by
  have hread := parse_eq_ok_iff.1 hfirst
  have hclose : Token.Quiet (first.toList ++ [')']) :=
    (BehindBranch.close []).quiet (quiet_of_read hread)
  refine ⟨?_, fun kind ↦ ?_, fun name hname ↦ ?_⟩
  · rw [parse_eq_ok_iff, String.toList_append, String.toList_append, List.append_assoc]
    exact read_bar hread (parse_eq_ok_iff.1 hsecond)
  · rw [parse_eq_ok_iff, String.toList_append, String.toList_append, List.append_assoc,
      String.toList_ofList]
    exact read_group hread (Token.reads_opening kind hclose)
  · rw [parse_eq_ok_iff]
    simpa using read_group hread (Token.reads_named hname)

/-- Bounds and an escape that the ends of the texts cut off. -/
theorem parse_joined_cutOff :
    parse "a\x7b1" = .ok (.sequence [.literal 'a', .literal '\x7b', .literal '1']) ∧
      parse "|\\x4" = .ok (.choice [.sequence [], .sequence [.literal 'x', .literal '4']]) ∧
      parse ("a\x7b1" ++ "|" ++ "|\\x4") =
        .ok (.choice [.sequence [.literal 'a', .literal '\x7b', .literal '1'], .sequence [],
          .sequence [.literal 'x', .literal '4']]) ∧
      parse ("(?<" ++ "n1" ++ ">" ++ "a\x7b1" ++ ")") =
        .ok (.group .capturing [.literal 'a', .literal '\x7b', .literal '1']) := by
  have hfirst : parse "a\x7b1" = .ok (.sequence [.literal 'a', .literal '\x7b', .literal '1']) := by
    cbv
  have hsecond : parse "|\\x4" =
      .ok (.choice [.sequence [], .sequence [.literal 'x', .literal '4']]) := by
    cbv
  have hname : Token.IsGroupName "n1".toList :=
    ⟨by decide, by simp, List.all_eq_true.1 (by decide)⟩
  obtain ⟨hbar, -, hnamed⟩ := parse_joined hfirst hsecond
  exact ⟨hfirst, hsecond, hbar, hnamed "n1" hname⟩

end Pattern

end RegexWords
