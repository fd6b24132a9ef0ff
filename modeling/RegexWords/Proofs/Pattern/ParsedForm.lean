import RegexWords.Proofs.Pattern.Nodes
import RegexWords.Proofs.Pattern.RoundTrip

namespace RegexWords

open Text

namespace Pattern

def isMember : Pattern → Bool
  | .literal _ => true
  | .range first last => first ≤ last
  | .shorthand tag => Escape.isShorthand tag
  | _ => false

end Pattern

theorem Escape.isMember_of_read? {cs rest : List Char} {e : Escape}
    (h : Escape.read? cs = some (e, rest)) : e.pattern.isMember := by
  unfold read? at h
  split at h
  · cases h
  · obtain ⟨p, -, he⟩ := Option.map_eq_some_iff.1 h
    cases he
    rfl
  · split at h <;> cases h <;> rfl
  · split at h <;> cases h <;> rfl
  · split at h
    · next hc =>
      cases h
      exact hc
    · cases h
      rfl

namespace Bracket

variable {c : Char} {cs rest : List Char} {p first last : Pattern} {ps : List Pattern}

theorem ReadsAtom.isMember (h : ReadsAtom c cs p rest) : p.isMember := by
  cases h with
  | backspace | dash | plain => rfl
  | escape _ _ he => exact Escape.isMember_of_read? he

theorem Joins.isMember (h : Joins first last ps) (hfirst : first.isMember)
    (hlast : last.isMember) : ∀ p ∈ ps, p.isMember := by
  cases h with
  | range hle => exact List.forall_mem_singleton.2 (decide_eq_true hle)
  | apart =>
    have hdash : (Pattern.literal '-').isMember := rfl
    simp [hfirst, hlast, hdash]

theorem ReadsMember.isMember (h : ReadsMember c cs ps rest) : ∀ p ∈ ps, p.isMember := by
  cases h with
  | atom ha => exact List.forall_mem_singleton.2 ha.isMember
  | lastDash ha => exact List.forall_mem_singleton.2 ha.isMember
  | join ha _ hb hjoin => exact hjoin.isMember ha.isMember hb.isMember

theorem ReadsMembers.isMember (h : ReadsMembers cs ps rest) : ∀ p ∈ ps, p.isMember := by
  induction h with
  | close => exact List.forall_mem_nil _
  | member _ hm _ ih => exact List.forall_mem_append.2 ⟨hm.isMember, ih⟩

end Bracket

namespace Bounds

theorem le_greatest_of_readNumber? {cs rest : List Char} {n : ℕ}
    (h : readNumber? cs = some (n, rest)) : n ≤ greatest := by
  simp only [readNumber?] at h
  split at h
  · next hn =>
    cases h
    exact hn.2
  · cases h

theorem isReadable_of_read? {cs rest : List Char} {b : Bounds} (h : read? cs = some (b, rest)) :
    b.IsReadable := by
  unfold read? at h
  split at h
  · next hn =>
    cases h
    have hle := le_greatest_of_readNumber? hn
    exact ⟨hle, fun m hm ↦ Option.some.inj hm ▸ hle⟩
  · next hn =>
    cases h
    exact ⟨le_greatest_of_readNumber? hn, fun m hm ↦ nomatch hm⟩
  · next hn =>
    split at h
    · next hm =>
      cases h
      have hle := le_greatest_of_readNumber? hm
      exact ⟨le_greatest_of_readNumber? hn, fun m hm ↦ Option.some.inj hm ▸ hle⟩
    · cases h
  · cases h

end Bounds

namespace Pattern

/-- A bracket expression is what its own text stands for, which is a part of the text. -/
def quotes (text : List Char) : Pattern → Prop
  | .bracket ms negated raw => raw.toList <:+: text ∧ parse raw = .ok (.bracket ms negated raw)
  | _ => True

/-- A canonical pattern with bracket expressions from a text. -/
def ReadFrom (text : List Char) (role : Role) (p : Pattern) : Prop :=
  Canonical role p ∧ ∀ q ∈ p.nodes, q.quotes text

variable {text : List Char} {p : Pattern} {ps : List Pattern}

theorem forall_mem_items {P : Pattern → Prop} (h : ∀ q ∈ p.nodes, P q) :
    ∀ c ∈ p.items, ∀ q ∈ c.nodes, P q := by
  cases p with
  | sequence ps => exact fun c hc q hq ↦ h q (mem_nodes_of_mem_children hc hq)
  | _ => exact List.forall_mem_singleton.2 h

theorem Canonical.ofItems (h : ∀ p ∈ ps, Canonical .item p) : Canonical .branch (ofItems ps) := by
  by_cases hlength : ps.length = 1
  · obtain ⟨p, rfl⟩ := List.length_eq_one_iff.1 hlength
    exact .single (h p (List.mem_singleton_self p))
  · rw [ofItems_eq_sequence hlength]
    exact .sequence hlength h

theorem Canonical.ofBranches (hne : ps ≠ []) (h : ∀ p ∈ ps, Canonical .branch p) :
    Canonical .whole (ofBranches ps) := by
  have hpos := List.length_pos_of_ne_nil hne
  by_cases hlength : ps.length = 1
  · obtain ⟨p, rfl⟩ := List.length_eq_one_iff.1 hlength
    exact .branch (h p (List.mem_singleton_self p))
  · rw [ofBranches_eq_choice hlength]
    exact .choice (by omega) h

theorem Canonical.group_items {kind : GroupKind} (h : Canonical .whole p) :
    Canonical .item (.group kind p.items) := by
  cases h with
  | choice hlength hps => exact .groupOfChoice (.choice hlength hps)
  | branch hp =>
    cases hp with
    | single hp =>
      have hitems : p.items = [p] := hp.isReadAs.items
      rw [hitems]
      exact .group (List.forall_mem_singleton.2 hp)
    | sequence hlength hps => exact .group hps

namespace ReadFrom

theorem ofItems (h : ∀ p ∈ ps, ReadFrom text .item p) : ReadFrom text .branch (ofItems ps) := by
  refine ⟨.ofItems fun p hp ↦ (h p hp).1, ?_⟩
  fun_cases Pattern.ofItems ps with
  | case1 p => exact (h p List.mem_cons_self).2
  | case2 => exact forall_mem_nodes.2 ⟨trivial, fun p hp ↦ (h p hp).2⟩

theorem ofBranches (hne : ps ≠ []) (h : ∀ p ∈ ps, ReadFrom text .branch p) :
    ReadFrom text .whole (ofBranches ps) := by
  refine ⟨.ofBranches hne fun p hp ↦ (h p hp).1, ?_⟩
  fun_cases Pattern.ofBranches ps with
  | case1 p => exact (h p List.mem_cons_self).2
  | case2 => exact forall_mem_nodes.2 ⟨trivial, fun p hp ↦ (h p hp).2⟩

theorem group {kind : GroupKind} (h : ReadFrom text .whole p) :
    ReadFrom text .item (.group kind p.items) :=
  ⟨h.1.group_items, forall_mem_nodes.2 ⟨trivial, forall_mem_items h.2⟩⟩

theorem repetition {bounds : Bounds} {greedy : Bool} (h : ReadFrom text .item p)
    (hp : p.isRepeatable) (hreadable : bounds.IsReadable) (horder : bounds.inOrder) :
    ReadFrom text .item (.repetition bounds greedy p) :=
  ⟨.repetition hreadable horder hp h.1,
    forall_mem_nodes.2 ⟨trivial, List.forall_mem_singleton.2 h.2⟩⟩

theorem leaf (h : Canonical .item p) (hp : p.nodes = [p]) (hquotes : p.quotes text) :
    ReadFrom text .item p :=
  ⟨h, hp ▸ List.forall_mem_singleton.2 hquotes⟩

end ReadFrom

theorem quotes_of_isMember (h : p.isMember) : ∀ q ∈ p.nodes, q.quotes text := by
  cases p with
  | literal | range | shorthand => exact List.forall_mem_singleton.2 trivial
  | _ => cases h

end Pattern

open Pattern

variable {text : List Char}

theorem Escape.readFrom_of_read? {cs rest : List Char} {e : Escape}
    (h : read? cs = some (e, rest)) : ReadFrom text .item e.pattern := by
  cases e with
  | character c => exact .leaf (.literal c) rfl trivial
  | shorthand tag => exact .leaf (.shorthand (isMember_of_read? h)) rfl trivial

theorem Bracket.readFrom_of_read {cs rest : List Char} {p : Pattern} (h : read cs = .ok (p, rest))
    (hcs : '[' :: cs <:+: text) : ReadFrom text .item p := by
  obtain ⟨ms, negated, used, rfl, hne, hused, rfl⟩ := exists_of_read h
  generalize hraw : String.ofList ('[' :: (caret negated ++ used)) = raw
  have htoList : raw.toList = '[' :: (caret negated ++ used) := by rw [← hraw, String.toList_ofList]
  have hparse : parse raw = .ok (.bracket ms negated raw) := by
    have hread := read_of_readsMembers hused hne []
    rw [hraw] at hread
    refine parse_of_reads ⟨'[', caret negated ++ used, htoList, ?_⟩
    rw [Token.read, hread]
    rfl
  have hpart : raw.toList <:+: text := by
    rw [htoList]
    exact (List.prefix_append ('[' :: (caret negated ++ used)) rest).isInfix.trans hcs
  refine ⟨.bracket hparse, forall_mem_nodes.2 ⟨⟨hpart, hparse⟩, fun m hm ↦ ?_⟩⟩
  exact quotes_of_isMember (hused.isMember m hm)

namespace Token

def ReadFrom (text : List Char) : Token → Prop
  | .item p => Pattern.ReadFrom text .item p
  | .repetition bounds _ => bounds.IsReadable
  | _ => True

variable {cs rest : List Char} {t : Token}

theorem readFrom_of_readOpening (h : readOpening cs = .ok (t, rest)) : t.ReadFrom text := by
  unfold readOpening at h
  split at h
  case h_6 =>
    obtain ⟨r, -, he⟩ := Failure.exists_of_map_ok h
    cases he
    trivial
  all_goals
    cases h
    trivial

theorem readFrom_of_readRepetition {bounds : Bounds} (hb : bounds.IsReadable)
    (h : readRepetition bounds cs = (t, rest)) : t.ReadFrom text := by
  unfold readRepetition at h
  split at h <;>
    · cases h
      exact hb

theorem digit_between {c : Char} (h : c.isDigit) (hne : c ≠ '0') :
    1 ≤ c.toNat - '0'.toNat ∧ c.toNat - '0'.toNat ≤ 9 := by
  have hbounds : 48 ≤ c.toNat ∧ c.toNat ≤ 57 := by
    simpa [Char.isDigit, UInt32.le_iff_toNat_le] using h
  have hzero : c.toNat ≠ 48 := fun he ↦ hne (Char.toNat_inj.1 he)
  have htoNat : '0'.toNat = 48 := rfl
  omega

theorem readFrom_of_readEscape (h : readEscape cs = .ok (t, rest)) : t.ReadFrom text := by
  have hcharacter {cs rest : List Char} {t : Token}
      (h : readEscape.readCharacter cs = .ok (t, rest)) : t.ReadFrom text := by
    unfold readEscape.readCharacter at h
    split at h
    · next he =>
      cases h
      exact Escape.readFrom_of_read? he
    · cases h
  unfold readEscape at h
  split at h
  · cases h
    exact .leaf (.anchor _) rfl trivial
  · cases h
    exact .leaf (.anchor _) rfl trivial
  · split at h
    · split at h
      · next hdigit =>
        cases h
        obtain ⟨hone, hnine⟩ := digit_between hdigit.1 hdigit.2
        exact .leaf (.reference hone hnine) rfl trivial
      · exact hcharacter h
    · exact hcharacter h

theorem readFrom_of_read {c : Char} (h : read c cs = .ok (t, rest)) (hcs : c :: cs <:+: text) :
    t.ReadFrom text := by
  have hrepetition {bounds : Bounds} {cs : List Char} (hb : bounds.IsReadable)
      (h : Except.ok (readRepetition bounds cs) = (.ok (t, rest) : Except Failure _)) :
      t.ReadFrom text :=
    readFrom_of_readRepetition hb (Except.ok.inj h)
  unfold read at h
  split at h
  case h_1 | h_2 =>
    cases h
    trivial
  case h_3 => exact readFrom_of_readOpening h
  case h_4 =>
    obtain ⟨r, hr, he⟩ := Failure.exists_of_map_ok h
    cases he
    exact Bracket.readFrom_of_read hr hcs
  case h_5 => exact readFrom_of_readEscape h
  case h_6 =>
    cases h
    exact .leaf .anyCharacter rfl trivial
  case h_7 | h_8 =>
    cases h
    exact .leaf (.anchor _) rfl trivial
  case h_9 | h_10 | h_11 => exact hrepetition (by simp [Bounds.IsReadable, Bounds.greatest]) h
  case h_12 =>
    split at h
    · next hb => exact hrepetition (Bounds.isReadable_of_read? hb) h
    · cases h
      exact .leaf (.literal _) rfl trivial
  case h_13 =>
    cases h
    exact .leaf (.literal _) rfl trivial

end Token

namespace Branches

structure ReadFrom (text : List Char) (b : Branches) : Prop where
  items : ∀ p ∈ b.items, Pattern.ReadFrom text .item p
  closed : ∀ p ∈ b.closed, Pattern.ReadFrom text .branch p

namespace ReadFrom

variable {b : Branches} {p : Pattern}

theorem empty : Branches.empty.ReadFrom text where
  items := List.forall_mem_nil _
  closed := List.forall_mem_nil _

theorem push (h : b.ReadFrom text) (hp : Pattern.ReadFrom text .item p) :
    (b.push p).ReadFrom text where
  items := List.forall_mem_cons.2 ⟨hp, h.items⟩
  closed := h.closed

theorem closeBranch (h : b.ReadFrom text) : b.closeBranch.ReadFrom text where
  items := List.forall_mem_nil _
  closed := List.forall_mem_cons.2
    ⟨.ofItems fun p hp ↦ h.items p (List.mem_reverse.1 hp), h.closed⟩

theorem pattern (h : b.ReadFrom text) : Pattern.ReadFrom text .whole b.pattern := by
  refine .ofBranches (by simp [Branches.closeBranch]) fun p hp ↦ ?_
  exact h.closeBranch.closed p (List.mem_reverse.1 hp)

end ReadFrom

end Branches

namespace Draft

structure ReadFrom (text : List Char) (d : Draft) : Prop where
  branches : d.branches.ReadFrom text
  around : ∀ g ∈ d.groups, g.around.ReadFrom text

variable {d d' : Draft} {place cs : List Char} {t : Token}

theorem Pushes.readFrom (h : Pushes place d t d') (hd : d.ReadFrom text) (ht : t.ReadFrom text) :
    d'.ReadFrom text := by
  cases h with
  | item => exact ⟨hd.branches.push ht, hd.around⟩
  | repetition hp horder =>
    obtain ⟨hitem, hitems⟩ := List.forall_mem_cons.1 hd.branches.items
    refine ⟨⟨?_, hd.branches.closed⟩, hd.around⟩
    exact List.forall_mem_cons.2 ⟨hitem.repetition hp ht horder, hitems⟩
  | bar => exact ⟨hd.branches.closeBranch, hd.around⟩
  | openGroup => exact ⟨.empty, List.forall_mem_cons.2 ⟨hd.branches, hd.around⟩⟩
  | closeGroup =>
    obtain ⟨hg, hgroups⟩ := List.forall_mem_cons.1 hd.around
    exact ⟨hg.push hd.branches.pattern.group, hgroups⟩

theorem ReadFrom.extend (hd : d.ReadFrom text) (hcs : cs <:+: text) (h : d.extend cs = .ok d') :
    d'.ReadFrom text := by
  fun_induction Draft.extend d cs with
  | case1 =>
    cases h
    exact hd
  | case2 => cases h
  | case3 => cases h
  | case4 d c cs token rest hread _ e hpush ih =>
    refine ih ((pushes_of_push hpush).readFrom hd (Token.readFrom_of_read hread hcs)) ?_ h
    exact ((Token.isSuffix_of_read hread).trans (List.suffix_cons c cs)).isInfix.trans hcs

theorem ReadFrom.finish {p : Pattern} (hd : d.ReadFrom text) (h : d.finish = .ok p) :
    Pattern.ReadFrom text .whole p := by
  unfold Draft.finish at h
  split at h
  · cases h
    exact hd.branches.pattern
  · cases h

end Draft

namespace Pattern

theorem readFrom_of_read {p : Pattern} (h : read text = .ok p) : ReadFrom text .whole p := by
  have hempty : Draft.empty.ReadFrom text := ⟨.empty, List.forall_mem_nil _⟩
  unfold read at h
  split at h
  · cases h
  · next d hd => exact (hempty.extend (List.infix_refl text) hd).finish h

theorem bracket_text {ms : List Pattern} {negated : Bool} {raw : String}
    (h : parse raw = .ok (.bracket ms negated raw)) :
    (∀ m ∈ ms, m.isMember) ∧ (∃ body, raw.toList = '[' :: (body ++ [']'])) ∧
      (negated ↔ ['[', '^'] <+: raw.toList) := by
  obtain ⟨-, used, htext, hne, hused⟩ := exists_of_parse_eq_bracket h
  obtain ⟨body, rfl⟩ := hused.exists_append_close
  refine ⟨hused.isMember, ⟨Bracket.caret negated ++ body, ?_⟩, ?_⟩
  · rw [htext, List.append_assoc]
  · rw [htext, List.cons_prefix_cons]
    cases negated with
    | true => simp [Bracket.caret]
    | false =>
      have hcaret : ¬['^'] <+: body ++ [']'] := by
        intro hprefix
        obtain ⟨tail, htail⟩ := hprefix
        exact hne rfl tail htail.symm
      simpa [Bracket.caret] using hcaret

/-- A pattern that is read is canonical, and each bracket expression in it is a part of the text
that stands for the same by itself. -/
theorem canonical_of_parse {text : String} {t : Pattern} (h : parse text = .ok t) :
    Canonical .whole t ∧ ∀ ms (negated : Bool) raw, .bracket ms negated raw ∈ t.nodes →
      (∀ m ∈ ms, m.isMember) ∧ raw.toList <:+: text.toList ∧
      (∃ body, raw.toList = '[' :: (body ++ [']'])) ∧ (negated ↔ ['[', '^'] <+: raw.toList) ∧
      parse raw = .ok (.bracket ms negated raw) := by
  obtain ⟨hcanonical, hquotes⟩ := readFrom_of_read (parse_eq_ok_iff.1 h)
  refine ⟨hcanonical, fun ms negated raw hmem ↦ ?_⟩
  obtain ⟨hpart, hparse⟩ := hquotes _ hmem
  obtain ⟨hms, hends, hnegated⟩ := bracket_text hparse
  exact ⟨hms, hpart, hends, hnegated, hparse⟩

def bracedText : String := "[^b-d\\w-]\x7b2,3\x7d?(x|)\\1\x7b"

def bracedBracket : Pattern :=
  .bracket [.range 'b' 'd', .shorthand 'w', .literal '-'] true "[^b-d\\w-]"

def braced : Pattern :=
  .sequence [.repetition ⟨2, some 3⟩ false bracedBracket,
    .group .capturing [.choice [.literal 'x', .sequence []]], .reference 1, .literal '\x7b']

theorem parse_bracedText : parse bracedText = .ok braced := by
  have hbracket : Token.read '[' (bracedText.toList.drop 1) =
      .ok (.item bracedBracket, bracedText.toList.drop 9) := by
    cbv
  have hbounds : Token.read '\x7b' (bracedText.toList.drop 10) =
      .ok (.repetition ⟨2, some 3⟩ false, bracedText.toList.drop 15) := rfl
  have hextend : Draft.empty.extend bracedText.toList = _ :=
    (Draft.extend_cons hbracket .item).trans (Draft.extend_cons hbounds (.repetition rfl rfl))
  rw [parse_eq_ok_iff, read, hextend]
  cbv

theorem canonical_of_parse_braced :
    parse bracedText = .ok braced ∧ Canonical .whole braced ∧
      "[^b-d\\w-]".toList <:+: bracedText.toList ∧
      parse "[^b-d\\w-]" = .ok bracedBracket := by
  obtain ⟨hcanonical, hbrackets⟩ := canonical_of_parse parse_bracedText
  have hmem : bracedBracket ∈ braced.nodes := by
    simp [braced, bracedBracket, nodes, nodesOfAll]
  obtain ⟨-, hpart, -, -, hparse⟩ := hbrackets _ _ _ hmem
  exact ⟨parse_bracedText, hcanonical, hpart, hparse⟩

end Pattern

end RegexWords
