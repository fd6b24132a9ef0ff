import RegexWords.Proofs.Pattern.BracketText
import RegexWords.Proofs.Pattern.Drafts

namespace RegexWords

namespace Token

theorem Reads.quiet {text rest : List Char} {p : Pattern} (h : Reads text (.item p) rest) :
    Quiet (text ++ rest) := by
  obtain ⟨c, cs, rfl, hread⟩ := h
  intro tail he
  obtain ⟨rfl, -⟩ := List.cons.inj he
  exact readRepetition_ne_item hread

theorem quiet_cons {c : Char} (h : c ≠ '?') (cs : List Char) : Quiet (c :: cs) :=
  fun _ he ↦ h (List.cons.inj he).1

theorem reads_opening (kind : GroupKind) {rest : List Char} (h : Quiet rest) :
    Reads kind.render (.openGroup kind) rest := by
  cases kind with
  | capturing =>
    refine ⟨'(', [], rfl, ?_⟩
    rw [List.nil_append, read, readOpening]
    all_goals exact fun _ he ↦ absurd he (h _)
  | plain => exact ⟨'(', ['?', ':'], rfl, rfl⟩
  | lookahead => exact ⟨'(', ['?', '='], rfl, rfl⟩
  | negativeLookahead => exact ⟨'(', ['?', '!'], rfl, rfl⟩
  | lookbehind => exact ⟨'(', ['?', '<', '='], rfl, rfl⟩
  | negativeLookbehind => exact ⟨'(', ['?', '<', '!'], rfl, rfl⟩

end Token

open Token

namespace Pattern

/-- The text of a pattern gives one item. Only the text of a repetition may not be followed by a
question mark. -/
structure ReadsAsItem (p : Pattern) : Prop where
  items : p.items = [p]
  quiet (rest : List Char) : Quiet (p.render ++ rest)
  extend (d : Draft) {rest : List Char} (h : p.isRepeatable ∨ Quiet rest) :
    d.extend (p.render ++ rest) = (d.add p).extend rest

structure ReadsAsBranches (text : List Char) (ps : List Pattern) : Prop where
  quiet {rest : List Char} (h : Quiet rest) : Quiet (text ++ rest)
  extend (closed : List Pattern) (groups : List OpenGroup) {rest : List Char} (h : Quiet rest) :
    ∃ b : Branches, b.closeBranch.closed = ps.reverse ++ closed ∧
      (⟨⟨closed, []⟩, groups⟩ : Draft).extend (text ++ rest) = (⟨b, groups⟩ : Draft).extend rest

theorem readsAsItem_of_reads {p : Pattern} (hitems : p.items = [p])
    (h : ∀ rest, Reads p.render (.item p) rest) : ReadsAsItem p where
  items := hitems
  quiet rest := (h rest).quiet
  extend _ rest _ := Draft.extend_append (h rest) .item

theorem exists_of_parse_eq_bracket {text raw : String} {ms : List Pattern} {negated : Bool}
    (h : parse text = .ok (.bracket ms negated raw)) :
    raw = text ∧ ∃ used, text.toList = '[' :: (Bracket.caret negated ++ used) ∧
      (negated = false → ∀ tail, used ≠ '^' :: tail) ∧ Bracket.ReadsMembers used ms [] := by
  obtain ⟨body, hbody, hread⟩ := exists_of_read_eq_bracket (parse_eq_ok_iff.1 h)
  obtain ⟨ns, negated, used, rfl, hne, hused, he⟩ := Bracket.exists_of_read hread
  cases he
  rw [List.append_nil] at hbody
  refine ⟨?_, used, hbody, hne, hused⟩
  rw [← String.toList_inj, hbody, String.toList_ofList]

theorem reads_bracket {ms : List Pattern} {negated : Bool} {text : String}
    (h : parse text = .ok (.bracket ms negated text)) (rest : List Char) :
    Reads text.toList (.item (.bracket ms negated text)) rest := by
  obtain ⟨body, htext, hbody⟩ := exists_of_read_eq_bracket (parse_eq_ok_iff.1 h)
  refine ⟨'[', body, htext, ?_⟩
  rw [Token.read, Bracket.read_append hbody rest]
  rfl

theorem quiet_renderAll {ps : List Pattern} (h : ∀ p ∈ ps, ReadsAsItem p) {rest : List Char}
    (hrest : Quiet rest) : Quiet (renderAll ps ++ rest) := by
  cases ps with
  | nil => exact hrest
  | cons p ps =>
    rw [renderAll, List.append_assoc]
    exact (h p List.mem_cons_self).quiet _

theorem extend_renderAll {ps : List Pattern} (h : ∀ p ∈ ps, ReadsAsItem p)
    (closed items : List Pattern) (groups : List OpenGroup) {rest : List Char}
    (hrest : Quiet rest) :
    (⟨⟨closed, items⟩, groups⟩ : Draft).extend (renderAll ps ++ rest) =
      (⟨⟨closed, ps.reverse ++ items⟩, groups⟩ : Draft).extend rest := by
  induction ps generalizing items with
  | nil => rfl
  | cons p ps ih =>
    obtain ⟨hp, hps⟩ := List.forall_mem_cons.1 h
    have hquiet := quiet_renderAll hps hrest
    rw [renderAll, List.append_assoc, hp.extend _ (.inr hquiet), List.reverse_cons,
      List.append_assoc]
    exact ih hps (p :: items)

theorem readsAsBranches_renderAll {ps : List Pattern} (h : ∀ p ∈ ps, ReadsAsItem p) :
    ReadsAsBranches (renderAll ps) [ofItems ps] where
  quiet hrest := quiet_renderAll h hrest
  extend closed groups rest hrest := by
    refine ⟨⟨closed, ps.reverse⟩, ?_, ?_⟩
    · rw [Branches.closeBranch, List.reverse_reverse]
      rfl
    · rw [extend_renderAll h closed [] groups hrest, List.append_nil]

theorem ReadsAsItem.readsAsBranches {p : Pattern} (h : ReadsAsItem p) :
    ReadsAsBranches p.render [p] := by
  simpa [renderAll, ofItems] using readsAsBranches_renderAll (List.forall_mem_singleton.2 h)

theorem readsAsBranches_renderBranches {ps : List Pattern} (hne : ps ≠ [])
    (h : ∀ p ∈ ps, ReadsAsBranches p.render [p]) : ReadsAsBranches (renderBranches ps) ps := by
  induction ps with
  | nil => exact absurd rfl hne
  | cons p ps ih =>
    obtain ⟨hp, hps⟩ := List.forall_mem_cons.1 h
    cases ps with
    | nil => exact hp
    | cons q ps =>
      have htail := ih (by simp) hps
      have hbar (rest : List Char) : Quiet ('|' :: rest) := quiet_cons (by decide) rest
      constructor
      · intro rest _
        rw [renderBranches, List.append_assoc, List.cons_append]
        exact hp.quiet (hbar _)
      · intro closed groups rest hrest
        obtain ⟨b, hb, hextend⟩ := hp.extend closed groups (hbar (renderBranches (q :: ps) ++ rest))
        obtain ⟨b', hb', hextend'⟩ := htail.extend (p :: closed) groups hrest
        have hclose : b.closeBranch = ⟨p :: closed, []⟩ := congrArg (Branches.mk · []) hb
        refine ⟨b', by simpa using hb', ?_⟩
        rw [renderBranches, List.append_assoc, List.cons_append, hextend, Draft.extend_bar, hclose,
          hextend']

theorem ReadsAsBranches.readsAsItem_group {body ps : List Pattern}
    (h : ReadsAsBranches (renderAll body) ps) (hbody : (ofBranches ps).items = body)
    (kind : GroupKind) : ReadsAsItem (.group kind body) := by
  have hclose (rest : List Char) : Quiet (')' :: rest) := quiet_cons (by decide) rest
  have hopen (rest : List Char) := reads_opening kind (h.quiet (hclose rest))
  have htext (rest : List Char) : (group kind body).render ++ rest =
      kind.render ++ (renderAll body ++ ')' :: rest) := by
    simp [render]
  constructor
  · rfl
  · intro rest
    rw [htext]
    cases kind <;> exact quiet_cons (by decide) _
  · intro d rest _
    obtain ⟨b, hb, hextend⟩ := h.extend [] (⟨kind, _, d.branches⟩ :: d.groups) (hclose rest)
    have hpattern : b.pattern = ofBranches ps := by
      rw [Branches.pattern, hb, List.append_nil, List.reverse_reverse]
    rw [htext, Draft.extend_append (hopen rest) (Draft.Pushes.openGroup), Branches.empty, hextend,
      Draft.extend_close, hpattern, hbody]
    rfl

theorem ReadsAsItem.repetition {p : Pattern} (h : ReadsAsItem p) (hp : p.isRepeatable)
    {bounds : Bounds} (hreadable : bounds.IsReadable) (horder : bounds.inOrder) (greedy : Bool) :
    ReadsAsItem (.repetition bounds greedy p) := by
  have htext (rest : List Char) : (Pattern.repetition bounds greedy p).render ++ rest =
      p.render ++ ((bounds.render ++ reluctance greedy) ++ rest) := by
    simp [render, reluctance]
  constructor
  · rfl
  · intro rest
    rw [htext]
    exact h.quiet _
  · intro d rest hrest
    have hquiet : Quiet rest := hrest.resolve_left (by simp [isRepeatable])
    rw [htext, h.extend d (.inl hp)]
    exact Draft.extend_append (reads_repetition hreadable greedy hquiet) (.repetition hp horder)

theorem ReadsAsBranches.read_eq {text : List Char} {ps : List Pattern}
    (h : ReadsAsBranches text ps) : read text = .ok (ofBranches ps) := by
  have hquiet : Quiet [] := fun _ he ↦ by cases he
  obtain ⟨b, hb, hextend⟩ := h.extend [] [] hquiet
  rw [List.append_nil, Draft.extend] at hextend
  rw [read, Draft.empty, Branches.empty, hextend]
  simp [Draft.finish, Branches.pattern, hb]

/-- What a pattern is a part of: an item of a branch, a branch, or a whole text. -/
inductive Role where
  | item | branch | whole

/-- The patterns that a text may stand for. -/
inductive Canonical : Role → Pattern → Prop
  | anchor (a : Anchor) : Canonical .item (.anchor a)
  | anyCharacter : Canonical .item .anyCharacter
  | literal (c : Char) : Canonical .item (.literal c)
  | shorthand {tag : Char} : Escape.isShorthand tag → Canonical .item (.shorthand tag)
  | reference {id : ℕ} : 1 ≤ id → id ≤ 9 → Canonical .item (.reference id)
  | bracket {ms : List Pattern} {negated : Bool} {text : String} :
      parse text = .ok (.bracket ms negated text) → Canonical .item (.bracket ms negated text)
  | group {kind : GroupKind} {body : List Pattern} :
      (∀ p ∈ body, Canonical .item p) → Canonical .item (.group kind body)
  | groupOfChoice {kind : GroupKind} {branches : List Pattern} :
      Canonical .whole (.choice branches) → Canonical .item (.group kind [.choice branches])
  | repetition {bounds : Bounds} {greedy : Bool} {p : Pattern} :
      bounds.IsReadable → bounds.inOrder → p.isRepeatable → Canonical .item p →
      Canonical .item (.repetition bounds greedy p)
  | single {p : Pattern} : Canonical .item p → Canonical .branch p
  | sequence {ps : List Pattern} :
      ps.length ≠ 1 → (∀ p ∈ ps, Canonical .item p) → Canonical .branch (.sequence ps)
  | branch {p : Pattern} : Canonical .branch p → Canonical .whole p
  | choice {ps : List Pattern} :
      2 ≤ ps.length → (∀ p ∈ ps, Canonical .branch p) → Canonical .whole (.choice ps)

def IsReadAs : Role → Pattern → Prop
  | .item, p => ReadsAsItem p
  | .branch, p => ReadsAsBranches p.render [p]
  | .whole, p => ∃ ps, ofBranches ps = p ∧ ReadsAsBranches p.render ps

theorem items_ofItems {ps : List Pattern} (h : ∀ p ∈ ps, p.items = [p]) :
    (ofItems ps).items = ps := by
  fun_cases ofItems ps with
  | case1 p => exact h p List.mem_cons_self
  | case2 => rfl

theorem ofItems_eq_sequence {ps : List Pattern} (h : ps.length ≠ 1) :
    ofItems ps = .sequence ps := by
  fun_cases ofItems ps with
  | case1 => exact absurd rfl h
  | case2 => rfl

theorem ofBranches_eq_choice {ps : List Pattern} (h : ps.length ≠ 1) :
    ofBranches ps = .choice ps := by
  fun_cases ofBranches ps with
  | case1 => exact absurd rfl h
  | case2 => rfl

theorem Canonical.isReadAs {role : Role} {p : Pattern} (h : Canonical role p) :
    IsReadAs role p := by
  induction h with
  | anchor a => exact readsAsItem_of_reads rfl (reads_anchor a)
  | anyCharacter => exact readsAsItem_of_reads rfl fun _ ↦ ⟨'.', [], rfl, rfl⟩
  | literal c => exact readsAsItem_of_reads rfl (reads_literal c)
  | shorthand htag => exact readsAsItem_of_reads rfl (reads_shorthand htag)
  | reference h h' => exact readsAsItem_of_reads rfl (reads_reference h h')
  | bracket hparse => exact readsAsItem_of_reads rfl (reads_bracket hparse)
  | group _ ih =>
    exact (readsAsBranches_renderAll ih).readsAsItem_group
      (items_ofItems fun p hp ↦ (ih p hp).items) _
  | @groupOfChoice kind branches _ ih =>
    obtain ⟨ps, hps, hread⟩ := ih
    rw [← List.append_nil (render _), ← renderAll, ← renderAll] at hread
    exact hread.readsAsItem_group (by rw [hps]; rfl) kind
  | repetition hreadable horder hp _ ih => exact ih.repetition hp hreadable horder _
  | single _ ih => exact ih.readsAsBranches
  | sequence hlength _ ih =>
    rw [IsReadAs, render, ← ofItems_eq_sequence hlength]
    exact readsAsBranches_renderAll ih
  | branch _ ih => exact ⟨_, rfl, ih⟩
  | @choice ps hlength _ ih =>
    have hne : ps ≠ [] := by
      rintro rfl
      simp at hlength
    refine ⟨ps, ofBranches_eq_choice (by omega), ?_⟩
    rw [render]
    exact readsAsBranches_renderBranches hne ih

/-- Reading undoes writing on canonical patterns. -/
theorem parse_text {p : Pattern} (h : Canonical .whole p) : parse p.text = .ok p := by
  obtain ⟨ps, rfl, hread⟩ := h.isReadAs
  rw [parse, text, String.toList_ofList, hread.read_eq]
  rfl

theorem parse_of_reads {text : String} {p : Pattern} (h : Reads text.toList (.item p) []) :
    parse text = .ok p := by
  have hextend := Draft.extend_append h (d := .empty) .item
  rw [List.append_nil, Draft.extend] at hextend
  rw [parse, read, hextend]
  rfl

def crowded : Pattern :=
  .choice [
    .sequence [.repetition ⟨0, some 1⟩ false (.literal '?'), .reference 1, .literal '0'],
    .sequence [],
    .group .lookahead [.choice [.literal 'é',
      .repetition ⟨2, none⟩ true (.bracket [.range 'a' 'c'] false "[a-c]")]]]

theorem parse_text_crowded : Canonical .whole crowded ∧ parse crowded.text = .ok crowded := by
  have hbracket : parse "[a-c]" = .ok (.bracket [.range 'a' 'c'] false "[a-c]") :=
    parse_of_reads ⟨'[', ['a', '-', 'c', ']'], rfl, by cbv⟩
  have hlazy : Canonical .item (.repetition ⟨0, some 1⟩ false (.literal '?')) :=
    .repetition ⟨by decide, by simp [Bounds.greatest]⟩ rfl rfl (.literal _)
  have hgroup : Canonical .item (.group .lookahead [.choice [.literal 'é',
      .repetition ⟨2, none⟩ true (.bracket [.range 'a' 'c'] false "[a-c]")]]) := by
    refine .groupOfChoice (.choice (by decide) (List.forall_mem_cons.2 ⟨.single (.literal _), ?_⟩))
    refine List.forall_mem_singleton.2 (.single (.repetition ⟨by decide, by simp⟩ rfl rfl ?_))
    exact .bracket hbracket
  have hp : Canonical .whole crowded := by
    refine .choice (by decide) ?_
    simp only [List.forall_mem_cons, List.not_mem_nil, IsEmpty.forall_iff, implies_true, and_true]
    refine ⟨.sequence (by decide) ?_, .sequence (by decide) (by simp), .single hgroup⟩
    simp only [List.forall_mem_cons, List.not_mem_nil, IsEmpty.forall_iff, implies_true, and_true]
    exact ⟨hlazy, .reference (by decide) (by decide), .literal _⟩
  exact ⟨hp, parse_text hp⟩

end Pattern

end RegexWords
