import RegexWords.Proofs.Pattern.ParsedForm

namespace RegexWords

namespace Bracket

/-- A character that means nothing but itself wherever a member may begin. -/
def IsPlain (c : Char) : Prop := c ≠ ']' ∧ c ≠ '-' ∧ c ≠ '^'

theorem isPlain_backslash : IsPlain '\\' := by
  unfold IsPlain
  decide

theorem isPlain_of_not_isMeta {c : Char} (h : ¬ Pattern.isMeta c) : IsPlain c := by
  refine ⟨?_, ?_, ?_⟩
  all_goals
    rintro rfl
    exact h rfl

/-- The text of an atom, whatever stands behind it. -/
def WritesAtom (text : List Char) (p : Pattern) : Prop :=
  ∃ c cs, text = c :: cs ∧ IsPlain c ∧ ∀ rest, ReadsAtom c (cs ++ rest) p rest

/-- The text of a member, unless a dash stands behind it. -/
def WritesMember (text : List Char) (p : Pattern) : Prop :=
  ∃ c cs, text = c :: cs ∧ IsPlain c ∧
    ∀ rest, (∀ tail, rest ≠ '-' :: tail) → ReadsMember c (cs ++ rest) [p] rest

theorem writesAtom_escape {text : List Char} {e : Escape} (h : Escape.Writes text e)
    (hdash : text.head? ≠ some '-') : WritesAtom ('\\' :: text) e.pattern := by
  obtain ⟨c, cs, rfl, hc, hread⟩ := h
  refine ⟨'\\', c :: cs, rfl, isPlain_backslash, fun rest ↦ .escape ?_ ?_ (hread rest)⟩
  · exact fun hb ↦ hc.1 (Option.some.inj hb)
  · exact hdash

theorem writesAtom_literal (c : Char) : WritesAtom (Pattern.renderLiteral c) (.literal c) := by
  obtain ⟨h, hrender⟩ | ⟨text, hrender, h⟩ := Escape.exists_of_renderLiteral c
  · rw [hrender]
    refine ⟨c, [], rfl, isPlain_of_not_isMeta h, fun rest ↦ .plain rest ?_⟩
    rintro rfl
    exact h rfl
  · rw [hrender]
    by_cases hdash : text.head? = some '-'
    · -- Between brackets a dash behind a backslash has a reading of its own.
      obtain ⟨d, cs, rfl, -, hread⟩ := h
      obtain rfl := Option.some.inj hdash
      have hcs : Escape.read? ('-' :: (cs ++ [])) = some (.character c, []) := hread []
      obtain ⟨hc, hnil⟩ := Prod.ext_iff.1 (Option.some.inj hcs)
      obtain rfl : cs = [] := by simpa using hnil
      cases hc
      exact ⟨'\\', ['-'], rfl, isPlain_backslash, .dash⟩
    · exact writesAtom_escape h hdash

theorem writesAtom_shorthand {tag : Char} (h : Escape.isShorthand tag) :
    WritesAtom ['\\', tag] (.shorthand tag) := by
  refine writesAtom_escape (Escape.writes_shorthand h) ?_
  rintro ⟨⟩
  cases h

theorem WritesAtom.writesMember {text : List Char} {p : Pattern} (h : WritesAtom text p) :
    WritesMember text p := by
  obtain ⟨c, cs, rfl, hc, hread⟩ := h
  exact ⟨c, cs, rfl, hc, fun rest hrest ↦ .atom (hread rest) fun tail he ↦ absurd he (hrest tail)⟩

theorem writesMember_range {first last : Char} (h : first ≤ last) :
    WritesMember (Pattern.render (.range first last)) (.range first last) := by
  obtain ⟨c, cs, hfirst, hc, hread⟩ := writesAtom_literal first
  obtain ⟨d, ds, hlast, hd, hread'⟩ := writesAtom_literal last
  refine ⟨c, cs ++ '-' :: d :: ds, by rw [Pattern.render, hfirst, hlast]; rfl, hc, fun rest _ ↦ ?_⟩
  rw [List.append_assoc]
  exact .join (hread _) hd.1 (hread' rest) (.range h)

theorem writesMember_of_isMember {m : Pattern} (h : m.isMember) : WritesMember m.render m := by
  cases m with
  | literal c => exact (writesAtom_literal c).writesMember
  | range first last => exact writesMember_range (of_decide_eq_true h)
  | shorthand tag => exact (writesAtom_shorthand h).writesMember
  | _ => cases h

/-- What is written for members does not begin with a dash or a caret, not even where there are
none and the bracket is closed at once. -/
theorem renderAll_close_ne {ms : List Pattern} (h : ∀ m ∈ ms, m.isMember) {c : Char}
    (hc : c = '-' ∨ c = '^') (tail : List Char) : Pattern.renderAll ms ++ [']'] ≠ c :: tail := by
  intro he
  cases ms with
  | nil =>
    obtain ⟨rfl, -⟩ := List.cons.inj he
    revert hc
    decide
  | cons m ms =>
    obtain ⟨d, ds, hm, hd, -⟩ := writesMember_of_isMember (h m List.mem_cons_self)
    rw [Pattern.renderAll, hm] at he
    obtain ⟨rfl, -⟩ := List.cons.inj he
    exact hc.elim hd.2.1 hd.2.2

theorem readsMembers_renderAll {ms : List Pattern} (h : ∀ m ∈ ms, m.isMember) :
    ReadsMembers (Pattern.renderAll ms ++ [']']) ms [] := by
  induction ms with
  | nil => exact .close []
  | cons m ms ih =>
    obtain ⟨hm, hms⟩ := List.forall_mem_cons.1 h
    obtain ⟨c, cs, hrender, hc, hread⟩ := writesMember_of_isMember hm
    rw [Pattern.renderAll, hrender, List.append_assoc]
    exact .member hc.1 (hread _ (renderAll_close_ne hms (.inl rfl))) (ih hms)

end Bracket

namespace Pattern

def bracketText (ms : List Pattern) (negated : Bool) : String :=
  "[" ++ (if negated then "^" else "") ++ String.join (ms.map text) ++ "]"

theorem toList_join_map_text (ms : List Pattern) :
    (String.join (ms.map text)).toList = renderAll ms := by
  induction ms with
  | nil => rfl
  | cons m ms ih =>
    rw [List.map_cons, String.join_cons, String.toList_append, ih, text, String.toList_ofList,
      renderAll]

theorem toList_bracketText (ms : List Pattern) (negated : Bool) :
    (bracketText ms negated).toList =
      '[' :: (Bracket.caret negated ++ (renderAll ms ++ [']'])) := by
  simp only [bracketText, String.toList_append, toList_join_map_text]
  cases negated <;> simp [Bracket.caret]

/-- Members are read back, each as itself, from what is written for them one behind the other
between brackets. -/
theorem parse_bracketText {ms : List Pattern} (h : ∀ m ∈ ms, m.isMember) (negated : Bool) :
    parse (bracketText ms negated) = .ok (.bracket ms negated (bracketText ms negated)) := by
  have hcaret : negated = false → ∀ tail, renderAll ms ++ [']'] ≠ '^' :: tail :=
    fun _ ↦ Bracket.renderAll_close_ne h (.inr rfl)
  have hread := Bracket.read_of_readsMembers (Bracket.readsMembers_renderAll h) hcaret []
  rw [List.append_nil, ← toList_bracketText, String.ofList_toList] at hread
  refine parse_of_reads ⟨'[', _, toList_bracketText ms negated, ?_⟩
  rw [List.append_nil, Token.read, hread]
  rfl

def crowdedMembers : List Pattern :=
  [.literal '^', .literal '-', .shorthand 'd', .literal '-', .range '-' ']', .literal 'b',
    .range '\\' 'é', .literal '\x08']

theorem parse_bracketText_crowdedMembers :
    (∀ m ∈ crowdedMembers, m.isMember) ∧
      parse (bracketText crowdedMembers true) =
        .ok (.bracket crowdedMembers true (bracketText crowdedMembers true)) :=
  have h : ∀ m ∈ crowdedMembers, m.isMember := by decide
  ⟨h, parse_bracketText h true⟩

end Pattern

end RegexWords
