import RegexWords.Proofs.Pattern.ByteDescent

namespace RegexWords

open Text

namespace Bounds

variable {cs rest digits text : List Char} {n : ℕ} {b : Bounds}

theorem WritesNumber.readsNumber (h : WritesNumber digits n) : ReadsNumber digits n :=
  readsNumber_of_isDigit h.ne_nil h.isDigit h.value h.le_greatest

theorem Spells.read?_append (h : b.Spells text) (rest : List Char) :
    read? (text ++ rest) = some (b, rest) := by
  cases h with
  | exactly hn => simpa using read?_exactly hn.readsNumber rest
  | atLeast hn => simpa using read?_atLeast hn.readsNumber rest
  | between hn hm => simpa using read?_between hn.readsNumber hm.readsNumber rest

theorem read?_eq_some_iff :
    read? cs = some (b, rest) ↔ ∃ text, cs = text ++ rest ∧ b.Spells text := by
  constructor
  · exact exists_of_read?
  · rintro ⟨text, rfl, h⟩
    exact h.read?_append rest

theorem read?_eq_none_iff :
    read? cs = none ↔ ∀ (b : Bounds) text, b.Spells text → ¬text <+: cs := by
  rw [Option.eq_none_iff_forall_ne_some]
  constructor
  · intro h b text htext hprefix
    obtain ⟨rest, rfl⟩ := hprefix
    exact h (b, rest) (htext.read?_append rest)
  · intro h x hread
    obtain ⟨text, rfl, htext⟩ := exists_of_read? hread
    exact h x.1 text htext (List.prefix_append text x.2)

end Bounds

namespace Draft

variable {d : Draft} {text cs rest : List Char} {b : Bounds}

theorem StandsAt.add_brace (h : d.StandsAt text ('{' :: cs)) (hread : Bounds.read? cs = none) :
    (d.add (.literal '{')).StandsAt text cs := by
  have htoken : Token.read '{' cs = .ok (.item (.literal '{'), cs) := by
    simp only [Token.read, hread]
  exact .behind h htoken rfl

theorem exists_read_brace (hread : Bounds.read? cs = some (b, rest)) :
    ∃ greedy tail, tail <:+ rest ∧ Token.read '{' cs = .ok (.repetition b greedy, tail) := by
  obtain ⟨greedy, hgreedy⟩ := Token.readRepetition_fst b rest
  refine ⟨greedy, _, Token.isSuffix_readRepetition b rest, ?_⟩
  rw [← hgreedy]
  simp only [Token.read, hread]

/-- Bounds with nothing before them that they could repeat are the error of the whole text. -/
theorem StandsAt.read_eq_nothingToRepeat (h : d.StandsAt text ('{' :: cs))
    (hread : Bounds.read? cs = some (b, rest))
    (hitems : ∀ p ∈ d.branches.items.head?, ¬p.isRepeatable) :
    Pattern.read text = .error ⟨.nothingToRepeat, '{' :: cs⟩ := by
  obtain ⟨greedy, tail, -, htoken⟩ := exists_read_brace hread
  have hcomplete : d.complete ('{' :: cs) = .error ⟨.nothingToRepeat, '{' :: cs⟩ :=
    complete_of_repeatLast_error htoken (repeatLast_eq_nothingToRepeat hitems)
  rw [Pattern.read, h.extend_eq]
  exact hcomplete

theorem StandsAt.repeat_brace {closed items : List Pattern} {groups : List OpenGroup} {p : Pattern}
    (h : StandsAt text ⟨⟨closed, p :: items⟩, groups⟩ ('{' :: cs))
    (hread : Bounds.read? cs = some (b, rest)) (hp : p.isRepeatable) (horder : b.inOrder) :
    ∃ greedy tail, tail <:+ rest ∧
      StandsAt text ⟨⟨closed, .repetition b greedy p :: items⟩, groups⟩ tail := by
  obtain ⟨greedy, tail, htail, htoken⟩ := exists_read_brace hread
  exact ⟨greedy, tail, htail, .behind h htoken (push_eq_ok (.repetition hp horder))⟩

end Draft

theorem Pattern.parseFrom_zero_of_read_eq_error {text : String} {front place : List Char}
    {kind : ParseErrorKind} (htext : text.toList = front ++ place)
    (hread : read text.toList = .error ⟨kind, place⟩) (hrest : Failure.rest ⟨kind, place⟩ = place) :
    parseFrom text 0 = some (.error ⟨kind, byteLength front⟩, byteLength front) := by
  have hoffset : byteLength text.toList - byteLength place = byteLength front := by
    rw [htext]
    exact offsetOf_append front place
  have hparse : parse text = .error ⟨kind, byteLength front⟩ := by
    rw [parse, hread, ← hoffset]
    rfl
  rw [parseFrom_zero, hparse, readLength, hread]
  simp only [hrest, hoffset]

namespace ByteReader

section Places

variable {α : Type} {text front taken cs : List Char} {x : ByteReader α} {a : α}
  {r : Except Failure (α × List Char)}

theorem Gives.eq_outcome (htext : text = front ++ cs) (h : Gives text x cs r) :
    x (byteLength front) = outcome text r := by
  rw [Gives, htext, offsetOf_append] at h
  rw [htext]
  exact h

theorem outcome_ok (htext : text = front ++ cs) (a : α) :
    outcome text (.ok (a, cs)) = some (.ok a, byteLength front) := by
  rw [outcome, htext, offsetOf_append]

theorem outcome_error {kind : ParseErrorKind} (htext : text = front ++ cs)
    (hrest : Failure.rest ⟨kind, cs⟩ = cs) :
    outcome text (.error ⟨kind, cs⟩ : Except Failure (α × List Char)) =
      some (.error ⟨kind, byteLength front⟩, byteLength front) := by
  have hoffset : offsetOf text cs = byteLength front := by
    rw [htext, offsetOf_append]
  rw [outcome, hrest, hoffset, ← hoffset]
  rfl

end Places

section Braces

variable {text cs : List Char}

theorem gives_quantifier_brace (h : '{' :: cs <:+ text) :
    Gives text (quantifier text) ('{' :: cs) (found ('{' :: cs) (Bounds.read? cs)) :=
  (gives_peek h).bind (gives_braces h)

theorem gives_atom_brace (h : '{' :: cs <:+ text) (fuel : ℕ) :
    Gives text (atom text (fuel + 1)) ('{' :: cs)
      (if (Bounds.read? cs).isSome then .error ⟨.nothingToRepeat, '{' :: cs⟩
        else .ok (.literal '{', cs)) := by
  rw [atom]
  refine (gives_peek h).bind ((gives_isBounds h).bind ?_)
  cases (Bounds.read? cs).isSome with
  | true => exact gives_fail rfl
  | false => exact (gives_advance h).bind (gives_pure _)

theorem exists_of_spells {b : Bounds} {written : List Char} (hwritten : written <+: cs)
    (h : b.Spells written) : ∃ rest, cs = written ++ rest ∧ Bounds.read? cs = some (b, rest) := by
  obtain ⟨rest, rfl⟩ := hwritten
  exact ⟨rest, rfl, Bounds.read?_eq_some_iff.2 ⟨written, rfl, h⟩⟩

end Braces

section Recognition

variable {text : String} {front cs written rest : List Char} {b : Bounds}

theorem toList_eq_behind (htext : text.toList = front ++ '{' :: cs) (hcs : cs = written ++ rest) :
    text.toList = (front ++ '{' :: written) ++ rest := by
  rw [htext, hcs, List.append_assoc, List.cons_append]

theorem braces_eq_some (htext : text.toList = front ++ '{' :: cs) (hcs : cs = written ++ rest)
    (hread : Bounds.read? cs = some (b, rest)) :
    braces text.toList (byteLength front) =
      some (.ok (some b), byteLength (front ++ '{' :: written)) := by
  have hgives := gives_braces (htext ▸ List.suffix_append front ('{' :: cs))
  rw [hgives.eq_outcome htext, hread]
  exact outcome_ok (toList_eq_behind htext hcs) (some b)

theorem braces_eq_none (htext : text.toList = front ++ '{' :: cs)
    (hread : Bounds.read? cs = none) :
    braces text.toList (byteLength front) = some (.ok none, byteLength front) := by
  have hgives := gives_braces (htext ▸ List.suffix_append front ('{' :: cs))
  rw [hgives.eq_outcome htext, hread]
  exact outcome_ok htext none

theorem quantifier_eq_braces (htext : text.toList = front ++ '{' :: cs) :
    quantifier text.toList (byteLength front) = braces text.toList (byteLength front) := by
  have hsuffix := htext ▸ List.suffix_append front ('{' :: cs)
  rw [(gives_quantifier_brace hsuffix).eq_outcome htext, (gives_braces hsuffix).eq_outcome htext]

theorem isBounds_eq (htext : text.toList = front ++ '{' :: cs) :
    isBounds text.toList (byteLength front) =
      some (.ok (Bounds.read? cs).isSome, byteLength front) := by
  have hgives := gives_isBounds (htext ▸ List.suffix_append front ('{' :: cs))
  rw [hgives.eq_outcome htext]
  exact outcome_ok htext _

theorem atom_eq_nothingToRepeat (htext : text.toList = front ++ '{' :: cs)
    (hread : Bounds.read? cs = some (b, rest)) (fuel : ℕ) :
    atom text.toList (fuel + 1) (byteLength front) =
      some (.error ⟨.nothingToRepeat, byteLength front⟩, byteLength front) := by
  have hgives := gives_atom_brace (htext ▸ List.suffix_append front ('{' :: cs)) fuel
  rw [hgives.eq_outcome htext, hread]
  exact outcome_error htext rfl

theorem atom_eq_literal (htext : text.toList = front ++ '{' :: cs)
    (hread : Bounds.read? cs = none) (fuel : ℕ) :
    atom text.toList (fuel + 1) (byteLength front) =
      some (.ok (.literal '{'), byteLength front + 1) := by
  have hgives := gives_atom_brace (htext ▸ List.suffix_append front ('{' :: cs)) fuel
  have hbehind : text.toList = (front ++ ['{']) ++ cs := by
    rw [htext, List.append_assoc]
    rfl
  have hlength : byteLength (front ++ ['{']) = byteLength front + 1 := byteLength_append _ _
  rw [hgives.eq_outcome htext, hread, ← hlength]
  exact outcome_ok hbehind _

/-- A brace opens bounds just where they are written behind it, leading zeros allowed and no number
above `Bounds.greatest`: then the reader of bounds gives them and stands behind the brace that ends
them, they repeat the item before them, and where an item should begin they are an error at the
brace. Everywhere else the reader gives none and stands where it was, whether it looks for a mark or
for an item, and the brace is a character. -/
theorem braces_eq_some_iff_spells (htext : text.toList = front ++ '{' :: cs) :
    (∀ b stop, braces text.toList (byteLength front) = some (.ok (some b), stop) ↔
      ∃ written, written <+: cs ∧ b.Spells written ∧
        stop = byteLength (front ++ '{' :: written)) ∧
    (∀ (b : Bounds) written, written <+: cs → b.Spells written →
      quantifier text.toList (byteLength front) =
        some (.ok (some b), byteLength (front ++ '{' :: written)) ∧
      isBounds text.toList (byteLength front) = some (.ok true, byteLength front) ∧
      (∀ fuel, atom text.toList (fuel + 1) (byteLength front) =
        some (.error ⟨.nothingToRepeat, byteLength front⟩, byteLength front)) ∧
      ∀ d : Draft, d.StandsAt text.toList ('{' :: cs) →
        ((∀ p ∈ d.branches.items.head?, ¬p.isRepeatable) → Pattern.parseFrom text 0 =
          some (.error ⟨.nothingToRepeat, byteLength front⟩, byteLength front)) ∧
        ∀ closed p items groups, d = ⟨⟨closed, p :: items⟩, groups⟩ → p.isRepeatable → b.inOrder →
          ∃ greedy rest, front ++ '{' :: written ++ rest = text.toList ∧ ∃ tail, tail <:+ rest ∧
            Draft.StandsAt text.toList ⟨⟨closed, .repetition b greedy p :: items⟩, groups⟩ tail) ∧
    ((∀ (b : Bounds) written, b.Spells written → ¬written <+: cs) →
      braces text.toList (byteLength front) = some (.ok none, byteLength front) ∧
      quantifier text.toList (byteLength front) = some (.ok none, byteLength front) ∧
      isBounds text.toList (byteLength front) = some (.ok false, byteLength front) ∧
      (∀ fuel, atom text.toList (fuel + 1) (byteLength front) =
        some (.ok (.literal '{'), byteLength front + 1)) ∧
      ∀ d : Draft, d.StandsAt text.toList ('{' :: cs) →
        (d.add (.literal '{')).StandsAt text.toList cs) := by
  refine ⟨fun b stop ↦ ?_, fun b written hwritten hspells ↦ ?_, fun hnone ↦ ?_⟩
  · constructor
    · intro h
      cases hread : Bounds.read? cs with
      | none =>
        rw [braces_eq_none htext hread] at h
        cases h
      | some x =>
        obtain ⟨b', rest⟩ := x
        obtain ⟨written, hcs, hspells⟩ := Bounds.read?_eq_some_iff.1 hread
        rw [braces_eq_some htext hcs hread] at h
        cases h
        exact ⟨written, ⟨rest, hcs.symm⟩, hspells, rfl⟩
    · rintro ⟨written, hwritten, hspells, rfl⟩
      obtain ⟨rest, hcs, hread⟩ := exists_of_spells hwritten hspells
      exact braces_eq_some htext hcs hread
  · obtain ⟨rest, hcs, hread⟩ := exists_of_spells hwritten hspells
    refine ⟨?_, ?_, atom_eq_nothingToRepeat htext hread, fun d hd ↦ ⟨fun hitems ↦ ?_, ?_⟩⟩
    · rw [quantifier_eq_braces htext]
      exact braces_eq_some htext hcs hread
    · rw [isBounds_eq htext, hread]
      rfl
    · exact Pattern.parseFrom_zero_of_read_eq_error htext
        (hd.read_eq_nothingToRepeat hread hitems) rfl
    · rintro closed p items groups rfl hp horder
      obtain ⟨greedy, tail, htail, hstands⟩ := hd.repeat_brace hread hp horder
      exact ⟨greedy, rest, (toList_eq_behind htext hcs).symm, tail, htail, hstands⟩
  · have hread := Bounds.read?_eq_none_iff.2 hnone
    have hbraces := braces_eq_none htext hread
    refine ⟨hbraces, ?_, ?_, atom_eq_literal htext hread, fun d hd ↦ hd.add_brace hread⟩
    · rw [quantifier_eq_braces htext, hbraces]
    · rw [isBounds_eq htext, hread]
      rfl

/-- Leading zeros are digits as others, and a number that is one too great leaves the brace a
character. -/
theorem braces_eq_some_iff_spells_tooGreat :
    ("é\x7b007,\x7d\x7b4294967296\x7d".toList =
        ['é'] ++ '{' :: "007,\x7d\x7b4294967296\x7d".toList ∧
      Bounds.Spells "007,\x7d".toList ⟨7, none⟩ ∧
      quantifier "é\x7b007,\x7d\x7b4294967296\x7d".toList 2 = some (.ok (some ⟨7, none⟩), 8)) ∧
    "é\x7b007,\x7d\x7b4294967296\x7d".toList =
        "é\x7b007,\x7d".toList ++ '{' :: "4294967296\x7d".toList ∧
      (∀ (b : Bounds) written, b.Spells written → ¬written <+: "4294967296\x7d".toList) ∧
      ∀ fuel, atom "é\x7b007,\x7d\x7b4294967296\x7d".toList (fuel + 1) 8 =
        some (.ok (.literal '{'), 9) := by
  have hnumber : Bounds.WritesNumber ['0', '0', '7'] 7 :=
    ⟨List.cons_ne_nil _ _, List.all_eq_true.1 rfl, rfl, by unfold Bounds.greatest; omega⟩
  have hspells : Bounds.Spells "007,\x7d".toList ⟨7, none⟩ := .atLeast hnumber
  have hnone : ∀ (b : Bounds) written, b.Spells written → ¬written <+: "4294967296\x7d".toList :=
    Bounds.read?_eq_none_iff.1 rfl
  have hfirst : "é\x7b007,\x7d\x7b4294967296\x7d".toList =
      ['é'] ++ '{' :: "007,\x7d\x7b4294967296\x7d".toList := rfl
  have hsecond : "é\x7b007,\x7d\x7b4294967296\x7d".toList =
      "é\x7b007,\x7d".toList ++ '{' :: "4294967296\x7d".toList := rfl
  obtain ⟨-, hbounds, -⟩ := braces_eq_some_iff_spells hfirst
  obtain ⟨-, -, hcharacter⟩ := braces_eq_some_iff_spells hsecond
  obtain ⟨hquantifier, -⟩ := hbounds _ _ ⟨_, rfl⟩ hspells
  obtain ⟨-, -, -, hatom, -⟩ := hcharacter hnone
  exact ⟨⟨hfirst, hspells, hquantifier⟩, hsecond, hnone, hatom⟩

end Recognition

end ByteReader

end RegexWords
