import RegexWords.Proofs.Pattern.Spelling

namespace RegexWords

open Text

namespace Text

variable {cs rest : List Char} {c : Char} (after : List Char)

theorem fixedHex?_append_of_le {width : ℕ} (h : width ≤ cs.length) :
    fixedHex? width (cs ++ after) = (fixedHex? width cs).map fun p ↦ (p.1, p.2 ++ after) := by
  have htake : (cs ++ after).take width = cs.take width := List.take_append_of_le_length h
  have hdrop : (cs ++ after).drop width = cs.drop width ++ after := List.drop_append_of_le_length h
  unfold fixedHex?
  rw [htake, hdrop]
  split
  · rw [Option.map_map]
    rfl
  · rfl

theorem fixedHex?_eq_none_of_mem {width : ℕ} {d : Char} (hd : hexValue? d = none)
    (h : d ∈ cs.take width) : fixedHex? width cs = none := by
  rw [fixedHex?, hexScalar?, hexNumber?_eq_none_of_mem hd h]
  exact ite_self _

/-- Hexadecimal digits do not reach beyond a character that is none. -/
theorem fixedHex?_append (width : ℕ) {d : Char} (hd : hexValue? d = none) (h : d ∈ cs) :
    fixedHex? width (cs ++ after) = (fixedHex? width cs).map fun p ↦ (p.1, p.2 ++ after) := by
  by_cases hlen : width ≤ cs.length
  · exact fixedHex?_append_of_le after hlen
  · have htake : cs.take width = cs := List.take_of_length_le (by omega)
    have hmem : d ∈ (cs ++ after).take width := by
      rw [List.take_append, htake]
      exact List.mem_append_left _ h
    rw [fixedHex?_eq_none_of_mem hd hmem, fixedHex?_eq_none_of_mem hd (htake.symm ▸ h),
      Option.map_none]

theorem notMem_of_hexScalar? {ds : List Char} {c d : Char} (hd : hexScalar? ds = some d)
    (hc : hexValue? c = none) : c ∉ ds := by
  intro h
  rw [hexScalar?, hexNumber?_eq_none_of_mem hc h] at hd
  cases hd

end Text

namespace Escape

variable {cs rest : List Char} (after : List Char)

theorem signedHexScalar?_eq_none_of_mem {c : Char} (hc : hexValue? c = none) (hplus : c ≠ '+')
    (h : c ∈ cs) : signedHexScalar? cs = none := by
  fun_cases signedHexScalar? cs with
  | case1 d ds =>
    have hmem : c ∈ d :: ds := (List.mem_cons.1 h).resolve_left hplus
    rw [hexScalar?, hexNumber?_eq_none_of_mem hc hmem]
    rfl
  | case2 => rfl
  | case3 => rfl
  | case4 =>
    rw [hexScalar?, hexNumber?_eq_none_of_mem hc h]
    rfl

theorem exists_of_bracedHex? {c : Char} (h : bracedHex? cs = some (c, rest)) :
    ∃ digits, cs = digits ++ '}' :: rest ∧ signedHexScalar? digits = some c := by
  have hsplit := List.takeWhile_append_dropWhile (p := (· != '}')) (l := cs)
  unfold bracedHex? at h
  split at h
  · cases h
  · next d tail hd =>
    obtain ⟨e, he, hr⟩ := Option.map_eq_some_iff.1 h
    cases hr
    have hbrace : d = '}' := by
      have hne := List.head?_dropWhile_not (· != '}') cs
      rw [hd] at hne
      simpa using hne
    subst hbrace
    rw [hd] at hsplit
    exact ⟨_, hsplit.symm, he⟩

theorem bracedHex?_append (hclose : ']' ∈ cs) :
    bracedHex? (cs ++ after) = (bracedHex? cs).map fun p ↦ (p.1, p.2 ++ after) := by
  cases hdrop : cs.dropWhile (· != '}') with
  | nil =>
    have htake : cs.takeWhile (· != '}') = cs := by
      simpa [hdrop] using List.takeWhile_append_dropWhile (p := (· != '}')) (l := cs)
    have hmem : ']' ∈ (cs ++ after).takeWhile (· != '}') := by
      rw [List.takeWhile_append, htake, if_pos rfl]
      exact List.mem_append_left _ hclose
    have hnone : bracedHex? cs = none := by rw [bracedHex?, hdrop]
    rw [hnone, bracedHex?, signedHexScalar?_eq_none_of_mem rfl (by decide) hmem]
    split <;> rfl
  | cons d tail =>
    have htake : (cs.takeWhile (· != '}')).length ≠ cs.length := by
      intro hlen
      have hsplit := congrArg List.length
        (List.takeWhile_append_dropWhile (p := (· != '}')) (l := cs))
      rw [List.length_append, hlen, hdrop, List.length_cons] at hsplit
      omega
    simp [bracedHex?, List.dropWhile_append, List.takeWhile_append, hdrop, htake,
      Function.comp_def]

theorem ne_brace_of_mem {after : List Char} (h : ∀ tail, cs ≠ '{' :: tail) (hclose : ']' ∈ cs) :
    ∀ tail, cs ++ after ≠ '{' :: tail := by
  obtain ⟨c, cs, rfl⟩ := List.exists_cons_of_ne_nil (List.ne_nil_of_mem hclose)
  intro tail he
  rw [List.cons_append, List.cons.injEq] at he
  exact h cs (he.1 ▸ rfl)

theorem read?_of_ne {c : Char} (hu : c ≠ 'u') (hx : c ≠ 'x') (cs : List Char) :
    read? (c :: cs) =
      if isShorthand c then some (shorthand c, cs) else some (character (named c), cs) := by
  rw [read?]
  · rintro tail rfl
    exact absurd rfl hu
  · exact hu
  · exact hx

/-- What is read inside a bracket expression does not depend on the text behind the bracket. -/
theorem read?_append (hclose : ']' ∈ cs) :
    read? (cs ++ after) = (read? cs).map fun p ↦ (p.1, p.2 ++ after) := by
  fun_cases read? cs with
  | case1 => cases hclose
  | case2 cs =>
    have hcs : ']' ∈ cs := by simpa using hclose
    simp [read?, bracedHex?_append after hcs, Function.comp_def]
  | case3 cs hbrace c tail hc =>
    have hcs : ']' ∈ cs := by simpa using hclose
    simp [read?, ne_brace_of_mem hbrace hcs, fixedHex?_append after 4 rfl hcs, hc]
  | case4 cs hbrace hc =>
    have hcs : ']' ∈ cs := by simpa using hclose
    simp [read?, ne_brace_of_mem hbrace hcs, fixedHex?_append after 4 rfl hcs, hc]
  | case5 cs c tail hc =>
    have hcs : ']' ∈ cs := by simpa using hclose
    simp [read?, fixedHex?_append after 2 rfl hcs, hc]
  | case6 cs hc =>
    have hcs : ']' ∈ cs := by simpa using hclose
    simp [read?, fixedHex?_append after 2 rfl hcs, hc]
  | case7 c cs _ hu hx hc =>
    rw [List.cons_append, read?_of_ne hu hx, if_pos hc]
    rfl
  | case8 c cs _ hu hx hc =>
    rw [List.cons_append, read?_of_ne hu hx, if_neg hc]
    rfl

end Escape

namespace Bracket

inductive ReadsAtom : Char → List Char → Pattern → List Char → Prop
  | backspace (rest : List Char) : ReadsAtom '\\' ('b' :: rest) (.literal '\x08') rest
  | dash (rest : List Char) : ReadsAtom '\\' ('-' :: rest) (.literal '-') rest
  | escape {cs rest : List Char} {e : Escape} :
      cs.head? ≠ some 'b' → cs.head? ≠ some '-' → Escape.read? cs = some (e, rest) →
      ReadsAtom '\\' cs e.pattern rest
  | plain {c : Char} (cs : List Char) : c ≠ '\\' → ReadsAtom c cs (.literal c) cs

inductive Joins : Pattern → Pattern → List Pattern → Prop
  | range {first last : Char} :
      first ≤ last → Joins (.literal first) (.literal last) [.range first last]
  | apart {first last : Pattern} :
      (∀ a b, first = .literal a → last ≠ .literal b) →
      Joins first last [first, .literal '-', last]

inductive ReadsMember (c : Char) (cs : List Char) : List Pattern → List Char → Prop
  | atom {p : Pattern} {rest : List Char} :
      ReadsAtom c cs p rest → (∀ tail, rest = '-' :: tail → tail.head? = some ']') →
      ReadsMember c cs [p] rest
  | lastDash {p : Pattern} : ReadsAtom c cs p ['-'] → ReadsMember c cs [p] []
  | join {first last : Pattern} {d : Char} {tail rest : List Char} {ps : List Pattern} :
      ReadsAtom c cs first ('-' :: d :: tail) → d ≠ ']' → ReadsAtom d tail last rest →
      Joins first last ps → ReadsMember c cs ps rest

inductive ReadsMembers : List Char → List Pattern → List Char → Prop
  | close (rest : List Char) : ReadsMembers (']' :: rest) [] rest
  | member {c : Char} {cs tail rest : List Char} {ps qs : List Pattern} :
      c ≠ ']' → ReadsMember c cs ps tail → ReadsMembers tail qs rest →
      ReadsMembers (c :: cs) (ps ++ qs) rest

variable {c : Char} {cs rest after : List Char} {p first last : Pattern} {ps : List Pattern}
  {place : List Char}

theorem readAtom_eq_ok_iff : readAtom c cs = .ok (p, rest) ↔ ReadsAtom c cs p rest := by
  constructor
  · intro h
    fun_cases readAtom c cs with
    | case1 =>
      cases h
      exact .backspace _
    | case2 =>
      cases h
      exact .dash _
    | case3 cs hb hd e tail he =>
      simp only [readAtom, he] at h
      cases h
      refine .escape (fun hhead ↦ ?_) (fun hhead ↦ ?_) he
      · obtain ⟨as, has⟩ := List.head?_eq_some_iff.1 hhead
        exact hb as has
      · obtain ⟨as, has⟩ := List.head?_eq_some_iff.1 hhead
        exact hd as has
    | case4 cs hb hd he => simp [readAtom, he] at h
    | case5 c cs _ _ hc =>
      rw [readAtom] at h
      · cases h
        exact .plain _ hc
      all_goals assumption
  · intro h
    cases h with
    | backspace | dash => rfl
    | escape hb hd he =>
      rw [readAtom, he]
      · exact fun _ htail ↦ hb (congrArg List.head? htail)
      · exact fun _ htail ↦ hd (congrArg List.head? htail)
    | plain _ hc =>
      rw [readAtom]
      · exact hc
      · exact fun _ he ↦ absurd he hc
      · exact fun _ he ↦ absurd he hc

theorem join_eq_ok_iff : join place first last = .ok ps ↔ Joins first last ps := by
  constructor
  · intro h
    fun_cases join place first last with
    | case1 first last hle =>
      rw [join, if_pos hle] at h
      cases h
      exact .range hle
    | case2 first last hle =>
      rw [join, if_neg hle] at h
      cases h
    | case3 _ _ hne =>
      rw [join] at h
      · cases h
        exact .apart hne
      · exact hne
  · intro h
    cases h with
    | range hle => exact if_pos hle
    | apart hne =>
      rw [join]
      exact hne

theorem readMember_eq_ok_iff : readMember c cs = .ok (ps, rest) ↔ ReadsMember c cs ps rest := by
  constructor
  · intro h
    fun_cases readMember c cs with
    | case1 e he => simp [readMember, he] at h
    | case2 first tail ha =>
      simp only [readMember, ha] at h
      cases h
      refine .atom (readAtom_eq_ok_iff.1 ha) fun _ he ↦ ?_
      rw [← (List.cons.inj he).2]
      rfl
    | case3 first ha =>
      simp only [readMember, ha] at h
      cases h
      exact .lastDash (readAtom_eq_ok_iff.1 ha)
    | case4 first d tail hd ha e he => simp [readMember, ha, he] at h
    | case5 first d tail hd ha last rest' hb =>
      simp only [readMember, ha, hb] at h
      obtain ⟨ms, hm, he⟩ := Failure.exists_of_map_ok h
      cases he
      exact .join (readAtom_eq_ok_iff.1 ha) hd (readAtom_eq_ok_iff.1 hb) (join_eq_ok_iff.1 hm)
    | case6 first tail hbracket hdash hrange ha =>
      simp only [readMember, ha] at h
      cases h
      refine .atom (readAtom_eq_ok_iff.1 ha) fun tail he ↦ ?_
      cases tail with
      | nil => exact absurd he hdash
      | cons d tail => exact absurd he (hrange d tail)
  · intro h
    cases h with
    | atom ha hdash =>
      rw [← readAtom_eq_ok_iff] at ha
      rw [readMember, ha]
      split <;> simp_all
    | lastDash ha =>
      rw [← readAtom_eq_ok_iff] at ha
      rw [readMember, ha]
      rfl
    | join ha hd hb hjoin =>
      rw [← readAtom_eq_ok_iff] at ha hb
      simp only [readMember, ha, hb, join_eq_ok_iff.2 hjoin]
      rfl

theorem readMembers_eq_ok_iff :
    readMembers place cs = .ok (ps, rest) ↔ ReadsMembers cs ps rest := by
  constructor
  · intro h
    fun_induction readMembers place cs generalizing ps with
    | case1 => cases h
    | case2 =>
      cases h
      exact .close _
    | case3 => cases h
    | case4 c cs hc ms tail hm _ ih =>
      obtain ⟨r, hr, he⟩ := Failure.exists_of_map_ok h
      cases he
      exact .member hc (readMember_eq_ok_iff.1 hm) (ih hr)
  · intro h
    induction h with
    | close => rw [readMembers]
    | @member c cs tail rest ps qs hc hm _ ih =>
      rw [← readMember_eq_ok_iff] at hm
      rw [readMembers]
      · split
        · next he =>
          rw [hm] at he
          cases he
        · next he =>
          rw [hm] at he
          cases he
          rw [ih]
          rfl
      · exact hc

theorem ReadsAtom.isSuffix (h : ReadsAtom c cs p rest) : rest <:+ cs :=
  isSuffix_of_readAtom (readAtom_eq_ok_iff.2 h)

theorem ReadsMember.isSuffix (h : ReadsMember c cs ps rest) : rest <:+ cs :=
  isSuffix_of_readMember (readMember_eq_ok_iff.2 h)

theorem ReadsMembers.exists_append_close (h : ReadsMembers cs ps rest) :
    ∃ body, cs = body ++ ']' :: rest := by
  induction h with
  | close => exact ⟨[], rfl⟩
  | @member c _ _ _ _ _ _ hm _ ih =>
    obtain ⟨body, rfl⟩ := ih
    obtain ⟨x, rfl⟩ := hm.isSuffix
    exact ⟨c :: (x ++ body), by simp⟩

theorem ReadsMembers.close_mem (h : ReadsMembers cs ps rest) : ']' ∈ cs := by
  obtain ⟨body, rfl⟩ := h.exists_append_close
  exact List.mem_append_right body List.mem_cons_self

section Append

theorem ReadsAtom.append (h : ReadsAtom c cs p rest) (hclose : ']' ∈ rest) (after : List Char) :
    ReadsAtom c (cs ++ after) p (rest ++ after) := by
  cases h with
  | backspace => exact .backspace _
  | dash => exact .dash _
  | @escape _ _ e hb hd he =>
    have hmem := (Escape.properTail_of_read? he).isSuffix.mem hclose
    have hread : Escape.read? (cs ++ after) = some (e, rest ++ after) := by
      rw [Escape.read?_append after hmem, he]
      rfl
    obtain ⟨d, cs, rfl⟩ := List.exists_cons_of_ne_nil (List.ne_nil_of_mem hmem)
    exact .escape hb hd hread
  | plain _ hc => exact .plain _ hc

theorem ReadsAtom.of_append (h : ReadsAtom c (cs ++ after) p (rest ++ after))
    (hclose : ']' ∈ rest) : ReadsAtom c cs p rest := by
  have hmem : ']' ∈ cs := by
    obtain ⟨x, hx⟩ := h.isSuffix
    rw [← List.append_assoc, List.append_cancel_right_eq] at hx
    rw [← hx]
    exact List.mem_append_right x hclose
  generalize hcs : cs ++ after = xs, hrest : rest ++ after = ys at h
  cases h with
  | backspace =>
    subst hrest
    have hfront : cs = 'b' :: rest := List.append_cancel_right hcs
    exact hfront ▸ .backspace rest
  | dash =>
    subst hrest
    have hfront : cs = '-' :: rest := List.append_cancel_right hcs
    exact hfront ▸ .dash rest
  | escape hb hd he =>
    subst hcs hrest
    rw [Escape.read?_append after hmem] at he
    obtain ⟨⟨e, tail⟩, hread, hr⟩ := Option.map_eq_some_iff.1 he
    simp only [Prod.mk.injEq, List.append_cancel_right_eq] at hr
    obtain ⟨rfl, rfl⟩ := hr
    obtain ⟨d, cs, rfl⟩ := List.exists_cons_of_ne_nil (List.ne_nil_of_mem hmem)
    exact .escape hb hd hread
  | plain _ hc =>
    subst hcs
    obtain rfl := List.append_cancel_right hrest
    exact .plain rest hc

theorem ReadsMember.append (h : ReadsMember c cs ps rest) (hclose : ']' ∈ rest)
    (after : List Char) : ReadsMember c (cs ++ after) ps (rest ++ after) := by
  cases h with
  | atom ha hdash =>
    refine .atom (ha.append hclose after) fun tail he ↦ ?_
    obtain ⟨d, behind, rfl⟩ := List.exists_cons_of_ne_nil (List.ne_nil_of_mem hclose)
    rw [List.cons_append, List.cons.injEq] at he
    obtain ⟨rfl, rfl⟩ := he
    rw [List.head?_append, hdash behind rfl]
    rfl
  | lastDash => cases hclose
  | @join _ _ d tail _ _ ha hd hb hjoin =>
    have hmem : ']' ∈ '-' :: d :: tail := by simp [hb.isSuffix.mem hclose]
    exact .join (ha.append hmem after) hd (hb.append hclose after) hjoin

theorem ReadsMember.of_append (h : ReadsMember c (cs ++ after) ps (rest ++ after))
    (hclose : ']' ∈ rest) : ReadsMember c cs ps rest := by
  generalize hrest : rest ++ after = ys at h
  cases h with
  | atom ha hdash =>
    subst hrest
    refine .atom (ha.of_append hclose) fun tail he ↦ ?_
    subst he
    have hmem : ']' ∈ tail := by simpa using hclose
    have hhead := hdash (tail ++ after) rfl
    obtain ⟨d, tail, rfl⟩ := List.exists_cons_of_ne_nil (List.ne_nil_of_mem hmem)
    exact hhead
  | lastDash =>
    obtain ⟨rfl, -⟩ := List.append_eq_nil_iff.1 hrest
    cases hclose
  | @join _ _ d _ _ _ ha hd hb hjoin =>
    subst hrest
    obtain ⟨x, rfl⟩ := hb.isSuffix
    rw [← List.append_assoc] at hb
    rw [← List.append_assoc, ← List.cons_append, ← List.cons_append] at ha
    have hmem : ']' ∈ '-' :: d :: (x ++ rest) := by simp [hclose]
    exact .join (ha.of_append hmem) hd (hb.of_append hclose) hjoin

theorem ReadsMembers.append (h : ReadsMembers cs ps rest) (after : List Char) :
    ReadsMembers (cs ++ after) ps (rest ++ after) := by
  induction h with
  | close => exact .close _
  | member hc hm hr ih => exact .member hc (hm.append hr.close_mem after) ih

theorem ReadsMembers.exists_append (h : ReadsMembers cs ps rest) :
    ∃ used, cs = used ++ rest ∧ ReadsMembers used ps [] := by
  induction h with
  | close => exact ⟨[']'], rfl, .close []⟩
  | @member c _ _ _ _ _ hc hm _ ih =>
    obtain ⟨used, rfl, hused⟩ := ih
    obtain ⟨x, rfl⟩ := hm.isSuffix
    rw [← List.append_assoc] at hm
    exact ⟨c :: (x ++ used), by simp, .member hc (hm.of_append hused.close_mem) hused⟩

end Append

theorem before_self_append (cs rest : List Char) : before rest (cs ++ rest) = cs := by
  simp [before]

def caret (negated : Bool) : List Char :=
  if negated then ['^'] else []

theorem read_caret {negated : Bool} {body : List Char}
    (h : negated = false → ∀ tail, body ≠ '^' :: tail) :
    read (caret negated ++ body) =
      (readMembers ('[' :: (caret negated ++ body)) body).map
        (read.finish ('[' :: (caret negated ++ body)) negated) := by
  cases negated with
  | true => rfl
  | false =>
    rw [caret, if_neg Bool.false_ne_true, List.nil_append, read]
    exact h rfl

theorem exists_of_read (h : read cs = .ok (p, rest)) :
    ∃ ms negated used, cs = caret negated ++ used ++ rest ∧
      (negated = false → ∀ tail, used ≠ '^' :: tail) ∧ ReadsMembers used ms [] ∧
      p = .bracket ms negated (String.ofList ('[' :: (caret negated ++ used))) := by
  obtain ⟨negated, body, rfl, hne⟩ : ∃ negated body, cs = caret negated ++ body ∧
      (negated = false → ∀ tail, body ≠ '^' :: tail) := by
    by_cases hcaret : ∃ body, cs = '^' :: body
    · obtain ⟨body, rfl⟩ := hcaret
      exact ⟨true, body, rfl, by simp⟩
    · exact ⟨false, cs, rfl, fun _ body he ↦ hcaret ⟨body, he⟩⟩
  rw [read_caret hne] at h
  obtain ⟨⟨ms, tail⟩, hr, he⟩ := Failure.exists_of_map_ok h
  obtain ⟨used, rfl, hused⟩ := (readMembers_eq_ok_iff.1 hr).exists_append
  cases he
  refine ⟨ms, negated, used, by simp, fun hn tail he ↦ hne hn (tail ++ rest) ?_, hused, ?_⟩
  · rw [he, List.cons_append]
  · rw [← List.append_assoc, ← List.cons_append, before_self_append]

theorem read_of_readsMembers {ms : List Pattern} {negated : Bool} {used : List Char}
    (h : ReadsMembers used ms []) (hne : negated = false → ∀ tail, used ≠ '^' :: tail)
    (rest : List Char) :
    read (caret negated ++ used ++ rest) =
      .ok (.bracket ms negated (String.ofList ('[' :: (caret negated ++ used))), rest) := by
  have hbody : negated = false → ∀ tail, used ++ rest ≠ '^' :: tail := by
    intro hn tail he
    obtain ⟨c, used, rfl⟩ := List.exists_cons_of_ne_nil (List.ne_nil_of_mem h.close_mem)
    rw [List.cons_append, List.cons.injEq] at he
    exact hne hn used (he.1 ▸ rfl)
  have hbefore : before rest ('[' :: (caret negated ++ used ++ rest)) =
      '[' :: (caret negated ++ used) := by
    rw [← List.cons_append, before_self_append]
  rw [← hbefore, List.append_assoc, read_caret hbody,
    readMembers_eq_ok_iff.2 (h.append rest)]
  rfl

theorem read_append (h : read cs = .ok (p, rest)) (after : List Char) :
    read (cs ++ after) = .ok (p, rest ++ after) := by
  obtain ⟨ms, negated, used, rfl, hne, hused, rfl⟩ := exists_of_read h
  rw [List.append_assoc _ rest]
  exact read_of_readsMembers hused hne (rest ++ after)

end Bracket

end RegexWords
