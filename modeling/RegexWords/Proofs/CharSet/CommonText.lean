import RegexWords.CharSet.ClassText
import RegexWords.Proofs.Pattern.RoundTrip

namespace RegexWords

open Text

namespace Pattern

/-- A member of a bracket expression that names its characters one by one or by a range. -/
def isExplicit : Pattern → Bool
  | .literal _ | .range _ _ => true
  | _ => false

def names : Pattern → Char → Bool
  | .literal c, d => c == d
  | .range first last, d => first ≤ d && d ≤ last
  | _, _ => false

end Pattern

namespace ClassText

def isPunctuation (c : Char) : Bool :=
  c.toNat < 128 && !c.isAlphanum && c ≠ '<' && c ≠ '>'

/-- Behind a backslash, what means the same in a pattern and in a class text. -/
def isCommonEscape : List Char → Bool
  | [] => false
  | 'u' :: '\x7b' :: cs => cs.head? ≠ some '+'
  | 'u' :: cs => (fixedHex? 4 cs).isSome
  | 'x' :: cs => (fixedHex? 2 cs).isSome
  | c :: _ => c ∈ ['b', 't', 'n', 'r', 'f', 'v', '0'] || isPunctuation c

/-- Written twice in a row it is an operator of class texts. -/
def isOperator (c : Char) : Bool :=
  c ∈ ['&', '-', '~']

/-- A text without what only a class text knows: sets within sets, operators, and escapes of its
own. -/
def isCommon : List Char → Bool
  | [] => true
  | '\\' :: c :: cs => isCommonEscape (c :: cs) && isCommon cs
  | c :: cs => c ≠ '[' && (!isOperator c || cs.head? ≠ some c) && isCommon cs

theorem translateFrom_cons_of_ne {c : Char} (hc : c ≠ '\\') (cs : List Char) :
    translateFrom (c :: cs) = c :: translateFrom cs := by
  rw [translateFrom]
  exact fun _ _ he ↦ absurd he hc

theorem translateFrom_append_of_notMem {as : List Char} (has : '\\' ∉ as) (bs : List Char) :
    translateFrom (as ++ bs) = as ++ translateFrom bs := by
  induction as with
  | nil => rfl
  | cons a as ih =>
    rw [List.mem_cons, not_or] at has
    rw [List.cons_append, translateFrom_cons_of_ne (Ne.symm has.1), ih has.2, List.cons_append]

theorem translateFrom_cons (c : Char) (cs : List Char) :
    translateFrom (c :: cs) = c :: (translateFrom (c :: cs)).tail := by
  by_cases hc : c = '\\'
  · subst hc
    cases cs with
    | nil => rfl
    | cons d cs =>
      rw [translateFrom]
      split_ifs <;> rfl
  · rw [translateFrom_cons_of_ne hc, List.tail_cons]

theorem head?_translateFrom (cs : List Char) : (translateFrom cs).head? = cs.head? := by
  cases cs with
  | nil => rfl
  | cons c cs =>
    rw [translateFrom_cons]
    rfl

theorem isCommon_of_ne {c : Char} {cs : List Char} (hc : c ≠ '\\') (h : isCommon (c :: cs)) :
    c ≠ '[' ∧ (isOperator c → cs.head? ≠ some c) ∧ isCommon cs := by
  rw [isCommon] at h
  · simp only [Bool.and_eq_true, Bool.or_eq_true, Bool.not_eq_true', decide_eq_true_eq] at h
    refine ⟨h.1.1, fun hop ↦ ?_, h.2⟩
    exact h.1.2.resolve_left (by simp [hop])
  · exact fun _ _ he ↦ absurd he hc

theorem isCommon_of_append {as bs : List Char} (h : isCommon (as ++ bs)) (has : '\\' ∉ as) :
    isCommon bs := by
  induction as with
  | nil => exact h
  | cons a as ih =>
    rw [List.mem_cons, not_or] at has
    exact ih (isCommon_of_ne (Ne.symm has.1) h).2.2 has.2

theorem translate_of_fixedHex? {width : ℕ} {cs rest : List Char} {c : Char}
    (h : fixedHex? width cs = some (c, rest)) (hcs : isCommon cs) :
    fixedHex? width (translateFrom cs) = some (c, translateFrom rest) ∧ isCommon rest := by
  by_cases hmem : '\\' ∈ cs.take width
  · rw [fixedHex?_eq_none_of_mem rfl hmem] at h
    cases h
  · unfold fixedHex? at h
    split at h
    · next hlen =>
      obtain ⟨d, hd, he⟩ := Option.map_eq_some_iff.1 h
      cases he
      have hsplit := List.take_append_drop width cs
      have htranslate := translateFrom_append_of_notMem hmem (cs.drop width)
      rw [hsplit] at htranslate
      rw [← hsplit] at hcs
      refine ⟨?_, isCommon_of_append hcs hmem⟩
      rw [htranslate, fixedHex?, List.take_left' hlen, List.drop_left' hlen, if_pos hlen, hd]
      rfl
    · cases h

theorem hexScalar?_of_signedHexScalar? {ds : List Char} {c : Char}
    (h : Escape.signedHexScalar? ds = some c) (hplus : ds.head? ≠ some '+') :
    ds ≠ [] ∧ hexScalar? ds = some c := by
  unfold Escape.signedHexScalar? at h
  split at h
  · exact absurd rfl hplus
  · cases h
  · cases h
  · next hne => exact ⟨hne, h⟩

theorem braced?_append {digits : List Char} (h : '}' ∉ digits) (rest : List Char) :
    ClassEscape.braced? (digits ++ '}' :: rest) = some (digits, rest) := by
  have hdigits : ∀ d ∈ digits, (d != '}') = true := by
    intro d hd
    exact bne_iff_ne.2 fun he ↦ h (he ▸ hd)
  rw [ClassEscape.braced?, dropWhile_append_cons hdigits rfl, takeWhile_append_cons hdigits rfl]

theorem translate_of_bracedHex? {cs rest : List Char} {c : Char}
    (h : Escape.bracedHex? cs = some (c, rest)) (hplus : cs.head? ≠ some '+') (hcs : isCommon cs) :
    isCommon rest ∧ ∃ digits, digits ≠ [] ∧ hexScalar? digits = some c ∧
      ClassEscape.braced? (translateFrom cs) = some (digits, translateFrom rest) := by
  obtain ⟨digits, rfl, hsigned⟩ := Escape.exists_of_bracedHex? h
  have hhead : digits.head? ≠ some '+' := by
    intro hd
    rw [List.head?_append, hd] at hplus
    exact hplus rfl
  obtain ⟨hne, hscalar⟩ := hexScalar?_of_signedHexScalar? hsigned hhead
  have hback := notMem_of_hexScalar? hscalar (c := '\\') rfl
  have hbrace := notMem_of_hexScalar? hscalar (c := '}') rfl
  have htail := isCommon_of_append hcs hback
  refine ⟨(isCommon_of_ne (by decide) htail).2.2, digits, hne, hscalar, ?_⟩
  rw [translateFrom_append_of_notMem hback, translateFrom_cons_of_ne (by decide),
    braced?_append hbrace]

theorem hex?_of_fixedHex? {width : ℕ} {cs rest : List Char} {c : Char} (hwidth : 0 < width)
    (h : fixedHex? width cs = some (c, rest)) :
    ClassEscape.hex? width cs = some (.character c, rest) := by
  unfold ClassEscape.hex?
  split
  · next cs =>
    have hbrace : '\x7b' ∈ ('\x7b' :: cs).take width := by
      obtain ⟨k, rfl⟩ : ∃ k, width = k + 1 := ⟨width - 1, by omega⟩
      exact List.mem_cons_self
    rw [fixedHex?_eq_none_of_mem rfl hbrace] at h
    cases h
  · rw [h]
    rfl

theorem hex?_translateFrom {width : ℕ} {cs rest : List Char} {c : Char} (hwidth : 0 < width)
    (h : fixedHex? width cs = some (c, rest)) (hcs : isCommon cs) :
    ClassEscape.hex? width (translateFrom cs) = some (.character c, translateFrom rest) ∧
      isCommon rest := by
  obtain ⟨hread, hrest⟩ := translate_of_fixedHex? h hcs
  exact ⟨hex?_of_fixedHex? hwidth hread, hrest⟩

theorem simple?_of_isPunctuation {c : Char} (h : isPunctuation c) :
    ClassEscape.simple? c = some (.character c) ∧ Escape.named c = c := by
  simp only [isPunctuation, Bool.and_eq_true, decide_eq_true_eq, ne_eq] at h
  obtain ⟨⟨⟨hascii, halnum⟩, hlt⟩, hgt⟩ := h
  constructor
  · fun_cases ClassEscape.simple? c
    all_goals simp_all
  · unfold Escape.named
    split <;> simp_all

theorem read?_of_simple {c : Char} (hx : c ∉ ['x', 'u', 'U', 'p', 'P']) (cs : List Char) :
    ClassEscape.read? (c :: cs) = (ClassEscape.simple? c).map (·, cs) := by
  simp only [List.mem_cons, List.not_mem_nil, or_false, not_or] at hx
  rw [ClassEscape.read?] <;> simp_all

theorem translateFrom_escape {c : Char} (hb : c ≠ 'b') (hzero : c ≠ '0') (cs : List Char) :
    translateFrom ('\\' :: c :: cs) = '\\' :: c :: translateFrom cs := by
  rw [translateFrom, if_neg hb, if_neg hzero]

theorem read?_named {c : Char} (hu : c ≠ 'u') (hx : c ≠ 'x') (hb : c ≠ 'b') {cs : List Char}
    (h : isCommonEscape (c :: cs)) :
    ClassEscape.read? (translateFrom ('\\' :: c :: cs)).tail =
      some (.character (Escape.named c), translateFrom cs) := by
  have hc : c ∈ ['b', 't', 'n', 'r', 'f', 'v', '0'] ∨ isPunctuation c := by
    rw [isCommonEscape] at h
    · simpa using h
    · exact fun _ he ↦ absurd he hu
    · exact fun he ↦ absurd he hu
    · exact fun he ↦ absurd he hx
  rcases hc with hc | hc
  · simp only [List.mem_cons, List.not_mem_nil, or_false, hb, false_or] at hc
    rcases hc with rfl | rfl | rfl | rfl | rfl | rfl
    all_goals rfl
  · obtain ⟨hsimple, hnamed⟩ := simple?_of_isPunctuation hc
    have hletters : c ∉ ['x', 'u', 'U', 'p', 'P'] := by
      intro hmem
      simp only [List.mem_cons, List.not_mem_nil, or_false] at hmem
      rcases hmem with rfl | rfl | rfl | rfl | rfl
      all_goals exact absurd hc (by decide)
    have hzero : c ≠ '0' := by
      rintro rfl
      exact absurd hc (by decide)
    rw [translateFrom_escape hb hzero, List.tail_cons, read?_of_simple hletters, hsimple, hnamed]
    rfl

/-- An escape that is common means the same in a class text. -/
theorem read?_of_isCommonEscape {cs rest : List Char} {c : Char}
    (h : Escape.read? cs = some (.character c, rest)) (hb : cs.head? ≠ some 'b')
    (he : isCommonEscape cs) (hcs : isCommon cs.tail) :
    ClassEscape.read? (translateFrom ('\\' :: cs)).tail = some (.character c, translateFrom rest) ∧
      isCommon rest := by
  fun_cases Escape.read? cs with
  | case1 => cases h
  | case2 cs =>
    obtain ⟨⟨d, tail⟩, hd, hr⟩ := Option.map_eq_some_iff.1 h
    cases hr
    have hplus : cs.head? ≠ some '+' := by simpa [isCommonEscape] using he
    obtain ⟨hrest, digits, hne, hscalar, hbraced⟩ :=
      translate_of_bracedHex? hd hplus (isCommon_of_ne (by decide) hcs).2.2
    obtain ⟨e, es, rfl⟩ := List.exists_cons_of_ne_nil hne
    refine ⟨?_, hrest⟩
    rw [translateFrom_escape (by decide) (by decide), translateFrom_cons_of_ne (by decide)]
    simp [ClassEscape.read?, ClassEscape.hex?, hbraced, hscalar]
  | case3 cs _ d tail hd =>
    simp only [Escape.read?, hd, Option.some.injEq, Prod.mk.injEq, Escape.character.injEq] at h
    obtain ⟨rfl, rfl⟩ := h
    rw [translateFrom_escape (by decide) (by decide)]
    exact hex?_translateFrom (by decide) hd hcs
  | case4 cs hbrace hd => simp [isCommonEscape, hd] at he
  | case5 cs d tail hd =>
    simp only [Escape.read?, hd, Option.some.injEq, Prod.mk.injEq, Escape.character.injEq] at h
    obtain ⟨rfl, rfl⟩ := h
    rw [translateFrom_escape (by decide) (by decide)]
    exact hex?_translateFrom (by decide) hd hcs
  | case6 cs hd => simp [isCommonEscape, hd] at he
  | case7 c cs _ hu hx hc =>
    rw [Escape.read?_of_ne hu hx, if_pos hc] at h
    cases h
  | case8 c cs _ hu hx hc =>
    rw [Escape.read?_of_ne hu hx, if_neg hc] at h
    cases h
    exact ⟨read?_named hu hx (fun he ↦ hb (congrArg some he)) he, hcs⟩

theorem readAtom_of_isCommon {c : Char} {cs rest : List Char} {p : Pattern}
    (h : Bracket.ReadsAtom c cs p rest) (hp : p.isExplicit) (hcs : isCommon (c :: cs)) :
    ∃ d, p = .literal d ∧
      OpenSet.readAtom c (translateFrom (c :: cs)).tail = some (.character d, translateFrom rest) ∧
      isCommon rest := by
  cases h with
  | backspace =>
    rw [isCommon, Bool.and_eq_true] at hcs
    exact ⟨_, rfl, rfl, hcs.2⟩
  | dash =>
    rw [isCommon, Bool.and_eq_true] at hcs
    exact ⟨_, rfl, rfl, hcs.2⟩
  | @escape _ _ e hb _ he =>
    cases e with
    | shorthand tag => cases hp
    | character d =>
      cases cs with
      | nil => cases he
      | cons a as =>
        rw [isCommon, Bool.and_eq_true] at hcs
        obtain ⟨hread, hrest⟩ := read?_of_isCommonEscape he hb hcs.1 hcs.2
        refine ⟨d, rfl, ?_, hrest⟩
        rw [OpenSet.readAtom, if_pos rfl, hread]
  | plain _ hc =>
    rw [translateFrom_cons_of_ne hc]
    exact ⟨c, rfl, if_neg hc, (isCommon_of_ne hc hcs).2.2⟩

theorem isExplicit_of_joins {first last : Pattern} {ps : List Pattern}
    (h : Bracket.Joins first last ps) (hps : ∀ p ∈ ps, p.isExplicit) :
    first.isExplicit ∧ last.isExplicit := by
  cases h with
  | range => exact ⟨rfl, rfl⟩
  | apart => exact ⟨hps _ (by simp), hps _ (by simp)⟩

theorem readMember_of_isCommon {c : Char} {cs rest : List Char} {ps : List Pattern}
    (h : Bracket.ReadsMember c cs ps rest) (hps : ∀ p ∈ ps, p.isExplicit)
    (hcs : isCommon (c :: cs)) (hrest : rest ≠ []) :
    ∃ t, OpenSet.readMember c (translateFrom (c :: cs)).tail = some (t, translateFrom rest) ∧
      (∀ x, t.contains x = ps.any (·.names x)) ∧ isCommon rest := by
  cases h with
  | atom ha hdash =>
    obtain ⟨d, rfl, hatom, htail⟩ := readAtom_of_isCommon ha (hps _ (by simp)) hcs
    refine ⟨.singleton d, ?_, by simp [Pattern.names], htail⟩
    simp only [OpenSet.readMember, hatom]
    split
    · next e behind hbehind =>
      have hhead := head?_translateFrom rest
      rw [hbehind] at hhead
      obtain ⟨tail, rfl⟩ := List.head?_eq_some_iff.1 hhead.symm
      have hnext : tail.head? = some e := by
        rw [translateFrom_cons_of_ne (by decide), List.cons.injEq] at hbehind
        rw [← head?_translateFrom, hbehind.2]
        rfl
      have he : e = ']' := Option.some.inj (hnext.symm.trans (hdash tail rfl))
      rw [if_pos (.inl he), hbehind]
      rfl
    · rfl
  | lastDash => exact absurd rfl hrest
  | @join _ _ d tail _ _ ha hd hb hjoin =>
    obtain ⟨hfirst, hlast⟩ := isExplicit_of_joins hjoin hps
    obtain ⟨a, rfl, hatom, htail⟩ := readAtom_of_isCommon ha hfirst hcs
    obtain ⟨-, hdash, htail⟩ := isCommon_of_ne (by decide) htail
    obtain ⟨b, rfl, hatom', htail'⟩ := readAtom_of_isCommon hb hlast htail
    have hdashed : translateFrom ('-' :: d :: tail) =
        '-' :: d :: (translateFrom (d :: tail)).tail := by
      rw [translateFrom_cons_of_ne (by decide), ← translateFrom_cons]
    rw [hdashed] at hatom
    cases hjoin with
    | range hle =>
      have hsecond : d ≠ '-' := fun he ↦ hdash rfl (congrArg some he)
      refine ⟨.range a b, ?_, by simp [Pattern.names, CharSet.contains], htail'⟩
      simp [OpenSet.readMember, hatom, hatom', hd, hsecond, OpenSet.range?, hle]
    | apart hne => exact absurd rfl (hne a b rfl)

theorem read_member {s : OpenSet} {around : List OpenSet} {c : Char} {cs rest : List Char}
    {t : CharSet} (hclose : c ≠ ']') (hopen : c ≠ '[') (hop : isOperator c → cs.head? ≠ some c)
    (h : OpenSet.readMember c cs = some (t, rest)) :
    s.read around (c :: cs) = (s.add t).read around rest := by
  have hne {d : Char} (hd : isOperator d) (tail : List Char) : c = d → cs = d :: tail → False := by
    intro he htail
    subst he htail
    exact hop hd rfl
  rw [OpenSet.read]
  · split
    · next u tail hu =>
      rw [h] at hu
      cases hu
      rfl
    · next hu =>
      rw [h] at hu
      cases hu
  · exact hclose
  · exact hne rfl
  · exact hne rfl
  · exact hne rfl
  · exact hopen

theorem read_close {s : OpenSet} (rest : List Char) :
    s.read [] (']' :: rest) = some (s.close, rest) := by
  rw [OpenSet.read]

theorem read_of_readsMembers {cs rest : List Char} {ms : List Pattern} {s : OpenSet}
    (h : Bracket.ReadsMembers cs ms rest) (hms : ∀ m ∈ ms, m.isExplicit)
    (hcs : isCommon cs) (hs : s.left = none) :
    ∃ t, s.read [] (translateFrom cs) = some (t, translateFrom rest) ∧
      ∀ x, t.contains x = (s.negated ^^ (s.members.contains x || ms.any (·.names x))) := by
  induction h generalizing s with
  | close =>
    refine ⟨s.close, read_close _, fun x ↦ ?_⟩
    simp [OpenSet.close, OpenSet.value, hs]
  | @member c cs _ _ _ _ hc hm hr ih =>
    obtain ⟨hps, hqs⟩ := List.forall_mem_append.1 hms
    have htail := List.ne_nil_of_mem hr.close_mem
    obtain ⟨t, hread, ht, hcommon⟩ := readMember_of_isCommon hm hps hcs htail
    obtain ⟨u, hu, hcontains⟩ := ih hqs hcommon (s := s.add t) hs
    refine ⟨u, ?_, fun x ↦ ?_⟩
    · obtain ⟨hopen, hop⟩ :
          c ≠ '[' ∧ (isOperator c → (translateFrom (c :: cs)).tail.head? ≠ some c) := by
        by_cases hback : c = '\\'
        · subst hback
          exact ⟨by decide, fun hop ↦ absurd hop (by decide)⟩
        · have hfront := isCommon_of_ne hback hcs
          rw [translateFrom_cons_of_ne hback, List.tail_cons, head?_translateFrom]
          exact ⟨hfront.1, hfront.2.1⟩
      rw [translateFrom_cons, read_member hc hopen hop hread, hu]
    · rw [hcontains]
      simp [OpenSet.add, CharSet.contains, ht, Bool.or_assoc]

/-- A dash that no second one follows is a member of its own. -/
theorem eq_of_readsMember_dash {cs rest : List Char} {ps : List Pattern}
    (h : Bracket.ReadsMember '-' cs ps rest) (hcs : cs.head? ≠ some '-') :
    ps = [.literal '-'] ∧ rest = cs := by
  cases h with
  | atom ha =>
    cases ha
    exact ⟨rfl, rfl⟩
  | lastDash ha =>
    cases ha
    exact absurd rfl hcs
  | join ha =>
    cases ha
    exact absurd rfl hcs

theorem dropWhile_dash {cs : List Char} (h : cs.head? ≠ some '-') :
    cs.dropWhile (· = '-') = cs := by
  cases cs with
  | nil => rfl
  | cons d ds => exact List.dropWhile_cons_of_neg (by simpa using h)

theorem readFront_eq {cs : List Char} (s : OpenSet) (hclose : cs.head? ≠ some ']')
    (hdash : cs.head? ≠ some '-') : OpenSet.readFront s cs = (s, cs) := by
  unfold OpenSet.readFront
  split
  · exact absurd rfl hclose
  · exact absurd rfl hdash
  · rfl

theorem charSet_read?_of_readsMembers {body rest : List Char} {ms : List Pattern}
    (h : Bracket.ReadsMembers body ms rest) (hms : ∀ m ∈ ms, m.isExplicit)
    (hbody : isCommon body) (hclose : body.head? ≠ some ']') :
    ∃ t, CharSet.read? ('^' :: translateFrom body) = some (t, translateFrom rest) ∧
      ∀ x, t.contains x = !ms.any (·.names x) := by
  by_cases hdash : body.head? = some '-'
  · obtain ⟨cs, rfl⟩ := List.head?_eq_some_iff.1 hdash
    obtain ⟨-, hop, hcs⟩ := isCommon_of_ne (by decide) hbody
    obtain ⟨ns, rfl, hns⟩ : ∃ ns, ms = .literal '-' :: ns ∧ Bracket.ReadsMembers cs ns rest := by
      cases h with
      | member _ hm hr =>
        obtain ⟨rfl, rfl⟩ := eq_of_readsMember_dash hm (hop rfl)
        exact ⟨_, rfl, hr⟩
    obtain ⟨t, ht, hcontains⟩ := read_of_readsMembers hns (List.forall_mem_cons.1 hms).2 hcs
      (s := OpenSet.add ⟨true, none, .empty⟩ (.singleton '-')) rfl
    have hhead : (translateFrom cs).head? ≠ some '-' := by
      rw [head?_translateFrom]
      exact hop rfl
    refine ⟨t, ?_, fun x ↦ ?_⟩
    · rw [translateFrom_cons_of_ne (by decide), CharSet.read?, OpenSet.ofText, OpenSet.readFront,
        dropWhile_dash hhead, ht]
    · simp [hcontains, OpenSet.add, CharSet.contains, Pattern.names]
  · obtain ⟨t, ht, hcontains⟩ := read_of_readsMembers h hms hbody (s := ⟨true, none, .empty⟩) rfl
    rw [← head?_translateFrom] at hclose hdash
    refine ⟨t, ?_, fun x ↦ ?_⟩
    · rw [CharSet.read?, OpenSet.ofText, readFront_eq _ hclose hdash, ht]
    · simp [hcontains, CharSet.contains]

theorem readItems_of_readItem {c : Char} {cs : List Char} {i : ClassItem}
    (h : readItem c cs = some (i, [])) : readItems (c :: cs) = some [i] := by
  rw [readItems]
  split
  · next hi =>
    rw [h] at hi
    cases hi
  · next hi =>
    rw [h] at hi
    cases hi
    rw [readItems]
    rfl

theorem read?_framed (text : String) :
    read? (framed text) = (readItems (translate text).toList).map ClassText.mk := by
  have hframe : (framed text).toList =
      '^' :: '(' :: '?' :: ':' :: ((translate text).toList ++ [')', '$']) := by
    simp [framed]
  have hlength : ((translate text).toList ++ [')', '$']).length - 2 =
      (translate text).toList.length := by
    simp
  rw [read?, hframe]
  simp only
  rw [hlength, List.drop_left, List.take_left, if_pos rfl]

theorem readItems_of_charSet {cs : List Char} {t : CharSet} (h : CharSet.read? cs = some (t, [])) :
    readItems ('[' :: cs) = some [.set t] := by
  apply readItems_of_readItem
  rw [readItem, h]
  rfl

theorem read?_of_charSet {text : String} {cs : List Char} {t : CharSet}
    (htext : text.toList = '[' :: cs) (hne : text ≠ "[^]")
    (h : CharSet.read? (translateFrom cs) = some (t, [])) :
    read? (framed text) = some (ofSet t) := by
  rw [read?_framed, translate, if_neg hne, String.toList_ofList, htext,
    translateFrom_cons_of_ne (by decide), readItems_of_charSet h]
  rfl

theorem read?_everyCharacter :
    read? (framed "[^]") =
      some (ofSet (.union (.union .empty .whiteSpace) (.complement .whiteSpace))) := by
  have hspace : OpenSet.readMember '\\' ['s', '\\', 'S', ']'] =
      some (.whiteSpace, ['\\', 'S', ']']) := rfl
  have hothers : OpenSet.readMember '\\' ['S', ']'] =
      some (.complement .whiteSpace, [']']) := rfl
  have hread : CharSet.read? ['\\', 's', '\\', 'S', ']'] =
      some (.union (.union .empty .whiteSpace) (.complement .whiteSpace), []) := by
    have hstart : OpenSet.ofText ['\\', 's', '\\', 'S', ']'] =
        (⟨false, none, .empty⟩, ['\\', 's', '\\', 'S', ']']) := rfl
    rw [CharSet.read?, hstart, read_member (by decide) (by decide) (by decide) hspace,
      read_member (by decide) (by decide) (by decide) hothers, read_close]
    rfl
  have htranslate : (translate "[^]").toList = ['[', '\\', 's', '\\', 'S', ']'] := rfl
  rw [read?_framed, htranslate, readItems_of_charSet hread]
  rfl

/-- The matcher of a common text of a negated bracket expression accepts what its members do not
name. -/
theorem exists_matcher?_of_parse {text raw : String} {ms : List Pattern}
    (h : Pattern.parse text = .ok (.bracket ms true raw)) (hms : ∀ m ∈ ms, m.isExplicit)
    (htext : isCommon text.toList.tail) :
    raw = text ∧ ∃ m, matcher? raw = some m ∧ ∀ x, m x = !ms.any (·.names x) := by
  obtain ⟨rfl, used, hused, -, hmembers⟩ := Pattern.exists_of_parse_eq_bracket h
  refine ⟨rfl, ?_⟩
  have htoList : raw.toList = '[' :: '^' :: used := hused
  rw [htoList, List.tail_cons] at htext
  have hcommon := (isCommon_of_ne (by decide) htext).2.2
  cases hmembers with
  | close =>
    obtain rfl : raw = "[^]" := String.toList_inj.1 htoList
    refine ⟨_, matcher?_of_read? read?_everyCharacter, fun x ↦ ?_⟩
    rw [accepts_ofSet]
    simp [CharSet.contains]
  | @member c cs _ _ _ _ hc hm hr =>
    have hclose : (c :: cs).head? ≠ some ']' := fun he ↦ hc (Option.some.inj he)
    obtain ⟨t, ht, hcontains⟩ :=
      charSet_read?_of_readsMembers (.member hc hm hr) hms hcommon hclose
    have hread : read? (framed raw) = some (ofSet t) := by
      refine read?_of_charSet htoList ?_ ?_
      · rintro rfl
        cases htoList
        exact hc rfl
      · rw [translateFrom_cons_of_ne (by decide)]
        exact ht
    refine ⟨_, matcher?_of_read? hread, fun x ↦ ?_⟩
    rw [accepts_ofSet, hcontains]

end ClassText

end RegexWords
