import Mathlib.Data.List.Forall2
import Mathlib.Data.Nat.Digits.Defs
import RegexWords.Proofs.Pattern.FailurePlaces
import RegexWords.Proofs.Pattern.RoundTrip

namespace RegexWords

open Text

namespace Text

def IsHexDigit (c : Char) (v : ℕ) : Prop :=
  v < 16 ∧ (c = v.digitChar ∨ c = v.digitChar.toUpper)

/-- Digits that write the number of a character, the last of them counting least. -/
def NamesCharacter (digits : List Char) (c : Char) : Prop :=
  digits ≠ [] ∧ ∃ vs, List.Forall₂ IsHexDigit digits.reverse vs ∧ Nat.ofDigits 16 vs = c.toNat

instance (c : Char) (v : ℕ) : Decidable (IsHexDigit c v) :=
  inferInstanceAs (Decidable (_ ∧ _))

theorem lt_of_hexValue? {c : Char} {v : ℕ} (h : hexValue? c = some v) : c.toNat < 128 ∧ v < 16 := by
  have hbound {d : Char} (hd : c ≤ d) : c.toNat ≤ d.toNat := hd
  unfold hexValue? at h
  split at h
  · next hc =>
    have hlast : c.toNat ≤ 57 := hbound hc.2
    have hv : c.toNat - 48 = v := Option.some.inj h
    omega
  · split at h
    · next hc =>
      have hlast : c.toNat ≤ 102 := hbound hc.2
      have hv : c.toNat - 97 + 10 = v := Option.some.inj h
      omega
    · split at h
      · next hc =>
        have hlast : c.toNat ≤ 70 := hbound hc.2
        have hv : c.toNat - 65 + 10 = v := Option.some.inj h
        omega
      · cases h

theorem hexValue?_eq_some_iff {c : Char} {v : ℕ} : hexValue? c = some v ↔ IsHexDigit c v := by
  have hsmall : ∀ n < 128, ∀ v < 16,
      hexValue? (Char.ofNat n) = some v → IsHexDigit (Char.ofNat n) v := by decide +kernel
  constructor
  · intro h
    obtain ⟨hc, hv⟩ := lt_of_hexValue? h
    have := hsmall c.toNat hc v hv
    rw [Char.ofNat_toNat] at this
    exact this h
  · rintro ⟨hv, rfl | rfl⟩
    · exact hexValue?_digitChar hv
    · interval_cases v <;> rfl

theorem scalar?_eq_some_iff {n : ℕ} {c : Char} : scalar? n = some c ↔ n = c.toNat := by
  constructor
  · intro h
    exact (toNat_of_scalar? h).symm
  · rintro rfl
    exact scalar?_toNat c

/-- The last digit counts least, so the digits are taken from the end. -/
theorem hexNumber?_eq_some_iff {ds : List Char} {n : ℕ} :
    hexNumber? ds = some n ↔
      ∃ vs, List.Forall₂ IsHexDigit ds.reverse vs ∧ Nat.ofDigits 16 vs = n := by
  induction ds using List.reverseRecOn generalizing n with
  | nil => simp [hexNumber?, List.forall₂_nil_left_iff, eq_comm]
  | append_singleton ds d ih =>
    rw [hexNumber?_append_singleton, List.reverse_append, List.reverse_singleton,
      List.singleton_append]
    simp only [Option.bind_eq_some_iff, ih, appendHexDigit, Option.map_eq_some_iff,
      hexValue?_eq_some_iff]
    constructor
    · rintro ⟨m, ⟨vs, hvs, rfl⟩, v, hv, rfl⟩
      exact ⟨v :: vs, .cons hv hvs, by rw [Nat.ofDigits_cons, Nat.add_comm]⟩
    · rintro ⟨us, hus, rfl⟩
      cases hus with
      | @cons _ v _ vs hv hvs =>
        exact ⟨_, ⟨vs, hvs, rfl⟩, v, hv, by rw [Nat.ofDigits_cons, Nat.add_comm]⟩

theorem namesCharacter_iff {ds : List Char} {c : Char} :
    NamesCharacter ds c ↔ ds ≠ [] ∧ hexScalar? ds = some c := by
  simp only [NamesCharacter, hexScalar?, Option.bind_eq_some_iff, scalar?_eq_some_iff,
    hexNumber?_eq_some_iff]
  simp

theorem NamesCharacter.isSome_of_mem {ds : List Char} {c d : Char} (h : NamesCharacter ds c)
    (hd : d ∈ ds) : (hexValue? d).isSome := by
  rw [Option.isSome_iff_ne_none]
  intro hnone
  exact notMem_of_hexScalar? (namesCharacter_iff.1 h).2 hnone hd

theorem fixedHex?_eq_some_iff {width : ℕ} (hwidth : 0 < width) {cs rest : List Char} {c : Char} :
    fixedHex? width cs = some (c, rest) ↔
      ∃ ds, cs = ds ++ rest ∧ ds.length = width ∧ NamesCharacter ds c := by
  simp only [namesCharacter_iff]
  constructor
  · intro h
    unfold fixedHex? at h
    split at h
    · next hlen =>
      obtain ⟨d, hd, he⟩ := Option.map_eq_some_iff.1 h
      cases he
      refine ⟨cs.take width, (List.take_append_drop width cs).symm, hlen, ?_, hd⟩
      intro hnil
      rw [hnil] at hlen
      exact hwidth.ne hlen
    · cases h
  · rintro ⟨ds, rfl, rfl, -, hd⟩
    simp [fixedHex?, hd]

end Text

namespace Escape

theorem signedHexScalar?_eq_some_iff {ds : List Char} {c : Char} :
    signedHexScalar? ds = some c ↔
      NamesCharacter ds c ∨ ∃ es, ds = '+' :: es ∧ NamesCharacter es c := by
  have hplus (es : List Char) : ¬NamesCharacter ('+' :: es) c := by
    intro h
    have := h.isSome_of_mem List.mem_cons_self
    cases this
  fun_cases signedHexScalar? ds with
  | case1 e es => simp [hplus, namesCharacter_iff]
  | case2 => simp [hplus, namesCharacter_iff]
  | case3 => simp [namesCharacter_iff]
  | case4 _ hcons hsign hnil =>
    rw [namesCharacter_iff]
    constructor
    · intro h
      exact .inl ⟨hnil, h⟩
    · rintro (⟨-, h⟩ | ⟨es, rfl, h⟩)
      · exact h
      · cases es with
        | nil => exact absurd rfl hsign
        | cons e es => exact absurd rfl (hcons e es)

/-- The text up to the first brace that closes writes a character, and the rest is behind it. -/
def BracedNumber (inside : List Char) (c : Char) (rest : List Char) : Prop :=
  ∃ digits, inside = digits ++ '}' :: rest ∧ '}' ∉ digits ∧ NamesCharacter digits c

/-- Just so many digits write a character, or the letter in front of them is read alone. -/
def FixedNumber (letter : Char) (width : ℕ) (tail : List Char) (c : Char) (rest : List Char) :
    Prop :=
  (∃ digits, tail = digits ++ rest ∧ digits.length = width ∧ NamesCharacter digits c) ∨
    c = letter ∧ rest = tail ∧
      ∀ digits after d, tail = digits ++ after → digits.length = width → ¬NamesCharacter digits d

theorem bracedHex?_eq_some_iff {inside rest : List Char} {c : Char} :
    bracedHex? inside = some (c, rest) ↔
      ∃ digits, inside = digits ++ '}' :: rest ∧ '}' ∉ digits ∧
        signedHexScalar? digits = some c := by
  constructor
  · intro h
    obtain ⟨digits, hinside, hdigits⟩ := exists_of_bracedHex? h
    refine ⟨digits, hinside, fun hmem ↦ ?_, hdigits⟩
    rw [signedHexScalar?_eq_none_of_mem rfl (by decide) hmem] at hdigits
    cases hdigits
  · rintro ⟨digits, rfl, hbrace, hdigits⟩
    have hne : ∀ d ∈ digits, (d != '}') = true := by
      intro d hd
      rw [bne_iff_ne]
      rintro rfl
      exact hbrace hd
    rw [bracedHex?, dropWhile_append_cons hne rfl, takeWhile_append_cons hne rfl, hdigits]
    rfl

theorem bracedHex?_eq_some_iff_of_unsigned {inside rest : List Char} {c : Char}
    (h : inside.head? ≠ some '+') :
    bracedHex? inside = some (c, rest) ↔ BracedNumber inside c rest := by
  simp only [bracedHex?_eq_some_iff, signedHexScalar?_eq_some_iff, BracedNumber]
  refine exists_congr fun digits ↦ and_congr_right fun hinside ↦ and_congr_right fun _ ↦ ?_
  refine or_iff_left ?_
  rintro ⟨es, rfl, -⟩
  rw [hinside] at h
  exact h rfl

theorem bracedHex?_plus_eq_some_iff {inside rest : List Char} {c : Char} :
    bracedHex? ('+' :: inside) = some (c, rest) ↔ BracedNumber inside c rest := by
  simp only [bracedHex?_eq_some_iff, signedHexScalar?_eq_some_iff, BracedNumber]
  constructor
  · rintro ⟨digits, hinside, hbrace, hdigits | ⟨es, rfl, hes⟩⟩
    · obtain ⟨d, ds, rfl⟩ := List.exists_cons_of_ne_nil hdigits.1
      obtain ⟨rfl, -⟩ := List.cons.inj hinside
      have := hdigits.isSome_of_mem List.mem_cons_self
      cases this
    · exact ⟨es, (List.cons.inj hinside).2, fun h ↦ hbrace (List.mem_cons_of_mem _ h), hes⟩
  · rintro ⟨es, rfl, hbrace, hes⟩
    exact ⟨'+' :: es, rfl, by simpa using hbrace, .inr ⟨es, rfl, hes⟩⟩

def fixedOr (letter : Char) (width : ℕ) (tail : List Char) : Escape × List Char :=
  (fixedHex? width tail).elim (character letter, tail) fun x ↦ (character x.1, x.2)

theorem read?_u {tail : List Char} (h : tail.head? ≠ some '{') :
    read? ('u' :: tail) = some (fixedOr 'u' 4 tail) := by
  unfold fixedOr
  rw [read?]
  · cases fixedHex? 4 tail <;> rfl
  · intro cs hcs
    rw [hcs] at h
    exact h rfl

theorem read?_x (tail : List Char) : read? ('x' :: tail) = some (fixedOr 'x' 2 tail) := by
  unfold fixedOr
  rw [read?]
  cases fixedHex? 2 tail <;> rfl

theorem fixedNumber_iff {letter : Char} {width : ℕ} (hwidth : 0 < width) {tail rest : List Char}
    {c : Char} :
    fixedOr letter width tail = (character c, rest) ↔ FixedNumber letter width tail c rest := by
  simp only [FixedNumber, fixedOr, ← fixedHex?_eq_some_iff hwidth]
  cases hfixed : fixedHex? width tail with
  | none =>
    have hnone : ∀ digits after d, tail = digits ++ after → digits.length = width →
        ¬NamesCharacter digits d := by
      intro digits after d htail hlen hnames
      rw [(fixedHex?_eq_some_iff hwidth).2 ⟨digits, htail, hlen, hnames⟩] at hfixed
      cases hfixed
    simp only [Option.elim_none, Prod.mk.injEq, character.injEq, reduceCtorEq, false_or]
    constructor
    · rintro ⟨rfl, rfl⟩
      exact ⟨rfl, rfl, hnone⟩
    · rintro ⟨rfl, rfl, -⟩
      exact ⟨rfl, rfl⟩
  | some x =>
    obtain ⟨d, after⟩ := x
    obtain ⟨digits, htail, hlen, hnames⟩ := (fixedHex?_eq_some_iff hwidth).1 hfixed
    simp only [Option.elim_some, Option.some.injEq, Prod.mk.injEq, character.injEq, iff_self_or]
    rintro ⟨-, -, hnone⟩
    exact absurd hnames (hnone digits after d htail hlen)

end Escape

namespace Draft

variable {text cs : List Char} {d : Draft} {e : Failure}

inductive StandsAt (text : List Char) : Draft → List Char → Prop
  | front : StandsAt text .empty text
  | behind {d d' : Draft} {c : Char} {cs rest : List Char} {t : Token} :
      StandsAt text d (c :: cs) → Token.read c cs = .ok (t, rest) →
      d.push (c :: cs) t = .ok d' → StandsAt text d' rest

theorem StandsAt.extend_eq (h : StandsAt text d cs) : Draft.empty.extend text = d.extend cs := by
  induction h with
  | front => rfl
  | behind _ hread hpush ih => rw [ih, extend_cons hread (pushes_of_push hpush)]

theorem StandsAt.read_eq_error {c : Char} (h : StandsAt text d (c :: cs))
    (he : Token.read c cs = .error e) : Pattern.read text = .error e := by
  have hextend : d.extend (c :: cs) = .error e := by
    rw [extend]
    split
    · next he' =>
      rw [he] at he'
      cases he'
      rfl
    · next hok =>
      rw [he] at hok
      cases hok
  rw [Pattern.read, h.extend_eq, hextend]

end Draft

namespace Bracket

variable {body place cs rest : List Char} {c : Char} {ps : List Pattern} {e : Failure}

theorem readAtom_of_isShared (hshared : Escape.IsShared c) (hdash : c ≠ '-') (cs : List Char) :
    readAtom '\\' (c :: cs) =
      (Escape.read? (c :: cs)).elim (.error ⟨.invalidEscape, '\\' :: c :: cs⟩)
        fun x ↦ .ok (x.1.pattern, x.2) := by
  rw [readAtom]
  · cases Escape.read? (c :: cs) <;> rfl
  · rintro rest ⟨⟩
    exact hshared.1 rfl
  · rintro rest ⟨⟩
    exact hdash rfl

inductive StandsAt (body : List Char) : List Char → Prop
  | front : StandsAt body body
  | behind {c : Char} {cs rest : List Char} {ps : List Pattern} :
      StandsAt body (c :: cs) → c ≠ ']' → readMember c cs = .ok (ps, rest) → StandsAt body rest

/-- An atom begins at a place, the first of a member or the one behind its dash. -/
inductive AtomAt (body : List Char) : List Char → Prop
  | first {c : Char} {cs : List Char} : StandsAt body (c :: cs) → c ≠ ']' → AtomAt body (c :: cs)
  | last {c d : Char} {cs tail : List Char} {p : Pattern} :
      StandsAt body (c :: cs) → c ≠ ']' → readAtom c cs = .ok (p, '-' :: d :: tail) → d ≠ ']' →
      AtomAt body (d :: tail)

theorem readMembers_eq_error_of_member (hc : c ≠ ']') (he : readMember c cs = .error e) :
    readMembers place (c :: cs) = .error e := by
  rw [readMembers]
  · split
    · next he' =>
      rw [he] at he'
      cases he'
      rfl
    · next hok =>
      rw [he] at hok
      cases hok
  · exact hc

theorem readMembers_eq_error_of_rest (hc : c ≠ ']') (hm : readMember c cs = .ok (ps, rest))
    (he : readMembers place rest = .error e) : readMembers place (c :: cs) = .error e := by
  rw [readMembers]
  · split
    · next he' =>
      rw [hm] at he'
      cases he'
    · next hok =>
      rw [hm] at hok
      cases hok
      rw [he]
      rfl
  · exact hc

theorem StandsAt.readMembers_eq_error (h : StandsAt body cs)
    (he : readMembers place cs = .error e) : readMembers place body = .error e := by
  induction h with
  | front => exact he
  | behind _ hc hm ih => exact ih (readMembers_eq_error_of_rest hc hm he)

theorem AtomAt.readMembers_eq_error (h : AtomAt body (c :: cs)) (he : readAtom c cs = .error e) :
    readMembers place body = .error e := by
  cases h with
  | first hstands hc =>
    refine hstands.readMembers_eq_error (readMembers_eq_error_of_member hc ?_)
    rw [readMember, he]
  | last hstands hb hfirst hc =>
    refine hstands.readMembers_eq_error (readMembers_eq_error_of_member hb ?_)
    simp only [readMember, hfirst, he]

def membersText : List Char → List Char
  | '^' :: cs => cs
  | cs => cs

theorem exists_read_eq (cs : List Char) :
    ∃ negated, read cs =
      (readMembers ('[' :: cs) (membersText cs)).map (read.finish ('[' :: cs) negated) := by
  cases cs with
  | nil => exact ⟨false, rfl⟩
  | cons c cs =>
    by_cases hc : c = '^'
    · subst hc
      exact ⟨true, rfl⟩
    · exact ⟨false, by simp [read, membersText, hc]⟩

theorem AtomAt.read_eq_error (h : AtomAt (membersText rest) (c :: cs))
    (he : readAtom c cs = .error e) : read rest = .error e := by
  obtain ⟨negated, hread⟩ := exists_read_eq rest
  rw [hread, h.readMembers_eq_error he]
  rfl

end Bracket

/-- Where an escape may be read: as an item, or between brackets. -/
inductive Site where
  | item
  | member

namespace Site

variable {site : Site} {text cs inside tail rest : List Char} {p : Pattern} {e : Failure}

def Reads : Site → List Char → Pattern → List Char → Prop
  | item, cs, p, rest => Token.read '\\' cs = .ok (.item p, rest)
  | member, cs, p, rest => Bracket.readAtom '\\' cs = .ok (p, rest)

inductive ComesTo (text : List Char) : Site → List Char → Prop
  | item {d : Draft} {place : List Char} : d.StandsAt text place → ComesTo text .item place
  | member {d : Draft} {cs place : List Char} :
      d.StandsAt text ('[' :: cs) → Bracket.AtomAt (Bracket.membersText cs) place →
      ComesTo text .member place

/-- What begins an escape of either kind is read in the same way at every site. -/
theorem reads_iff {letter : Char} (hshared : Escape.IsShared letter) (hdash : letter ≠ '-')
    {c : Char} :
    site.Reads (letter :: tail) (.literal c) rest ↔
      Escape.read? (letter :: tail) = some (.character c, rest) := by
  have hpattern (e : Escape) : e.pattern = .literal c ↔ e = .character c := by
    cases e <;> simp [Escape.pattern]
  cases site with
  | item =>
    simp only [Reads, Token.read_of_isShared hshared, Token.readEscape.readCharacter]
    cases Escape.read? (letter :: tail) <;> simp [hpattern, Prod.ext_iff]
  | member =>
    simp only [Reads, Bracket.readAtom_of_isShared hshared hdash]
    cases Escape.read? (letter :: tail) <;> simp [hpattern, Prod.ext_iff]

theorem ComesTo.read_eq_error {letter : Char} (h : ComesTo text site ('\\' :: letter :: tail))
    (hshared : Escape.IsShared letter) (hdash : letter ≠ '-')
    (he : Escape.read? (letter :: tail) = none) :
    Pattern.read text = .error ⟨.invalidEscape, '\\' :: letter :: tail⟩ := by
  cases h with
  | item hstands =>
    refine hstands.read_eq_error ?_
    rw [Token.read_of_isShared hshared, Token.readEscape.readCharacter, he]
  | member hstands hatom =>
    have hread : Bracket.readAtom '\\' (letter :: tail) =
        .error ⟨.invalidEscape, '\\' :: letter :: tail⟩ := by
      rw [Bracket.readAtom_of_isShared hshared hdash, he]
      rfl
    refine hstands.read_eq_error ?_
    rw [Token.read, hatom.read_eq_error hread]
    rfl

end Site

namespace Pattern

/-- Escapes by number read just the digits that write a character, except that one plus sign may
stand in front of those in braces. Whatever else stands in the braces is the error that the whole
text gives, at the backslash. -/
theorem reads_numericEscape {text : String} {site : Site} {cs : List Char}
    (h : Site.ComesTo text.toList site ('\\' :: cs)) :
    (∀ inside, cs = 'u' :: '{' :: inside →
      (inside.head? ≠ some '+' → ∀ c rest,
        site.Reads cs (.literal c) rest ↔ Escape.BracedNumber inside c rest) ∧
      (∀ unsigned, inside = '+' :: unsigned → ∀ c rest,
        site.Reads cs (.literal c) rest ↔ Escape.BracedNumber unsigned c rest) ∧
      ((∀ c rest, ¬site.Reads cs (.literal c) rest) →
        ∃ front, text.toList = front ++ '\\' :: cs ∧
          parse text = .error ⟨.invalidEscape, byteLength front⟩)) ∧
    (∀ tail, cs = 'u' :: tail → tail.head? ≠ some '{' → ∀ c rest,
      site.Reads cs (.literal c) rest ↔ Escape.FixedNumber 'u' 4 tail c rest) ∧
    ∀ tail, cs = 'x' :: tail → ∀ c rest,
      site.Reads cs (.literal c) rest ↔ Escape.FixedNumber 'x' 2 tail c rest := by
  have hbraced (inside rest : List Char) (c : Char) :
      site.Reads ('u' :: '{' :: inside) (.literal c) rest ↔
        Escape.bracedHex? inside = some (c, rest) := by
    rw [Site.reads_iff (by decide) (by decide), Escape.read?]
    simp
  refine ⟨?_, ?_, ?_⟩
  · rintro inside rfl
    refine ⟨fun hplus c rest ↦ ?_, ?_, fun hnone ↦ ?_⟩
    · rw [hbraced, Escape.bracedHex?_eq_some_iff_of_unsigned hplus]
    · rintro unsigned rfl c rest
      rw [hbraced, Escape.bracedHex?_plus_eq_some_iff]
    · simp only [hbraced] at hnone
      have hinside : Escape.bracedHex? inside = none :=
        Option.eq_none_iff_forall_ne_some.2 fun x ↦ hnone x.1 x.2
      have hread := h.read_eq_error (by decide) (by decide) (by rw [Escape.read?, hinside]; rfl)
      obtain ⟨front, hfront⟩ := place_isSuffix_of_read hread
      refine ⟨front, hfront.symm, ?_⟩
      rw [parse, hread, ← hfront]
      simp [Except.mapError, Failure.located]
  · rintro tail rfl hbrace c rest
    rw [Site.reads_iff (by decide) (by decide), Escape.read?_u hbrace, Option.some.injEq,
      Escape.fixedNumber_iff (by decide)]
  · rintro tail rfl c rest
    rw [Site.reads_iff (by decide) (by decide), Escape.read?_x, Option.some.injEq,
      Escape.fixedNumber_iff (by decide)]

/-- An accented letter by its number, behind a member and within a pattern. -/
theorem reads_numericEscape_accent :
    Site.ComesTo "x[a\\u\x7be9\x7d]".toList .member "\\u\x7be9\x7d]".toList ∧
      Site.Reads .member "u\x7be9\x7d]".toList (.literal 'é') [']'] := by
  have hcomes : Site.ComesTo "x[a\\u\x7be9\x7d]".toList .member "\\u\x7be9\x7d]".toList :=
    .member (.behind .front rfl rfl) (.first (.behind .front (by decide) rfl) (by decide))
  refine ⟨hcomes, ?_⟩
  obtain ⟨hread, -⟩ := (reads_numericEscape hcomes).1 "e9\x7d]".toList rfl
  refine (hread (by decide) 'é' [']']).2 ⟨['e', '9'], rfl, by decide, by decide, [9, 14], ?_, rfl⟩
  exact .cons (by decide) (.cons (by decide) .nil)

/-- A sign is no digit, and yet it is read. -/
theorem parse_signedNumber :
    (∀ c, ¬NamesCharacter ['+', '4', '1'] c) ∧ parse "\\u\x7b+41\x7d" = .ok (.literal 'A') := by
  refine ⟨fun c h ↦ ?_, parse_of_reads ⟨'\\', "u\x7b+41\x7d".toList, rfl, rfl⟩⟩
  have hdigit := h.isSome_of_mem List.mem_cons_self
  cases hdigit

end Pattern

end RegexWords
