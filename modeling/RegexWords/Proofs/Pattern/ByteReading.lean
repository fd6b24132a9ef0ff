import RegexWords.Proofs.Pattern.ByteReader
import RegexWords.Proofs.Pattern.FailureCauses

namespace RegexWords

namespace Text

def offsetOf (text cs : List Char) : ℕ := byteLength text - byteLength cs

variable {text cs rest taken : List Char}

theorem offsetOf_nil (text : List Char) : offsetOf text [] = byteLength text := Nat.sub_zero _

theorem offsetOf_le_offsetOf (h : rest <:+ cs) (text : List Char) :
    offsetOf text cs ≤ offsetOf text rest :=
  Nat.sub_le_sub_left (byteLength_le_of_isSuffix h) _

theorem offsetOf_append (front cs : List Char) : offsetOf (front ++ cs) cs = byteLength front := by
  rw [offsetOf, byteLength_append, Nat.add_sub_cancel_right]

theorem dropBytes_offsetOf (h : cs <:+ text) : dropBytes (offsetOf text cs) text = some cs := by
  obtain ⟨front, rfl⟩ := h
  rw [offsetOf_append, dropBytes_append]

theorem offsetOf_add (h : taken ++ rest <:+ text) :
    offsetOf text (taken ++ rest) + byteLength taken = offsetOf text rest := by
  have hle := byteLength_le_of_isSuffix h
  rw [byteLength_append] at hle
  rw [offsetOf, offsetOf, byteLength_append]
  omega

theorem takeBytes_append (taken rest : List Char) :
    takeBytes (byteLength taken) (taken ++ rest) = some taken := by
  simp [takeBytes, dropBytes_append]

theorem exists_append_of_takeBytes {n : ℕ} (h : takeBytes n cs = some taken) :
    ∃ rest, cs = taken ++ rest ∧ byteLength taken = n := by
  obtain ⟨rest, hrest, rfl⟩ := Option.map_eq_some_iff.1 h
  obtain ⟨front, rfl, hn⟩ := exists_append_of_dropBytes hrest
  exact ⟨rest, by simp, by simpa using hn⟩

theorem bytesBetween_offsetOf (h : taken ++ rest <:+ text) :
    bytesBetween (offsetOf text (taken ++ rest)) (offsetOf text rest) text = some taken := by
  rw [← offsetOf_add h, bytesBetween, if_pos (Nat.le_add_right _ _), dropBytes_offsetOf h,
    Nat.add_sub_cancel_left]
  exact takeBytes_append taken rest

theorem findByte_eq (p : Char → Bool) (cs : List Char) :
    findByte p cs =
      if cs.dropWhile (!p ·) = [] then none else some (byteLength (cs.takeWhile (!p ·))) := by
  induction cs with
  | nil => rfl
  | cons c cs ih =>
    cases hc : p c with
    | true => simp [findByte, hc]
    | false =>
      rw [findByte, hc, ih, List.dropWhile_cons_of_pos (by simp [hc]),
        List.takeWhile_cons_of_pos (by simp [hc])]
      by_cases hdrop : cs.dropWhile (!p ·) = []
      · simp only [if_pos hdrop]
        rfl
      · simp only [if_neg hdrop]
        rfl

theorem getD_findByte (p : Char → Bool) (cs : List Char) :
    (findByte (!p ·) cs).getD (byteLength cs) = byteLength (cs.takeWhile p) := by
  have happend := congrArg byteLength (List.takeWhile_append_dropWhile (p := p) (l := cs))
  simp only [findByte_eq, Bool.not_not]
  split
  · next hdrop =>
    rw [hdrop, List.append_nil] at happend
    exact happend.symm
  · rfl

end Text

open Text

namespace ByteReader

section Rules

variable {α β : Type} {text cs rest taken : List Char} {x : ByteReader α} {f : α → ByteReader β}
  {a : α} {e : Failure} {r : Except Failure (β × List Char)}

def outcome (text : List Char) :
    Except Failure (α × List Char) → Option (Except ParseError α × ℕ)
  | .ok (a, rest) => some (.ok a, offsetOf text rest)
  | .error e => some (.error (e.located text), offsetOf text e.rest)

/-- From a tail of the text on, the reader gives what is read there. -/
def Gives (text : List Char) (x : ByteReader α) (cs : List Char)
    (r : Except Failure (α × List Char)) : Prop :=
  x (offsetOf text cs) = outcome text r

theorem bind_apply (x : ByteReader α) (f : α → ByteReader β) (pos : ℕ) :
    (x >>= f) pos = (x pos).bind fun y ↦
      match y.1 with
      | .ok a => f a y.2
      | .error e => some (.error e, y.2) := by
  change Option.bind _ _ = _
  refine congrArg (Option.bind _) (funext fun y ↦ ?_)
  obtain ⟨_ | _, _⟩ := y <;> rfl

theorem Gives.bind (hx : Gives text x cs (.ok (a, rest))) (hf : Gives text (f a) rest r) :
    Gives text (x >>= f) cs r := by
  rw [Gives, bind_apply, show x (offsetOf text cs) = _ from hx]
  exact hf

theorem Gives.bind_error (hx : Gives text x cs (.error e)) :
    Gives text (x >>= f) cs (.error e) := by
  rw [Gives, bind_apply, show x (offsetOf text cs) = _ from hx]
  rfl

theorem gives_pure (a : α) : Gives text (pure a) cs (.ok (a, cs)) := rfl

theorem gives_get_bind {f : ℕ → ByteReader β} (h : Gives text (f (offsetOf text cs)) cs r) :
    Gives text (get >>= f) cs r := h

theorem gives_set_bind {f : PUnit → ByteReader β} (h : Gives text (f ()) rest r) :
    Gives text (set (offsetOf text rest) >>= f) cs r := h

theorem gives_slice {x? : Option α} (h : x? = some a) :
    Gives text (slice x?) cs (.ok (a, cs)) := by
  rw [h]
  rfl

theorem gives_skip (h : taken ++ rest <:+ text) :
    Gives text (skip (byteLength taken)) (taken ++ rest) (.ok ((), rest)) := by
  rw [Gives, outcome, ← offsetOf_add h]
  rfl

theorem gives_throw {kind : ParseErrorKind} {front : List Char}
    (h : Failure.rest ⟨kind, front⟩ = cs) :
    Gives text (throw ⟨kind, offsetOf text front⟩ : ByteReader α) cs (.error ⟨kind, front⟩) := by
  rw [Gives, outcome, h]
  rfl

theorem gives_fail {kind : ParseErrorKind} (h : Failure.rest ⟨kind, cs⟩ = cs) :
    Gives text (fail kind : ByteReader α) cs (.error ⟨kind, cs⟩) :=
  gives_get_bind (gives_throw h)

theorem gives_rest (h : cs <:+ text) : Gives text (ByteReader.rest text) cs (.ok (cs, cs)) :=
  gives_get_bind (gives_slice (dropBytes_offsetOf h))

theorem gives_peek (h : cs <:+ text) : Gives text (peek text) cs (.ok (cs.head?, cs)) :=
  (gives_rest h).bind (gives_pure _)

theorem gives_advance {c : Char} (h : c :: cs <:+ text) :
    Gives text (advance text) (c :: cs) (.ok (some c, cs)) := by
  have hone : [c] ++ cs <:+ text := h
  have hskip : Gives text (skip c.utf8Size) (c :: cs) (.ok ((), cs)) := gives_skip hone
  exact (gives_peek h).bind (hskip.bind (gives_pure _))

theorem gives_advance_nil : Gives text (advance text) [] (.ok (none, [])) :=
  (gives_peek List.nil_suffix).bind (gives_pure _)

theorem gives_expect {c : Char} (h : c :: cs <:+ text) :
    Gives text (expect text c) (c :: cs) (.ok (true, cs)) := by
  refine (gives_peek h).bind ?_
  rw [if_pos List.head?_cons]
  exact (gives_advance h).bind (gives_pure _)

theorem head?_ne_of_forall_ne {c : Char} (hc : ∀ tail, cs ≠ c :: tail) : cs.head? ≠ some c := by
  intro he
  obtain ⟨tail, htail⟩ := List.head?_eq_some_iff.1 he
  exact hc tail htail

theorem gives_expect_of_ne {c : Char} (h : cs <:+ text) (hc : ∀ tail, cs ≠ c :: tail) :
    Gives text (expect text c) cs (.ok (false, cs)) := by
  refine (gives_peek h).bind ?_
  rw [if_neg (head?_ne_of_forall_ne hc)]
  exact gives_pure _

theorem gives_expect_nil (c : Char) : Gives text (expect text c) [] (.ok (false, [])) :=
  gives_expect_of_ne List.nil_suffix fun tail ↦ (List.cons_ne_nil c tail).symm

theorem gives_expect_or (c : Char) (h : cs <:+ text) :
    (∃ tail, cs = c :: tail ∧ Gives text (expect text c) cs (.ok (true, tail))) ∨
      (∀ tail, cs ≠ c :: tail) ∧ Gives text (expect text c) cs (.ok (false, cs)) := by
  by_cases hc : ∃ tail, cs = c :: tail
  · obtain ⟨tail, rfl⟩ := hc
    exact .inl ⟨tail, rfl, gives_expect h⟩
  · rw [not_exists] at hc
    exact .inr ⟨hc, gives_expect_of_ne h hc⟩

theorem gives_eat (lead : List Char) (h : lead ++ cs <:+ text) :
    Gives text (eat text lead) (lead ++ cs) (.ok (true, cs)) := by
  refine (gives_rest h).bind ?_
  rw [if_pos (List.isPrefixOf_iff_prefix.2 (List.prefix_append lead cs))]
  exact (gives_skip h).bind (gives_pure _)

theorem gives_eat_of_ne (lead : List Char) (h : cs <:+ text) (hlead : ∀ tail, cs ≠ lead ++ tail) :
    Gives text (eat text lead) cs (.ok (false, cs)) := by
  refine (gives_rest h).bind ?_
  rw [if_neg]
  · exact gives_pure _
  · intro he
    obtain ⟨tail, htail⟩ := List.isPrefixOf_iff_prefix.1 he
    exact hlead tail htail.symm

theorem exists_gives_eat_bind {f : Bool → ByteReader β} {R : Except Failure (β × List Char) → Prop}
    (lead : List Char) (h : cs <:+ text)
    (htrue : ∀ tail, cs = lead ++ tail → ∃ r, R r ∧ Gives text (f true) tail r)
    (hfalse : (∀ tail, cs ≠ lead ++ tail) → ∃ r, R r ∧ Gives text (f false) cs r) :
    ∃ r, R r ∧ Gives text (eat text lead >>= f) cs r := by
  by_cases hlead : ∃ tail, cs = lead ++ tail
  · obtain ⟨tail, rfl⟩ := hlead
    obtain ⟨r, hr, hgives⟩ := htrue tail rfl
    exact ⟨r, hr, (gives_eat lead h).bind hgives⟩
  · rw [not_exists] at hlead
    obtain ⟨r, hr, hgives⟩ := hfalse hlead
    exact ⟨r, hr, (gives_eat_of_ne lead h hlead).bind hgives⟩

theorem gives_span (p : Char → Bool) (h : cs <:+ text) :
    Gives text (span text p) cs (.ok (byteLength (cs.takeWhile p), cs)) := by
  refine (gives_rest h).bind ?_
  rw [getD_findByte]
  exact gives_pure _

def found (cs : List Char) (x? : Option (α × List Char)) : Except Failure (Option α × List Char) :=
  .ok (x?.elim (none, cs) fun x ↦ (some x.1, x.2))

end Rules

section Numbers

variable {text cs rest : List Char}

theorem byteLength_eq_zero_iff : byteLength cs = 0 ↔ cs = [] := by
  cases cs with
  | nil => simp
  | cons c cs =>
    have hpos := c.utf8Size_pos
    simp only [byteLength_cons, reduceCtorEq, iff_false]
    omega

theorem gives_number (h : cs <:+ text) :
    Gives text (number text) cs (found cs (Bounds.readNumber? cs)) := by
  refine (gives_span _ h).bind ?_
  simp only [byteLength_eq_zero_iff, Bounds.readNumber?]
  have hsplit : cs.takeWhile Char.isDigit ++ cs.dropWhile Char.isDigit = cs :=
    List.takeWhile_append_dropWhile
  generalize cs.takeWhile Char.isDigit = digits at hsplit ⊢
  generalize cs.dropWhile Char.isDigit = tail at hsplit ⊢
  subst hsplit
  by_cases hnil : digits = []
  · rw [if_pos hnil, if_neg (by simp [hnil])]
    exact gives_pure _
  rw [if_neg hnil]
  refine (gives_rest h).bind ((gives_slice (takeBytes_append digits tail)).bind ?_)
  by_cases hle : Nat.ofDigitChars 10 digits 0 ≤ Bounds.greatest
  · simp only [if_pos hle, if_pos (And.intro hnil hle)]
    exact (gives_skip h).bind (gives_pure _)
  · simp only [if_neg hle, if_neg fun hboth : digits ≠ [] ∧ _ ↦ hle hboth.2]
    exact gives_pure _

theorem gives_close (h : cs <:+ text) (bounds : Bounds) :
    (∃ tail, cs = '}' :: tail ∧ Gives text (close text bounds) cs (.ok (some bounds, tail))) ∨
      (∀ tail, cs ≠ '}' :: tail) ∧ Gives text (close text bounds) cs (.ok (none, cs)) := by
  obtain ⟨tail, rfl, hexpect⟩ | ⟨hne, hexpect⟩ := gives_expect_or '}' h
  · exact .inl ⟨tail, rfl, hexpect.bind (gives_pure _)⟩
  · exact .inr ⟨hne, hexpect.bind (gives_pure _)⟩

def inside (rest : List Char) (x? : Option (Bounds × List Char)) :
    Except Failure (Option Bounds × List Char) :=
  .ok (x?.elim (none, rest) fun x ↦ (some x.1, x.2))

theorem gives_most {n : ℕ} (h : rest <:+ text) (hne : ∀ tail, rest ≠ '}' :: tail)
    (hn : Bounds.readNumber? cs = some (n, ',' :: rest)) :
    ∃ stop, Gives text (most text n) rest (inside stop (Bounds.read? cs)) := by
  have hnumber := gives_number h
  cases hm : Bounds.readNumber? rest with
  | none =>
    rw [hm] at hnumber
    have hread : Bounds.read? cs = none := by simp [Bounds.read?, hn, hm]
    rw [hread]
    exact ⟨rest, Gives.bind hnumber (gives_pure _)⟩
  | some y =>
    obtain ⟨m, last⟩ := y
    rw [hm] at hnumber
    have hlast := (Bounds.isSuffix_of_readNumber? hm).trans h
    obtain ⟨tail, rfl, htail⟩ | ⟨hopen, htail⟩ := gives_close hlast ⟨n, some m⟩
    · have hread : Bounds.read? cs = some (⟨n, some m⟩, tail) := by simp [Bounds.read?, hn, hm]
      rw [hread]
      exact ⟨[], Gives.bind hnumber htail⟩
    · have hread : Bounds.read? cs = none := by simp [Bounds.read?, hn, hm, hopen]
      rw [hread]
      exact ⟨last, Gives.bind hnumber htail⟩

theorem gives_upperBound {n : ℕ} (h : rest <:+ text)
    (hn : Bounds.readNumber? cs = some (n, ',' :: rest)) :
    ∃ stop, Gives text (upperBound text n) rest (inside stop (Bounds.read? cs)) := by
  obtain ⟨tail, rfl, hclose⟩ | ⟨hne, -⟩ := gives_close h ⟨n, none⟩
  · simp only [Bounds.read?, hn]
    exact ⟨[], (gives_peek h).bind hclose⟩
  · obtain ⟨stop, hstop⟩ := gives_most h hne hn
    refine ⟨stop, (gives_peek h).bind ?_⟩
    rw [if_neg (head?_ne_of_forall_ne hne)]
    exact hstop

theorem gives_inBraces (h : cs <:+ text) :
    ∃ stop, Gives text (inBraces text) cs (inside stop (Bounds.read? cs)) := by
  have hnumber := gives_number h
  cases hn : Bounds.readNumber? cs with
  | none =>
    rw [hn] at hnumber
    simp only [Bounds.read?, hn]
    exact ⟨cs, Gives.bind hnumber (gives_pure _)⟩
  | some x =>
    obtain ⟨n, rest⟩ := x
    rw [hn] at hnumber
    have hrest := (Bounds.isSuffix_of_readNumber? hn).trans h
    obtain ⟨tail, rfl, hexpect⟩ | ⟨hcomma, hexpect⟩ := gives_expect_or ',' hrest
    · have htail := (List.suffix_cons ',' tail).trans hrest
      obtain ⟨stop, hstop⟩ := gives_upperBound htail hn
      exact ⟨stop, Gives.bind hnumber (hexpect.bind hstop)⟩
    · obtain ⟨tail, rfl, htail⟩ | ⟨hne, htail⟩ := gives_close hrest ⟨n, some n⟩
      · simp only [Bounds.read?, hn]
        exact ⟨[], Gives.bind hnumber (hexpect.bind htail)⟩
      · have hread : Bounds.read? cs = none := by simp [Bounds.read?, hn, hne, hcomma]
        rw [hread]
        exact ⟨rest, Gives.bind hnumber (hexpect.bind htail)⟩

theorem gives_braces (h : '{' :: cs <:+ text) :
    Gives text (braces text) ('{' :: cs) (found ('{' :: cs) (Bounds.read? cs)) := by
  have hcs := (List.suffix_cons '{' cs).trans h
  refine gives_get_bind ((gives_advance h).bind ?_)
  obtain ⟨rest, hbraces⟩ := gives_inBraces hcs
  cases hread : Bounds.read? cs with
  | none =>
    rw [hread] at hbraces
    exact Gives.bind hbraces (gives_set_bind (gives_pure _))
  | some x =>
    rw [hread] at hbraces
    exact Gives.bind hbraces (gives_pure _)

theorem gives_isBounds (h : '{' :: cs <:+ text) :
    Gives text (isBounds text) ('{' :: cs) (.ok ((Bounds.read? cs).isSome, '{' :: cs)) := by
  refine gives_get_bind ((gives_braces h).bind (gives_set_bind ?_))
  cases Bounds.read? cs <;> exact gives_pure _

end Numbers

section Escapes

variable {text cs digits : List Char} {width : ℕ} {c : Char}

theorem byteLength_of_namesCharacter (h : NamesCharacter digits c) :
    byteLength digits = digits.length := by
  have hsize : ∀ d ∈ digits, d.utf8Size = 1 := by
    intro d hd
    obtain ⟨v, hv⟩ := Option.isSome_iff_exists.1 (h.isSome_of_mem hd)
    exact Char.utf8Size_eq_one_iff.2 (Nat.le_of_lt_succ (lt_of_hexValue? hv).1)
  clear h
  induction digits with
  | nil => rfl
  | cons d digits ih =>
    rw [List.forall_mem_cons] at hsize
    rw [byteLength_cons, hsize.1, ih hsize.2, List.length_cons, Nat.add_comm]

/-- Hexadecimal digits have one byte each, so they can be counted in bytes. -/
theorem takeBytes_and_hexScalar?_iff (hwidth : 0 < width) :
    (takeBytes width cs = some digits ∧ hexScalar? digits = some c) ↔
      ∃ rest, cs = digits ++ rest ∧ digits.length = width ∧ NamesCharacter digits c := by
  constructor
  · rintro ⟨htake, hc⟩
    obtain ⟨rest, rfl, rfl⟩ := exists_append_of_takeBytes htake
    have hne : digits ≠ [] := by
      rintro rfl
      exact absurd hwidth (lt_irrefl 0)
    have hnames := namesCharacter_iff.2 ⟨hne, hc⟩
    exact ⟨rest, rfl, (byteLength_of_namesCharacter hnames).symm, hnames⟩
  · rintro ⟨rest, rfl, rfl, hnames⟩
    rw [← byteLength_of_namesCharacter hnames]
    exact ⟨takeBytes_append digits rest, (namesCharacter_iff.1 hnames).2⟩

theorem gives_hex (hwidth : 0 < width) (h : cs <:+ text) :
    Gives text (hex text width) cs (found cs (fixedHex? width cs)) := by
  refine (gives_rest h).bind ?_
  cases hread : fixedHex? width cs with
  | some x =>
    obtain ⟨c, rest⟩ := x
    obtain ⟨digits, rfl, hlength, hnames⟩ := (fixedHex?_eq_some_iff hwidth).1 hread
    obtain ⟨htake, hc⟩ := (takeBytes_and_hexScalar?_iff hwidth).2 ⟨rest, rfl, hlength, hnames⟩
    have hskip := gives_skip h
    rw [byteLength_of_namesCharacter hnames, hlength] at hskip
    simp only [htake, hc]
    exact hskip.bind (gives_pure _)
  | none =>
    cases htake : takeBytes width cs with
    | none => exact gives_pure _
    | some digits =>
      cases hc : hexScalar? digits with
      | none =>
        simp only [hc]
        exact gives_pure _
      | some c =>
        obtain ⟨rest, hcs, hlength, hnames⟩ := (takeBytes_and_hexScalar?_iff hwidth).1 ⟨htake, hc⟩
        rw [(fixedHex?_eq_some_iff hwidth).2 ⟨digits, hcs, hlength, hnames⟩] at hread
        cases hread

theorem gives_hexBraced (h : cs <:+ text) :
    Gives text (hexBraced text) cs (found cs (Escape.bracedHex? cs)) := by
  have hfind : findByte (· = '}') cs = if cs.dropWhile (· != '}') = [] then none
      else some (byteLength (cs.takeWhile (· != '}'))) := findByte_eq _ _
  have hclose := List.head?_dropWhile_not (· != '}') cs
  have hsplit : cs.takeWhile (· != '}') ++ cs.dropWhile (· != '}') = cs :=
    List.takeWhile_append_dropWhile
  refine (gives_rest h).bind ?_
  rw [hfind, Escape.bracedHex?]
  generalize cs.takeWhile (· != '}') = digits at hsplit ⊢
  generalize cs.dropWhile (· != '}') = tail at hsplit hclose ⊢
  subst hsplit
  cases tail with
  | nil => exact gives_pure _
  | cons d rest =>
    obtain rfl : d = '}' := by simpa using hclose
    refine (gives_rest h).bind ((gives_slice (takeBytes_append digits _)).bind ?_)
    cases Escape.signedHexScalar? digits with
    | none => exact gives_pure _
    | some c =>
      have hskip : Gives text (skip (byteLength digits + 1)) (digits ++ '}' :: rest)
          (.ok ((), rest)) := by
        have h' : (digits ++ ['}']) ++ rest <:+ text := by simpa using h
        have hskip := gives_skip h'
        rwa [byteLength_append, List.append_assoc] at hskip
      exact hskip.bind (gives_pure _)

def escaped (place : List Char) : Option (Escape × List Char) → Except Failure (Pattern × List Char)
  | some (e, rest) => .ok (e.pattern, rest)
  | none => .error ⟨.invalidEscape, place⟩

theorem gives_hexOr {place : List Char} (letter : Char) (hwidth : 0 < width) (h : cs <:+ text) :
    Gives text (hex text width >>= fun c? ↦ pure (.literal (c?.getD letter))) cs
      (escaped place (some (Escape.fixedOr letter width cs))) := by
  refine (gives_hex hwidth h).bind ?_
  rw [Escape.fixedOr]
  cases fixedHex? width cs <;> exact gives_pure _

theorem gives_escape {place : List Char} (h : cs <:+ text) :
    Gives text (escape text (offsetOf text place)) cs (escaped place (Escape.read? cs)) := by
  cases cs with
  | nil =>
    exact gives_advance_nil.bind (gives_set_bind (gives_fail rfl))
  | cons c cs =>
    have hcs := (List.suffix_cons c cs).trans h
    refine (gives_advance h).bind ?_
    by_cases hx : c = 'x'
    · subst hx
      rw [Escape.read?_x]
      exact gives_hexOr 'x' (by decide) hcs
    by_cases hu : c = 'u'
    · subst hu
      obtain ⟨inside, rfl, hexpect⟩ | ⟨hbrace, hexpect⟩ := gives_expect_or '{' hcs
      · have hinside := (List.suffix_cons '{' inside).trans hcs
        have hbraced := gives_hexBraced hinside
        rw [Escape.read?]
        refine hexpect.bind ?_
        cases hread : Escape.bracedHex? inside with
        | none =>
          rw [hread] at hbraced
          exact Gives.bind hbraced (gives_set_bind (gives_fail rfl))
        | some x =>
          rw [hread] at hbraced
          exact Gives.bind hbraced (gives_pure _)
      · rw [Escape.read?_u (head?_ne_of_forall_ne hbrace)]
        exact hexpect.bind (gives_hexOr 'u' (by decide) hcs)
    · rw [Escape.read?_of_ne hu hx]
      by_cases hshorthand : Escape.isShorthand c
      · simp only [if_pos hshorthand]
        exact gives_pure _
      · simp only [if_neg hshorthand, if_neg hx, if_neg hu]
        exact gives_pure _

end Escapes

section Brackets

variable {text cs rest opened : List Char} {c : Char}

theorem readAtom_backslash (hb : ∀ tail, cs ≠ 'b' :: tail)
    (hdash : ∀ tail, cs ≠ '-' :: tail) :
    Bracket.readAtom '\\' cs = escaped ('\\' :: cs) (Escape.read? cs) := by
  rw [Bracket.readAtom]
  · cases Escape.read? cs <;> rfl
  · exact hb
  · exact hdash

theorem gives_memberAtom (h : c :: cs <:+ text) :
    Gives text (memberAtom text) (c :: cs) (Bracket.readAtom c cs) := by
  have hcs := (List.suffix_cons c cs).trans h
  refine gives_get_bind ((gives_advance h).bind ?_)
  by_cases hc : c = '\\'
  · subst hc
    refine (gives_peek hcs).bind ?_
    split
    · next he =>
      obtain ⟨tail, rfl⟩ := List.head?_eq_some_iff.1 he
      exact (gives_advance hcs).bind (gives_pure _)
    · next he =>
      obtain ⟨tail, rfl⟩ := List.head?_eq_some_iff.1 he
      exact (gives_advance hcs).bind (gives_pure _)
    · next hb hdash =>
      rw [readAtom_backslash]
      · exact gives_escape hcs
      · rintro tail rfl
        exact hb rfl
      · rintro tail rfl
        exact hdash rfl
  · have hread : Bracket.readAtom c cs = .ok (.literal c, cs) :=
      Bracket.readAtom_eq_ok_iff.2 (.plain cs hc)
    rw [hread]
    split
    · next he => exact absurd (Option.some.inj he) hc
    · next he =>
      cases he
      exact gives_pure _
    · next he => cases he

theorem gives_join (first last : Pattern) :
    Gives text (join (offsetOf text opened) first last) rest
      ((Bracket.join opened first last).map (·, rest)) := by
  fun_cases Bracket.join opened first last with
  | case1 first last hle =>
    simp only [join, if_neg (Char.not_lt.2 hle)]
    exact gives_pure _
  | case2 first last hle =>
    simp only [join, if_pos (Char.not_le.1 hle)]
    exact gives_set_bind (gives_fail rfl)
  | case3 first last hne =>
    rw [join]
    · exact gives_pure _
    · exact hne

theorem gives_behindDash {first : Pattern} (h : c :: cs <:+ text) :
    Gives text (behindDash text (offsetOf text opened) first) (c :: cs)
      (match Bracket.readAtom c cs with
      | .error e => .error e
      | .ok (last, rest) => (Bracket.join opened first last).map (·, rest)) := by
  have hatom := gives_memberAtom h
  refine (gives_peek h).bind ?_
  simp only [List.head?_cons, reduceCtorEq, if_false]
  cases ha : Bracket.readAtom c cs with
  | error e =>
    rw [ha] at hatom
    exact Gives.bind_error hatom
  | ok x =>
    rw [ha] at hatom
    exact Gives.bind hatom (gives_join first x.1)

theorem gives_member (h : c :: cs <:+ text) :
    Gives text (member text) (c :: cs) (Bracket.readMember c cs) ∨
      ∃ ps, Bracket.readMember c cs = .ok (ps, []) ∧
        Gives text (member text) (c :: cs) (.ok ([], [])) := by
  have hatom := gives_memberAtom h
  cases ha : Bracket.readAtom c cs with
  | error e =>
    rw [ha] at hatom
    rw [Bracket.readMember, ha]
    exact .inl (gives_get_bind (Gives.bind_error hatom))
  | ok x =>
    obtain ⟨first, tail⟩ := x
    rw [ha] at hatom
    have htail := ((Bracket.isSuffix_of_readAtom ha).trans (List.suffix_cons c cs)).trans h
    by_cases hone : tail.head? ≠ some '-' ∨ ['-', ']'].isPrefixOf tail
    · have hread : Bracket.readMember c cs = .ok ([first], tail) := by
        refine Bracket.readMember_eq_ok_iff.2 (.atom (Bracket.readAtom_eq_ok_iff.1 ha) ?_)
        rintro behind rfl
        obtain ⟨more, hmore⟩ :=
          List.isPrefixOf_iff_prefix.1 (hone.resolve_left (not_not.2 rfl))
        rw [← (List.cons.inj hmore).2]
        rfl
      rw [hread]
      refine .inl (gives_get_bind (Gives.bind hatom
        ((gives_peek htail).bind ((gives_rest htail).bind ?_))))
      rw [if_pos hone]
      exact gives_pure _
    · have hneg := not_or.1 hone
      obtain ⟨behind, rfl⟩ := List.head?_eq_some_iff.1 (not_not.1 hneg.1)
      have hbehind := (List.suffix_cons '-' behind).trans htail
      have hdash {r : Except Failure (List Pattern × List Char)}
          (hr : Gives text (behindDash text (offsetOf text (c :: cs)) first) behind r) :
          Gives text (member text) (c :: cs) r := by
        refine gives_get_bind (Gives.bind hatom
          ((gives_peek htail).bind ((gives_rest htail).bind ?_)))
        rw [if_neg hone]
        exact (gives_advance htail).bind hr
      cases behind with
      | nil =>
        have hread := Bracket.readMember_eq_ok_iff.2 (.lastDash (Bracket.readAtom_eq_ok_iff.1 ha))
        exact .inr ⟨_, hread, hdash ((gives_peek hbehind).bind (gives_pure _))⟩
      | cons d more =>
        have hread : Bracket.readMember c cs =
            match Bracket.readAtom d more with
            | .error e => .error e
            | .ok (last, rest) => (Bracket.join (c :: cs) first last).map (·, rest) := by
          have hd : d ≠ ']' := by
            rintro rfl
            exact hneg.2 rfl
          cases hlast : Bracket.readAtom d more <;> simp only [Bracket.readMember, ha, hlast]
        rw [hread]
        exact .inl (hdash (gives_behindDash hbehind))

/-- The members are read that are not taken yet, behind the bracket where they were opened. Each of
them takes a character or more, so there is fuel enough when there is more of it than text. -/
theorem gives_members {fuel : ℕ} (taken : List Pattern) (hfuel : cs.length < fuel)
    (h : cs <:+ text) :
    Gives text (members text (offsetOf text opened) fuel taken) cs
      ((Bracket.readMembers opened cs).map fun x ↦ (taken ++ x.1, x.2)) := by
  induction fuel generalizing taken cs with
  | zero => exact absurd hfuel (Nat.not_lt_zero _)
  | succ fuel ih =>
    rw [members]
    refine (gives_peek h).bind ?_
    fun_cases Bracket.readMembers opened cs with
    | case1 => exact gives_throw rfl
    | case2 rest =>
      refine (gives_advance h).bind ?_
      rw [Except.map, List.append_nil]
      exact gives_pure taken
    | case3 c cs hc e he =>
      simp only [List.head?_cons, if_neg hc]
      obtain hmember | ⟨ps, hread, -⟩ := gives_member h
      · rw [he] at hmember
        exact Gives.bind_error hmember
      · rw [hread] at he
        cases he
    | case4 c cs hc ps rest hm _ =>
      have hsuffix := Bracket.isSuffix_of_readMember hm
      have hrest := (hsuffix.trans (List.suffix_cons c cs)).trans h
      have hless : rest.length < fuel :=
        hsuffix.length_le.trans_lt (Nat.lt_of_succ_lt_succ hfuel)
      simp only [List.head?_cons, if_neg hc]
      obtain hmember | ⟨qs, hread, hmember⟩ := gives_member h
      · rw [hm] at hmember
        have hmap : ((Bracket.readMembers opened rest).map fun x ↦ (ps ++ x.1, x.2)).map
            (fun x ↦ (taken ++ x.1, x.2)) =
              (Bracket.readMembers opened rest).map fun x ↦ (taken ++ ps ++ x.1, x.2) := by
          cases Bracket.readMembers opened rest <;> simp [Except.map]
        rw [hmap]
        exact Gives.bind hmember (ih (taken ++ ps) hless hrest)
      · rw [hm] at hread
        cases hread
        refine hmember.bind ?_
        have hend := ih (taken ++ []) hless hrest
        rw [Bracket.readMembers] at hend ⊢
        exact hend

theorem membersText_isSuffix (cs : List Char) : Bracket.membersText cs <:+ cs := by
  unfold Bracket.membersText
  split
  · exact List.suffix_cons _ _
  · exact List.suffix_refl _

theorem gives_bracket {fuel : ℕ} (hfuel : cs.length < fuel) (h : '[' :: cs <:+ text) :
    Gives text (bracket text fuel) ('[' :: cs) (Bracket.read cs) := by
  have hcs := (List.suffix_cons '[' cs).trans h
  obtain ⟨negated, hread, hexpect⟩ : ∃ negated,
      Bracket.read cs = (Bracket.readMembers ('[' :: cs) (Bracket.membersText cs)).map
        (Bracket.read.finish ('[' :: cs) negated) ∧
      Gives text (expect text '^') cs (.ok (negated, Bracket.membersText cs)) := by
    obtain ⟨body, rfl, hexpect⟩ | ⟨hcaret, hexpect⟩ := gives_expect_or '^' hcs
    · exact ⟨true, rfl, hexpect⟩
    · have htext : Bracket.membersText cs = cs := by
        rw [Bracket.membersText]
        exact hcaret
      rw [htext, Bracket.read]
      · exact ⟨false, rfl, hexpect⟩
      · exact hcaret
  have hbody := membersText_isSuffix cs
  have hmembers :
      Gives text (members text (offsetOf text ('[' :: cs)) fuel []) (Bracket.membersText cs) _ :=
    gives_members [] (hbody.length_le.trans_lt hfuel) (hbody.trans hcs)
  refine gives_get_bind ((gives_advance h).bind (hexpect.bind ?_))
  rw [hread]
  cases hm : Bracket.readMembers ('[' :: cs) (Bracket.membersText cs) with
  | error e =>
    rw [hm] at hmembers
    exact Gives.bind_error hmembers
  | ok x =>
    obtain ⟨ms, rest⟩ := x
    rw [hm] at hmembers
    obtain ⟨taken, htaken⟩ : ∃ taken, taken ++ rest = '[' :: cs :=
      ((Bracket.isSuffix_of_readMembers hm).trans hbody).trans (List.suffix_cons '[' cs)
    rw [← htaken] at h hmembers ⊢
    refine Gives.bind hmembers (gives_get_bind ((gives_slice (bytesBetween_offsetOf h)).bind ?_))
    simp only [Except.map, Bracket.read.finish, Bracket.before_self_append, List.nil_append]
    exact gives_pure _

end Brackets

section Tokens

variable {text cs : List Char} {c : Char}

theorem gives_groupName (h : cs <:+ text) :
    Gives text (groupName text) cs ((Token.readName cs).map ((), ·)) := by
  refine (gives_span _ h).bind ((gives_peek h).bind ?_)
  cases cs with
  | nil =>
    rw [if_pos (.inl rfl)]
    exact gives_fail rfl
  | cons c cs =>
    by_cases hc : c.isDigit || !Token.isNameCharacter c
    · have hwidth : byteLength ((c :: cs).takeWhile Token.isNameCharacter) = 0 ∨
          !(c :: cs).head?.any (!·.isDigit) := by
        rcases Bool.or_eq_true_iff.1 hc with hdigit | hname
        · exact .inr (by simp [hdigit])
        · refine .inl (byteLength_eq_zero_iff.2 (List.takeWhile_cons_of_neg ?_))
          simpa using hname
      rw [if_pos hwidth, Token.readName, if_pos hc]
      exact gives_fail rfl
    · have hwidth : ¬(byteLength ((c :: cs).takeWhile Token.isNameCharacter) = 0 ∨
          !(c :: cs).head?.any (!·.isDigit)) := by
        rw [Bool.or_eq_true_iff, not_or] at hc
        rw [byteLength_eq_zero_iff, List.takeWhile_cons_of_pos (by simpa using hc.2)]
        simpa using hc.1
      rw [if_neg hwidth]
      simp only [Token.readName, if_neg hc]
      have hsplit : (c :: cs).takeWhile Token.isNameCharacter ++
          (c :: cs).dropWhile Token.isNameCharacter = c :: cs :=
        List.takeWhile_append_dropWhile
      generalize (c :: cs).takeWhile Token.isNameCharacter = name at hsplit ⊢
      generalize (c :: cs).dropWhile Token.isNameCharacter = tail at hsplit ⊢
      rw [← hsplit] at h ⊢
      have htail := (List.suffix_append name tail).trans h
      refine (gives_skip h).bind ?_
      obtain ⟨rest, rfl, hexpect⟩ | ⟨hne, hexpect⟩ := gives_expect_or '>' htail
      · exact hexpect.bind (gives_pure _)
      · split
        · next rest => exact absurd rfl (hne rest)
        · exact hexpect.bind (gives_fail rfl)

theorem gives_opening (h : cs <:+ text) : ∃ r : Except Failure (GroupKind × List Char),
    Token.readOpening cs = r.map (fun x ↦ (.openGroup x.1, x.2)) ∧
      Gives text (opening text) cs r := by
  refine exists_gives_eat_bind ['?', ':'] h ?_ fun hcolon ↦ ?_
  · rintro tail rfl
    exact ⟨.ok (.plain, tail), rfl, gives_pure _⟩
  refine exists_gives_eat_bind ['?', '='] h ?_ fun hequal ↦ ?_
  · rintro tail rfl
    exact ⟨.ok (.lookahead, tail), rfl, gives_pure _⟩
  refine exists_gives_eat_bind ['?', '!'] h ?_ fun hbang ↦ ?_
  · rintro tail rfl
    exact ⟨.ok (.negativeLookahead, tail), rfl, gives_pure _⟩
  refine exists_gives_eat_bind ['?', '<', '='] h ?_ fun hlessEqual ↦ ?_
  · rintro tail rfl
    exact ⟨.ok (.lookbehind, tail), rfl, gives_pure _⟩
  refine exists_gives_eat_bind ['?', '<', '!'] h ?_ fun hlessBang ↦ ?_
  · rintro tail rfl
    exact ⟨.ok (.negativeLookbehind, tail), rfl, gives_pure _⟩
  refine exists_gives_eat_bind ['?', '<'] h ?_ fun hless ↦ ?_
  · rintro tail rfl
    have hname := gives_groupName ((List.suffix_append ['?', '<'] tail).trans h)
    refine ⟨(Token.readName tail).map (.capturing, ·), ?_, ?_⟩
    · rw [List.cons_append, List.cons_append, List.nil_append, Token.readOpening]
      · cases Token.readName tail <;> rfl
      · rintro more rfl
        exact hlessEqual more rfl
      · rintro more rfl
        exact hlessBang more rfl
    · cases hread : Token.readName tail with
      | error e =>
        rw [hread] at hname
        exact Gives.bind_error hname
      | ok rest =>
        rw [hread] at hname
        exact Gives.bind hname (gives_pure _)
  · refine ⟨.ok (.capturing, cs), ?_, gives_pure _⟩
    rw [Token.readOpening]
    · rfl
    all_goals assumption

theorem gives_itemEscape (h : '\\' :: cs <:+ text) : ∃ r : Except Failure (Pattern × List Char),
    Token.readEscape cs = r.map (fun x ↦ (.item x.1, x.2)) ∧
      Gives text (itemEscape text) ('\\' :: cs) r := by
  have hcs := (List.suffix_cons '\\' cs).trans h
  have hcharacter : Token.readEscape.readCharacter cs =
      (escaped ('\\' :: cs) (Escape.read? cs)).map fun x ↦ (.item x.1, x.2) := by
    rw [Token.readEscape.readCharacter]
    cases Escape.read? cs <;> rfl
  fun_cases Token.readEscape cs with
  | case1 rest =>
    refine ⟨.ok (_, rest), rfl, gives_get_bind ((gives_advance h).bind ?_)⟩
    exact (gives_peek hcs).bind ((gives_advance hcs).bind (gives_pure _))
  | case2 rest =>
    refine ⟨.ok (_, rest), rfl, gives_get_bind ((gives_advance h).bind ?_)⟩
    exact (gives_peek hcs).bind ((gives_advance hcs).bind (gives_pure _))
  | case3 c rest hdigit hb hB =>
    refine ⟨.ok (.reference (c.toNat - '0'.toNat), rest), rfl, gives_get_bind
      ((gives_advance h).bind ((gives_peek hcs).bind ?_))⟩
    split
    · next he => exact absurd (Option.some.inj he) (by rintro rfl; exact hb _ rfl)
    · next he => exact absurd (Option.some.inj he) (by rintro rfl; exact hB _ rfl)
    · next he =>
      cases he
      rw [if_pos hdigit]
      exact (gives_advance hcs).bind (gives_pure _)
    · next he => cases he
  | case4 c rest hdigit hb hB =>
    refine ⟨_, hcharacter, gives_get_bind ((gives_advance h).bind ((gives_peek hcs).bind ?_))⟩
    split
    · next he => exact absurd (Option.some.inj he) (by rintro rfl; exact hb _ rfl)
    · next he => exact absurd (Option.some.inj he) (by rintro rfl; exact hB _ rfl)
    · next he =>
      cases he
      rw [if_neg hdigit]
      exact gives_escape hcs
    · next he => cases he
  | case5 =>
    exact ⟨_, hcharacter, gives_get_bind ((gives_advance h).bind
      ((gives_peek hcs).bind (gives_escape hcs)))⟩

def BeginsRepetition (cs : List Char) : Prop :=
  ∃ c tail bounds greedy rest, cs = c :: tail ∧
    Token.read c tail = .ok (.repetition bounds greedy, rest)

theorem BeginsRepetition.mem (h : BeginsRepetition (c :: cs)) : c ∈ ['*', '+', '?', '{'] := by
  obtain ⟨d, tail, bounds, greedy, rest, hcs, hread⟩ := h
  obtain ⟨rfl, rfl⟩ := List.cons.inj hcs
  obtain ⟨mark, ⟨behind, hbehind⟩, hmark⟩ := Token.beginsAt_of_read hread
  cases hmark with
  | star | plus | optional | braces =>
    obtain ⟨rfl, -⟩ := List.cons.inj hbehind
    decide

theorem gives_quantifier (h : cs <:+ text) :
    (∃ c tail bounds rest, cs = c :: tail ∧ rest <:+ tail ∧
      Token.read c tail = .ok (Token.readRepetition bounds rest) ∧
        Gives text (quantifier text) cs (.ok (some bounds, rest))) ∨
      ¬BeginsRepetition cs ∧ Gives text (quantifier text) cs (.ok (none, cs)) := by
  cases cs with
  | nil =>
    refine .inr ⟨?_, (gives_peek h).bind (gives_pure _)⟩
    rintro ⟨c, tail, bounds, greedy, rest, he, -⟩
    cases he
  | cons c tail =>
    have hmark (bounds : Bounds)
        (hq : Gives text (quantifier text) (c :: tail) (.ok (some bounds, tail)))
        (hread : Token.read c tail = .ok (Token.readRepetition bounds tail)) :
        ∃ d behind bounds rest, c :: tail = d :: behind ∧ rest <:+ behind ∧
          Token.read d behind = .ok (Token.readRepetition bounds rest) ∧
            Gives text (quantifier text) (c :: tail) (.ok (some bounds, rest)) :=
      ⟨c, tail, bounds, tail, rfl, List.suffix_refl tail, hread, hq⟩
    by_cases hstar : c = '*'
    · subst hstar
      exact .inl (hmark ⟨0, none⟩ ((gives_peek h).bind ((gives_advance h).bind (gives_pure _))) rfl)
    by_cases hplus : c = '+'
    · subst hplus
      exact .inl (hmark ⟨1, none⟩ ((gives_peek h).bind ((gives_advance h).bind (gives_pure _))) rfl)
    by_cases hoptional : c = '?'
    · subst hoptional
      exact .inl
        (hmark ⟨0, some 1⟩ ((gives_peek h).bind ((gives_advance h).bind (gives_pure _))) rfl)
    by_cases hbrace : c = '{'
    · subst hbrace
      have hbraces := gives_braces h
      cases hread : Bounds.read? tail with
      | none =>
        rw [hread] at hbraces
        refine .inr ⟨?_, (gives_peek h).bind hbraces⟩
        rintro ⟨c, tail, bounds, greedy, rest, he, htoken⟩
        obtain ⟨rfl, rfl⟩ := List.cons.inj he
        simp only [Token.read, hread] at htoken
        cases htoken
      | some x =>
        obtain ⟨bounds, rest⟩ := x
        rw [hread] at hbraces
        refine .inl ⟨'{', tail, bounds, rest, rfl, Bounds.isSuffix_of_read? hread, ?_,
          (gives_peek h).bind hbraces⟩
        simp only [Token.read, hread]
    · refine .inr ⟨fun hbegins ↦ ?_, (gives_peek h).bind ?_⟩
      · have hmem := hbegins.mem
        simp [hstar, hplus, hoptional, hbrace] at hmem
      · simp only [List.head?_cons]
        split
        · next he => exact absurd (Option.some.inj he) hstar
        · next he => exact absurd (Option.some.inj he) hplus
        · next he => exact absurd (Option.some.inj he) hoptional
        · next he => exact absurd (Option.some.inj he) hbrace
        · exact gives_pure _

end Tokens

end ByteReader

end RegexWords
