import Mathlib.Data.List.Induction
import Mathlib.Data.List.TakeWhile
import Mathlib.Tactic.IntervalCases
import RegexWords.Pattern.Parse
import RegexWords.Pattern.Render

namespace RegexWords

namespace Text

theorem hexValue?_digitChar {n : ℕ} (h : n < 16) : hexValue? n.digitChar = some n := by
  interval_cases n <;> rfl

theorem hexNumber?_append_singleton (ds : List Char) (d : Char) :
    hexNumber? (ds ++ [d]) = (hexNumber? ds).bind (appendHexDigit · d) := by
  simp only [hexNumber?, List.foldlM_append, List.foldlM_cons, List.foldlM_nil]
  cases ds.foldlM appendHexDigit 0 with
  | none => rfl
  | some n => exact bind_pure (appendHexDigit n d)

theorem hexNumber?_toDigits (n : ℕ) : hexNumber? (Nat.toDigits 16 n) = some n := by
  induction n using Nat.strong_induction_on with
  | _ n ih =>
    by_cases h : n < 16
    · rw [Nat.toDigits_of_lt_base h]
      simp [hexNumber?, appendHexDigit, hexValue?_digitChar h]
    · have hdiv : n / 16 < n := by omega
      rw [Nat.toDigits_of_base_le (by omega) (by omega), hexNumber?_append_singleton, ih _ hdiv,
        Option.bind_some, appendHexDigit, hexValue?_digitChar (Nat.mod_lt n (by omega)),
        Option.map_some, Nat.div_add_mod]

theorem hexNumber?_eq_none_of_mem {ds : List Char} {c : Char} (hc : hexValue? c = none)
    (h : c ∈ ds) : hexNumber? ds = none := by
  induction ds using List.reverseRecOn with
  | nil => cases h
  | append_singleton ds d ih =>
    rw [hexNumber?_append_singleton]
    rcases List.mem_append.1 h with h | h
    · rw [ih h, Option.bind_none]
    · obtain rfl := List.mem_singleton.1 h
      cases hexNumber? ds with
      | none => rfl
      | some n => simp [appendHexDigit, hc]

theorem notMem_toDigits {n : ℕ} {c : Char} (hc : hexValue? c = none) : c ∉ Nat.toDigits 16 n := by
  intro h
  have hnone := hexNumber?_eq_none_of_mem hc h
  rw [hexNumber?_toDigits] at hnone
  cases hnone

theorem takeWhile_append_cons {p : Char → Bool} {as : List Char} {c : Char} (h : ∀ a ∈ as, p a)
    (hc : p c = false) (rest : List Char) : (as ++ c :: rest).takeWhile p = as := by
  rw [List.takeWhile_append_of_pos h, List.takeWhile_cons_of_neg (by simp [hc]), List.append_nil]

theorem dropWhile_append_cons {p : Char → Bool} {as : List Char} {c : Char} (h : ∀ a ∈ as, p a)
    (hc : p c = false) (rest : List Char) : (as ++ c :: rest).dropWhile p = c :: rest := by
  rw [List.dropWhile_append_of_pos h, List.dropWhile_cons_of_neg (by simp [hc])]

end Text

open Text

namespace Escape

theorem signedHexScalar?_toDigits (c : Char) :
    signedHexScalar? (Nat.toDigits 16 c.toNat) = some c := by
  have hplus : '+' ∉ Nat.toDigits 16 c.toNat := notMem_toDigits rfl
  have hscalar : hexScalar? (Nat.toDigits 16 c.toNat) = some c := by
    rw [hexScalar?, hexNumber?_toDigits, Option.bind_some, scalar?_toNat]
  generalize hds : Nat.toDigits 16 c.toNat = ds at hplus hscalar
  unfold signedHexScalar?
  split
  · simp at hplus
  · simp at hplus
  · exact absurd hds Nat.toDigits_ne_nil
  · exact hscalar

theorem bracedHex?_toDigits (c : Char) (rest : List Char) :
    bracedHex? (Nat.toDigits 16 c.toNat ++ '}' :: rest) = some (c, rest) := by
  have hne : ∀ d ∈ Nat.toDigits 16 c.toNat, (d != '}') = true := by
    intro d hd
    rw [bne_iff_ne]
    rintro rfl
    exact notMem_toDigits rfl hd
  rw [bracedHex?, dropWhile_append_cons hne rfl, takeWhile_append_cons hne rfl,
    signedHexScalar?_toDigits]
  rfl

def IsShared (c : Char) : Prop := c ≠ 'b' ∧ c ≠ 'B' ∧ c.isDigit = false

instance (c : Char) : Decidable (IsShared c) := inferInstanceAs (Decidable (_ ∧ _))

/-- Behind a backslash the text is read as an escape, whatever stands behind it. -/
def Writes (text : List Char) (e : Escape) : Prop :=
  ∃ c cs, text = c :: cs ∧ IsShared c ∧ ∀ rest, read? (c :: (cs ++ rest)) = some (e, rest)

theorem writes_of_isMeta {c : Char} (h : Pattern.isMeta c) : Writes [c] (.character c) := by
  simp only [Pattern.isMeta, List.mem_cons, List.not_mem_nil, or_false, decide_eq_true_eq] at h
  refine ⟨c, [], rfl, ?_, fun rest ↦ ?_⟩
  all_goals
    rcases h with rfl | rfl | rfl | rfl | rfl | rfl | rfl | rfl | rfl | rfl | rfl | rfl | rfl |
      rfl | rfl
  all_goals first | decide | rfl

theorem writes_braced (c : Char) :
    Writes ('u' :: '{' :: (Nat.toDigits 16 c.toNat ++ ['}'])) (.character c) := by
  refine ⟨'u', _, rfl, by decide, fun rest ↦ ?_⟩
  simp [read?, bracedHex?_toDigits]

theorem writes_shorthand {tag : Char} (h : isShorthand tag) : Writes [tag] (.shorthand tag) := by
  simp only [isShorthand, List.mem_cons, List.not_mem_nil, or_false, decide_eq_true_eq] at h
  refine ⟨tag, [], rfl, ?_, fun rest ↦ ?_⟩
  all_goals rcases h with rfl | rfl | rfl | rfl | rfl | rfl
  all_goals first | decide | rfl

theorem exists_of_renderLiteral (c : Char) :
    (¬Pattern.isMeta c ∧ Pattern.renderLiteral c = [c]) ∨
      ∃ text, Pattern.renderLiteral c = '\\' :: text ∧ Writes text (.character c) := by
  unfold Pattern.renderLiteral
  split
  · next h => exact .inr ⟨[c], rfl, writes_of_isMeta h⟩
  · next h =>
    split
    · next ht => exact .inr ⟨['t'], rfl, 't', [], rfl, by decide, fun _ ↦ ht ▸ rfl⟩
    · split
      · next hn => exact .inr ⟨['n'], rfl, 'n', [], rfl, by decide, fun _ ↦ hn ▸ rfl⟩
      · split
        · next hr => exact .inr ⟨['r'], rfl, 'r', [], rfl, by decide, fun _ ↦ hr ▸ rfl⟩
        · split
          · exact .inr ⟨_, rfl, writes_braced c⟩
          · exact .inl ⟨h, rfl⟩

end Escape

namespace Bounds

variable {digits most : List Char} {n m : ℕ}

def ReadsNumber (digits : List Char) (n : ℕ) : Prop :=
  ∀ c, c.isDigit = false → ∀ rest, readNumber? (digits ++ c :: rest) = some (n, c :: rest)

theorem readsNumber_of_isDigit (hne : digits ≠ []) (hdigits : ∀ d ∈ digits, d.isDigit)
    (hvalue : Nat.ofDigitChars 10 digits 0 = n) (h : n ≤ greatest) : ReadsNumber digits n := by
  intro c hc rest
  simp only [readNumber?, takeWhile_append_cons hdigits hc, dropWhile_append_cons hdigits hc,
    hvalue]
  exact if_pos ⟨hne, h⟩

theorem readsNumber_toDigits (h : n ≤ greatest) : ReadsNumber (Nat.toDigits 10 n) n :=
  readsNumber_of_isDigit Nat.toDigits_ne_nil
    (fun _ hd ↦ Nat.isDigit_of_mem_toDigits (by omega) le_rfl hd) Nat.ofDigitChars_ten_toDigits h

def IsReadable (b : Bounds) : Prop :=
  b.least ≤ greatest ∧ ∀ m ∈ b.most, m ≤ greatest

theorem read?_exactly (h : ReadsNumber digits n) (rest : List Char) :
    read? (digits ++ '}' :: rest) = some (⟨n, some n⟩, rest) := by
  rw [read?, h _ rfl]
  rfl

theorem read?_atLeast (h : ReadsNumber digits n) (rest : List Char) :
    read? (digits ++ ',' :: '}' :: rest) = some (⟨n, none⟩, rest) := by
  rw [read?, h _ rfl]
  rfl

theorem read?_between (hn : ReadsNumber digits n) (hm : ReadsNumber most m) (rest : List Char) :
    read? (digits ++ ',' :: (most ++ '}' :: rest)) = some (⟨n, some m⟩, rest) := by
  have hbrace : ∀ cs, most ++ '}' :: rest ≠ '}' :: cs := by
    intro cs he
    have hm := hm '}' rfl rest
    rw [he] at hm
    cases hm
  rw [read?, hn _ rfl]
  split
  · next he => cases he
  · next he =>
    simp only [Option.some.injEq, Prod.mk.injEq, List.cons.injEq, true_and] at he
    exact absurd he.2 (hbrace _)
  · next he =>
    cases he
    rw [hm _ rfl]
    rfl
  · next hne => exact absurd rfl (hne _ _)

end Bounds

namespace Token

/-- The text is read as a token when it stands in front of `rest`. -/
def Reads (text : List Char) (t : Token) (rest : List Char) : Prop :=
  ∃ c cs, text = c :: cs ∧ read c (cs ++ rest) = .ok (t, rest)

/-- Nothing that changes how the token before it is read. -/
def Quiet (rest : List Char) : Prop := ∀ cs, rest ≠ '?' :: cs

theorem read_of_isShared {c : Char} (h : Escape.IsShared c) (cs : List Char) :
    read '\\' (c :: cs) = readEscape.readCharacter (c :: cs) := by
  obtain ⟨hb, hB, hdigit⟩ := h
  simp [read, readEscape, hb, hB, hdigit]

theorem reads_escape {text : List Char} {e : Escape} (h : Escape.Writes text e)
    (rest : List Char) : Reads ('\\' :: text) (.item e.pattern) rest := by
  obtain ⟨c, cs, rfl, hc, hread⟩ := h
  refine ⟨'\\', c :: cs, rfl, ?_⟩
  rw [List.cons_append, read_of_isShared hc, readEscape.readCharacter, hread]

theorem read_of_not_isMeta {c : Char} (h : ¬ Pattern.isMeta c) (rest : List Char) :
    read c rest = .ok (.item (.literal c), rest) := by
  rw [read]
  all_goals
    rintro rfl
    exact h rfl

theorem reads_literal (c : Char) (rest : List Char) :
    Reads (Pattern.renderLiteral c) (.item (.literal c)) rest := by
  obtain ⟨h, hrender⟩ | ⟨text, hrender, h⟩ := Escape.exists_of_renderLiteral c
  · rw [hrender]
    exact ⟨c, [], rfl, read_of_not_isMeta h rest⟩
  · rw [hrender]
    exact reads_escape h rest

theorem reads_anchor (a : Anchor) (rest : List Char) : Reads a.render (.item (.anchor a)) rest := by
  cases a with
  | textStart => exact ⟨'^', [], rfl, rfl⟩
  | textEnd => exact ⟨'$', [], rfl, rfl⟩
  | wordBoundary => exact ⟨'\\', ['b'], rfl, rfl⟩
  | notWordBoundary => exact ⟨'\\', ['B'], rfl, rfl⟩

theorem reads_shorthand {tag : Char} (h : Escape.isShorthand tag) (rest : List Char) :
    Reads ['\\', tag] (.item (.shorthand tag)) rest :=
  reads_escape (Escape.writes_shorthand h) rest

/-- A reference has one digit, and digits behind it are text. -/
theorem reads_reference {id : ℕ} (h : 1 ≤ id) (h' : id ≤ 9) (rest : List Char) :
    Reads ('\\' :: Nat.toDigits 10 id) (.item (.reference id)) rest := by
  refine ⟨'\\', Nat.toDigits 10 id, rfl, ?_⟩
  rw [Nat.toDigits_of_lt_base (by omega)]
  interval_cases id <;> rfl

def reluctance (greedy : Bool) : List Char :=
  if greedy then [] else ['?']

theorem readRepetition_reluctance (b : Bounds) (greedy : Bool) {rest : List Char} (h : Quiet rest) :
    readRepetition b (reluctance greedy ++ rest) = (.repetition b greedy, rest) := by
  cases greedy with
  | false => rfl
  | true =>
    rw [reluctance, if_pos rfl, List.nil_append]
    unfold readRepetition
    split
    · exact absurd rfl (h _)
    · rfl

theorem read_brace {b : Bounds} {cs : List Char} {greedy : Bool} {rest : List Char}
    (h : Bounds.read? cs = some (b, reluctance greedy ++ rest)) (hrest : Quiet rest) :
    read '{' cs = .ok (.repetition b greedy, rest) := by
  simp only [read, h, readRepetition_reluctance b greedy hrest]

theorem reads_repetition {b : Bounds} (hb : b.IsReadable) (greedy : Bool) {rest : List Char}
    (h : Quiet rest) :
    Reads (b.render ++ reluctance greedy) (.repetition b greedy) rest := by
  have hmark (b : Bounds) (c : Char) (hc : ∀ cs, read c cs = .ok (readRepetition b cs)) :
      Reads (c :: reluctance greedy) (.repetition b greedy) rest :=
    ⟨c, _, rfl, by rw [hc, readRepetition_reluctance b greedy h]⟩
  fun_cases Bounds.render b with
  | case1 => exact hmark _ '*' fun cs ↦ rfl
  | case2 => exact hmark _ '+' fun cs ↦ rfl
  | case3 => exact hmark _ '?' fun cs ↦ rfl
  | case4 least =>
    refine ⟨'{', _, rfl, read_brace ?_ h⟩
    simpa using Bounds.read?_atLeast (Bounds.readsNumber_toDigits hb.1) (reluctance greedy ++ rest)
  | case5 least _ =>
    refine ⟨'{', _, rfl, read_brace ?_ h⟩
    simpa using Bounds.read?_exactly (Bounds.readsNumber_toDigits hb.1) (reluctance greedy ++ rest)
  | case6 least most _ hne =>
    refine ⟨'{', _, rfl, read_brace ?_ h⟩
    simpa using Bounds.read?_between (Bounds.readsNumber_toDigits hb.1)
      (Bounds.readsNumber_toDigits (hb.2 most rfl)) (reluctance greedy ++ rest)

end Token
end RegexWords
