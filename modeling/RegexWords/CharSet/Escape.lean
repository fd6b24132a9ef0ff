import RegexWords.CharSet.Basic
import RegexWords.Text.Digits
import RegexWords.Text.Tail

namespace RegexWords

inductive PlaceTest where
  | textStart | textEnd | notWordBoundary | wordStart | wordEnd
  deriving DecidableEq, Repr

inductive ClassEscape where
  | character (c : Char)
  | set (s : CharSet)
  | place (test : PlaceTest)
  deriving DecidableEq, Repr

namespace ClassEscape

open Text

/-- Escapes of one character. ASCII characters other than letters and digits stand for themselves.
-/
def simple? : Char → Option ClassEscape
  | 'a' => some (character '\x07')
  | 't' => some (character '\t')
  | 'n' => some (character '\n')
  | 'v' => some (character '\x0b')
  | 'f' => some (character '\x0c')
  | 'r' => some (character '\r')
  | 'd' => some (set .decimalNumbers)
  | 'D' => some (set (.complement .decimalNumbers))
  | 's' => some (set .whiteSpace)
  | 'S' => some (set (.complement .whiteSpace))
  | 'w' => some (set .wordCharacters)
  | 'W' => some (set (.complement .wordCharacters))
  | 'A' => some (place .textStart)
  | 'z' => some (place .textEnd)
  | 'B' => some (place .notWordBoundary)
  | '<' => some (place .wordStart)
  | '>' => some (place .wordEnd)
  | c => if c.toNat < 128 && !c.isAlphanum then some (character c) else none

def braced? (cs : List Char) : Option (List Char × List Char) :=
  match cs.dropWhile (· != '}') with
  | [] => none
  | _ :: rest => some (cs.takeWhile (· != '}'), rest)

def hex? (width : Nat) : List Char → Option (ClassEscape × List Char)
  | '\x7b' :: cs =>
    match braced? cs with
    | none | some ([], _) => none
    | some (digits, rest) => (hexScalar? digits).map (character ·, rest)
  | cs => (fixedHex? width cs).map fun (c, rest) => (character c, rest)

def splitAt? (mark : List Char) : List Char → Option (List Char × List Char)
  | [] => none
  | c :: cs =>
    if mark.isPrefixOf (c :: cs) then some ([], (c :: cs).drop mark.length)
    else (splitAt? mark cs).map fun (before, behind) => (c :: before, behind)

def question? (text : List Char) : Option CharSet :=
  match splitAt? ['!', '='] text with
  | some (name, value) => (Unicode.NamedProperty.valued? name value).map (.complement <| .property ·)
  | none =>
    match (splitAt? [':'] text).or (splitAt? ['='] text) with
    | some (name, value) => (Unicode.NamedProperty.valued? name value).map .property
    | none => (Unicode.NamedProperty.named? text).map .property

def property? (negated : Bool) : List Char → Option (ClassEscape × List Char)
  | [] | '\\' :: _ => none
  | '\x7b' :: cs =>
    match braced? cs with
    | none => none
    | some (text, rest) => (question? text).map fun s => (set (s.negatedIf negated), rest)
  | c :: cs =>
    (Unicode.NamedProperty.named? [c]).map fun p => (set (.negatedIf negated (.property p)), cs)

def read? : List Char → Option (ClassEscape × List Char)
  | [] => none
  | 'x' :: cs => hex? 2 cs
  | 'u' :: cs => hex? 4 cs
  | 'U' :: cs => hex? 8 cs
  | 'p' :: cs => property? false cs
  | 'P' :: cs => property? true cs
  | c :: cs => (simple? c).map (·, cs)

theorem isSuffix_of_braced? {cs text rest : List Char} (h : braced? cs = some (text, rest)) :
    rest <:+ cs := by
  unfold braced? at h
  split at h
  · cases h
  · next hd =>
    cases h
    exact (List.suffix_cons _ _).trans (hd ▸ List.dropWhile_suffix (· != '}'))

theorem isSuffix_of_hex? {width : Nat} {cs rest : List Char} {e : ClassEscape}
    (h : hex? width cs = some (e, rest)) : rest <:+ cs := by
  unfold hex? at h
  split at h
  · split at h
    · cases h
    · cases h
    · next hb =>
      obtain ⟨_, _, he⟩ := Option.map_eq_some_iff.1 h
      cases he
      exact (isSuffix_of_braced? hb).trans (List.suffix_cons _ _)
  · obtain ⟨⟨c, r⟩, hd, he⟩ := Option.map_eq_some_iff.1 h
    cases he
    exact isSuffix_of_fixedHex? hd

theorem isSuffix_of_property? {negated : Bool} {cs rest : List Char} {e : ClassEscape}
    (h : property? negated cs = some (e, rest)) : rest <:+ cs := by
  unfold property? at h
  split at h
  · cases h
  · cases h
  · split at h
    · cases h
    · next hb =>
      obtain ⟨_, _, he⟩ := Option.map_eq_some_iff.1 h
      cases he
      exact (isSuffix_of_braced? hb).trans (List.suffix_cons _ _)
  · obtain ⟨_, _, he⟩ := Option.map_eq_some_iff.1 h
    cases he
    exact List.suffix_cons _ _

theorem properTail_of_read? {cs rest : List Char} {e : ClassEscape} (h : read? cs = some (e, rest)) :
    ProperTail rest cs := by
  unfold read? at h
  split at h
  · cases h
  · exact .cons_of_isSuffix _ (isSuffix_of_hex? h)
  · exact .cons_of_isSuffix _ (isSuffix_of_hex? h)
  · exact .cons_of_isSuffix _ (isSuffix_of_hex? h)
  · exact .cons_of_isSuffix _ (isSuffix_of_property? h)
  · exact .cons_of_isSuffix _ (isSuffix_of_property? h)
  · obtain ⟨_, _, he⟩ := Option.map_eq_some_iff.1 h
    cases he
    exact .cons _

end ClassEscape

end RegexWords
