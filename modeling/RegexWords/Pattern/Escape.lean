import RegexWords.Pattern.Basic
import RegexWords.Text.Digits
import RegexWords.Text.Tail

namespace RegexWords

/-- What may stand behind a backslash inside brackets and outside. -/
inductive Escape where
  | character (c : Char)
  | shorthand (tag : Char)
  deriving DecidableEq, Repr

namespace Escape

open Text

def pattern : Escape → Pattern
  | character c => .literal c
  | shorthand tag => .shorthand tag

def isShorthand (tag : Char) : Bool :=
  tag ∈ ['d', 'D', 'w', 'W', 's', 'S']

/-- Letters for control characters. Every other character names itself. -/
def named : Char → Char
  | 't' => '\t'
  | 'n' => '\n'
  | 'r' => '\r'
  | 'f' => '\x0c'
  | 'v' => '\x0b'
  | '0' => '\x00'
  | c => c

/-- Hexadecimal digits, perhaps behind one plus sign. -/
def signedHexScalar? (digits : List Char) : Option Char :=
  match digits with
  | '+' :: d :: ds => hexScalar? (d :: ds)
  | ['+'] | [] => none
  | ds => hexScalar? ds

def bracedHex? (cs : List Char) : Option (Char × List Char) :=
  match cs.dropWhile (· != '}') with
  | [] => none
  | _ :: rest => (signedHexScalar? (cs.takeWhile (· != '}'))).map (·, rest)

/-- Reads what stands behind a backslash. A hexadecimal escape without its digits is the letter
alone, only the braced one has to be complete. -/
def read? : List Char → Option (Escape × List Char)
  | [] => none
  | 'u' :: '{' :: cs => (bracedHex? cs).map fun (c, rest) => (character c, rest)
  | 'u' :: cs =>
    match fixedHex? 4 cs with
    | some (c, rest) => some (character c, rest)
    | none => some (character 'u', cs)
  | 'x' :: cs =>
    match fixedHex? 2 cs with
    | some (c, rest) => some (character c, rest)
    | none => some (character 'x', cs)
  | c :: cs =>
    if isShorthand c then some (shorthand c, cs) else some (character (named c), cs)

theorem properTail_of_bracedHex? {cs rest : List Char} {c : Char}
    (h : bracedHex? cs = some (c, rest)) : ProperTail rest cs := by
  unfold bracedHex? at h
  split at h
  · simp at h
  · next x tail hx =>
    obtain ⟨d, _, hd⟩ := Option.map_eq_some_iff.1 h
    cases hd
    have := (List.dropWhile_suffix (l := cs) (· != '}'))
    rw [hx] at this
    obtain ⟨w, hw⟩ := this
    subst hw
    cases w with
    | nil => exact ProperTail.cons _
    | cons y w => exact ⟨y, w ++ [x], by simp⟩

theorem properTail_of_read? {cs rest : List Char} {e : Escape} (h : read? cs = some (e, rest)) :
    ProperTail rest cs := by
  unfold read? at h
  split at h
  · simp at h
  · obtain ⟨⟨d, r⟩, hd, hr⟩ := Option.map_eq_some_iff.1 h
    cases hr
    exact ((properTail_of_bracedHex? hd).cons_trans _).cons_trans _
  · split at h
    · next hd => cases h; exact ProperTail.cons_of_isSuffix _ (isSuffix_of_fixedHex? hd)
    · cases h; exact ProperTail.cons _
  · split at h
    · next hd => cases h; exact ProperTail.cons_of_isSuffix _ (isSuffix_of_fixedHex? hd)
    · cases h; exact ProperTail.cons _
  · split at h <;> cases h <;> exact ProperTail.cons _

end Escape

end RegexWords
