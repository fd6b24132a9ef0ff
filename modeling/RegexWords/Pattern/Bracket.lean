import RegexWords.Pattern.Escape
import RegexWords.Pattern.ParseError

namespace RegexWords.Bracket

open Text

def readAtom (c : Char) (cs : List Char) : Except Failure (Pattern × List Char) :=
  match c, cs with
  | '\\', 'b' :: rest => .ok (.literal '\x08', rest)
  | '\\', '-' :: rest => .ok (.literal '-', rest)
  | '\\', cs =>
    match Escape.read? cs with
    | some (e, rest) => .ok (e.pattern, rest)
    | none => .error ⟨.invalidEscape, '\\' :: cs⟩
  | c, cs => .ok (.literal c, cs)

/-- What a dash between two atoms makes of them. Only two characters make a range, and a shorthand
leaves the dash to stand for itself. -/
def join (place : List Char) : Pattern → Pattern → Except Failure (List Pattern)
  | .literal first, .literal last =>
    if first ≤ last then .ok [.range first last] else .error ⟨.rangeOutOfOrder, place⟩
  | first, last => .ok [first, .literal '-', last]

/-- Reads an atom or two atoms with a dash between them. The last dash before the closing bracket
is an atom of its own, and a dash at the end of the text leaves the bracket unclosed. -/
def readMember (c : Char) (cs : List Char) : Except Failure (List Pattern × List Char) :=
  match readAtom c cs with
  | .error e => .error e
  | .ok (first, '-' :: ']' :: rest) => .ok ([first], '-' :: ']' :: rest)
  | .ok (first, ['-']) => .ok ([first], [])
  | .ok (first, '-' :: d :: rest) =>
    match readAtom d rest with
    | .error e => .error e
    | .ok (last, rest) => (join (c :: cs) first last).map (·, rest)
  | .ok (first, rest) => .ok ([first], rest)

theorem isSuffix_of_readAtom {c : Char} {cs rest : List Char} {p : Pattern}
    (h : readAtom c cs = .ok (p, rest)) : rest <:+ cs := by
  unfold readAtom at h
  split at h
  · cases h; exact List.suffix_cons _ _
  · cases h; exact List.suffix_cons _ _
  · split at h
    · next he => cases h; exact (Escape.properTail_of_read? he).isSuffix
    · cases h
  · cases h; exact List.suffix_refl _

theorem isSuffix_of_readMember {c : Char} {cs rest : List Char} {ps : List Pattern}
    (h : readMember c cs = .ok (ps, rest)) : rest <:+ cs := by
  unfold readMember at h
  split at h
  · cases h
  · next ha => cases h; exact isSuffix_of_readAtom ha
  · next ha => cases h; exact (List.suffix_cons _ _).trans (isSuffix_of_readAtom ha)
  · next ha =>
    split at h
    · cases h
    · next hb =>
      obtain ⟨ms, _, hr⟩ := Failure.exists_of_map_ok h
      cases hr
      exact (((isSuffix_of_readAtom hb).trans (List.suffix_cons _ _)).trans
        (List.suffix_cons _ _)).trans (isSuffix_of_readAtom ha)
  · next ha => cases h; exact isSuffix_of_readAtom ha

/-- Reads the members of the bracket that opens at the front of `place`, with the bracket that
closes it. -/
def readMembers (place : List Char) : List Char → Except Failure (List Pattern × List Char)
  | [] => .error ⟨.unclosedBracket, place⟩
  | ']' :: rest => .ok ([], rest)
  | c :: cs =>
    match h : readMember c cs with
    | .error e => .error e
    | .ok (ps, rest) =>
      have := (isSuffix_of_readMember h).length_le
      (readMembers place rest).map fun (qs, rest) => (ps ++ qs, rest)
termination_by cs => cs.length

def before (rest cs : List Char) : List Char :=
  cs.take (cs.length - rest.length)

def read (cs : List Char) : Except Failure (Pattern × List Char) :=
  let place := '[' :: cs
  match cs with
  | '^' :: body => (readMembers place body).map (finish place true)
  | body => (readMembers place body).map (finish place false)
where
  finish (place : List Char) (negated : Bool) : List Pattern × List Char → Pattern × List Char
    | (members, rest) => (.bracket members negated (String.ofList (before rest place)), rest)

theorem isSuffix_of_readMembers {place cs rest : List Char} {ps : List Pattern}
    (h : readMembers place cs = .ok (ps, rest)) : rest <:+ cs := by
  fun_induction readMembers place cs generalizing ps rest with
  | case1 => cases h
  | case2 => cases h; exact List.suffix_cons _ _
  | case3 => cases h
  | case4 c cs _ ms tail hm _ ih =>
    obtain ⟨r, hr, he⟩ := Failure.exists_of_map_ok h
    cases he
    exact ((ih hr).trans (isSuffix_of_readMember hm)).trans (List.suffix_cons _ _)

theorem isSuffix_of_read {cs rest : List Char} {p : Pattern} (h : read cs = .ok (p, rest)) :
    rest <:+ cs := by
  unfold read at h
  split at h <;> obtain ⟨r, hr, he⟩ := Failure.exists_of_map_ok h <;> cases he
  · exact (isSuffix_of_readMembers hr).trans (List.suffix_cons _ _)
  · exact isSuffix_of_readMembers hr

end RegexWords.Bracket
