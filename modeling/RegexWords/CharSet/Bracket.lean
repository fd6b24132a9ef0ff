import RegexWords.CharSet.Escape

namespace RegexWords

inductive SetOperation where
  | inter | diff | symmDiff
  deriving DecidableEq, Repr

def SetOperation.apply : SetOperation → CharSet → CharSet → CharSet
  | inter => .inter
  | diff => .diff
  | symmDiff => .symmDiff

/-- A set in brackets that are still open: what stands before the last operator, with that operator,
and the members behind it. All operators bind equally and group to the left. -/
structure OpenSet where
  negated : Bool
  left : Option (CharSet × SetOperation)
  members : CharSet
  deriving Repr

namespace OpenSet

open Text

def add (s : OpenSet) (members : CharSet) : OpenSet :=
  { s with members := .union s.members members }

def value (s : OpenSet) : CharSet :=
  match s.left with
  | none => s.members
  | some (left, op) => op.apply left s.members

def operate (s : OpenSet) (op : SetOperation) : OpenSet :=
  { s with left := some (s.value, op), members := .empty }

def close (s : OpenSet) : CharSet :=
  s.value.negatedIf s.negated

/-- Dashes in front of all members stand for themselves, and so does a closing bracket there. -/
def readFront (s : OpenSet) : List Char → OpenSet × List Char
  | ']' :: rest => (s.add (.singleton ']'), rest)
  | '-' :: rest => (s.add (.singleton '-'), rest.dropWhile (· = '-'))
  | cs => (s, cs)

def ofText : List Char → OpenSet × List Char
  | '^' :: cs => readFront ⟨true, none, .empty⟩ cs
  | cs => readFront ⟨false, none, .empty⟩ cs

/-- A named set such as `[:alpha:]` or `[:^alpha:]`, behind its bracket. -/
def named? : List Char → Option (CharSet × List Char)
  | ':' :: '^' :: cs => (body cs).map fun (s, rest) => (.complement s, rest)
  | ':' :: cs => body cs
  | _ => none
where
  body (cs : List Char) : Option (CharSet × List Char) :=
    match cs.dropWhile (· != ':') with
    | ':' :: ']' :: rest =>
      (CharSet.asciiNamed? (String.ofList (cs.takeWhile (· != ':')))).map (·, rest)
    | _ => none

inductive Atom where
  | character (c : Char)
  | set (s : CharSet)
  deriving Repr

def Atom.charSet : Atom → CharSet
  | character c => .singleton c
  | set s => s

def readAtom (c : Char) (cs : List Char) : Option (Atom × List Char) :=
  if c = '\\' then
    match ClassEscape.read? cs with
    | some (.character d, rest) => some (.character d, rest)
    | some (.set s, rest) => some (.set s, rest)
    | _ => none
  else some (.character c, cs)

def range? : Atom → Atom → Option CharSet
  | .character first, .character last => if first ≤ last then some (.range first last) else none
  | _, _ => none

/-- A member or a range of two. A dash before a closing bracket or another dash makes no range. -/
def readMember (c : Char) (cs : List Char) : Option (CharSet × List Char) :=
  match readAtom c cs with
  | none => none
  | some (first, rest) =>
    match rest with
    | '-' :: d :: behind =>
      if d = ']' ∨ d = '-' then some (first.charSet, rest)
      else match readAtom d behind with
        | none => none
        | some (last, rest) => (range? first last).map (·, rest)
    | _ => some (first.charSet, rest)

theorem isSuffix_readFront (s : OpenSet) (cs : List Char) : (s.readFront cs).2 <:+ cs := by
  unfold readFront
  split
  · exact List.suffix_cons _ _
  · exact (List.dropWhile_suffix _).trans (List.suffix_cons _ _)
  · exact List.suffix_refl _

theorem isSuffix_ofText (cs : List Char) : (ofText cs).2 <:+ cs := by
  unfold ofText
  split
  · exact (isSuffix_readFront _ _).trans (List.suffix_cons _ _)
  · exact isSuffix_readFront _ _

theorem isSuffix_of_body {cs rest : List Char} {s : CharSet}
    (h : named?.body cs = some (s, rest)) : rest <:+ cs := by
  unfold named?.body at h
  split at h
  · next hd =>
    obtain ⟨_, _, he⟩ := Option.map_eq_some_iff.1 h
    cases he
    exact ((List.suffix_cons _ _).trans (List.suffix_cons _ _)).trans
      (hd ▸ List.dropWhile_suffix (· != ':'))
  · cases h

theorem isSuffix_of_named? {cs rest : List Char} {s : CharSet} (h : named? cs = some (s, rest)) :
    rest <:+ cs := by
  unfold named? at h
  split at h
  · obtain ⟨_, hb, he⟩ := Option.map_eq_some_iff.1 h
    cases he
    exact ((isSuffix_of_body hb).trans (List.suffix_cons _ _)).trans (List.suffix_cons _ _)
  · exact (isSuffix_of_body h).trans (List.suffix_cons _ _)
  · cases h

theorem isSuffix_of_readAtom {c : Char} {cs rest : List Char} {a : Atom}
    (h : readAtom c cs = some (a, rest)) : rest <:+ cs := by
  unfold readAtom at h
  split at h
  · split at h
    · next he => cases h; exact (ClassEscape.properTail_of_read? he).isSuffix
    · next he => cases h; exact (ClassEscape.properTail_of_read? he).isSuffix
    · cases h
  · cases h; exact List.suffix_refl _

theorem isSuffix_of_readMember {c : Char} {cs rest : List Char} {s : CharSet}
    (h : readMember c cs = some (s, rest)) : rest <:+ cs := by
  unfold readMember at h
  split at h
  · cases h
  · next first tail ha =>
    have tail_suffix := isSuffix_of_readAtom ha
    split at h
    · split at h
      · cases h; exact tail_suffix
      · split at h
        · cases h
        · next hl =>
          obtain ⟨_, _, he⟩ := Option.map_eq_some_iff.1 h
          cases he
          exact (((isSuffix_of_readAtom hl).trans (List.suffix_cons _ _)).trans
            (List.suffix_cons _ _)).trans tail_suffix
    · cases h; exact tail_suffix

/-- Reads the members of a set up to its closing bracket, where `around` are the sets in whose
brackets it stands, the innermost first. -/
def read (s : OpenSet) (around : List OpenSet) : List Char → Option (CharSet × List Char)
  | [] => none
  | ']' :: rest =>
    match around with
    | [] => some (s.close, rest)
    | outer :: around => read (outer.add s.close) around rest
  | '&' :: '&' :: rest => read (s.operate .inter) around rest
  | '-' :: '-' :: rest => read (s.operate .diff) around rest
  | '~' :: '~' :: rest => read (s.operate .symmDiff) around rest
  | '[' :: cs =>
    match h : named? cs with
    | some (t, rest) =>
      have := (isSuffix_of_named? h).length_le
      read (s.add t) around rest
    | none =>
      have := (isSuffix_ofText cs).length_le
      read (ofText cs).1 (s :: around) (ofText cs).2
  | c :: cs =>
    match h : readMember c cs with
    | some (t, rest) =>
      have := (isSuffix_of_readMember h).length_le
      read (s.add t) around rest
    | none => none
termination_by cs => cs.length

theorem isSuffix_of_read {s : OpenSet} {around : List OpenSet} {cs rest : List Char} {t : CharSet}
    (h : s.read around cs = some (t, rest)) : rest <:+ cs := by
  fun_induction read s around cs with
  | case1 => cases h
  | case2 => cases h; exact List.suffix_cons _ _
  | case3 s rest outer around ih => exact (ih h).trans (List.suffix_cons _ _)
  | case4 s around rest ih => exact (ih h).trans ⟨['&', '&'], rfl⟩
  | case5 s around rest ih => exact (ih h).trans ⟨['-', '-'], rfl⟩
  | case6 s around rest ih => exact (ih h).trans ⟨['~', '~'], rfl⟩
  | case7 s around cs t tail ht _ ih =>
    exact ((ih h).trans (isSuffix_of_named? ht)).trans (List.suffix_cons _ _)
  | case8 s around cs _ _ ih =>
    exact ((ih h).trans (isSuffix_ofText cs)).trans (List.suffix_cons _ _)
  | case9 s around c cs _ _ _ _ _ t tail ht _ ih =>
    exact ((ih h).trans (isSuffix_of_readMember ht)).trans (List.suffix_cons _ _)
  | case10 => cases h

end OpenSet

namespace CharSet

def read? (cs : List Char) : Option (CharSet × List Char) :=
  (OpenSet.ofText cs).1.read [] (OpenSet.ofText cs).2

theorem isSuffix_of_read? {cs rest : List Char} {s : CharSet} (h : read? cs = some (s, rest)) :
    rest <:+ cs :=
  (OpenSet.isSuffix_of_read h).trans (OpenSet.isSuffix_ofText cs)

end CharSet

end RegexWords
