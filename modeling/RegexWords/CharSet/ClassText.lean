import RegexWords.CharSet.Bracket
import RegexWords.CharSet.Compiler

namespace RegexWords

def PlaceTest.holds (candidate : Char) (taken : Bool) : PlaceTest → Bool
  | textStart => !taken
  | textEnd => taken
  | notWordBoundary => !Unicode.isWordCharacter candidate
  | wordStart => !taken && Unicode.isWordCharacter candidate
  | wordEnd => taken && Unicode.isWordCharacter candidate

inductive ClassItem where
  | set (s : CharSet)
  | place (test : PlaceTest)
  deriving DecidableEq, Repr

/-- Items that match a candidate one behind the other, so that none of them accept no candidate. -/
structure ClassText where
  items : List ClassItem
  deriving DecidableEq, Repr

namespace ClassText

open Text

def matchFrom (candidate : Char) : (taken : Bool) → List ClassItem → Bool
  | taken, [] => taken
  | taken, .set s :: items => !taken && s.contains candidate && matchFrom candidate true items
  | taken, .place test :: items => test.holds candidate taken && matchFrom candidate taken items

def accepts (t : ClassText) : Matcher :=
  fun candidate ↦ matchFrom candidate false t.items

def ofSet (s : CharSet) : ClassText := ⟨[.set s]⟩

def itemOfEscape : ClassEscape → ClassItem
  | .character c => .set (.singleton c)
  | .set s => .set s
  | .place test => .place test

/-- Marks that group, divide or repeat items, which are not read here. -/
def isReserved (c : Char) : Bool :=
  c ∈ ['(', ')', '|', '*', '+', '?', '\x7b']

def readItem (c : Char) (cs : List Char) : Option (ClassItem × List Char) :=
  match c with
  | '[' => (CharSet.read? cs).map fun (s, rest) => (.set s, rest)
  | '\\' => (ClassEscape.read? cs).map fun (e, rest) => (itemOfEscape e, rest)
  | '.' => some (.set (.complement (.singleton '\n')), cs)
  | '^' => some (.place .textStart, cs)
  | '$' => some (.place .textEnd, cs)
  | c => if isReserved c then none else some (.set (.singleton c), cs)

theorem isSuffix_of_readItem {c : Char} {cs rest : List Char} {i : ClassItem}
    (h : readItem c cs = some (i, rest)) : rest <:+ cs := by
  unfold readItem at h
  split at h
  · obtain ⟨⟨s, r⟩, hs, he⟩ := Option.map_eq_some_iff.1 h
    cases he
    exact CharSet.isSuffix_of_read? hs
  · obtain ⟨⟨e, r⟩, hr, he⟩ := Option.map_eq_some_iff.1 h
    cases he
    exact (ClassEscape.properTail_of_read? hr).isSuffix
  · cases h; exact List.suffix_refl _
  · cases h; exact List.suffix_refl _
  · cases h; exact List.suffix_refl _
  · split at h
    · cases h
    · cases h; exact List.suffix_refl _

def readItems : List Char → Option (List ClassItem)
  | [] => some []
  | c :: cs =>
    match h : readItem c cs with
    | none => none
    | some (item, rest) =>
      have := (isSuffix_of_readItem h).length_le
      (readItems rest).map (item :: ·)
termination_by cs => cs.length

def read? (pattern : String) : Option ClassText :=
  match pattern.toList with
  | '^' :: '(' :: '?' :: ':' :: cs =>
    if cs.drop (cs.length - 2) = [')', '$'] then
      (readItems (cs.take (cs.length - 2))).map ClassText.mk
    else none
  | _ => none

/-- This compiler knows what brackets and escapes are written as, and has no matcher for a pattern
with other marks in its frame. -/
instance compiler : Compiler := ⟨fun pattern ↦ (read? pattern).map accepts⟩

theorem matcher?_of_read? {text : String} {t : ClassText} (h : read? (framed text) = some t) :
    matcher? text = some t.accepts :=
  congrArg (Option.map accepts) h

@[simp] theorem accepts_ofSet (s : CharSet) (c : Char) : (ofSet s).accepts c = s.contains c := by
  simp [accepts, ofSet, matchFrom]

end ClassText

end RegexWords
