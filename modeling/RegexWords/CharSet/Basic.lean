import RegexWords.Unicode.NamedProperty

namespace RegexWords

inductive CharSet where
  | empty
  | range (first last : Char)
  | property (p : Unicode.NamedProperty)
  | wordCharacters
  | complement (s : CharSet)
  | union (s t : CharSet)
  | inter (s t : CharSet)
  | diff (s t : CharSet)
  | symmDiff (s t : CharSet)
  deriving DecidableEq, Repr, Inhabited

namespace CharSet

def contains : CharSet → Char → Bool
  | empty, _ => false
  | range first last, c => first ≤ c && c ≤ last
  | property p, c => p.holds c
  | wordCharacters, c => Unicode.isWordCharacter c
  | complement s, c => !s.contains c
  | union s t, c => s.contains c || t.contains c
  | inter s t, c => s.contains c && t.contains c
  | diff s t, c => s.contains c && !t.contains c
  | symmDiff s t, c => s.contains c ^^ t.contains c

def singleton (c : Char) : CharSet := range c c

def decimalNumbers : CharSet := property (.categories [.nd])

def whiteSpace : CharSet := property .whiteSpace

def negatedIf (negated : Bool) (s : CharSet) : CharSet :=
  if negated then complement s else s

def ofRanges (ranges : List (Char × Char)) : CharSet :=
  ranges.foldl (fun s (first, last) => union s (range first last)) empty

def asciiNamed? : String → Option CharSet
  | "alnum" => some (ofRanges [('0', '9'), ('A', 'Z'), ('a', 'z')])
  | "alpha" => some (ofRanges [('A', 'Z'), ('a', 'z')])
  | "ascii" => some (range '\x00' '\x7f')
  | "blank" => some (ofRanges [('\t', '\t'), (' ', ' ')])
  | "cntrl" => some (ofRanges [('\x00', '\x1f'), ('\x7f', '\x7f')])
  | "digit" => some (range '0' '9')
  | "graph" => some (range '!' '~')
  | "lower" => some (range 'a' 'z')
  | "print" => some (range ' ' '~')
  | "punct" => some (ofRanges [('!', '/'), (':', '@'), ('[', '`'), ('\x7b', '~')])
  | "space" => some (ofRanges [('\t', '\r'), (' ', ' ')])
  | "upper" => some (range 'A' 'Z')
  | "word" => some (ofRanges [('0', '9'), ('A', 'Z'), ('a', 'z'), ('_', '_')])
  | "xdigit" => some (ofRanges [('0', '9'), ('A', 'F'), ('a', 'f')])
  | _ => none

@[simp] theorem contains_singleton (a c : Char) : (singleton a).contains c = (a == c) := by
  rw [Bool.eq_iff_iff]
  simp only [singleton, contains, Bool.and_eq_true, decide_eq_true_eq, beq_iff_eq]
  exact ⟨fun h => Char.le_antisymm h.1 h.2, fun h => h ▸ ⟨Char.le_refl _, Char.le_refl _⟩⟩

@[simp] theorem contains_negatedIf (negated : Bool) (s : CharSet) (c : Char) :
    (negatedIf negated s).contains c = (negated ^^ s.contains c) := by
  cases negated <;> simp [negatedIf, contains]

end CharSet

end RegexWords
