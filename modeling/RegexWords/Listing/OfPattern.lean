import RegexWords.Listing.Basic

namespace RegexWords.Listing

def ofRange (s : Settings) (first last : Char) : Listing :=
  match s.mode with
  | .exhaustive => interval (some first) last
  | .examples => characters (Interval.samples first last)

def ofShorthand (s : Settings) (tag : Char) : Listing :=
  match tag with
  | 'd' => characters s.alphabets.digit
  | 'w' => characters s.alphabets.word
  | 's' => characters s.alphabets.space
  | tag => sampling (Pattern.shorthand tag).text s.alphabets.candidates

/-- A condition that holds at an end of the text is taken to hold. -/
def ofAnchor : Anchor → Listing
  | .textStart | .textEnd => words [""]
  | a => failing (.anchor a)

def ofGroup (kind : GroupKind) (body : List Listing) : Listing :=
  match kind with
  | .capturing | .plain => concatenation body
  | kind => failing (.group kind)

mutual

def ofPattern (s : Settings) : Pattern → Listing
  | .sequence ps => concatenation (ofPatterns s ps)
  | .choice ps => choice ⟨ofPatterns s ps⟩
  | .anchor a => ofAnchor a
  | .group kind body => ofGroup kind (ofPatterns s body)
  | .repetition bounds _ p => repeating (.start p (ofPattern s p) (.ofBounds s bounds))
  | .literal c => words [String.singleton c]
  | .range first last => ofRange s first last
  | .shorthand tag => ofShorthand s tag
  | .bracket members false _ => choice ⟨ofPatterns s members⟩
  | .bracket _ true text => sampling text s.alphabets.candidates
  | .anyCharacter => characters s.alphabets.anyCharacter
  | .reference _ => failing .reference

def ofPatterns (s : Settings) : List Pattern → List Listing
  | [] => []
  | p :: ps => ofPattern s p :: ofPatterns s ps

end

theorem ofPatterns_eq_map (s : Settings) (ps : List Pattern) :
    ofPatterns s ps = ps.map (ofPattern s) := by
  induction ps with
  | nil => rfl
  | cons p ps ih => rw [ofPatterns, ih, List.map_cons]

end RegexWords.Listing
