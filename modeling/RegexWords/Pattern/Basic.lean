namespace RegexWords

inductive Anchor where
  | textStart | textEnd | wordBoundary | notWordBoundary
  deriving DecidableEq, Repr

def Anchor.name : Anchor → String
  | .textStart => "start"
  | .textEnd => "end"
  | .wordBoundary => "boundary"
  | .notWordBoundary => "not-boundary"

inductive GroupKind where
  | capturing | plain | lookahead | negativeLookahead | lookbehind | negativeLookbehind
  deriving DecidableEq, Repr

def GroupKind.name : GroupKind → String
  | .capturing => "normal"
  | .plain => "ignore"
  | .lookahead => "lookahead"
  | .negativeLookahead => "negative lookahead"
  | .lookbehind => "lookbehind"
  | .negativeLookbehind => "negative lookbehind"

/-- How often something is repeated: at least `least` times and, if there is a `most`, at most so
many times. -/
structure Bounds where
  least : Nat
  most : Option Nat
  deriving DecidableEq, Repr

def Bounds.inOrder (b : Bounds) : Bool :=
  b.most.all (b.least ≤ ·)

inductive Pattern where
  | sequence (items : List Pattern)
  | choice (branches : List Pattern)
  | anchor (anchor : Anchor)
  | group (kind : GroupKind) (body : List Pattern)
  | repetition (bounds : Bounds) (greedy : Bool) (body : Pattern)
  | literal (c : Char)
  /-- All characters from `first` to `last`, a member of a bracket expression. -/
  | range (first last : Char)
  /-- A set of characters with a one-letter name, such as `\d`. -/
  | shorthand (tag : Char)
  /-- A bracket expression, with the text it was read from. -/
  | bracket (members : List Pattern) (negated : Bool) (text : String)
  | anyCharacter
  /-- What the group with a given number matched. -/
  | reference (id : Nat)
  deriving BEq, Repr, Inhabited

namespace Pattern

def kindName : Pattern → String
  | sequence _ => "alternative"
  | choice _ => "disjunction"
  | anchor _ => "anchor"
  | group _ _ => "group"
  | repetition _ _ _ => "quantifier"
  | literal _ => "value"
  | range _ _ => "characterClassRange"
  | shorthand _ => "characterClassEscape"
  | bracket _ _ _ => "characterClass"
  | anyCharacter => "dot"
  | reference _ => "reference"

/-- Items one behind the other. One item alone stands for itself. -/
def ofItems : List Pattern → Pattern
  | [p] => p
  | ps => sequence ps

def ofBranches : List Pattern → Pattern
  | [p] => p
  | ps => choice ps

def items : Pattern → List Pattern
  | sequence ps => ps
  | p => [p]

end Pattern

end RegexWords
