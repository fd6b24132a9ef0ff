import RegexWords.Pattern.BoundsReader

namespace RegexWords

inductive Mode where
  /-- All characters of a range and all counts of a repetition. -/
  | exhaustive
  /-- A few of each. -/
  | examples
  deriving DecidableEq, Repr

def Mode.name : Mode → String
  | exhaustive => "exhaustive"
  | examples => "examples"

structure Alphabets where
  /-- Listed for any character. -/
  anyCharacter : List Char
  /-- Tried for sets that are decided character by character. -/
  candidates : List Char
  space : List Char
  word : List Char
  digit : List Char
  deriving DecidableEq, Repr

namespace Alphabets

def interval (first : Char) (count : Nat) : List Char :=
  (List.range count).map fun k => Char.ofNat (first.toNat + k)

def defaultCandidates : List Char := ['F', '7', '.', '$', ' ', '\ufffd']

def exhaustive : Alphabets where
  anyCharacter := ['.']
  candidates := defaultCandidates
  space :=
    ['\x0c', '\n', '\r', '\t', '\x0b', ' ', '\u00a0', '\u1680', '\u2028', '\u2029', '\u202f',
      '\u205f', '\u3000'] ++ interval '\u2000' 11
  word := interval 'A' 26 ++ interval 'a' 26 ++ interval '0' 10
  digit := interval '0' 10

def examples : Alphabets where
  anyCharacter := ['.']
  candidates := defaultCandidates
  space := [' ', '\t']
  word := ['A', 'b', '1']
  digit := ['0', '1']

def ofMode : Mode → Alphabets
  | .exhaustive => exhaustive
  | .examples => examples

end Alphabets

structure Settings where
  mode : Mode
  alphabets : Alphabets
  /-- Where a repetition stops that names no most. -/
  greatestCount : Nat
  deriving DecidableEq, Repr

def Settings.ofMode (mode : Mode) : Settings :=
  ⟨mode, .ofMode mode, Bounds.greatest⟩

end RegexWords
