import RegexWords.Pattern.Basic
import RegexWords.Text.Quoted

namespace RegexWords

inductive Obstacle where
  | reference
  | anchor (anchor : Anchor)
  | group (kind : GroupKind)
  /-- None of the candidates is in the set. -/
  | unsatisfiable (candidates : List Char) (text : String)
  /-- A class text that cannot be read. -/
  | unreadable (text : String)
  deriving DecidableEq, Repr

def Obstacle.message : Obstacle → String
  | reference => "Unsupported regular expression feature: " ++ (Pattern.reference 0).kindName
  | anchor a => "No " ++ a.name ++ " anchor support"
  | group kind => "No " ++ kind.name ++ " group support"
  | unsatisfiable candidates text =>
    "No value in " ++ Text.quoted candidates ++ " could satisfy the character class " ++ text
  | unreadable text => "cannot test membership for " ++ text

end RegexWords
