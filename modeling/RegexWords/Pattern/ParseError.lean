import RegexWords.Text.Bytes

namespace RegexWords

inductive ParseErrorKind where
  | unmatchedClose | unclosedGroup | nothingToRepeat | unclosedBracket | rangeOutOfOrder
  | boundsOutOfOrder | invalidEscape | invalidGroupName
  deriving DecidableEq, Repr

def ParseErrorKind.message : ParseErrorKind → String
  | .unmatchedClose => "unmatched ')'"
  | .unclosedGroup => "missing ')'"
  | .nothingToRepeat => "nothing to repeat"
  | .unclosedBracket => "unterminated character class"
  | .rangeOutOfOrder => "character class range out of order"
  | .boundsOutOfOrder => "numbers out of order in \x7b\x7d quantifier"
  | .invalidEscape => "invalid escape"
  | .invalidGroupName => "invalid group name"

structure ParseError where
  kind : ParseErrorKind
  /-- The place of the fault, in bytes. -/
  offset : Nat
  deriving DecidableEq, Repr

def ParseError.message (e : ParseError) : String :=
  e.kind.message ++ " at offset " ++ toString e.offset

structure Failure where
  kind : ParseErrorKind
  place : List Char
  deriving DecidableEq, Repr

namespace Failure

/-- Where reading stands after the failure. That a group or a bracket is never closed shows at the
end of the text, and every other fault shows where it is. -/
def rest (f : Failure) : List Char :=
  match f.kind with
  | .unclosedGroup | .unclosedBracket => []
  | _ => f.place

def located (f : Failure) (text : List Char) : ParseError :=
  ⟨f.kind, Text.byteLength text - Text.byteLength f.place⟩

theorem exists_of_map_ok {α β : Type} {f : α → β} {x : Except Failure α} {b : β}
    (h : x.map f = .ok b) : ∃ a, x = .ok a ∧ f a = b := by
  cases x with
  | error e => cases h
  | ok a => exact ⟨a, rfl, Except.ok.inj h⟩

end Failure

end RegexWords
