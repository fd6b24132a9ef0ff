import RegexWords.CharSet.Table
import RegexWords.Listing.Settings
import RegexWords.Pattern.Render

namespace RegexWords

inductive Event where
  | enumerating (pattern : Pattern) (mode : Mode)
  | repeating (body : Pattern) (count : Nat)
  | compilingClass (text : String)
  | reusingClass (text : String)
  deriving BEq, Repr

namespace Event

def level : Event → String
  | repeating _ _ => "trace"
  | _ => "debug"

def message : Event → String
  | enumerating p mode => "enumerating " ++ p.text ++ " (" ++ mode.name ++ " mode)"
  | repeating body count => "repeating " ++ body.text ++ " " ++ toString count ++ " times"
  | compilingClass text => "compiling matcher for " ++ text
  | reusingClass text => "reusing matcher for " ++ text

end Event

variable [Compiler]

/-- What listings share while they run: the class texts compiled so far and a journal of what was
done. -/
structure Workspace where
  classes : ClassTable
  /-- The newest event first. -/
  journal : List Event

namespace Workspace

def empty : Workspace := ⟨.empty, []⟩

def record (e : Event) : StateM Workspace Unit :=
  modify fun w => { w with journal := e :: w.journal }

def requestEvent (w : Workspace) (text : String) : Event :=
  if w.classes.isKnown text then .reusingClass text else .compilingClass text

def filterClass (text : String) (candidates : List Char) : StateM Workspace (Option (List Char)) :=
  fun w =>
    let (found, classes) := w.classes.filter text candidates
    (found, ⟨classes, w.requestEvent text :: w.journal⟩)

end Workspace

end RegexWords
