import RegexWords.Listing.Pull

namespace RegexWords

variable [Compiler]

/-- Listings that run side by side and share one workspace. The number of a closed cursor is not
given again. -/
structure Session where
  settings : Settings
  workspace : Workspace
  /-- The listings by their numbers, as far as they are not closed. -/
  cursors : List (Option Listing)

namespace Session

def start (settings : Settings) : Session := ⟨settings, .empty, []⟩

def cursor? (s : Session) (k : Nat) : Option Listing :=
  (s.cursors[k]?).join

def openCursor (s : Session) (p : Pattern) : Nat × Session :=
  (s.cursors.length,
    { s with
      workspace := ((Workspace.record (.enumerating p s.settings.mode)).run s.workspace).2
      cursors := s.cursors ++ [some (.ofPattern s.settings p)] })

def take (s : Session) (fuel k n : Nat) : Option ((List String × Ending) × Session) :=
  (s.cursor? k).map fun l =>
    let ((words, ending, l), workspace) := (l.take fuel n).run s.workspace
    ((words, ending), { s with workspace, cursors := s.cursors.set k (some l) })

def close (s : Session) (k : Nat) : Session :=
  { s with cursors := s.cursors.set k none }

def takeEvents (s : Session) : List Event × Session :=
  (s.workspace.journal.reverse, { s with workspace := { s.workspace with journal := [] } })

end Session

def Pattern.words (p : Pattern) (settings : Settings) (fuel n : Nat) : List String × Ending :=
  match ((Session.start settings).openCursor p).2.take fuel 0 n with
  | some (taken, _) => taken
  | none => ([], .exhausted)

end RegexWords
