import RegexWords.CommandLine.Printing
import RegexWords.Pattern.Parse

namespace RegexWords.CommandLine

structure Request where
  pattern : String
  settings : Settings
  limit? : Option Nat
  deriving DecidableEq, Repr

/-- The exit code is 0 when all is well, 1 when the pattern cannot be read or listed, and 2 when the
arguments are not understood. -/
structure Report where
  code : Nat
  output : String
  complaint : String
  deriving DecidableEq, Repr

def complain (context : String) (pattern : String) (cause : String) : String :=
  "regenum: " ++ context ++ " " ++ Text.quoted pattern.toList ++ ": " ++ cause ++ "\n"

/-- The complaint about a pattern that cannot be read names the fault twice, first as what went
wrong and then as its cause. -/
def unreadablePattern (pattern : String) (e : ParseError) : Report :=
  ⟨1, "", complain "invalid pattern" pattern ("parse error: " ++ e.message ++ ": " ++ e.message)⟩

def conclusion (pattern : String) (written : String) : Ending → Report
  | .failed e => ⟨1, written, complain "cannot enumerate" pattern e.message⟩
  | _ => ⟨0, written, ""⟩

/-- How many bytes are written at once: a line at a time where someone is reading along. -/
def chunkSize (terminal : Bool) : Nat :=
  if terminal then 1 else 8192

namespace Request

variable [Compiler]

def plan (chunk : Nat) (r : Request) : Except Report Printing :=
  match Pattern.parse r.pattern with
  | .error e => .error (unreadablePattern r.pattern e)
  | .ok p => .ok (.start chunk r.settings r.limit? p)

def run (fuel chunk : Nat) (r : Request) : Report :=
  match r.plan chunk with
  | .error report => report
  | .ok printing =>
    let (written, printing) := printing.run fuel ""
    conclusion r.pattern written printing.ending

end Request

end RegexWords.CommandLine
