import RegexWords.Listing.Pull

namespace RegexWords.CommandLine

structure LineBuffer where
  /-- How many bytes are written at once. -/
  chunk : Nat
  /-- How many words are still wanted, without bound when there is no number. -/
  wanted? : Option Nat
  held : String
  deriving DecidableEq, Repr

namespace LineBuffer

/-- Adds a line. The text is what is to be written, once it is enough. -/
def add (b : LineBuffer) (word : String) : Option String × LineBuffer :=
  let lines := b.held ++ word ++ "\n"
  let wanted? := b.wanted?.map (· - 1)
  if b.chunk ≤ lines.utf8ByteSize then (some lines, ⟨b.chunk, wanted?, ""⟩)
  else (none, ⟨b.chunk, wanted?, lines⟩)

/-- Nothing is lost or doubled between what is written and what is held. -/
theorem written_append_held (b : LineBuffer) (word : String) :
    (b.add word).1.getD "" ++ (b.add word).2.held = b.held ++ word ++ "\n" := by
  by_cases h : b.chunk ≤ (b.held ++ word ++ "\n").utf8ByteSize
  · simp only [add, if_pos h, Option.getD_some, String.append_empty]
  · simp only [add, if_neg h, Option.getD_none, String.empty_append]

end LineBuffer

variable [Compiler]

/-- Printing the words of a listing, one a line. Lines are held until there are enough bytes of
them. -/
inductive Printing where
  | running (listing : Listing) (workspace : Workspace) (lines : LineBuffer)
  | finished (ending : Ending)

namespace Printing

def start (chunk : Nat) (settings : Settings) (limit? : Option Nat) (p : Pattern) : Printing :=
  running (.ofPattern settings p)
    ((Workspace.record (.enumerating p settings.mode)).run .empty).2 ⟨chunk, limit?, ""⟩

def receive (lines : LineBuffer) (workspace : Workspace) :
    Step Listing Listing.Item → Step Printing String
  | .yield (.ok word) listing =>
    match lines.add word with
    | (some text, lines) => .yield text (running listing workspace lines)
    | (none, lines) => .skip (running listing workspace lines)
  | .yield (.error e) _ => .yield lines.held (finished (.failed e))
  | .skip listing => .skip (running listing workspace lines)
  | .ended => .yield lines.held (finished .exhausted)

def step : Printing → Step Printing String
  | finished _ => .ended
  | running listing workspace lines =>
    if lines.wanted? = some 0 then .yield lines.held (finished .enough)
    else
      let (result, workspace) := listing.step.run workspace
      receive lines workspace result

def ending : Printing → Ending
  | running _ _ _ => .unfinished
  | finished e => e

def run (p : Printing) : (fuel : Nat) → (written : String) → String × Printing
  | 0, written => (written, p)
  | fuel + 1, written =>
    match p.step with
    | .yield text p => p.run fuel (written ++ text)
    | .skip p => p.run fuel written
    | .ended => (written, p)

end Printing

end RegexWords.CommandLine
