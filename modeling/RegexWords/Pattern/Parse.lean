import RegexWords.Pattern.Token

namespace RegexWords

open Text

/-- Branches under construction. The closed branches and the items of the last, open one are kept
newest first. -/
structure Branches where
  closed : List Pattern
  items : List Pattern
  deriving Inhabited

namespace Branches

def empty : Branches := ⟨[], []⟩

def closeBranch (b : Branches) : Branches :=
  ⟨Pattern.ofItems b.items.reverse :: b.closed, []⟩

def pattern (b : Branches) : Pattern :=
  Pattern.ofBranches (b.closeBranch.closed.reverse)

def push (b : Branches) (p : Pattern) : Branches :=
  ⟨b.closed, p :: b.items⟩

/-- Repeats the last item. An anchor cannot be repeated, and neither can what is repeated already.
-/
def repeatLast (b : Branches) (bounds : Bounds) (greedy : Bool) : Except ParseErrorKind Branches :=
  match b.items with
  | [] | .anchor _ :: _ | .repetition _ _ _ :: _ => .error .nothingToRepeat
  | p :: ps =>
    if bounds.inOrder then .ok ⟨b.closed, .repetition bounds greedy p :: ps⟩
    else .error .boundsOutOfOrder

end Branches

structure OpenGroup where
  kind : GroupKind
  place : List Char
  around : Branches

/-- A text as far as it is read: the branches of the group that is open, and around it the groups
whose bodies it stands in, the innermost first. -/
structure Draft where
  branches : Branches
  groups : List OpenGroup

namespace Draft

def empty : Draft := ⟨.empty, []⟩

def push (d : Draft) (place : List Char) : Token → Except ParseErrorKind Draft
  | .item p => .ok { d with branches := d.branches.push p }
  | .repetition bounds greedy =>
    (d.branches.repeatLast bounds greedy).map ({ d with branches := · })
  | .bar => .ok { d with branches := d.branches.closeBranch }
  | .openGroup kind => .ok ⟨.empty, ⟨kind, place, d.branches⟩ :: d.groups⟩
  | .closeGroup =>
    match d.groups with
    | [] => .error .unmatchedClose
    | g :: groups => .ok ⟨g.around.push (.group g.kind d.branches.pattern.items), groups⟩

def extend (d : Draft) : List Char → Except Failure Draft
  | [] => .ok d
  | c :: cs =>
    match h : Token.read c cs with
    | .error e => .error e
    | .ok (token, rest) =>
      have := (Token.isSuffix_of_read h).length_le
      match d.push (c :: cs) token with
      | .error kind => .error ⟨kind, c :: cs⟩
      | .ok d => extend d rest
termination_by cs => cs.length

def finish (d : Draft) : Except Failure Pattern :=
  match d.groups with
  | [] => .ok d.branches.pattern
  | g :: _ => .error ⟨.unclosedGroup, g.place⟩

end Draft

namespace Pattern

def read (cs : List Char) : Except Failure Pattern :=
  match Draft.empty.extend cs with
  | .error e => .error e
  | .ok d => d.finish

def parse (text : String) : Except ParseError Pattern :=
  (read text.toList).mapError (·.located text.toList)

/-- Reads a text from a place on, given in bytes. The second part of the answer is the place where
reading stands afterwards. There is no answer for a place that is no character boundary. -/
def parseFrom (text : String) (offset : Nat) : Option (Except ParseError Pattern × Nat) :=
  (dropBytes offset text.toList).map fun cs =>
    match read cs with
    | .ok p => (.ok p, byteLength text.toList)
    | .error e =>
      (.error (e.located text.toList), byteLength text.toList - byteLength e.rest)

end Pattern

end RegexWords
