import Mathlib.Data.Nat.Notation
import RegexWords.Pattern.Parse

namespace RegexWords

namespace Text

def takeBytes (n : ℕ) (cs : List Char) : Option (List Char) :=
  (dropBytes n cs).map fun rest ↦ cs.take (cs.length - rest.length)

def bytesBetween (start stop : ℕ) (cs : List Char) : Option (List Char) :=
  if start ≤ stop then (dropBytes start cs).bind (takeBytes (stop - start)) else none

def findByte (p : Char → Bool) : List Char → Option ℕ
  | [] => none
  | c :: cs => if p c then some 0 else (findByte p cs).map (c.utf8Size + ·)

end Text

open Text

/-- A reader that keeps its place as a number of bytes. There is no answer where it takes a slice
that is out of range or cuts through a character, and none when its fuel is used up. -/
abbrev ByteReader (α : Type) := ExceptT ParseError (StateT ℕ Option) α

namespace ByteReader

variable {α : Type} (text : List Char)

def slice (x : Option α) : ByteReader α :=
  fun pos ↦ x.map fun a ↦ (.ok a, pos)

def giveUp : ByteReader α :=
  fun _ ↦ none

def fail (kind : ParseErrorKind) : ByteReader α := do
  throw ⟨kind, ← get⟩

def skip (n : ℕ) : ByteReader Unit :=
  modify (· + n)

def rest : ByteReader (List Char) := do
  slice (dropBytes (← get) text)

def peek : ByteReader (Option Char) := do
  return (← rest text).head?

def advance : ByteReader (Option Char) := do
  match ← peek text with
  | none => return none
  | some c =>
    skip c.utf8Size
    return some c

def expect (c : Char) : ByteReader Bool := do
  if (← peek text) = some c then
    let _ ← advance text
    return true
  else
    return false

def eat (lead : List Char) : ByteReader Bool := do
  if lead.isPrefixOf (← rest text) then
    skip (byteLength lead)
    return true
  else
    return false

def span (p : Char → Bool) : ByteReader ℕ := do
  let tail ← rest text
  return (findByte (!p ·) tail).getD (byteLength tail)

def number : ByteReader (Option ℕ) := do
  let width ← span text Char.isDigit
  if width = 0 then
    return none
  else
    let digits ← slice (takeBytes width (← rest text))
    let n := Nat.ofDigitChars 10 digits 0
    if n ≤ Bounds.greatest then
      skip width
      return some n
    else
      return none

def close (bounds : Bounds) : ByteReader (Option Bounds) := do
  if ← expect text '}' then
    return some bounds
  else
    return none

def most (least : ℕ) : ByteReader (Option Bounds) := do
  match ← number text with
  | none => return none
  | some n => close text ⟨least, some n⟩

/-- What stands behind a comma, where the greater of two bounds may be left out. -/
def upperBound (least : ℕ) : ByteReader (Option Bounds) := do
  if (← peek text) = some '}' then
    close text ⟨least, none⟩
  else
    most text least

def inBraces : ByteReader (Option Bounds) := do
  match ← number text with
  | none => return none
  | some least =>
    if ← expect text ',' then
      upperBound text least
    else
      close text ⟨least, some least⟩

/-- Bounds in braces. Where there are none the reader goes back to the brace. -/
def braces : ByteReader (Option Bounds) := do
  let start ← get
  let _ ← advance text
  match ← inBraces text with
  | some bounds => return some bounds
  | none =>
    set start
    return none

def quantifier : ByteReader (Option Bounds) := do
  match ← peek text with
  | some '*' =>
    let _ ← advance text
    return some ⟨0, none⟩
  | some '+' =>
    let _ ← advance text
    return some ⟨1, none⟩
  | some '?' =>
    let _ ← advance text
    return some ⟨0, some 1⟩
  | some '{' => braces text
  | _ => return none

def isBounds : ByteReader Bool := do
  let start ← get
  let bounds ← braces text
  set start
  return bounds.isSome

def groupName : ByteReader Unit := do
  let width ← span text Token.isNameCharacter
  let first? ← peek text
  if width = 0 ∨ !first?.any (!·.isDigit) then
    fail .invalidGroupName
  else
    skip width
    if ← expect text '>' then
      return ()
    else
      fail .invalidGroupName

def opening : ByteReader GroupKind := do
  if ← eat text ['?', ':'] then
    return .plain
  else if ← eat text ['?', '='] then
    return .lookahead
  else if ← eat text ['?', '!'] then
    return .negativeLookahead
  else if ← eat text ['?', '<', '='] then
    return .lookbehind
  else if ← eat text ['?', '<', '!'] then
    return .negativeLookbehind
  else if ← eat text ['?', '<'] then
    groupName text
    return .capturing
  else
    return .capturing

/-- Just so many hexadecimal digits. A cut through a character is none of them. -/
def hex (width : ℕ) : ByteReader (Option Char) := do
  match takeBytes width (← rest text) with
  | none => return none
  | some digits =>
    match hexScalar? digits with
    | none => return none
    | some c =>
      skip width
      return some c

def hexBraced : ByteReader (Option Char) := do
  match findByte (· = '}') (← rest text) with
  | none => return none
  | some width =>
    match Escape.signedHexScalar? (← slice (takeBytes width (← rest text))) with
    | none => return none
    | some c =>
      skip (width + 1)
      return some c

def escape (start : ℕ) : ByteReader Pattern := do
  match ← advance text with
  | none =>
    set start
    fail .invalidEscape
  | some c =>
    if Escape.isShorthand c then
      return .shorthand c
    else if c = 'x' then
      return .literal ((← hex text 2).getD 'x')
    else if c = 'u' then
      if ← expect text '{' then
        match ← hexBraced text with
        | some c => return .literal c
        | none =>
          set start
          fail .invalidEscape
      else
        return .literal ((← hex text 4).getD 'u')
    else
      return .literal (Escape.named c)

def itemEscape : ByteReader Pattern := do
  let start ← get
  let _ ← advance text
  match ← peek text with
  | some 'b' =>
    let _ ← advance text
    return .anchor .wordBoundary
  | some 'B' =>
    let _ ← advance text
    return .anchor .notWordBoundary
  | some c =>
    if c.isDigit ∧ c ≠ '0' then
      let _ ← advance text
      return .reference (c.toNat - '0'.toNat)
    else
      escape text start
  | none => escape text start

def memberAtom : ByteReader Pattern := do
  let start ← get
  match ← advance text with
  | some '\\' =>
    match ← peek text with
    | some 'b' =>
      let _ ← advance text
      return .literal '\x08'
    | some '-' =>
      let _ ← advance text
      return .literal '-'
    | _ => escape text start
  | some c => return .literal c
  | none => fail .unclosedBracket

def join (start : ℕ) : Pattern → Pattern → ByteReader (List Pattern)
  | .literal first, .literal last =>
    if last < first then do
      set start
      fail .rangeOutOfOrder
    else
      return [.range first last]
  | first, last => return [first, .literal '-', last]

def behindDash (start : ℕ) (first : Pattern) : ByteReader (List Pattern) := do
  if (← peek text) = none then
    return []
  else
    let last ← memberAtom text
    join start first last

def member : ByteReader (List Pattern) := do
  let start ← get
  let first ← memberAtom text
  if (← peek text) ≠ some '-' ∨ ['-', ']'].isPrefixOf (← rest text) then
    return [first]
  else
    let _ ← advance text
    behindDash text start first

def members (place : ℕ) : ℕ → List Pattern → ByteReader (List Pattern)
  | 0, _ => giveUp
  | fuel + 1, taken => do
    match ← peek text with
    | none => throw ⟨.unclosedBracket, place⟩
    | some c =>
      if c = ']' then
        let _ ← advance text
        return taken
      else
        let found ← member text
        members place fuel (taken ++ found)

def bracket (fuel : ℕ) : ByteReader Pattern := do
  let start ← get
  let _ ← advance text
  let negated ← expect text '^'
  let body ← members text start fuel []
  let raw ← slice (bytesBetween start (← get) text)
  return .bracket body negated (String.ofList raw)

def repeated (start : ℕ) (bounds : Bounds) : Pattern → ByteReader Pattern
  | .anchor _ => do
    set start
    fail .nothingToRepeat
  | p => do
    if !bounds.inOrder then
      set start
      fail .boundsOutOfOrder
    else
      let reluctant ← expect text '?'
      return .repetition bounds (!reluctant) p

mutual

def disjunction : ℕ → ByteReader Pattern
  | 0 => giveUp
  | fuel + 1 => do
    let branch ← items fuel []
    branches fuel [branch]

def branches : ℕ → List Pattern → ByteReader Pattern
  | 0, _ => giveUp
  | fuel + 1, taken => do
    if ← expect text '|' then
      let branch ← items fuel []
      branches fuel (branch :: taken)
    else
      return Pattern.ofBranches taken.reverse

def items : ℕ → List Pattern → ByteReader Pattern
  | 0, _ => giveUp
  | fuel + 1, taken => do
    match ← peek text with
    | none => return Pattern.ofItems taken.reverse
    | some c =>
      if c = ')' ∨ c = '|' then
        return Pattern.ofItems taken.reverse
      else
        let p ← term fuel
        items fuel (p :: taken)

def term : ℕ → ByteReader Pattern
  | 0 => giveUp
  | fuel + 1 => do
    let p ← atom fuel
    let start ← get
    match ← quantifier text with
    | none => return p
    | some bounds => repeated text start bounds p

def atom : ℕ → ByteReader Pattern
  | 0 => giveUp
  | fuel + 1 => do
    match ← peek text with
    | some '(' => group fuel
    | some '[' => bracket text fuel
    | some '\\' => itemEscape text
    | some '.' =>
      let _ ← advance text
      return .anyCharacter
    | some '^' =>
      let _ ← advance text
      return .anchor .textStart
    | some '$' =>
      let _ ← advance text
      return .anchor .textEnd
    | some '*' => fail .nothingToRepeat
    | some '+' => fail .nothingToRepeat
    | some '?' => fail .nothingToRepeat
    | some c =>
      if c = '{' then
        if ← isBounds text then
          fail .nothingToRepeat
        else
          let _ ← advance text
          return .literal c
      else
        let _ ← advance text
        return .literal c
    | none => return .sequence []

def group : ℕ → ByteReader Pattern
  | 0 => giveUp
  | fuel + 1 => do
    let start ← get
    let _ ← advance text
    let kind ← opening text
    let body ← disjunction fuel
    if ← expect text ')' then
      return .group kind body.items
    else
      throw ⟨.unclosedGroup, start⟩

end

def pattern (fuel : ℕ) : ByteReader Pattern := do
  let p ← disjunction text fuel
  match ← peek text with
  | none => return p
  | some _ => fail .unmatchedClose

end ByteReader

end RegexWords
