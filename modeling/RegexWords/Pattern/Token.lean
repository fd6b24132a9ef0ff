import RegexWords.Pattern.BoundsReader
import RegexWords.Pattern.Bracket
import RegexWords.Unicode.Property

namespace RegexWords

/-- A part of a pattern text that is read without regard to what stands before it. -/
inductive Token where
  /-- An item that other items may follow: a character, a set of characters, an anchor, a reference. -/
  | item (p : Pattern)
  /-- A mark that repeats the item before it. -/
  | repetition (bounds : Bounds) (greedy : Bool)
  | bar
  | openGroup (kind : GroupKind)
  | closeGroup
  deriving BEq, Repr

namespace Token

open Text

/-- A question mark behind a repetition makes it reluctant. -/
def readRepetition (bounds : Bounds) : List Char → Token × List Char
  | '?' :: rest => (repetition bounds false, rest)
  | rest => (repetition bounds true, rest)

def isNameCharacter (c : Char) : Bool :=
  Unicode.isAlphanumeric c || c = '_' || c = '$'

/-- Reads the name of a group, with the bracket that closes it. A name begins with no digit. -/
def readName (cs : List Char) : Except Failure (List Char) :=
  match cs with
  | [] => .error ⟨.invalidGroupName, cs⟩
  | c :: _ =>
    if c.isDigit || !isNameCharacter c then .error ⟨.invalidGroupName, cs⟩
    else match cs.dropWhile isNameCharacter with
      | '>' :: rest => .ok rest
      | rest => .error ⟨.invalidGroupName, rest⟩

def readOpening : List Char → Except Failure (Token × List Char)
  | '?' :: ':' :: rest => .ok (openGroup .plain, rest)
  | '?' :: '=' :: rest => .ok (openGroup .lookahead, rest)
  | '?' :: '!' :: rest => .ok (openGroup .negativeLookahead, rest)
  | '?' :: '<' :: '=' :: rest => .ok (openGroup .lookbehind, rest)
  | '?' :: '<' :: '!' :: rest => .ok (openGroup .negativeLookbehind, rest)
  | '?' :: '<' :: cs => (readName cs).map (openGroup .capturing, ·)
  | rest => .ok (openGroup .capturing, rest)

def readEscape (cs : List Char) : Except Failure (Token × List Char) :=
  match cs with
  | 'b' :: rest => .ok (item (.anchor .wordBoundary), rest)
  | 'B' :: rest => .ok (item (.anchor .notWordBoundary), rest)
  | cs =>
    match cs with
    | c :: rest =>
      if c.isDigit ∧ c ≠ '0' then .ok (item (.reference (c.toNat - '0'.toNat)), rest)
      else readCharacter cs
    | [] => readCharacter cs
where
  readCharacter (cs : List Char) : Except Failure (Token × List Char) :=
    match Escape.read? cs with
    | some (e, rest) => .ok (item e.pattern, rest)
    | none => .error ⟨.invalidEscape, '\\' :: cs⟩

def read (c : Char) (cs : List Char) : Except Failure (Token × List Char) :=
  match c with
  | '|' => .ok (bar, cs)
  | ')' => .ok (closeGroup, cs)
  | '(' => readOpening cs
  | '[' => (Bracket.read cs).map fun (p, rest) => (item p, rest)
  | '\\' => readEscape cs
  | '.' => .ok (item .anyCharacter, cs)
  | '^' => .ok (item (.anchor .textStart), cs)
  | '$' => .ok (item (.anchor .textEnd), cs)
  | '*' => .ok (readRepetition ⟨0, none⟩ cs)
  | '+' => .ok (readRepetition ⟨1, none⟩ cs)
  | '?' => .ok (readRepetition ⟨0, some 1⟩ cs)
  | '{' =>
    match Bounds.read? cs with
    | some (bounds, rest) => .ok (readRepetition bounds rest)
    | none => .ok (item (.literal c), cs)
  | c => .ok (item (.literal c), cs)

theorem isSuffix_readRepetition (bounds : Bounds) (cs : List Char) :
    (readRepetition bounds cs).2 <:+ cs := by
  unfold readRepetition
  split
  · exact List.suffix_cons _ _
  · exact List.suffix_refl _

theorem isSuffix_of_readName {cs rest : List Char} (h : readName cs = .ok rest) : rest <:+ cs := by
  unfold readName at h
  split at h
  · cases h
  · split at h
    · cases h
    · split at h
      · next hd =>
        cases h
        exact (List.suffix_cons _ _).trans (hd ▸ List.dropWhile_suffix isNameCharacter)
      · cases h

theorem isSuffix_of_readOpening {cs rest : List Char} {t : Token}
    (h : readOpening cs = .ok (t, rest)) : rest <:+ cs := by
  unfold readOpening at h
  split at h
  · cases h; exact ⟨['?', ':'], rfl⟩
  · cases h; exact ⟨['?', '='], rfl⟩
  · cases h; exact ⟨['?', '!'], rfl⟩
  · cases h; exact ⟨['?', '<', '='], rfl⟩
  · cases h; exact ⟨['?', '<', '!'], rfl⟩
  · obtain ⟨r, hr, he⟩ := Failure.exists_of_map_ok h
    cases he
    exact (isSuffix_of_readName hr).trans ⟨['?', '<'], rfl⟩
  · cases h; exact List.suffix_refl _

theorem isSuffix_of_readEscape {cs rest : List Char} {t : Token}
    (h : readEscape cs = .ok (t, rest)) : rest <:+ cs := by
  have character {cs rest : List Char} {t : Token}
      (h : readEscape.readCharacter cs = .ok (t, rest)) : rest <:+ cs := by
    unfold readEscape.readCharacter at h
    split at h
    · next he => cases h; exact (Escape.properTail_of_read? he).isSuffix
    · cases h
  unfold readEscape at h
  split at h
  · cases h; exact List.suffix_cons _ _
  · cases h; exact List.suffix_cons _ _
  · split at h
    · split at h
      · cases h; exact List.suffix_cons _ _
      · exact character h
    · exact character h

theorem isSuffix_of_read {c : Char} {cs rest : List Char} {t : Token}
    (h : read c cs = .ok (t, rest)) : rest <:+ cs := by
  have repeated {bounds : Bounds} {cs : List Char}
      (h : Except.ok (readRepetition bounds cs) = (.ok (t, rest) : Except Failure _)) :
      rest <:+ cs := by
    have := isSuffix_readRepetition bounds cs
    rwa [Except.ok.inj h] at this
  unfold read at h
  split at h
  case h_3 => exact isSuffix_of_readOpening h
  case h_4 =>
    obtain ⟨r, hr, he⟩ := Failure.exists_of_map_ok h
    cases he
    exact Bracket.isSuffix_of_read hr
  case h_5 => exact isSuffix_of_readEscape h
  case h_9 => exact repeated h
  case h_10 => exact repeated h
  case h_11 => exact repeated h
  case h_12 =>
    split at h
    · next hb => exact (repeated h).trans (Bounds.isSuffix_of_read? hb)
    · cases h; exact List.suffix_refl _
  all_goals cases h; exact List.suffix_refl _

end Token

end RegexWords
