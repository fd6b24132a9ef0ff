import RegexWords.CommandLine.Request

namespace RegexWords.CommandLine

inductive Parameter where
  | limit | anyCharacter | candidates | space | word | digit
  deriving DecidableEq, Repr

inductive Switch where
  | examples | version | help
  deriving DecidableEq, Repr

inductive Refusal where
  | misuse | version | help
  deriving DecidableEq, Repr

def Parameter.ofName? : String → Option Parameter
  | "limit" => some limit
  | "dot-yields" => some anyCharacter
  | "generic-yields" => some candidates
  | "space-yields" => some space
  | "alnum-yields" => some word
  | "digit-yields" => some digit
  | _ => none

def Switch.ofName? : String → Option Switch
  | "examples" => some examples
  | "version" => some version
  | "help" => some help
  | _ => none

def Parameter.ofLetter? : Char → Option Parameter
  | 'n' => some limit
  | _ => none

def Switch.ofLetter? : Char → Option Switch
  | 'e' => some examples
  | 'V' => some version
  | 'h' => some help
  | _ => none

def greatestLimit : Nat := 18446744073709551615

/-- A number in decimal digits, perhaps behind one plus sign. -/
def limit? (text : String) : Option Nat :=
  match text.toList with
  | '+' :: digits => number? digits
  | digits => number? digits
where
  number? (digits : List Char) : Option Nat :=
    let n := Nat.ofDigitChars 10 digits 0
    if digits ≠ [] ∧ digits.all Char.isDigit ∧ n ≤ greatestLimit then some n else none

/-- One argument by its form. A dash alone and all that begins without one are plain. -/
inductive Form where
  | endOfOptions
  | named (name : String) (value? : Option String)
  | letters (cs : List Char)
  | plain
  deriving DecidableEq, Repr

def Form.ofText (text : String) : Form :=
  match text.toList with
  | ['-', '-'] => endOfOptions
  | '-' :: '-' :: cs => named (String.ofList (cs.takeWhile (· ≠ '='))) (value? cs)
  | '-' :: c :: cs => letters (c :: cs)
  | _ => plain
where
  value? (cs : List Char) : Option String :=
    match cs.dropWhile (· ≠ '=') with
    | [] => none
    | _ :: value => some (String.ofList value)

/-- The arguments as far as they are read, from left to right. The first fault, or the first
question for the version or for help, settles the outcome. -/
structure Arguments where
  pattern? : Option String
  examples : Bool
  values : List (Parameter × String)
  deriving DecidableEq, Repr

namespace Arguments

def empty : Arguments := ⟨none, false, []⟩

/-- No option is given twice, and a limit is a number. -/
def addValue (a : Arguments) (p : Parameter) (value : String) : Except Refusal Arguments :=
  if (a.values.lookup p).isSome ∨ (p = .limit ∧ limit? value = none) then .error .misuse
  else .ok { a with values := (p, value) :: a.values }

def addSwitch (a : Arguments) : Switch → Except Refusal Arguments
  | .examples => if a.examples then .error .misuse else .ok { a with examples := true }
  | .version => .error .version
  | .help => .error .help

def addPlain (a : Arguments) (text : String) : Except Refusal Arguments :=
  match a.pattern? with
  | none => .ok { a with pattern? := some text }
  | some _ => .error .misuse

/-- Options in one argument by their letters. The first that takes a value takes the rest as its
value, without an equals sign in front, and when there is no rest its value is still to come. -/
def addLetters (a : Arguments) : List Char → Except Refusal (Arguments × Option Parameter)
  | [] => .ok (a, none)
  | c :: cs =>
    match Switch.ofLetter? c, Parameter.ofLetter? c with
    | some s, _ => do addLetters (← a.addSwitch s) cs
    | none, none => .error .misuse
    | none, some p =>
      match cs with
      | [] => .ok (a, some p)
      | '=' :: value => do return (← a.addValue p (String.ofList value), none)
      | value => do return (← a.addValue p (String.ofList value), none)

def addNamed (a : Arguments) (name : String) (value? : Option String) :
    Except Refusal (Arguments × Option Parameter) :=
  match Switch.ofName? name, Parameter.ofName? name, value? with
  | some s, _, none => do return (← a.addSwitch s, none)
  | none, some p, some value => do return (← a.addValue p value, none)
  | none, some p, none => .ok (a, some p)
  | _, _, _ => .error .misuse

/-- Adds all arguments, where `pending` is the option whose value is still to come. Only a plain
argument can be that value. -/
def extend (a : Arguments) (pending : Option Parameter) : List String → Except Refusal Arguments
  | [] => if pending.isSome then .error .misuse else .ok a
  | text :: rest =>
    match Form.ofText text, pending with
    | .plain, some p => do extend (← a.addValue p text) none rest
    | .plain, none => do extend (← a.addPlain text) none rest
    | _, some _ => .error .misuse
    | .endOfOptions, none => rest.foldlM addPlain a
    | .letters cs, none => do
      let (a, pending) ← a.addLetters cs
      extend a pending rest
    | .named name value?, none => do
      let (a, pending) ← a.addNamed name value?
      extend a pending rest

end Arguments

namespace Request

def modeOf (a : Arguments) : Mode :=
  if a.examples then .examples else .exhaustive

def alphabetsOf (a : Arguments) : Alphabets :=
  let base := Alphabets.ofMode (modeOf a)
  let given (p : Parameter) (otherwise : List Char) : List Char :=
    ((a.values.lookup p).map String.toList).getD otherwise
  { anyCharacter := given .anyCharacter base.anyCharacter
    candidates := given .candidates base.candidates
    space := given .space base.space
    word := given .word base.word
    digit := given .digit base.digit }

def read (args : List String) : Except Refusal Request := do
  let a ← Arguments.empty.extend none args
  match a.pattern? with
  | none => .error .misuse
  | some pattern =>
    .ok {
      pattern
      settings := { Settings.ofMode (modeOf a) with alphabets := alphabetsOf a }
      limit? := (a.values.lookup .limit).bind CommandLine.limit? }

end Request

end RegexWords.CommandLine
