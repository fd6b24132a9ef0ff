namespace RegexWords.Unicode

variable {κ : Type}

/-- Consecutive runs of code points, each with the first code point behind it, so that the first run
that ends behind a code point holds it. -/
abbrev Runs (κ : Type) := List (Nat × κ)

def Runs.find? (runs : Runs κ) (n : Nat) : Option κ :=
  (List.find? (fun run => n < run.1) runs).map (·.2)

def Runs.ofLengths (start : Nat) : List (Nat × κ) → Runs κ
  | [] => []
  | (length, value) :: rest => (start + length, value) :: ofLengths (start + length) rest

/-- Lengths of runs that are outside and inside a set by turns, beginning outside. -/
def alternating (inside : Bool) : List Nat → List (Nat × Bool)
  | [] => []
  | length :: rest => (length, inside) :: alternating (!inside) rest

def Runs.ofLines (lines : List String) : Runs Bool :=
  ofLengths 0 (alternating false ((lines.flatMap (·.splitOn " ")).filterMap String.toNat?))

/-- One run: a code and how many code points it covers, one when no number follows. -/
def codedRun (text : String) : Nat × String :=
  ((String.ofList (text.toList.dropWhile (!·.isDigit))).toNat?.getD 1,
    String.ofList (text.toList.takeWhile (!·.isDigit)))

def Runs.ofCodes (lines : List String) : Runs String :=
  ofLengths 0 ((lines.flatMap (·.splitOn " ")).map codedRun)

def Runs.contains (runs : Runs Bool) (c : Char) : Bool :=
  (runs.find? c.toNat).getD false

end RegexWords.Unicode
