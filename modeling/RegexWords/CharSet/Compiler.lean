namespace RegexWords

abbrev Matcher := Char → Bool

/-- What compiles patterns into matchers, and gives none for a text that is no pattern. -/
class Compiler where
  compile? : String → Option Matcher

namespace ClassText

/-- Escapes that the compiler reads in another way are written as numbers. -/
def translateFrom : List Char → List Char
  | [] => []
  | '\\' :: c :: cs =>
    if c = 'b' then '\\' :: 'x' :: '0' :: '8' :: translateFrom cs
    else if c = '0' then '\\' :: 'x' :: '0' :: '0' :: translateFrom cs
    else '\\' :: c :: translateFrom cs
  | c :: cs => c :: translateFrom cs

/-- A class text in the notation of the compiler. A bracket that excludes nothing becomes one that
names every character. -/
def translate (text : String) : String :=
  if text = "[^]" then "[\\s\\S]" else String.ofList (translateFrom text.toList)

/-- The pattern of the texts that consist of one character in the class. -/
def framed (text : String) : String := "^(?:" ++ translate text ++ ")$"

variable [Compiler]

def matcher? (text : String) : Option Matcher := Compiler.compile? (framed text)

end ClassText

end RegexWords
