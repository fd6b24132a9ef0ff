import RegexWords.Unicode.Age
import RegexWords.Unicode.GraphemeBreak
import RegexWords.Unicode.ListedProperty
import RegexWords.Unicode.Property
import RegexWords.Unicode.ScriptExtensions
import RegexWords.Unicode.SentenceBreak
import RegexWords.Unicode.WordBreak

namespace RegexWords.Unicode

/-- Properties of characters, as of Unicode 16.0, that can be asked for by name. Case, blanks,
underscores, dashes and a leading `is` do not matter in a name. -/
inductive NamedProperty where
  | any | ascii | assigned
  | categories (members : List Category)
  | alphabetic | uppercase | lowercase | whiteSpace | graphemeExtend
  | hexDigit | asciiHexDigit | joinControl
  | listed (p : ListedProperty)
  | script (s : Script)
  | scriptExtension (s : Script)
  | age (v : Version)
  | graphemeBreak (k : GraphemeBreak)
  | wordBreak (k : WordBreak)
  | sentenceBreak (k : SentenceBreak)
  deriving DecidableEq, Repr

namespace NamedProperty

def holds : NamedProperty → Char → Bool
  | any, _ => true
  | ascii, c => c.toNat < 128
  | assigned, c => category c ≠ .cn
  | categories members, c => category c ∈ members
  | alphabetic, c => isAlphabetic c
  | uppercase, c => isUppercase c
  | lowercase, c => isLowercase c
  | whiteSpace, c => isWhiteSpace c
  | graphemeExtend, c => isGraphemeExtend c
  | hexDigit, c => isHexDigit c
  | asciiHexDigit, c => isAsciiHexDigit c
  | joinControl, c => isJoinControl c
  | listed p, c => p.holds c
  | script s, c => Unicode.script c = s
  | scriptExtension s, c => s ∈ scriptExtensions c
  | age v, c => (age? c).any (·.atMost v)
  | graphemeBreak k, c => Unicode.graphemeBreak c = k
  | wordBreak k, c => Unicode.wordBreak c = k
  | sentenceBreak k, c => Unicode.sentenceBreak c = k

/-- The categories with a given name, which may stand for several. Surrogates are no characters, and
their category has no name here. -/
def categoryNamed? : String → Option (List Category)
  | "l" | "letter" => some [.lu, .ll, .lt, .lm, .lo]
  | "lc" | "casedletter" => some [.lu, .ll, .lt]
  | "lu" | "uppercaseletter" => some [.lu]
  | "ll" | "lowercaseletter" => some [.ll]
  | "lt" | "titlecaseletter" => some [.lt]
  | "lm" | "modifierletter" => some [.lm]
  | "lo" | "otherletter" => some [.lo]
  | "m" | "mark" | "combiningmark" => some [.mn, .mc, .me]
  | "mn" | "nonspacingmark" => some [.mn]
  | "mc" | "spacingmark" => some [.mc]
  | "me" | "enclosingmark" => some [.me]
  | "n" | "number" => some [.nd, .nl, .no]
  | "nd" | "decimalnumber" | "digit" => some [.nd]
  | "nl" | "letternumber" => some [.nl]
  | "no" | "othernumber" => some [.no]
  | "p" | "punctuation" | "punct" => some [.pc, .pd, .ps, .pe, .pi, .pf, .po]
  | "pc" | "connectorpunctuation" => some [.pc]
  | "pd" | "dashpunctuation" => some [.pd]
  | "ps" | "openpunctuation" => some [.ps]
  | "pe" | "closepunctuation" => some [.pe]
  | "pi" | "initialpunctuation" => some [.pi]
  | "pf" | "finalpunctuation" => some [.pf]
  | "po" | "otherpunctuation" => some [.po]
  | "s" | "symbol" => some [.sm, .sc, .sk, .so]
  | "sm" | "mathsymbol" => some [.sm]
  | "sc" | "currencysymbol" => some [.sc]
  | "sk" | "modifiersymbol" => some [.sk]
  | "so" | "othersymbol" => some [.so]
  | "z" | "separator" => some [.zs, .zl, .zp]
  | "zs" | "spaceseparator" => some [.zs]
  | "zl" | "lineseparator" => some [.zl]
  | "zp" | "paragraphseparator" => some [.zp]
  | "c" | "other" => some [.cc, .cf, .cn, .co]
  | "cc" | "control" | "cntrl" => some [.cc]
  | "cf" | "format" => some [.cf]
  | "cn" | "unassigned" => some [.cn]
  | "co" | "privateuse" => some [.co]
  | _ => none

def ofCategoryName? : String → Option NamedProperty
  | "any" => some any
  | "ascii" => some ascii
  | "assigned" => some assigned
  | name => (categoryNamed? name).map categories

def ofScriptName? (name : String) : Option NamedProperty :=
  (Script.ofName? name).map script

def binary? : String → Option NamedProperty
  | "alphabetic" | "alpha" => some alphabetic
  | "uppercase" | "upper" => some uppercase
  | "lowercase" | "lower" => some lowercase
  | "whitespace" | "wspace" | "space" => some whiteSpace
  | "graphemeextend" | "grext" => some graphemeExtend
  | "hexdigit" | "hex" => some hexDigit
  | "asciihexdigit" | "ahex" => some asciiHexDigit
  | "joincontrol" | "joinc" => some joinControl
  | name => (ListedProperty.ofName? name).map listed

def isSeparator (c : Char) : Bool :=
  c = ' ' || c = '_' || c = '-'

def fold (cs : List Char) : List Char :=
  (cs.filter fun c => c.toNat < 128 && !isSeparator c).map Char.toLower

/-- The form of a name that is looked up. `isc` alone keeps its first letters, it is a name of its
own. -/
def normalize : List Char → String
  | i :: s :: rest =>
    if i.toLower = 'i' ∧ s.toLower = 's' ∧ fold rest ≠ ['c'] then String.ofList (fold rest)
    else String.ofList (fold (i :: s :: rest))
  | cs => String.ofList (fold cs)

def named? (name : List Char) : Option NamedProperty :=
  let key := normalize name
  (binary? key).or ((ofCategoryName? key).or (ofScriptName? key))

/-- The property that another property has a given value. An age stands for the characters that were
assigned by then. -/
def valued? (name value : List Char) : Option NamedProperty :=
  let key := normalize value
  match normalize name with
  | "generalcategory" | "gc" => ofCategoryName? key
  | "script" | "sc" => ofScriptName? key
  | "scriptextensions" | "scx" => (Script.ofName? key).map scriptExtension
  | "age" => (Version.ofName? key).map age
  | "graphemeclusterbreak" | "gcb" => (GraphemeBreak.ofName? key).map graphemeBreak
  | "wordbreak" | "wb" => (WordBreak.ofName? key).map wordBreak
  | "sentencebreak" | "sb" => (SentenceBreak.ofName? key).map sentenceBreak
  | _ => none

end NamedProperty

end RegexWords.Unicode
