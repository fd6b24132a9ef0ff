import RegexWords.Unicode.Additions
import RegexWords.Unicode.Category
import RegexWords.Unicode.Alphabetic
import RegexWords.Unicode.GraphemeExtend
import RegexWords.Unicode.Uppercase
import RegexWords.Unicode.Lowercase

namespace RegexWords.Unicode

def isAlphabetic (c : Char) : Bool :=
  if c.toNat < 128 then c.isAlpha else alphabetic.contains c

def isUppercase (c : Char) : Bool :=
  if c.toNat < 128 then c.isUpper else uppercase.contains c

def isLowercase (c : Char) : Bool :=
  if c.toNat < 128 then c.isLower else lowercase.contains c

def isWhiteSpace (c : Char) : Bool :=
  let n := c.toNat
  (9 ≤ n && n ≤ 13) || n = 0x20 || n = 0x85 || n = 0xa0 || n = 0x1680
    || (0x2000 ≤ n && n ≤ 0x200a) || n = 0x2028 || n = 0x2029 || n = 0x202f || n = 0x205f || n = 0x3000

/-- A letter or a number, as of Unicode 17.0. -/
def isAlphanumeric (c : Char) : Bool :=
  if c.toNat < 128 then c.isAlphanum
  else alphabetic.contains c || (category c).isNumber || alphanumericAdditions.contains c

def isJoinControl (c : Char) : Bool :=
  c.toNat = 0x200c || c.toNat = 0x200d

def isWordCharacter (c : Char) : Bool :=
  if c.toNat < 128 then c.isAlphanum || c = '_'
  else alphabetic.contains c || (category c).isMark || category c = .nd || category c = .pc
    || isJoinControl c

/-- Neither a control, format, private, surrogate or unassigned character nor a separator, the
ASCII space apart, as of Unicode 17.0. -/
def isPrintable (c : Char) : Bool :=
  if c.toNat < 128 then 0x20 ≤ c.toNat && c.toNat < 0x7f
  else additions.contains c || (!(category c).isOther && !(category c).isSeparator)

def isGraphemeExtend (c : Char) : Bool :=
  128 ≤ c.toNat && graphemeExtend.contains c

/-- Letters that fill a place in a Hangul syllable and show nothing. -/
def isHangulFiller (c : Char) : Bool :=
  c.toNat = 0x115f || c.toNat = 0x1160 || c.toNat = 0x3164 || c.toNat = 0xffa0

def isHalfwidthVoicingMark (c : Char) : Bool :=
  c.toNat = 0xff9e || c.toNat = 0xff9f

def isAttached (c : Char) : Bool :=
  (isGraphemeExtend c && !isHalfwidthVoicingMark c) || extendingAdditions.contains c

def isAsciiHexDigit (c : Char) : Bool :=
  c.isDigit || ('a' ≤ c && c ≤ 'f') || ('A' ≤ c && c ≤ 'F')

def isHexDigit (c : Char) : Bool :=
  let n := c.toNat
  isAsciiHexDigit c || (0xff10 ≤ n && n ≤ 0xff19) || (0xff21 ≤ n && n ≤ 0xff26)
    || (0xff41 ≤ n && n ≤ 0xff46)

end RegexWords.Unicode
