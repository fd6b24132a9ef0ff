import RegexWords.Unicode.Property

namespace RegexWords.Text

/-- Characters that would not show in a quoted text, or would change the one before them. -/
def isHidden (c : Char) : Bool :=
  Unicode.isAttached c || Unicode.isHangulFiller c || !Unicode.isPrintable c

def quotedCharacter (c : Char) : List Char :=
  match c with
  | '"' => ['\\', '"']
  | '\\' => ['\\', '\\']
  | '\n' => ['\\', 'n']
  | '\r' => ['\\', 'r']
  | '\t' => ['\\', 't']
  | '\x00' => ['\\', '0']
  | c =>
    if isHidden c then '\\' :: 'u' :: '\x7b' :: Nat.toDigits 16 c.toNat ++ ['\x7d'] else [c]

/-- A text in double quotes. Quotes, backslashes and some control characters are escaped by a
letter, and characters that cannot be seen alone by their code point. -/
def quoted (cs : List Char) : String :=
  String.ofList ('"' :: cs.flatMap quotedCharacter ++ ['"'])

end RegexWords.Text
