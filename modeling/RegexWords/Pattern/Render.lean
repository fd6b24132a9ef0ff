import RegexWords.Pattern.Basic

namespace RegexWords

def Anchor.render : Anchor → List Char
  | .textStart => ['^']
  | .textEnd => ['$']
  | .wordBoundary => ['\\', 'b']
  | .notWordBoundary => ['\\', 'B']

def GroupKind.render : GroupKind → List Char
  | .capturing => ['(']
  | .plain => ['(', '?', ':']
  | .lookahead => ['(', '?', '=']
  | .negativeLookahead => ['(', '?', '!']
  | .lookbehind => ['(', '?', '<', '=']
  | .negativeLookbehind => ['(', '?', '<', '!']

def Bounds.render : Bounds → List Char
  | ⟨0, none⟩ => ['*']
  | ⟨1, none⟩ => ['+']
  | ⟨0, some 1⟩ => ['?']
  | ⟨least, none⟩ => '{' :: Nat.toDigits 10 least ++ [',', '}']
  | ⟨least, some most⟩ =>
    if least = most then '{' :: Nat.toDigits 10 least ++ ['}']
    else '{' :: Nat.toDigits 10 least ++ ',' :: Nat.toDigits 10 most ++ ['}']

def Pattern.isMeta (c : Char) : Bool :=
  c ∈ ['\\', '^', '$', '.', '|', '?', '*', '+', '(', ')', '[', ']', '{', '}', '-']

def Pattern.renderLiteral (c : Char) : List Char :=
  if isMeta c then ['\\', c]
  else if c = '\t' then ['\\', 't']
  else if c = '\n' then ['\\', 'n']
  else if c = '\r' then ['\\', 'r']
  else if c.toNat < 0x20 ∨ 0x7e < c.toNat then '\\' :: 'u' :: '{' :: Nat.toDigits 16 c.toNat ++ ['}']
  else [c]

mutual

def Pattern.render : Pattern → List Char
  | .sequence ps => renderAll ps
  | .choice ps => renderBranches ps
  | .anchor a => a.render
  | .group kind body => kind.render ++ renderAll body ++ [')']
  | .repetition bounds greedy body =>
    body.render ++ bounds.render ++ (if greedy then [] else ['?'])
  | .literal c => renderLiteral c
  | .range first last => renderLiteral first ++ '-' :: renderLiteral last
  | .shorthand tag => ['\\', tag]
  | .bracket _ _ text => text.toList
  | .anyCharacter => ['.']
  | .reference id => '\\' :: Nat.toDigits 10 id

def Pattern.renderAll : List Pattern → List Char
  | [] => []
  | p :: ps => p.render ++ renderAll ps

def Pattern.renderBranches : List Pattern → List Char
  | [] => []
  | [p] => p.render
  | p :: q :: ps => p.render ++ '|' :: renderBranches (q :: ps)

end

def Pattern.text (p : Pattern) : String :=
  String.ofList p.render

end RegexWords
