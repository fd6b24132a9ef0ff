namespace RegexWords.Unicode

abbrev Aliases := List (String × String)

/-- A code with its further names behind it, colons between them. In lower case a code is a name of
its own. -/
def aliases (entry : String) : Aliases :=
  match entry.splitOn ":" with
  | [] => []
  | code :: names => (code.toLower :: names).map (·, code)

def Aliases.ofLines (lines : List String) : Aliases :=
  (lines.flatMap (·.splitOn " ")).flatMap aliases

end RegexWords.Unicode
