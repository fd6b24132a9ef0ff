import RegexWords.CharSet.ClassText
import RegexWords.CommandLine.Arguments

namespace RegexWords.CommandLine

def versionText : String := "regenum 0.1.0\n"

def usage : String := "Usage: regenum [OPTIONS] <PATTERN>\n"

def helpText : String :=
  String.join [
    "Print strings matching a regular expression, one per line\n\n",
    usage,
    "\nArguments:\n",
    "  <PATTERN>  The pattern to enumerate\n",
    "\nOptions:\n",
    "  -e, --examples                Print a few representative examples instead of every match\n",
    "  -n, --limit <LIMIT>           Stop after this many strings\n",
    "      --dot-yields <CHARS>      Characters yielded for any character\n",
    "      --generic-yields <CHARS>  Characters sampled for negated classes and unrecognized escapes\n",
    "      --space-yields <CHARS>    Characters yielded for spaces\n",
    "      --alnum-yields <CHARS>    Characters yielded for word characters\n",
    "      --digit-yields <CHARS>    Characters yielded for digits\n",
    "  -h, --help                    Print help\n",
    "  -V, --version                 Print version\n"]

def Refusal.report : Refusal → Report
  | misuse => ⟨2, "", "error: the arguments are not understood\n\n" ++ usage⟩
  | version => ⟨0, versionText, ""⟩
  | help => ⟨0, helpText, ""⟩

def plan (chunk : Nat) (args : List String) : Except Report (String × Printing) := do
  match Request.read args with
  | .error refusal => throw refusal.report
  | .ok request => return (request.pattern, ← request.plan chunk)

def run (fuel chunk : Nat) (args : List String) : Report :=
  match Request.read args with
  | .error refusal => refusal.report
  | .ok request => request.run fuel chunk

end RegexWords.CommandLine
