import RegexWords.CommandLine.Report

namespace RegexWords.CommandLine

partial def printAll (output : IO.FS.Stream) (p : Printing) : IO Printing := do
  match p.step with
  | .yield text p =>
    output.putStr text
    output.flush
    printAll output p
  | .skip p => printAll output p
  | .ended => return p

def answer (args : List String) : IO Report := do
  let output ← IO.getStdout
  match plan (chunkSize (← output.isTty)) args with
  | .error report =>
    output.putStr report.output
    return report
  | .ok (pattern, printing) =>
    return conclusion pattern "" (← printAll output printing).ending

end RegexWords.CommandLine

/-- That nobody reads on is no fault. -/
def main (args : List String) : IO UInt32 := do
  try
    let report ← RegexWords.CommandLine.answer args
    (← IO.getStderr).putStr report.complaint
    return report.code.toUInt32
  catch
    | .resourceVanished .. => return 0
    | e => throw e
