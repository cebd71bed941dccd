import FieldSurvey.Report

/-!
The command-line program: it prints the report on one field of a snapshot file.
-/

namespace FieldSurvey

namespace Report

def usage : String :=
  "usage: field_stats [-h] [--quantile QUANTILE] [--topology TOPOLOGY] [--bins BINS]\n" ++
  "                   [--interpolation MODE] [--log-level LEVEL] [--mpi] snapshot field"

def pathOf? (words : List String) : Option String :=
  match CommandLine.read rules 2 words with
  | .ok line => line.words.head?.join
  | .error _ => none

end Report

def readFile (path : String) : IO (Option Bytes) := do
  try
    let content ← IO.FS.readBinFile path
    return some content.toList
  catch _ => return none

end FieldSurvey

open FieldSurvey in
def main (words : List String) : IO UInt32 := do
  let content ←
    match Report.pathOf? words with
    | some path => readFile path
    | none => pure none
  match Report.run (fun _ => content) words with
  | .stopped stop =>
      match stop with
      | .help => IO.println Report.usage
      | .misuse => IO.eprintln Report.usage
      return stop.code.toUInt32
  | .failed cause =>
      IO.eprintln (cause.message.getD "the request cannot be answered")
      return 1
  | .finished printout =>
      IO.print printout.text
      return printout.code.toUInt32
