import FibTiming.SuiteFile.Region

/-!
# Diagnostics

What is wrong with a suite file, and where.  A list of diagnostics is shown by its first one and the number of the
others.
-/

namespace FibTiming.SuiteFile

/-- Something wrong with a region of a suite file. -/
structure Diagnostic where
  region : Region
  summary : String
  detail : String
deriving Repr, DecidableEq, Inhabited

/-- The place, the summary and the detail of a diagnostic. -/
def Diagnostic.message (d : Diagnostic) : String := d.region.text ++ ": " ++ d.summary ++ "; " ++ d.detail

/-- The message of a list of diagnostics. -/
def diagnosticsMessage : List Diagnostic → String
  | [] => "no diagnostics"
  | [d] => d.message
  | d :: rest => d.message ++ s!", and {rest.length} other diagnostic(s)"

end FibTiming.SuiteFile
