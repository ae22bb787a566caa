import DocSearch.CommandLine.Grammar
import DocSearch.Fault

/-! # Ends of programs

A program ends with a code, or with a fault that it does not handle. -/

namespace DocSearch

/-- How a program ends. -/
structure Exit where
  code : Int
  /-- Whether it shows its help before. -/
  help : Bool := false
  deriving DecidableEq, Inhabited

namespace Exit

def success : Exit := ⟨0, false⟩
def failure : Exit := ⟨1, false⟩

/-- The end of a program that was called without a command. -/
def noCommand : Exit := ⟨1, true⟩

/-- The end of a program whose command line is not carried out. -/
def ofStop : CommandLine.Stop → Exit
  | .help => ⟨0, true⟩
  | .misuse => ⟨2, false⟩

/-- The code that a program leaves. A fault that it does not handle leaves a one. -/
def status : Except Fault Exit → Int
  | .ok exit => exit.code
  | .error _ => 1

end Exit
end DocSearch
