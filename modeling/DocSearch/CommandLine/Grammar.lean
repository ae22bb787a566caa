import DocSearch.Value.Basic

/-! # What a command line may hold

A program has options and commands; a command has options and operands of its own. Every grammar
knows the help option. -/

namespace DocSearch.CommandLine

/-- The word behind which every word is an operand. -/
def separator : String := "--"

/-- What an option's or operand's text has to be. -/
inductive TextKind where
  | text
  | integer
  | number
  deriving DecidableEq

/-- What an option does: show the help, stand for itself, or take a text. -/
inductive OptionKind where
  | help
  | flag
  | value (kind : TextKind)
  deriving DecidableEq

/-- An option of a program or command. -/
structure OptionSpec where
  /-- The spellings, each with its dashes. -/
  spellings : List String
  /-- The name under which what is given is kept. -/
  key : String
  kind : OptionKind
  required : Bool := false

def helpOption : OptionSpec := ⟨["-h", "--help"], "help", .help, false⟩

/-- A command with what can be given to it. -/
structure Command where
  name : String
  options : List OptionSpec
  /-- The names of the operands, each a text. -/
  operands : List String

/-- A program with its own options, and its commands. -/
structure Program where
  options : List OptionSpec
  commands : List Command

/-- What was given, by key; of several the last counts. -/
abbrev Given := List (String × Value)

namespace Given

def get? (given : Given) (key : String) : Option Value := given.reverse.lookup key

def contains (given : Given) (key : String) : Bool := given.any fun entry => entry.1 == key

end Given

/-- A command line that was read: what is given to the program, and to the command that is named. -/
structure Invocation where
  given : Given
  command : Option (String × Given)

/-- Why a command line is not carried out. -/
inductive Stop where
  | help
  | misuse
  deriving DecidableEq

end DocSearch.CommandLine
