import DocSearch.CommandLine.Grammar
import DocSearch.Text.Digit

/-! # The words of a command line

Each word is an operand, the separator `--`, or an option. Behind the separator every word is an
operand. A long option may be shortened as long as one option only begins with it. An option may carry
a text behind `=`, a short one at once behind it; for a flag the text spells further short options.
A word that reads as a negative number is an operand. -/

namespace DocSearch.CommandLine

/-- An option as a word spells it, with the text attached to it within the word: behind `=`, or at
once behind a short option. -/
structure Spelled where
  option : OptionSpec
  spelling : String
  attached : Option (List Char)

/-- What a word is. -/
inductive Role where
  | operand
  | separator
  | option (spelled : Spelled)
  /-- A word with leading dash that is no option here. -/
  | unknown

/-- A word with its role. -/
structure Word where
  text : String
  role : Role

namespace Word

def isOperand (w : Word) : Bool :=
  match w.role with
  | .operand => true
  | _ => false

def isSeparator (w : Word) : Bool :=
  match w.role with
  | .separator => true
  | _ => false

def isOption (w : Word) : Bool :=
  match w.role with
  | .option _ | .unknown => true
  | _ => false

end Word

/-- The option with a spelling. -/
def spelled? (options : List OptionSpec) (spelling : String) : Option OptionSpec :=
  options.find? fun o => o.spellings.contains spelling

/-- Each spelling with its option. -/
def spellings (options : List OptionSpec) : List (String × OptionSpec) :=
  options.flatMap fun o => o.spellings.map fun spelling => (spelling, o)

/-- A text cut at its first `=`. -/
def cutAtEquals (cs : List Char) : List Char × Option (List Char) :=
  match cs.dropWhile (· ≠ '=') with
  | '=' :: text => (cs.takeWhile (· ≠ '='), some text)
  | _ => (cs, none)

/-- The options that a word may shorten, or that may carry the rest of the word. -/
def shortened (options : List OptionSpec) : List Char → List Spelled
  | '-' :: '-' :: rest =>
    let (start, attached) := cutAtEquals ('-' :: '-' :: rest)
    (spellings options).filterMap fun (spelling, o) =>
      if start.isPrefixOf spelling.toList then some ⟨o, spelling, attached⟩ else none
  | '-' :: c :: rest =>
    (spellings options).filterMap fun (spelling, o) =>
      if spelling.toList = ['-', c] then some ⟨o, spelling, some rest⟩ else none
  | _ => []

/-- One or more decimal digits of any script. -/
def isDigits (cs : List Char) : Bool :=
  !cs.isEmpty && cs.all fun c => (Text.digitValue? c).isSome

/-- Whether a word reads as a negative number: digits, or a point with digits behind it. A line break
at the end does not count. -/
def isNegativeNumber (cs : List Char) : Bool :=
  let cs := if cs.getLast? = some '\n' then cs.dropLast else cs
  match cs with
  | '-' :: rest =>
    isDigits rest ||
      (let whole := rest.takeWhile fun c => (Text.digitValue? c).isSome
       match rest.drop whole.length with
       | '.' :: fraction => isDigits fraction
       | _ => false)
  | _ => false

/-- What a word before the separator is, if that can be told. -/
def roleOf (options : List OptionSpec) (word : String) : Except Stop Role :=
  match word.toList with
  | '-' :: c :: rest =>
    match spelled? options word with
    | some o => .ok (.option ⟨o, word, none⟩)
    | none =>
      let (start, attached) := cutAtEquals ('-' :: c :: rest)
      let spelling := String.ofList start
      match attached, spelled? options spelling with
      | some text, some o => .ok (.option ⟨o, spelling, some text⟩)
      | _, _ =>
        match shortened options ('-' :: c :: rest) with
        | [spelled] => .ok (.option spelled)
        | _ :: _ :: _ => .error .misuse
        | [] =>
          if isNegativeNumber ('-' :: c :: rest) || rest.contains ' ' || c = ' ' then .ok .operand
          else .ok .unknown
  | _ => .ok .operand

/-- The words of a command line with their roles. -/
def classify (options : List OptionSpec) : List String → Except Stop (List Word)
  | [] => .ok []
  | word :: rest =>
    if word = separator then
      .ok (⟨word, .separator⟩ :: rest.map fun w => ⟨w, .operand⟩)
    else do
      let role ← roleOf options word
      let words ← classify options rest
      return ⟨word, role⟩ :: words

end DocSearch.CommandLine
