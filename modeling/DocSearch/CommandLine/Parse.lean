import DocSearch.CommandLine.Word
import DocSearch.Numeric.Reading

/-! # Reading command lines

Words are taken from left to right. Operands fill the places that are open for them; the place of a
command takes its name and all words behind it. What finds no place does not stop the reading, so a
help option behind it is still served; only at the end does it count as misuse. -/

namespace DocSearch.CommandLine

/-- A place for operands. -/
inductive Place where
  | operand (key : String)
  | command

/-- What has been read so far. -/
structure Progress where
  given : Given := []
  /-- The words of the command: its name first. -/
  command : Option (List String) := none
  /-- Whether a word found no place. -/
  leftover : Bool := false

/-- The value that a text stands for. A separator stands for no text at all, so an option that takes
it has an empty list. -/
def convert (kind : TextKind) (text : String) : Except Stop Value :=
  if text = separator then .ok (.list [])
  else match kind with
  | .text => .ok (.str text)
  | .integer =>
    match Numeral.settingInt? text with
    | some n => .ok (.int n)
    | none => .error .misuse
  | .number =>
    match Numeral.settingDouble? text with
    | some x => .ok (.float x)
    | none => .error .misuse

/-- The progress after an option and the text it takes, if it takes one. -/
def Progress.takeOption (p : Progress) (option : OptionSpec) (text : Option String) :
    Except Stop Progress :=
  match option.kind, text with
  | .help, _ => .error .help
  | .flag, _ => .ok { p with given := p.given ++ [(option.key, .bool true)] }
  | .value _, none => .error .misuse
  | .value kind, some text => do
    let value ← convert kind text
    return { p with given := p.given ++ [(option.key, value)] }

def OptionSpec.takesText (option : OptionSpec) : Bool :=
  match option.kind with
  | .value _ => true
  | .help | .flag => false

/-- Whether a spelling has a single dash. -/
def isShort (spelling : String) : Bool :=
  match spelling.toList with
  | ['-', c] => c ≠ '-'
  | _ => false

/-- The options that one word spells. -/
structure Cluster where
  /-- The options that are settled within the word, each with the text it takes from it. -/
  settled : List (OptionSpec × Option String)
  /-- The last option, if no text is attached to it. -/
  pending : Option OptionSpec

/-- The options of a word that attaches a text to an option. To one that takes a text it is that
text; for a short flag it spells further short options, each of which has to be one. -/
def clusterFrom (options : List OptionSpec) (option : OptionSpec) (short : Bool) :
    List Char → Except Stop Cluster
  | [] => if option.takesText then .ok ⟨[(option, some "")], none⟩ else .error .misuse
  | c :: rest =>
    if option.takesText then .ok ⟨[(option, some (String.ofList (c :: rest)))], none⟩
    else if !short then .error .misuse
    else
      match spelled? options (String.ofList ['-', c]) with
      | none => .error .misuse
      | some next =>
        if rest.isEmpty then .ok ⟨[(option, none)], some next⟩
        else do
          let more ← clusterFrom options next true rest
          return { more with settled := (option, none) :: more.settled }

/-- The options of one word. -/
def cluster (options : List OptionSpec) (spelled : Spelled) : Except Stop Cluster :=
  match spelled.attached with
  | none => .ok ⟨[], some spelled.option⟩
  | some text => clusterFrom options spelled.option (isShort spelled.spelling) text

/-- The progress after several options. -/
def Progress.takeOptions (p : Progress) :
    List (OptionSpec × Option String) → Except Stop Progress
  | [] => .ok p
  | (option, text) :: rest => do (← p.takeOption option text).takeOptions rest

/-- The progress after the options of one word, and the words left. -/
def Progress.takeWord (p : Progress) (options : List OptionSpec) (spelled : Spelled)
    (rest : List Word) : Except Stop (Progress × List Word) := do
  let found ← cluster options spelled
  match found.pending with
  | none =>
    let p ← p.takeOptions found.settled
    return (p, rest)
  | some last =>
    if last.takesText then
      match rest with
      | next :: rest =>
        if next.isOperand then
          let p ← p.takeOptions (found.settled ++ [(last, some next.text)])
          return (p, rest)
        else .error .misuse
      | [] => .error .misuse
    else
      let p ← p.takeOptions (found.settled ++ [(last, none)])
      return (p, rest)

/-- The operand that the next open place takes, and the words left. Separators beside it go with
it. -/
def nextOperand (words : List Word) : Option (String × List Word) :=
  match words.dropWhile Word.isSeparator with
  | w :: rest => if w.isOperand then some (w.text, rest.dropWhile Word.isSeparator) else none
  | [] => none

/-- The progress after filling as many places as the next words allow, the places that stay open and
the words left. -/
def Progress.fill (p : Progress) :
    List Place → List Word → Progress × List Place × List Word
  | [], words => (p, [], words)
  | .operand key :: places, words =>
    match nextOperand words with
    | none => (p, .operand key :: places, words)
    | some (text, rest) =>
      ({ p with given := p.given ++ [(key, .str text)] } : Progress).fill places rest
  | .command :: places, words =>
    match nextOperand words with
    | none => (p, .command :: places, words)
    | some _ => ({ p with command := some (words.map (·.text)) }, places, [])

/-- The progress after all words. Each round takes at least one word, so `fuel` is their number. -/
def Progress.read (options : List OptionSpec) :
    Nat → Progress → List Place → List Word → Except Stop (Progress × List Place)
  | fuel + 1, p, places, w :: rest =>
    match w.role with
    | .option spelled => do
      let (p, words) ← p.takeWord options spelled rest
      Progress.read options fuel p places words
    | .unknown => Progress.read options fuel { p with leftover := true } places rest
    | .operand | .separator =>
      let (filled, stillOpen, words) := p.fill places (w :: rest)
      if words.length < rest.length + 1 then Progress.read options fuel filled stillOpen words
      else
        Progress.read options fuel { p with leftover := true } places
          (rest.dropWhile fun w => !w.isOption)
  | _, p, places, _ => .ok (p, places)

/-- Whether all options and operands that have to be given are. -/
def Progress.isComplete (p : Progress) (options : List OptionSpec) (places : List Place) : Bool :=
  options.all (fun o => !o.required || p.given.contains o.key)
    && places.all fun place =>
      match place with
      | .operand _ => false
      | .command => true

/-- What the words give under a grammar. -/
def readWords (options : List OptionSpec) (places : List Place) (words : List String) :
    Except Stop Progress := do
  let options := helpOption :: options
  let words ← classify options words
  let (p, places) ← Progress.read options words.length {} places words
  if p.isComplete options places then return p else .error .misuse

/-- What a command line asks of a program. -/
def Program.parse (program : Program) (words : List String) : Except Stop Invocation := do
  let p ← readWords program.options [.command] words
  match p.command with
  | none => if p.leftover then .error .misuse else return ⟨p.given, none⟩
  | some [] => .error .misuse
  | some (name :: words) =>
    match program.commands.find? fun command => command.name == name with
    | none => .error .misuse
    | some command =>
      let q ← readWords command.options (command.operands.map .operand) words
      if p.leftover || q.leftover then .error .misuse
      else return ⟨p.given, some (name, q.given)⟩

end DocSearch.CommandLine
