import DocSearch.CommandLine.Parse
import DocSearch.Proofs.Outcome

/-! # A flag in front of a command line

What has been given so far decides nothing while the words are read: it only grows at its end. So a
flag in front of the words is given first, and the rest is read as it would be without it. -/

namespace DocSearch.CommandLine

namespace Progress

variable {options : List OptionSpec}

/-- The progress with something given before it. -/
def behind (first : Given) (p : Progress) : Progress := { p with given := first ++ p.given }

theorem takeOption_behind (first : Given) (p : Progress) (option : OptionSpec)
    (text : Option String) :
    (p.behind first).takeOption option text = (p.takeOption option text).map (behind first) := by
  have grown : ∀ entry : String × Value,
      ({ p.behind first with given := (p.behind first).given ++ [entry] } : Progress)
        = behind first { p with given := p.given ++ [entry] } := by
    intro entry
    simp [behind]
  unfold takeOption
  cases option.kind with
  | help => rfl
  | flag => exact congrArg Except.ok (grown _)
  | value kind =>
    cases text with
    | none => rfl
    | some text =>
      dsimp only
      cases convert kind text with
      | error stop => rfl
      | ok value => exact congrArg Except.ok (grown _)

theorem takeOptions_behind (first : Given) (found : List (OptionSpec × Option String))
    (p : Progress) :
    (p.behind first).takeOptions found = (p.takeOptions found).map (behind first) := by
  induction found generalizing p with
  | nil => rfl
  | cons head rest ih =>
    obtain ⟨option, text⟩ := head
    simp only [takeOptions, takeOption_behind]
    cases p.takeOption option text with
    | error stop => rfl
    | ok q => exact ih q

theorem takeWord_behind (first : Given) (p : Progress) (spelled : Spelled) (rest : List Word) :
    (p.behind first).takeWord options spelled rest
      = (p.takeWord options spelled rest).map fun (q, words) => (q.behind first, words) := by
  unfold takeWord
  simp only [takeOptions_behind]
  have settle : ∀ (found : List (OptionSpec × Option String)) (words : List Word),
      (do let q ← (p.takeOptions found).map (behind first); return (q, words))
        = (do let q ← p.takeOptions found; return (q, words) : Except Stop _).map
            fun (q, words) => (q.behind first, words) := by
    intro found words
    cases p.takeOptions found <;> rfl
  rcases cluster options spelled with stop | ⟨settled, pending⟩
  · rfl
  cases pending with
  | none => exact settle settled rest
  | some last =>
    show (if last.takesText then _ else _) = Except.map _ (if last.takesText then _ else _)
    split
    · cases rest with
      | nil => rfl
      | cons next rest =>
        show (if next.isOperand then _ else _) = Except.map _ (if next.isOperand then _ else _)
        split
        · exact settle _ rest
        · rfl
    · exact settle _ rest

theorem fill_behind (first : Given) (p : Progress) (places : List Place) (words : List Word) :
    (p.behind first).fill places words
      = ((p.fill places words).1.behind first, (p.fill places words).2) := by
  induction places generalizing p words with
  | nil => rfl
  | cons place places ih =>
    cases place with
    | command =>
      simp only [fill]
      cases nextOperand words <;> rfl
    | operand key =>
      simp only [fill]
      cases nextOperand words with
      | none => rfl
      | some next =>
        have later := ih { p with given := p.given ++ [(key, .str next.1)] } next.2
        simpa [behind] using later

/-- Reading goes on alike behind what has been given before. -/
theorem read_behind (first : Given) (fuel : Nat) (p : Progress) (places : List Place)
    (words : List Word) :
    read options fuel (p.behind first) places words
      = (read options fuel p places words).map fun (q, stillOpen) => (q.behind first, stillOpen) := by
  induction fuel generalizing p places words with
  | zero => rfl
  | succ fuel ih =>
    cases words with
    | nil => rfl
    | cons w rest =>
      obtain ⟨text, role⟩ := w
      cases role with
      | unknown => exact ih { p with leftover := true } places rest
      | option spelled =>
        simp only [read, takeWord_behind]
        rcases p.takeWord options spelled rest with stop | ⟨q, left⟩
        · rfl
        · exact ih q places left
      | operand | separator =>
        simp only [read, fill_behind]
        split
        · exact ih _ _ _
        · exact ih { p with leftover := true } places _

end Progress

variable {options : List OptionSpec} {option : OptionSpec} {word : String}

/-- A flag that a word spells in full. -/
structure Flag (options : List OptionSpec) (option : OptionSpec) (word : String) : Prop where
  role : roleOf (helpOption :: options) word = .ok (.option ⟨option, word, none⟩)
  kind : option.kind = .flag
  word : word ≠ separator

theorem Flag.takeWord (h : Flag options option word) (rest : List Word) :
    Progress.takeWord {} (helpOption :: options) ⟨option, word, none⟩ rest
      = .ok (Progress.behind [(option.key, .bool true)] {}, rest) := by
  have taken : Progress.takeOption {} option none
      = .ok (Progress.behind [(option.key, .bool true)] {}) := by
    simp [Progress.takeOption, h.kind, Progress.behind]
  have flag : option.takesText = false := by simp [OptionSpec.takesText, h.kind]
  show (if option.takesText then _ else _) = _
  rw [flag]
  show (do let q ← Progress.takeOptions {} [(option, none)]; pure (q, rest) : Except Stop _) = _
  simp only [Progress.takeOptions, taken]
  rfl

theorem Flag.classify (h : Flag options option word) (words : List String) :
    classify (helpOption :: options) (word :: words)
      = (classify (helpOption :: options) words).map
          (⟨word, .option ⟨option, word, none⟩⟩ :: ·) := by
  rw [CommandLine.classify, if_neg h.word, h.role]
  cases CommandLine.classify (helpOption :: options) words <;> rfl

/-- No option has to be given, so whether the words are complete does not depend on what is. -/
theorem isComplete_behind (first : Given) (p : Progress) (places : List Place)
    (free : ∀ o ∈ options, o.required = false) :
    (p.behind first).isComplete (helpOption :: options) places
      = p.isComplete (helpOption :: options) places := by
  have all : ∀ given : Given,
      (helpOption :: options).all (fun o => !o.required || given.contains o.key) = true := by
    intro given
    refine List.all_eq_true.mpr fun o ho => ?_
    rcases List.mem_cons.mp ho with rfl | ho
    · rfl
    · simp [free o ho]
  unfold Progress.isComplete
  rw [all, all]

theorem readWords_flag (h : Flag options option word) (free : ∀ o ∈ options, o.required = false)
    (places : List Place) (words : List String) :
    readWords options places (word :: words)
      = (readWords options places words).map (Progress.behind [(option.key, .bool true)]) := by
  simp only [readWords, h.classify]
  cases classify (helpOption :: options) words with
  | error stop => rfl
  | ok classified =>
    have step : Progress.read (helpOption :: options) (classified.length + 1) {} places
        (⟨word, .option ⟨option, word, none⟩⟩ :: classified)
          = Progress.read (helpOption :: options) classified.length
              (Progress.behind [(option.key, .bool true)] {}) places classified := by
      simp only [Progress.read, h.takeWord]
      rfl
    show (do
      let (p, stillOpen) ← Progress.read (helpOption :: options) (classified.length + 1) {} places
        (⟨word, .option ⟨option, word, none⟩⟩ :: classified)
      if p.isComplete (helpOption :: options) stillOpen then return p else .error .misuse) = _
    rw [step, Progress.read_behind]
    show _ = Except.map _ (do
      let (p, stillOpen) ←
        Progress.read (helpOption :: options) classified.length {} places classified
      if p.isComplete (helpOption :: options) stillOpen then return p else .error .misuse)
    rcases Progress.read (helpOption :: options) classified.length {} places classified with
      stop | ⟨p, stillOpen⟩
    · rfl
    · show (if (p.behind _).isComplete _ stillOpen then _ else _)
        = Except.map _ (if p.isComplete _ stillOpen then _ else _)
      rw [isComplete_behind _ p stillOpen free]
      split <;> rfl

/-- A flag in front of a command line is one thing more that is given to the program, before all
else. -/
theorem Program.parse_flag {program : Program} (h : Flag program.options option word)
    (free : ∀ o ∈ program.options, o.required = false) (words : List String) :
    program.parse (word :: words) = (program.parse words).map fun invocation =>
      { invocation with given := (option.key, .bool true) :: invocation.given } := by
  simp only [parse, readWords_flag h free]
  rcases readWords program.options [.command] words with stop | ⟨given, command, leftover⟩
  · rfl
  rcases command with _ | _ | ⟨name, rest⟩
  · cases leftover <;> rfl
  · rfl
  · simp only [Progress.behind, Except.map, bind, Except.bind]
    cases program.commands.find? fun command => command.name == name with
    | none => rfl
    | some command =>
      dsimp only
      rcases readWords command.options (command.operands.map .operand) rest with stop | q
      · rfl
      · dsimp only
        cases leftover || q.leftover <;> rfl

end DocSearch.CommandLine
