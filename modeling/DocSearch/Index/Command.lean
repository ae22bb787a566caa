import DocSearch.CommandLine.Exit
import DocSearch.CommandLine.Parse
import DocSearch.Datum.Display
import DocSearch.Index.Maintenance
import DocSearch.Numeric.Decimal

/-! # Index work from the command line

Four commands: the state of the managed indexes, creating them, dropping them, rebuilding them. The
last two take searches out of work for a while, so they have to be confirmed. -/

namespace DocSearch

/-- A command on the managed indexes. The wait is taken as it is given. -/
inductive IndexCommand where
  | status
  | create
  | drop (confirmed : Bool) (wait : Datum)
  | recreate (confirmed : Bool) (wait : Datum)

namespace IndexCommand

def confirmOption : CommandLine.OptionSpec := ⟨["--confirm"], "confirm", .flag, false⟩
def waitOption : CommandLine.OptionSpec := ⟨["--wait"], "wait", .value .number, false⟩

def program : CommandLine.Program where
  options := []
  commands :=
    [⟨"status", [], []⟩, ⟨"create", [], []⟩, ⟨"drop", [confirmOption, waitOption], []⟩,
      ⟨"recreate", [confirmOption, waitOption], []⟩]

/-- The wait that is given, or what stands for it. -/
def waitOf (given : CommandLine.Given) (default : Datum) : Datum :=
  ((given.get? waitOption.key).map Datum.ofValue).getD default

/-- The command of a name with what is given to it. -/
def ofName? (name : String) (given : CommandLine.Given) : Option IndexCommand :=
  let confirmed := given.contains confirmOption.key
  if name = "status" then some .status
  else if name = "create" then some .create
  else if name = "drop" then some (.drop confirmed (waitOf given standardDropWait))
  else if name = "recreate" then some (.recreate confirmed (waitOf given standardRebuildWait))
  else none

/-- The command of a command line, if it names one. -/
def ofWords (words : List String) : Except CommandLine.Stop (Option IndexCommand) := do
  let invocation ← program.parse words
  return invocation.command.bind fun (name, given) => ofName? name given

end IndexCommand

/-- A deployment to which a connection is made before its indexes are worked on. -/
structure IndexServer (σ : Type) where
  connect : Connection → Action σ Unit
  ping : Action σ Unit
  /-- The host and port that answered, if that is known. -/
  address : Action σ (Option (Value × Value))
  service : IndexService σ Datum

namespace IndexServer

variable {σ : Type}

/-- An action on a deployment beside a console, to which lines are printed. -/
abbrev Session (σ α : Type) := Action (List String × σ) α

def say (line : String) : Session σ Unit :=
  Action.modify fun (console, s) => (console ++ [line], s)

/-- All the text of a console: each line ends in a line break. -/
def consoleText (console : List String) : String :=
  String.join (console.map fun line => line ++ "\n")

def sayAll : List String → Session σ Unit
  | [] => pure ()
  | line :: rest => do
    say line
    sayAll rest

def addressText : Option (Value × Value) → String
  | none => "None"
  | some (host, port) => "(" ++ host.quoted ++ ", " ++ port.quoted ++ ")"

def answerLine (answer : Target × Bool) : String :=
  "   " ++ (if answer.2 then "✅" else "❌") ++ " " ++ answer.1.name

/-- What is shown for an index. -/
def infoLines (target : Target) (info : IndexReport) : List String :=
  if info.isPresent then
    ["\n✅ " ++ target.name ++ ": " ++ info.place.fullName,
      "   " ++ (if info.isQueryable then "🟢" else "🟡") ++ " " ++ info.status.display
        ++ " (queryable=" ++ (Value.bool info.isQueryable).display ++ ")"]
  else ["\n❌ " ++ target.name ++ ": " ++ info.place.fullName ++ " (없음)"]

def showStatus (work : IndexWork σ Datum) : Session σ Exit := do
  say ("\n📊 Atlas Search index '" ++ work.settings.indexName ++ "'")
  say (String.ofList (List.replicate 50 '='))
  let infos ← work.status.onSecond
  sayAll (infos.flatMap fun (target, info) => infoLines target info)
  say ""
  return .success

def exitOf (answers : List (Target × Bool)) : Exit :=
  if IndexWork.allDone answers then .success else .failure

def createMissing (work : IndexWork σ Datum) : Session σ Exit := do
  say "\n🔧 Creating search indexes..."
  let answers ← (work.createAll true).onSecond
  sayAll (answers.map answerLine)
  say "\n✨ 요청 완료. status로 READY 여부를 확인하세요."
  return exitOf answers

/-- The refusal of a command that is not confirmed. -/
def refuse (deed : String) : Session σ Exit := do
  say ("\n⚠️  " ++ deed ++ "하려면 --confirm 플래그가 필요합니다.")
  say "   인덱스가 다시 빌드될 때까지 해당 컬렉션의 $search 쿼리가 실패합니다!"
  return .failure

def dropConfirmed (work : IndexWork σ Datum) (wait : Datum) : Session σ Exit := do
  say "\n🗑️  Dropping search indexes..."
  let answers ← (work.dropAll wait).onSecond
  sayAll (answers.map answerLine)
  return exitOf answers

/-- The text of a wait that was too short, which only a number can be. -/
def waitText (wait : Datum) : String :=
  match wait.toNumber? with
  | some n => n.briefText
  | none => wait.display

def recreateConfirmed (work : IndexWork σ Datum) (wait : Datum) : Session σ Exit := do
  say "\n♻️  Recreating search indexes..."
  let answers ← (work.recreateAll wait).onSecond
  sayAll (answers.map answerLine)
  if IndexWork.allDone answers then return .success
  say ("\n❌ " ++ waitText wait
    ++ "초 안에 삭제가 끝나지 않았습니다. 잠시 후 create를 실행하세요.")
  return .failure

/-- A command on a connected deployment. -/
def perform (work : IndexWork σ Datum) : IndexCommand → Session σ Exit
  | .status => showStatus work
  | .create => createMissing work
  | .drop true wait => dropConfirmed work wait
  | .drop false _ => refuse "삭제"
  | .recreate true wait => recreateConfirmed work wait
  | .recreate false _ => refuse "재생성"

/-- A command from the settings on. A ping that fails in the connection is told and ends the run. -/
def carryOut (server : IndexServer σ) (env : Environment) (command : IndexCommand) :
    Session σ Exit := do
  let settings ← Action.lift (IndexSettings.load env)
  (server.connect settings.connection).onSecond
  match ← server.ping.onSecond.attempt with
  | .error fault =>
    if fault.kind = .driver then
      say ("\n❌ MongoDB 연결 오류: " ++ fault.message)
      return .failure
    else Action.fail fault
  | .ok () =>
    let address ← server.address.onSecond
    say ("\n🔗 Connected to: " ++ addressText address)
    perform ⟨server.service, settings, standardPoll⟩ command

/-- The whole program. -/
def runWords (server : IndexServer σ) (env : Environment) (words : List String) : Session σ Exit :=
  match IndexCommand.ofWords words with
  | .error stop => pure (Exit.ofStop stop)
  | .ok none => pure .noCommand
  | .ok (some command) => carryOut server env command

end IndexServer
end DocSearch
