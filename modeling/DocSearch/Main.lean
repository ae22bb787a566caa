import DocSearch.Demo.Run
import DocSearch.Index.Command
import DocSearch.Record.Lenient

/-! # The command lines

`search` shows or runs a demonstration search, `indexes` works on the managed indexes. This program
carries no network of its own: every server is unreachable to it, so it shows what a search would
send and reports that no connection can be made. -/

namespace DocSearch.CommandLine

/-- The variables that the settings are read from. -/
def settingVariables : List String :=
  [connectionVariable, indexVariable, SearchSettings.timeoutVariable,
    SearchSettings.databaseVariable, SearchSettings.collectionVariable,
    SearchSettings.journalVariable, IndexSettings.moviesDatabaseVariable,
    IndexSettings.moviesCollectionVariable, IndexSettings.listingsDatabaseVariable,
    IndexSettings.listingsCollectionVariable]

def unreachableFault : Fault := .external .driver "no server can be reached"

def unreachableSearch : SearchServer Unit where
  connect _ := pure ()
  ping := Action.fail unreachableFault
  aggregate _ _ := Action.fail unreachableFault
  close := id

def unreachableIndexes : IndexServer Unit where
  connect _ := pure ()
  ping := Action.fail unreachableFault
  address := Action.fail unreachableFault
  service :=
    { list := fun _ _ => Action.fail unreachableFault
      create := fun _ _ _ => Action.fail unreachableFault
      drop := fun _ _ => Action.fail unreachableFault
      now := fun _ => Clock.zero
      sleep := fun _ => pure () }

/-- What a program leaves on the console. -/
def outputText : Output → String
  | .line text _ => text ++ "\n"
  | .json value => Json.text value ++ "\n"
  | .table title columns rows =>
    String.join ((title :: (columns :: rows).map (" | ".intercalate ·)).map (· ++ "\n"))

def usage : String :=
  "usage: search [--limit N] [--dry-run] [-v] autocomplete QUERY\n"
    ++ "       search [--limit N] [--dry-run] [-v] nearby QUERY --lat X --lon Y [--distance M]\n"
    ++ "       indexes status | create | drop | recreate [--confirm] [--wait SECONDS]\n"

/-- The text and the end of a call of the program. -/
def run (env : Environment) : List String → String × Except Fault Exit
  | "search" :: words =>
    let journal : Journal := { writable := false }
    let (outcome, _) :=
      (DemoRequest.runWords .lenient unreachableSearch (fun _ => "") env words).run
        (DemoPlan.defaults, journal, ())
    match outcome with
    | .ok report => (String.join (report.output.map outputText), .ok report.exit)
    | .error fault => ("", .error fault)
  | "indexes" :: words =>
    let (outcome, console, _) :=
      (IndexServer.runWords unreachableIndexes env words).run ([], ())
    (IndexServer.consoleText console, outcome)
  | _ => ("", .ok .noCommand)

end DocSearch.CommandLine

open DocSearch CommandLine in
def main (words : List String) : IO UInt32 := do
  let env ← settingVariables.filterMapM fun name => do
    return (← IO.getEnv name).map fun text => (name, text)
  let (text, outcome) := run env words
  IO.print text
  match outcome with
  | .ok exit => if exit.help || exit.code = 2 then IO.print usage
  | .error fault => IO.eprintln fault.message
  return (Exit.status outcome).toNat.toUInt32
