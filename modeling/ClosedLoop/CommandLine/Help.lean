import ClosedLoop.CommandLine.Arguments

/-!
# Help

What the program says about itself and about its commands.
-/

namespace ClosedLoop.CommandLine

/-- What a command does. -/
def CommandName.about : CommandName → String
  | check => "Validate the configuration and show the loaded intent"
  | run => "Continuously enforce the configured intent on the device"
  | help => "Print this message or the help of the given subcommand(s)"

/-- An option, argument or command as it is written, and what it is for. -/
structure HelpRow where
  written : String
  purpose : String

/-- Rows in two columns. -/
def HelpRow.columns (rows : List HelpRow) : List String :=
  let width := (rows.map (·.written.length)).foldl max 0
  rows.map fun row =>
    let gap := String.ofList (List.replicate (width - row.written.length + 2) ' ')
    "  " ++ row.written ++ gap ++ row.purpose

/-- Rows on two lines each, where two columns would be too wide. -/
def HelpRow.stacked (rows : List HelpRow) : List String :=
  rows.flatMap fun row => ["  " ++ row.written, "          " ++ row.purpose]

/-- A page of help with its sections. -/
def helpPage (about usage : String) (sections : List (String × List String)) : List String :=
  [about, "", "Usage: netloop " ++ usage] ++
    sections.flatMap fun (title, rows) => ["", title ++ ":"] ++ rows

def configRow : HelpRow :=
  ⟨"    --config <CONFIG>", "Path to the intent configuration (defaults to ./input.yml)"⟩

def helpRow : HelpRow := ⟨"-h, --help", "Print help"⟩

/-- The help on a command, or on the whole program. -/
def helpLines : Option CommandName → List String
  | none =>
    helpPage "Closed-loop network automation controller" "[OPTIONS] <COMMAND>"
      [("Commands", HelpRow.columns [⟨"run", CommandName.run.about⟩,
          ⟨"check", CommandName.check.about⟩, ⟨"help", CommandName.help.about⟩]),
        ("Options", HelpRow.columns [configRow, helpRow, ⟨"-V, --version", "Print version"⟩])]
  | some .check =>
    helpPage CommandName.check.about "check [OPTIONS]"
      [("Options", HelpRow.columns [configRow,
        ⟨"    --json", "Print the resolved configuration as JSON"⟩, helpRow])]
  | some .run =>
    helpPage CommandName.run.about "run [OPTIONS]"
      [("Options", HelpRow.stacked [configRow,
        ⟨"    --interval-secs <INTERVAL_SECS>", "Override controller.interval_secs from config"⟩,
        ⟨"    --max-iterations <MAX_ITERATIONS>",
          "Stop after this many iterations instead of running forever (0 runs none)"⟩, helpRow])]
  | some .help =>
    helpPage CommandName.help.about "help [COMMAND]..."
      [("Arguments", HelpRow.columns [⟨"[COMMAND]...", "Print help for the subcommand(s)"⟩])]

end ClosedLoop.CommandLine
