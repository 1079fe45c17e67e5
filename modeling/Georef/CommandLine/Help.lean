import Georef.CommandLine.Arguments

/-!
# Help

The help of the program and of its commands, laid out in columns.
-/

namespace Georef.CommandLine

/-- The name under which the program is called. -/
def programName : String := "skyforest-geodesy"

/-- The version of the program. -/
def programVersion : String := "0.1.0"

/-- Lines of two columns, the second one aligned. -/
def columns (rows : List (String × String)) : List String :=
  let width := (rows.map fun row => row.1.length).foldl max 0
  rows.map fun (left, right) =>
    "  " ++ left ++ String.ofList (List.replicate (width - left.length + 2) ' ') ++ right

/-- The row of an option. -/
def OptionShape.row (option : OptionShape) : String × String :=
  (match option.value with
    | some value => s!"    --{option.name} <{value}>"
    | none => s!"    --{option.name}",
    option.help)

/-- The options in the help of a command. Its own options and the common ones are counted
separately; an option comes before those of a higher count, and before those of its count and a
later name. -/
def Command.listedOptions (command : Command) : List OptionShape :=
  let counted := command.options.zipIdx ++ commonOptions.zipIdx
  (counted.mergeSort fun a b =>
    a.2 < b.2 || (a.2 == b.2 && decide (a.1.name ≤ b.1.name))).map Prod.fst

/-- The row of the option for help. -/
def helpRow : String × String := ("-h, --help", "Print help")

/-- The row of the option for the version. -/
def versionRow : String × String := ("-V, --version", "Print version")

/-- How the program is called. -/
def usage : Option Command → String
  | none => s!"Usage: {programName} [OPTIONS] <COMMAND>"
  | some command =>
    let required := command.options.filterMap fun option =>
      if option.required then option.value.map fun value => s!" --{option.name} <{value}>"
      else none
    let values := command.values.map fun value => s!" <{value.1}>"
    s!"Usage: {programName} {command.name} [OPTIONS]" ++ String.join (required ++ values)

/-- What asking for help does. -/
def helpOfHelpText : String := "Print this message or the help of the given subcommand(s)"

/-- The lines of the help. -/
def helpLines : Option Command → List String
  | none =>
    ["Grid shifts, CRS lookup and TIFF directory inspection", "", usage none, "", "Commands:"] ++
      columns (Command.all.map (fun command => (command.name, command.help)) ++
        [("help", helpOfHelpText)]) ++
      ["", "Options:"] ++
      columns (commonOptions.map OptionShape.row ++ [helpRow, versionRow])
  | some command =>
    [command.help, "", usage (some command), "", "Arguments:"] ++
      columns (command.values.map fun value => (s!"<{value.1}>", "")) ++
      ["", "Options:"] ++
      columns (command.listedOptions.map OptionShape.row ++ [helpRow])

/-- The lines of the help of asking for help. -/
def helpOfHelpLines : List String :=
  [helpOfHelpText, "", s!"Usage: {programName} help [COMMAND]...", "", "Arguments:"] ++
    columns [("[COMMAND]...", "Print help for the subcommand(s)")]

/-- Lines as text. -/
def ofLines (lines : List String) : String :=
  String.join (lines.map (· ++ "\n"))

/-- The help of a command, or of the program. -/
def help (command : Option Command) : String :=
  ofLines (helpLines command)

/-- The help of asking for help. -/
def helpOfHelp : String :=
  ofLines helpOfHelpLines

end Georef.CommandLine
