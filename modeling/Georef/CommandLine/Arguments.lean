import Georef.Decimal.Reading

/-!
# Arguments

The arguments of the program are options, which start with two hyphens, the name of a command, and
the values that the command takes. A value of an option stands behind it, or in the same argument
behind an equals sign. Behind a lone pair of hyphens every argument is a value. Some options may
stand before the name of the command as well as behind it.

* `Shape`, `Command.shape`: the options and values of a command.
* `Scan`, `Scan.step`: arguments read one after the other.
* `Invocation`, `Invocation.ofArguments`: what the arguments ask for.
-/

namespace Georef.CommandLine

/-! ## Values -/

/-- What a value has to be. -/
inductive ValueKind where
  | path
  | number
  | identifier
  deriving DecidableEq, Repr

/-- A whole number with an optional sign, of which zero is the only negative one. -/
def identifier? (text : String) : Option UInt32 :=
  match text.toList with
  | '-' :: digits =>
    match Decimal.readDigits? digits with
    | some 0 => some 0
    | _ => none
  | _ => Decimal.readUInt32? text

/-- Whether a text is a value of a kind. -/
def ValueKind.accepts (text : String) : ValueKind → Bool
  | path => !text.isEmpty
  | number => (Decimal.readDouble? text).isSome
  | identifier => (identifier? text).isSome

/-- Whether a text behind a hyphen makes a negative number: digits, with at most one point that is
not in front, and at most one exponent without a sign behind them. -/
def isNumeral (text : List Char) : Bool :=
  let fraction := text.dropWhile Char.isDigit
  let exponent :=
    match fraction with
    | '.' :: rest => if fraction.length = text.length then fraction else rest.dropWhile Char.isDigit
    | _ => fraction
  match exponent with
  | [] => true
  | mark :: rest =>
    (mark == 'e' || mark == 'E') && exponent.length != text.length && !rest.isEmpty &&
      rest.all Char.isDigit

/-! ## Commands -/

/-- An option. -/
structure OptionShape where
  name : String
  /-- The name of its value; none for an option without one. -/
  value : Option String := none
  help : String
  required : Bool := false

/-- The options and values of a command. -/
structure Shape where
  options : List OptionShape := []
  /-- The names and kinds of the values. -/
  values : List (String × ValueKind) := []
  /-- Whether negative numbers are values and not options. -/
  negativeNumbers : Bool := false

/-- The commands. -/
inductive Command where
  | info
  | grid
  | shift
  | compound
  deriving DecidableEq, Repr

namespace Command

/-- All commands. -/
def all : List Command :=
  [info, grid, shift, compound]

/-- The name of a command. -/
def name : Command → String
  | info => "info"
  | grid => "grid"
  | shift => "shift"
  | compound => "compound"

/-- The command of a name. -/
def ofName? (name : String) : Option Command :=
  all.find? fun command => command.name == name

/-- What a command does. -/
def help : Command → String
  | info => "Print the directories and georeferencing of a TIFF"
  | grid => "Print the header and sub-grid tree of an NTv2 file"
  | shift => "Shift one point (degrees) through an NTv2 file"
  | compound => "Resolve the compound system of a horizontal and a vertical id"

end Command

/-- The options that may stand anywhere. -/
def commonOptions : List OptionShape :=
  [{ name := "catalog", value := some "CSV"
     help := "Extra CRS catalog CSV (code,name,kind,horizontal,vertical)" },
    { name := "no-mmap", help := "Read files instead of memory-mapping them" }]

/-- The shape of the arguments before the name of a command. -/
def commonShape : Shape :=
  { options := commonOptions }

/-- The options of a command beside the common ones. -/
def Command.options : Command → List OptionShape
  | info => [{ name := "trim-nul", help := "Strip trailing NULs from ASCII values" }]
  | grid => []
  | shift =>
    [{ name := "grid", value := some "GSB", help := "", required := true },
      { name := "inverse", help := "Apply the inverse shift" }]
  | compound => []

/-- The names and kinds of the values of a command. -/
def Command.values : Command → List (String × ValueKind)
  | info => [("TIFF", .path)]
  | grid => [("GSB", .path)]
  | shift => [("LON", .number), ("LAT", .number)]
  | compound => [("HORIZONTAL", .identifier), ("VERTICAL", .identifier)]

/-- The shape of the arguments behind the name of a command. -/
def Command.shape (command : Command) : Shape where
  options := command.options ++ commonOptions
  values := command.values
  negativeNumbers := command == shift

/-! ## Reading arguments -/

/-- Why arguments do not ask for a run. -/
inductive Stop where
  /-- The help of a command, or of the program, is asked for. -/
  | help (command : Option Command)
  /-- The help of asking for help is asked for. -/
  | helpOfHelp
  | version
  /-- The arguments cannot be understood. -/
  | refused
  deriving DecidableEq, Repr

/-- Arguments that were read. -/
structure Scan where
  flags : List String := []
  /-- The options with their values. -/
  settings : List (String × String) := []
  values : List String := []
  /-- The option whose value comes next. -/
  pending : Option String := none
  /-- Whether only values follow. -/
  plain : Bool := false

namespace Scan

/-- The scan with an option set, which may happen once. -/
def set (scan : Scan) (name value : String) : Except Stop Scan :=
  if value.isEmpty || scan.settings.any (fun setting => setting.1 == name) then .error .refused
  else .ok { scan with settings := scan.settings ++ [(name, value)], pending := none }

/-- The scan with a flag, which may be given once. -/
def raise (scan : Scan) (name : String) : Except Stop Scan :=
  if scan.flags.contains name then .error .refused
  else .ok { scan with flags := scan.flags ++ [name] }

/-- The scan with one more value. -/
def add (shape : Shape) (scan : Scan) (value : String) : Except Stop Scan :=
  match shape.values[scan.values.length]? with
  | some (_, kind) =>
    if kind.accepts value then .ok { scan with values := scan.values ++ [value] }
    else .error .refused
  | none => .error .refused

/-- The scan behind an option, given its name and the value in the same argument. -/
def option (command : Option Command) (shape : Shape) (scan : Scan) (name : String)
    (attached : Option String) : Except Stop Scan :=
  if scan.pending.isSome then .error .refused
  else
    match shape.options.find? fun option => option.name == name, attached with
    | some { value := some _, .. }, some value => scan.set name value
    | some { value := some _, .. }, none => .ok { scan with pending := some name }
    | some { value := none, .. }, none => scan.raise name
    | some { value := none, .. }, some _ => .error .refused
    | none, none =>
      if name = "help" then .error (.help command)
      else if name = "version" ∧ command.isNone then .error .version
      else .error .refused
    | none, some _ => .error .refused

/-- The scan behind an option of one letter. -/
def letter (command : Option Command) (scan : Scan) (c : Char) : Except Stop Scan :=
  if scan.pending.isSome then .error .refused
  else if c = 'h' then .error (.help command)
  else if c = 'V' ∧ command.isNone then .error .version
  else .error .refused

/-- The scan behind an argument. -/
def step (command : Option Command) (shape : Shape) (scan : Scan) (argument : String) :
    Except Stop Scan :=
  let value : Except Stop Scan :=
    match scan.pending with
    | some name => scan.set name argument
    | none => scan.add shape argument
  if scan.plain then scan.add shape argument
  else
    match argument.toList with
    | ['-', '-'] =>
      if scan.pending.isSome then .error .refused else .ok { scan with plain := true }
    | '-' :: '-' :: rest =>
      let name := String.ofList (rest.takeWhile (· != '='))
      match rest.dropWhile (· != '=') with
      | _ :: attached => scan.option command shape name (some (String.ofList attached))
      | [] => scan.option command shape name none
    | '-' :: c :: rest =>
      -- a minus sign in front of digits is not that of an option where numbers are expected
      if shape.negativeNumbers && isNumeral (c :: rest) then value else scan.letter command c
    | _ => value

end Scan

/-! ## What is asked for -/

/-- A run of the program. -/
inductive Task where
  | info (path : String) (trimNul : Bool)
  | grid (path : String)
  | shift (path : String) (inverse : Bool) (lon lat : Float)
  | compound (horizontal vertical : UInt32)
  deriving Repr

/-- A task with the settings of the run. -/
structure Invocation where
  /-- The path of a catalog. -/
  catalog : Option String
  /-- Whether files are read as a whole. -/
  mapped : Bool
  task : Task
  deriving Repr

/-- The path of the file that a task reads. -/
def Task.path? : Task → Option String
  | info path _ => some path
  | grid path => some path
  | shift path .. => some path
  | compound .. => none

namespace Invocation

/-- The paths of the files that a run reads. -/
def paths (invocation : Invocation) : List String :=
  invocation.catalog.toList ++ invocation.task.path?.toList

/-- The value of an option. -/
def setting? (scan : Scan) (name : String) : Option String :=
  (scan.settings.find? fun setting => setting.1 == name).map Prod.snd

/-- The task of a command. -/
def task? (command : Command) (scan : Scan) : Option Task :=
  match command, scan.values with
  | .info, [path] => some (.info path (scan.flags.contains "trim-nul"))
  | .grid, [path] => some (.grid path)
  | .shift, [lon, lat] => do
    return .shift (← setting? scan "grid") (scan.flags.contains "inverse")
      (← Decimal.readDouble? lon) (← Decimal.readDouble? lat)
  | .compound, [horizontal, vertical] => do
    return .compound (← identifier? horizontal) (← identifier? vertical)
  | _, _ => none

/-- The invocation of a command, given what stood before its name and behind it. A catalog behind it
takes precedence. -/
def ofScans? (common : Scan) (command : Command) (scan : Scan) : Option Invocation :=
  -- an option at the end still waits for its value
  if scan.pending.isSome then none
  else (task? command scan).map fun task => {
    catalog := (setting? scan "catalog").or (setting? common "catalog")
    mapped := !(scan.flags ++ common.flags).contains "no-mmap"
    task }

/-- The help that is asked for by names of commands. -/
def helpFor : List String → Stop
  | [] => .help none
  | [name] =>
    match Command.ofName? name with
    | some command => .help (some command)
    | none => if name = "help" then .helpOfHelp else .refused
  | _ => .refused

/-- The invocation of arguments; `common` was read before them, and no command was named yet. -/
def ofRest (common : Scan) : List String → Except Stop Invocation
  | [] => .error .refused
  | argument :: rest =>
    -- the value of an option may be spelled like a command
    let plainWord := common.pending.isNone && !common.plain
    match Command.ofName? argument with
    | some command =>
      if plainWord then do
        let scan ← rest.foldlM (Scan.step (some command) command.shape) {}
        (ofScans? common command scan).elim (.error .refused) .ok
      else do ofRest (← common.step none commonShape argument) rest
    | none =>
      if plainWord && argument == "help" then .error (helpFor rest)
      else do ofRest (← common.step none commonShape argument) rest

/-- The invocation of arguments. -/
def ofArguments (arguments : List String) : Except Stop Invocation :=
  ofRest {} arguments

end Invocation

end Georef.CommandLine
