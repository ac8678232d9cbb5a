import Tablespace.Command.Basic
import Tablespace.Text.Number
import Tablespace.Text.Split

/-!
# The command line

The command line names a command and gives options before and after it. An option has a long name
after two hyphens and perhaps a letter after one. Letters without a value can be put together; a
value stands in the next word, after an equals sign, or right after the letter. Some options belong
to every command and can stand on either side of its name; where one does on both sides the later
counts.

A line is read from left to right. It may be refused, which is all that is said of it, or ask for
help or the version, which ends the reading at that word.
-/

namespace Tablespace

/-- When the output is styled. -/
inductive ColorMode where
  /-- On a terminal. -/
  | auto
  /-- Always. -/
  | always
  /-- Never. -/
  | never
  deriving DecidableEq, Repr

namespace ColorMode

/-- The mode of a name. -/
def ofName? : String → Option ColorMode
  | "auto" => some auto
  | "always" => some always
  | "never" => some never
  | _ => none

/-- Whether output is styled, given whether it goes to a terminal. -/
def isStyled (terminal : Bool) : ColorMode → Bool
  | auto => terminal
  | always => true
  | never => false

end ColorMode

/-- The names of the commands. -/
inductive CommandName where
  /-- Show a page. -/
  | page
  /-- Summarise the system space. -/
  | systemSpaces
  /-- List the rows of an index. -/
  | records
  deriving DecidableEq, Repr

/-- The command of a name. -/
def CommandName.ofName? : String → Option CommandName
  | "page" => some page
  | "system-spaces" => some systemSpaces
  | "records" => some records
  | _ => none

/-- The options. -/
inductive Opt where
  /-- When to style the output. -/
  | color
  /-- The file for the output. -/
  | output
  /-- Tell more on the way; it may be given several times, and there is nothing to tell. -/
  | verbose
  /-- Map the files into memory instead of reading them. -/
  | mmap
  /-- Tell the version. -/
  | version
  /-- Tell how the program is used. -/
  | help
  /-- The files of the space. -/
  | files
  /-- The number of a page. -/
  | page
  /-- Add a hex dump. -/
  | hex
  /-- Write JSON. -/
  | json
  /-- The name of a table. -/
  | table
  /-- The name of an index. -/
  | index
  /-- The root page of an index. -/
  | root
  /-- The file of the space of an index. -/
  | tablespace
  /-- Go on after errors. -/
  | skipErrors
  deriving DecidableEq, Repr

namespace Opt

/-- The long name. -/
def long : Opt → String
  | color => "color"
  | output => "output"
  | verbose => "verbose"
  | mmap => "mmap"
  | version => "version"
  | help => "help"
  | files => "system-space-file"
  | page => "page"
  | hex => "hex"
  | json => "json"
  | table => "table"
  | index => "index"
  | root => "root"
  | tablespace => "tablespace"
  | skipErrors => "skip-errors"

/-- The letter. -/
def letter? : Opt → Option Char
  | output => some 'o'
  | verbose => some 'v'
  | version => some 'V'
  | help => some 'h'
  | files => some 's'
  | page => some 'p'
  | table => some 't'
  | index => some 'i'
  | color | mmap | hex | json | root | tablespace | skipErrors => none

/-- Whether the option has a value. -/
def takesValue : Opt → Bool
  | color | output | files | page | table | index | root | tablespace => true
  | verbose | mmap | version | help | hex | json | skipErrors => false

/-- The options that can be given before the command (`none`) or after it. -/
def allowed : Option CommandName → List Opt
  | none => [color, output, verbose, mmap, help, version]
  | some .page => [color, output, verbose, mmap, help, files, page, hex, json]
  | some .systemSpaces => [color, output, verbose, mmap, help, files, json]
  | some .records =>
    [color, output, verbose, mmap, help, files, table, index, root, tablespace, skipErrors, json]

end Opt

/-- Why a line leads to no command. -/
inductive LineStop where
  /-- The line is refused. -/
  | refused
  /-- The line asks how the program is used. -/
  | help
  /-- The line asks for the version. -/
  | version
  deriving DecidableEq, Repr

/-- What options have been given on one side of the command. -/
structure Settings where
  /-- When to style the output. -/
  color : Option ColorMode := none
  /-- The file for the output. -/
  output : Option String := none
  /-- The files of the space. -/
  files : List String := []
  /-- The number of a page. -/
  page : Option Nat := none
  /-- The name of a table. -/
  table : Option String := none
  /-- The name of an index. -/
  index : Option String := none
  /-- The root page of an index. -/
  root : Option Nat := none
  /-- The file of the space of an index. -/
  tablespace : Option String := none
  /-- The options without a value that may be given once. -/
  flags : List Opt := []
  deriving DecidableEq, Repr

namespace Settings

/-- A value for an option that may be given once. -/
def once {α : Type} (old : Option α) (value : Option α) : Except LineStop (Option α) :=
  match old, value with
  | none, some a => .ok (some a)
  | _, _ => .error .refused

/-- The settings with one more option and its value, which is empty for an option without. -/
def add (settings : Settings) (opt : Opt) (value : String) : Except LineStop Settings := do
  match opt with
  | .version => .error .version
  | .help => .error .help
  | .verbose => return settings
  | .mmap | .hex | .json | .skipErrors =>
    if opt ∈ settings.flags then .error .refused
    else return { settings with flags := opt :: settings.flags }
  | .files => return { settings with files := settings.files ++ value.splitOn "," }
  | .color => return { settings with color := ← once settings.color (ColorMode.ofName? value) }
  | .output => return { settings with output := ← once settings.output (some value) }
  | .page => return { settings with page := ← once settings.page (number? value) }
  | .table => return { settings with table := ← once settings.table (some value) }
  | .index => return { settings with index := ← once settings.index (some value) }
  | .root => return { settings with root := ← once settings.root (number? value) }
  | .tablespace => return { settings with tablespace := ← once settings.tablespace (some value) }
where
  /-- The number in a value. -/
  number? (value : String) : Option Nat := Text.Number.read? value.toList

end Settings

/-- A word of the command line, by its form. -/
inductive Word where
  /-- Two hyphens alone: no options follow. -/
  | escape
  /-- A long name, perhaps with a value. -/
  | long (name : String) (value : Option String)
  /-- Letters, perhaps with a value at the end. -/
  | letters (cs : List Char)
  /-- Anything else. -/
  | plain (text : String)
  deriving DecidableEq, Repr

/-- The form of a word. -/
def Word.ofString (text : String) : Word :=
  match text.toList with
  | ['-', '-'] => .escape
  | '-' :: '-' :: cs =>
    match Text.splitFirst (· == '=') cs with
    | (name, value) => .long (String.ofList name) (value.map String.ofList)
  | '-' :: c :: cs => .letters (c :: cs)
  | _ => .plain text

/-- What letters give: settings, and perhaps an option whose value is in the next word. -/
def readLetters (side : Option CommandName) (settings : Settings) :
    List Char → Except LineStop (Settings × Option Opt)
  | [] => .ok (settings, none)
  | c :: cs =>
    match (Opt.allowed side).find? (·.letter? = some c) with
    | none => .error .refused
    | some opt =>
      if opt.takesValue then
        match cs with
        | [] => .ok (settings, some opt)
        | '=' :: value => do return (← settings.add opt (String.ofList value), none)
        | value => do return (← settings.add opt (String.ofList value), none)
      else do readLetters side (← settings.add opt "") cs

/-- What a long name gives: settings, and perhaps an option whose value is in the next word. -/
def readLong (side : Option CommandName) (settings : Settings) (name : String)
    (value : Option String) : Except LineStop (Settings × Option Opt) :=
  match (Opt.allowed side).find? (·.long = name), value with
  | none, _ => .error .refused
  | some opt, some value =>
    if opt.takesValue then do return (← settings.add opt value, none) else .error .refused
  | some opt, none =>
    if opt.takesValue then .ok (settings, some opt)
    else do return (← settings.add opt "", none)

/-- Where the reading of one side of the line ends. -/
inductive SideEnd where
  /-- At the end of the line. -/
  | line
  /-- At the name of a command, with the words after it. -/
  | command (name : String) (rest : List String)
  deriving DecidableEq, Repr

/-- One side of the command: options up to the end of the line or, before the command, up to its
name. An option in `pending` takes the next word as its value, unless that has the form of an
option. -/
def readSide (side : Option CommandName) :
    (settings : Settings) → (pending : Option Opt) → List String →
      Except LineStop (Settings × SideEnd)
  | settings, none, [] => .ok (settings, .line)
  | _, some _, [] => .error .refused
  | settings, none, word :: rest =>
    match Word.ofString word with
    | .escape => if rest.isEmpty then .ok (settings, .line) else .error .refused
    | .long name value => do
      let (settings, pending) ← readLong side settings name value
      readSide side settings pending rest
    | .letters cs => do
      let (settings, pending) ← readLetters side settings cs
      readSide side settings pending rest
    | .plain text => if side.isNone then .ok (settings, .command text rest) else .error .refused
  | settings, some opt, word :: rest =>
    match Word.ofString word with
    | .plain text => do readSide side (← settings.add opt text) none rest
    | _ => .error .refused

/-- A command with what belongs to every command. -/
structure Invocation where
  /-- When to style the output. -/
  color : ColorMode := .auto
  /-- The file for the output. -/
  output : Option String := none
  /-- Whether the files are mapped into memory. -/
  mapped : Bool := false
  /-- The command. -/
  command : Command
  deriving DecidableEq, Repr

namespace Invocation

/-- The command that settings after its name describe. -/
def commandOf (settings : Settings) : CommandName → Except LineStop Command := fun name =>
  let json := Opt.json ∈ settings.flags
  if settings.files.isEmpty then .error .refused
  else
    match name with
    | .page => .ok (.page settings.files (settings.page.getD 7) (Opt.hex ∈ settings.flags) json)
    | .systemSpaces => .ok (.systemSpaces settings.files json)
    | .records =>
      if settings.table.isSome = settings.root.isSome then .error .refused
      else
        .ok (.records {
          files := settings.files
          table := settings.table
          index := settings.index.getD "PRIMARY"
          root := settings.root
          tablespace := settings.tablespace
          skipErrors := Opt.skipErrors ∈ settings.flags } json)

/-- What words after `help` ask for: help on commands that there are. -/
def helpOn : List String → LineStop
  | [] => .help
  | [name] => if (CommandName.ofName? name).isSome ∨ name = "help" then .help else .refused
  | _ => .refused

/-- The invocation that the words of a line describe. -/
def ofWords (words : List String) : Except LineStop Invocation := do
  match ← readSide none {} none words with
  | (_, .line) => .error .refused
  | (before, .command name rest) =>
    match CommandName.ofName? name with
    | none => .error (if name = "help" then helpOn rest else .refused)
    | some name =>
      let (after, _) ← readSide (some name) {} none rest
      return {
        color := ((after.color <|> before.color).getD .auto)
        output := after.output <|> before.output
        mapped := Opt.mmap ∈ before.flags ++ after.flags
        command := ← commandOf after name }

end Invocation

end Tablespace
