import Tablespace.Report.Page
import Tablespace.Report.Rows
import Tablespace.Report.Summary

/-!
# Commands

A command opens the files it names, makes a report and writes it as lines of text or as JSON. Which
bytes the files have is asked of a function from names to contents, so a command is a function from
files to a transcript.
-/

namespace Tablespace

/-- A request for the rows of an index. -/
structure RowsRequest where
  /-- The files of the system space. -/
  files : List String
  /-- The table. -/
  table : Option String := none
  /-- The index of the table. -/
  index : String := "PRIMARY"
  /-- The root page of the index, instead of the names. -/
  root : Option Nat := none
  /-- The file of the space in which the index is stored, if it is not the system space. -/
  tablespace : Option String := none
  /-- Whether errors are kept and the scan goes on. -/
  skipErrors : Bool := false
  deriving DecidableEq, Repr

/-- A command. -/
inductive Command where
  /-- Show the page with a number, perhaps with a hex dump. -/
  | page (files : List String) (number : Nat) (hex json : Bool)
  /-- Summarise the system space. -/
  | systemSpaces (files : List String) (json : Bool)
  /-- List the rows of an index. -/
  | records (request : RowsRequest) (json : Bool)
  deriving DecidableEq, Repr

/-- The contents of files: the bytes of a file or what is wrong with it. -/
abbrev Contents := String → Except IoFault ByteArray

/-- The space in the files that a command names. -/
def openSpace (contents : Contents) (files : List String) : Except Error Space :=
  if files.isEmpty then .error (.request .noDataFile) else Space.openFiles contents files

namespace RowsRequest

/-- The tree of the requested index. -/
def tree (request : RowsRequest) (system : Space) (tablespace : Option Space) :
    Except Error Tree := do
  match request.root, request.table with
  | some root, _ => Tree.atRoot (tablespace.getD system) root none
  | none, none => .error (.request .noTarget)
  | none, some table =>
    let catalog ← Catalog.ofSpace system
    match tablespace with
    | some space => catalog.treeIn space table request.index
    | none => catalog.treeByName table request.index

/-- The report on the requested index. -/
def report (request : RowsRequest) (contents : Contents) : Except Error RowsReport := do
  let system ← openSpace contents request.files
  let tablespace ←
    match request.tablespace with
    | some file => some <$> openSpace contents [file]
    | none => pure none
  let tree ← request.tree system tablespace
  let findings ← tree.scan (if request.skipErrors then .keepErrors else .abort)
  return { table := request.table, index := request.index, tree, findings }

end RowsRequest

namespace Command

/-- The names of the files that a command opens, in order. -/
def inputs : Command → List String
  | page files _ _ _ => files
  | systemSpaces files _ => files
  | records request _ => request.files ++ request.tablespace.toList

/-- What a command writes. -/
def run (contents : Contents) (styled : Bool) (command : Command)
    (printer : Printer := .terminal) : Transcript :=
  let paint := printer.paint styled
  match command with
  | page files number hex json =>
    let report := do PageReport.ofSpace (← openSpace contents files) number
    if json then .ofJson printer (report >>= PageReport.toJson)
    else .about report (PageReport.transcript paint hex)
  | systemSpaces files json =>
    let summary := do Summary.ofSpace (← openSpace contents files)
    if json then .ofJson printer (Summary.toJson <$> summary)
    else .about summary fun s => .ofLines (s.lines paint)
  | records request json =>
    let report := request.report contents
    if json then .ofJson printer (report >>= RowsReport.toJson)
    else .about report fun r => .ofLines (r.lines paint)

end Command

end Tablespace
