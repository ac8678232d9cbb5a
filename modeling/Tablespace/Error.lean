import Tablespace.Page.Kind

/-!
# Errors

Everything that can go wrong is a value of `Error`: which rule was broken and at which place.
`Error.message` is the only function that knows the wording.

There are four families with several causes each. An `IoFault` is about files, a `FormatFault` about
bytes that do not have the form they should have, a `RequestFault` about a request that cannot be
met, and a `LinkFault` about a page number or a record offset that leads astray inside an index.
-/

namespace Tablespace

/-- What is wrong with a file or with a read from the files of a space. -/
inductive IoFault where
  /-- The file cannot be opened. -/
  | cannotOpen (name reason : String)
  /-- The file cannot be mapped into memory. -/
  | cannotMap (name reason : String)
  /-- The bytes of the file cannot be read. -/
  | cannotRead (length offset : Nat) (name reason : String)
  /-- The file cannot be created. -/
  | cannotCreate (name reason : String)
  /-- The text cannot be written. -/
  | cannotWrite (reason : String)
  /-- The bytes asked for are not all inside the space. -/
  | pastEnd (length offset : Nat) (name : String) (size : Nat)
  /-- The files of the space hold fewer bytes than the space has. -/
  | shortRead (offset : Nat) (name : String) (filled length : Nat)
  deriving DecidableEq, Repr

/-- What is wrong with bytes that should have a certain form. -/
inductive FormatFault where
  /-- The page cannot hold the header that every page begins with. -/
  | pageTooShort (page size : Nat)
  /-- The bytes asked for are not all inside the page. -/
  | readOverrun (length offset page size : Nat)
  /-- A record cannot begin at this offset. -/
  | recordOutside (offset page : Nat)
  /-- The null bitmap of a record begins before the page does. -/
  | nullBitmapUnderrun (offset page : Nat)
  /-- The length table of a record begins before the page does. -/
  | lengthTableUnderrun (offset page : Nat)
  /-- The table of field ends of a record begins before the page does. -/
  | fieldEndsUnderrun (offset page : Nat)
  /-- A record has too few fields for a column. -/
  | fieldMissing (offset page fieldCount : Nat) (column : String) (position : Nat)
  /-- The header of a record says nothing about a column. -/
  | lengthMissing (column : String) (offset page : Nat)
  /-- A column is stored elsewhere and has no room for the reference. -/
  | referenceTooShort (column : String) (offset page : Nat)
  /-- The page is not a node of an index. -/
  | notAnIndexPage (page : Nat) (kind : PageKind)
  /-- The page cannot hold an index header. -/
  | indexHeaderTooShort (page : Nat)
  /-- The files together cannot hold the header of a space. -/
  | spaceTooSmall (name : String) (size : Nat)
  /-- A catalog row lacks an integer column. -/
  | catalogIntegerMissing (column : String)
  /-- A catalog row lacks a string column. -/
  | catalogStringMissing (column : String)
  /-- An index names a column that its table does not have. -/
  | indexFieldUnknown (field table : String)
  /-- A report has no text as JSON. -/
  | jsonUnwritable (reason : String)
  deriving DecidableEq, Repr

/-- What is wrong with a request. -/
inductive RequestFault where
  /-- An integer of this many bytes cannot be read. -/
  | integerWidth (width : Nat)
  /-- A space without files. -/
  | noFiles
  /-- A command without data files. -/
  | noDataFile
  /-- A page size that no space has. -/
  | pageSize (size : Nat)
  /-- The space has no such page. -/
  | pageOutOfRange (page : Nat) (name : String) (count : Nat)
  /-- The page of the data dictionary was asked of a space that has none. -/
  | notSystemSpace (name : String) (space : Nat)
  /-- The data dictionary was asked of a space that has none. -/
  | noDictionary (space : Nat)
  /-- The space has no page where the root of an index should be. -/
  | rootOutOfRange (root count : Nat)
  /-- The index has fewer levels. -/
  | levelAboveRoot (level root rootLevel : Nat)
  /-- The catalog has no such index. -/
  | noSuchIndex (index table : String)
  /-- The index is stored in another space. -/
  | otherSpace (index table : String) (space : Nat)
  /-- The index does not belong to the data dictionary. -/
  | notACatalogIndex (table index : String)
  /-- Neither a table nor a root page was named. -/
  | noTarget
  deriving DecidableEq, Repr

/-- What is wrong with a link inside an index. -/
inductive LinkFault where
  /-- The records of a page are linked in a circle. -/
  | recordLoop (offset : Nat)
  /-- A page above the leaves has no record to descend along. -/
  | noRecords
  /-- The record to descend along does not point to a page. -/
  | notANodePointer (offset : Nat) (kind : String)
  /-- The page to descend to is not in the space. -/
  | childOutOfRange (child count : Nat)
  /-- The page to descend to was passed before. -/
  | childVisited (child : Nat)
  /-- The page to descend to is not one level lower. -/
  | childLevel (child level expected : Nat)
  /-- The next page of the level is not in the space. -/
  | nextOutOfRange (next count : Nat)
  /-- The next page of the level was passed before. -/
  | nextVisited (next : Nat)
  /-- The next page is not a leaf. -/
  | siblingLevel (page level : Nat)
  deriving DecidableEq, Repr

/-- What can go wrong. -/
inductive Error where
  /-- A file is missing or too short. -/
  | io (fault : IoFault)
  /-- Bytes do not have the form they should have. -/
  | format (fault : FormatFault)
  /-- A request cannot be met. -/
  | request (fault : RequestFault)
  /-- A column has a type that cannot be interpreted. -/
  | unknownType (name : String)
  /-- Without the columns of an index the child page of a record cannot be found. -/
  | layoutRequired (page offset : Nat)
  /-- The catalog does not describe this index. -/
  | unresolved (index : Nat)
  /-- A link on a page of an index leads astray. -/
  | link (page : Nat) (fault : LinkFault)
  deriving DecidableEq, Repr

namespace IoFault

/-- The wording of a fault. -/
def message : IoFault → String
  | cannotOpen name reason => s!"Cannot open {name}: {reason}"
  | cannotMap name reason => s!"Cannot mmap {name}: {reason}"
  | cannotRead length offset name reason =>
    s!"Cannot read {length} bytes at {offset} in {name}: {reason}"
  | cannotCreate name reason => s!"Cannot create {name}: {reason}"
  | cannotWrite reason => reason
  | pastEnd length offset name size =>
    s!"Read of {length} bytes at {offset} is past the end of {name} ({size} bytes)"
  | shortRead offset name filled length =>
    s!"Short read at {offset} in {name}: {filled} of {length} bytes"

end IoFault

namespace FormatFault

/-- The wording of a fault. -/
def message : FormatFault → String
  | pageTooShort page size => s!"Page {page} is too short for a FIL header ({size} bytes)"
  | readOverrun length offset page size =>
    s!"Read of {length} bytes at offset {offset} overruns page {page} ({size} bytes)"
  | recordOutside offset page => s!"Record offset {offset} is outside page {page}"
  | nullBitmapUnderrun offset page =>
    s!"Null bitmap of record at offset {offset} on page {page} underruns the page"
  | lengthTableUnderrun offset page =>
    s!"Length table of record at offset {offset} on page {page} underruns the page"
  | fieldEndsUnderrun offset page =>
    s!"Field offsets of record at offset {offset} on page {page} underrun the page"
  | fieldMissing offset page fieldCount column position =>
    s!"Record at offset {offset} on page {page} has {fieldCount} fields, " ++
      s!"column {column} is at position {position}"
  | lengthMissing column offset page =>
    s!"No length for column {column} in record at offset {offset} on page {page}"
  | referenceTooShort column offset page =>
    s!"Extern column {column} at offset {offset} on page {page} is shorter than a field reference"
  | notAnIndexPage page kind => s!"Page {page} is not an INDEX page (type {kind.label})"
  | indexHeaderTooShort page => s!"Page {page} is too short for an index header"
  | spaceTooSmall name size => s!"{name} is too small to be a tablespace: {size} bytes"
  | catalogIntegerMissing column => s!"Catalog row has no integer {column}"
  | catalogStringMissing column => s!"Catalog row has no string {column}"
  | indexFieldUnknown field table => s!"Index field {field} is not a column of {table}"
  | jsonUnwritable reason => s!"JSON serialization error: {reason}"

end FormatFault

namespace RequestFault

/-- The wording of a fault. -/
def message : RequestFault → String
  | integerWidth width => s!"Cannot read a {width}-byte integer"
  | noFiles => "No data files given"
  | noDataFile => "At least one data file is required"
  | pageSize size => s!"Unsupported page size {size}"
  | pageOutOfRange page name count => s!"Page {page} out of range ({name} has {count} pages)"
  | notSystemSpace name space => s!"{name} is space {space}, not the system space"
  | noDictionary space =>
    s!"Space {space} is not the system space; the data dictionary lives in space 0"
  | rootOutOfRange root count =>
    s!"Root page {root} is beyond the end of the space ({count} pages)"
  | levelAboveRoot level root rootLevel =>
    s!"Level {level} is above the root of index at page {root} (level {rootLevel})"
  | noSuchIndex index table => s!"No index {index} on table {table} in the catalog"
  | otherSpace index table space =>
    s!"Index {index} of {table} lives in space {space}; open that tablespace instead"
  | notACatalogIndex table index => s!"{table}.{index} is not a data dictionary index"
  | noTarget => "Either --table or --root is required"

end RequestFault

namespace LinkFault

/-- The wording of a fault. -/
def message : LinkFault → String
  | recordLoop offset => s!"record chain loops at offset {offset}"
  | noRecords => "non-leaf page has no records"
  | notANodePointer offset kind =>
    s!"minimum record at offset {offset} is {kind}, not a node pointer"
  | childOutOfRange child count =>
    s!"child page {child} is beyond the end of the space ({count} pages)"
  | childVisited child => s!"child page {child} was already visited"
  | childLevel child level expected =>
    s!"child page {child} is at level {level}, expected {expected}"
  | nextOutOfRange next count =>
    s!"next page {next} is beyond the end of the space ({count} pages)"
  | nextVisited next => s!"sibling chain revisits page {next}"
  | siblingLevel page level => s!"sibling page {page} is at level {level}"

end LinkFault

namespace Error

/-- The wording of an error. -/
def message : Error → String
  | io fault => "I/O error: " ++ fault.message
  | format fault => "Parse error: " ++ fault.message
  | request fault => "Invalid argument: " ++ fault.message
  | unknownType name => "Unknown data type: " ++ name
  | layoutRequired page offset =>
    s!"Schema required to decode record at offset {offset} on page {page}"
  | unresolved index => s!"No known schema for index id {index}"
  | link page fault => s!"Corrupt index at page {page}: {fault.message}"

end Error

end Tablespace
