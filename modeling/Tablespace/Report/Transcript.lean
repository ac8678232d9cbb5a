import Tablespace.Error
import Tablespace.Report.Printer

/-!
# Transcripts

What a command writes is a list of lines, and the error that kept it from writing more if there was
one. Lines that were written before the error stay written. Transcripts are put one after the other,
and nothing is written after an error.
-/

namespace Tablespace

/-- Lines as one text, each with its end. -/
def unlines (lines : List String) : String := String.join (lines.map (· ++ "\n"))

/-- Lines, and the error that ended them. -/
structure Transcript where
  /-- The lines. -/
  lines : List String := []
  /-- The error. -/
  error : Option Error := none

namespace Transcript

/-- Lines without an error. -/
def ofLines (lines : List String) : Transcript := { lines }

/-- An error before the first line. -/
def ofError (e : Error) : Transcript := { error := some e }

/-- What is written about a value that may turn out to be an error. -/
def about {α : Type} (value : Except Error α) (write : α → Transcript) : Transcript :=
  match value with
  | .ok a => write a
  | .error e => ofError e

/-- The text of a JSON value, as one line that holds line ends. -/
def ofJson (printer : Printer) (value : Except Error Json) : Transcript :=
  about value fun json =>
    match printer.json json with
    | .ok text => ofLines [text]
    | .error reason => ofError (.format (.jsonUnwritable reason))

/-- One transcript after the other. -/
def append (first second : Transcript) : Transcript :=
  match first.error with
  | some _ => first
  | none => { lines := first.lines ++ second.lines, error := second.error }

instance : Append Transcript := ⟨append⟩

/-- The text that was written, an error or not. -/
def text (transcript : Transcript) : String := unlines transcript.lines

/-- The whole text, unless there was an error. -/
def result (transcript : Transcript) : Except Error String :=
  match transcript.error with
  | some e => .error e
  | none => .ok transcript.text

/-! ## Appending -/

@[simp]
theorem ofLines_append_ofLines (first second : List String) :
    ofLines first ++ ofLines second = ofLines (first ++ second) := rfl

end Transcript

end Tablespace
