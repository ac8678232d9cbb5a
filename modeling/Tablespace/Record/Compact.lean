import Tablespace.Column.Layout
import Tablespace.Page.Basic
import Tablespace.Record.Header

/-!
# Compact records

Five bytes before the origin hold info flags and owned count, heap number and kind, and the distance
to the next record. Below them lies a bitmap with one bit for each column that may be NULL, and
below that the lengths of the values of variable columns, one byte each or two where the column
allows it. The bitmap and the lengths are both read downward from the origin.
-/

namespace Tablespace.Compact

/-- The number of bytes that the bitmap takes. -/
def bitmapSize (columns : List Column) : Nat := (columns.countP (·.nullable) + 7) / 8

/-- Whether the bit of the nullable column with this index is set in the bitmap of a record. -/
def isNull (page : Page) (origin index : Nat) : Except Error Bool := do
  let bits ← page.byte (origin - 5 - 1 - index / 8)
  return bits.testBit (index % 8)

/-- The byte below `bottom` in the length table of a record, and where the table goes on. -/
def lengthByte (page : Page) (origin : Nat) : (bottom : Nat) → Except Error (Nat × Nat)
  | 0 => .error (.format (.lengthTableUnderrun origin page.number))
  | bottom + 1 => do return (← page.byte bottom, bottom)

/-- The length of a value of a variable column, and where the length table goes on. The highest bit
of the first byte says that the length takes two bytes, the next one that the value is stored
elsewhere. -/
def variableExtent (page : Page) (origin : Nat) (type : DataType) (bottom : Nat) :
    Except Error (Extent × Nat) := do
  let (first, bottom) ← lengthByte page origin bottom
  if type.allowsLongLength && first.testBit 7 then
    let (second, bottom) ← lengthByte page origin bottom
    return ({ length := 256 * (first % 64) + second, external := first.testBit 6 }, bottom)
  else
    return ({ length := first }, bottom)

/-- The extent of one column, and where the length table goes on. -/
def extent (page : Page) (origin : Nat) (column : Column) (nullIndex bottom : Nat) :
    Except Error (Extent × Nat) := do
  let null ← if column.nullable then isNull page origin nullIndex else pure false
  if null then return ({ length := 0, null := true }, bottom)
  else
    match column.type.fixedWidth with
    | some width => return ({ length := width }, bottom)
    | none => variableExtent page origin column.type bottom

/-- The extents of columns, and where the length table ends. The first of the columns that may be
NULL has the bit `nullIndex`. -/
def extents (page : Page) (origin : Nat) :
    List Column → (nullIndex bottom : Nat) → Except Error (List Extent × Nat)
  | [], _, bottom => .ok ([], bottom)
  | column :: columns, nullIndex, bottom => do
    let (first, bottom) ← extent page origin column nullIndex bottom
    let nullIndex := if column.nullable then nullIndex + 1 else nullIndex
    let (rest, bottom) ← extents page origin columns nullIndex bottom
    return (first :: rest, bottom)

/-- The length table is read downward. -/
theorem lengthByte_bottom_le {page : Page} {origin bottom first rest : Nat}
    (h : lengthByte page origin bottom = .ok (first, rest)) : rest ≤ bottom := by
  cases bottom with
  | zero => simp [lengthByte] at h
  | succ bottom =>
    cases hbyte : page.byte bottom <;>
      simp [lengthByte, hbyte, bind, Except.bind, pure, Except.pure] at h
    omega

theorem variableExtent_bottom_le {page : Page} {origin bottom rest : Nat} {type : DataType}
    {e : Extent} (h : variableExtent page origin type bottom = .ok (e, rest)) : rest ≤ bottom := by
  rcases hfirst : lengthByte page origin bottom with _ | ⟨first, middle⟩
  · simp [variableExtent, hfirst, bind, Except.bind] at h
  · have hmiddle := lengthByte_bottom_le hfirst
    rcases hsecond : lengthByte page origin middle with _ | ⟨second, last⟩
    · simp only [variableExtent, hfirst, hsecond, bind, Except.bind, pure, Except.pure] at h
      split at h
      · cases h
      · cases h
        exact hmiddle
    · have hlast := lengthByte_bottom_le hsecond
      simp only [variableExtent, hfirst, hsecond, bind, Except.bind, pure, Except.pure] at h
      split at h <;> cases h <;> omega

/-- The bytes that an extent takes of the length table lie below where it starts. -/
theorem extent_bottom_le {page : Page} {origin nullIndex bottom rest : Nat} {column : Column}
    {e : Extent} (h : extent page origin column nullIndex bottom = .ok (e, rest)) :
    rest ≤ bottom := by
  have stored (h : (match column.type.fixedWidth with
      | some width => pure ({ length := width }, bottom)
      | none => variableExtent page origin column.type bottom) = Except.ok (e, rest)) :
      rest ≤ bottom := by
    split at h
    · cases h
      exact Nat.le_refl _
    · exact variableExtent_bottom_le h
  by_cases hnullable : column.nullable = true
  · rcases hnull : isNull page origin nullIndex with _ | null
    · simp [extent, hnullable, hnull, bind, Except.bind] at h
    · cases null with
      | true =>
        simp [extent, hnullable, hnull, bind, Except.bind, pure, Except.pure] at h
        omega
      | false => exact stored (by simpa [extent, hnullable, hnull, bind, Except.bind] using h)
  · exact stored (by simpa [extent, hnullable, bind, Except.bind, pure, Except.pure] using h)

/-- There is one extent for each column, and they are read downward. -/
theorem length_extents {page : Page} {origin nullIndex bottom rest : Nat} {columns : List Column}
    {es : List Extent} (h : extents page origin columns nullIndex bottom = .ok (es, rest)) :
    es.length = columns.length ∧ rest ≤ bottom := by
  induction columns generalizing nullIndex bottom es with
  | nil =>
    cases h
    exact ⟨rfl, Nat.le_refl _⟩
  | cons column columns ih =>
    rcases hfirst : extent page origin column nullIndex bottom with _ | ⟨first, middle⟩
    · simp [extents, hfirst, bind, Except.bind] at h
    · rcases hrest : extents page origin columns
        (if column.nullable then nullIndex + 1 else nullIndex) middle with _ | ⟨tail, last⟩
      · simp [extents, hfirst, hrest, bind, Except.bind] at h
      · simp only [extents, hfirst, hrest, bind, Except.bind, pure, Except.pure, Except.ok.injEq,
          Prod.mk.injEq] at h
        obtain ⟨rfl, rfl⟩ := h
        obtain ⟨hlength, hle⟩ := ih hrest
        exact ⟨by rw [List.length_cons, List.length_cons, hlength],
          Nat.le_trans hle (extent_bottom_le hfirst)⟩

/-- What a record's bitmap and length table say of its columns, and the number of their bytes. -/
def fields (page : Page) (origin : Nat) (columns : List Column) :
    Except Error (NameTable Extent × Nat) := do
  if origin - 5 < bitmapSize columns then
    .error (.format (.nullBitmapUnderrun origin page.number))
  else
    let top := origin - 5 - bitmapSize columns
    let (extents, bottom) ← extents page origin columns 0 top
    return (.ofList ((columns.map (·.name)).zip extents), origin - 5 - bottom)

/-- The origin of the next record: a distance of sixteen bits, counted from a record's origin and
negative from `2 ^ 15` on. A distance that leads before the page leads to its first byte. -/
def target (origin distance : Nat) : Nat :=
  if distance < 2 ^ 15 then origin + distance else origin + distance - 2 ^ 16

/-- The header of the record at `origin`, with what it says of `columns` unless the record is a
sentinel. -/
def header (page : Page) (columns : Option (List Column)) (origin : Nat) :
    Except Error RecordHeader := do
  let info ← page.byte (origin - 5)
  let status ← page.uint (origin - 4) 2
  let distance ← page.uint (origin - 2) 2
  let kind := RecordKind.ofStatus status
  let (fields, length) ←
    match columns with
    | some columns => if kind.isSentinel then pure ([], 0) else fields page origin columns
    | none => pure ([], 0)
  return {
    origin
    format := .compact
    next := target origin distance
    kind
    heapNumber := status / 8
    owned := info % 16
    flags := info / 16 * 16
    ends := none
    fields
    length := 5 + length }

end Tablespace.Compact
