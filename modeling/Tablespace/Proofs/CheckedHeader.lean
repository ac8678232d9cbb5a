import Tablespace.Proofs.Steps
import Tablespace.Record.Decode

/-!
# Headers read step by step

In natural numbers no difference is below zero, and a page answers every read. That the header of a
record is read with no difference below zero and no read that leaves the page is therefore not to be
seen from the result. `Checked.header` reads the header once more, in steps that stop where either
would happen. It comes out as `RecordHeader.read` does on every page: `Checked.header_eq`.

Two numbers are cut off at zero by what they mean, and are so here too: the length of a redundant
field that ends before the field before it, and the target of a compact record that leads before the
page. The level of a page is read through the check of `Page.uint`, since a page can end before it.
-/

namespace Tablespace

/-- The bits of the columns that may be NULL stay in the bitmap from one column to the next. -/
theorem Compact.nullIndex_step {column : Column} {columns : List Column} {bitmap nullIndex : Nat}
    (hbits : nullIndex + (column :: columns).countP (·.nullable) ≤ 8 * bitmap) :
    (column.nullable = true → nullIndex / 8 < bitmap) ∧
      (if column.nullable then nullIndex + 1 else nullIndex) + columns.countP (·.nullable) ≤
        8 * bitmap := by
  rw [List.countP_cons] at hbits
  by_cases hnullable : column.nullable = true
  · rw [if_pos hnullable] at hbits ⊢
    exact ⟨fun _ => by omega, by omega⟩
  · rw [if_neg hnullable] at hbits ⊢
    exact ⟨fun h => absurd h hnullable, by omega⟩

/-- The bitmap has a bit for every column that may be NULL. -/
theorem Compact.countP_le_bitmapSize (columns : List Column) :
    0 + columns.countP (·.nullable) ≤ 8 * bitmapSize columns := by
  unfold bitmapSize
  omega

/-- The entry after the first `index` ones is inside a table with at least one entry more. -/
theorem Redundant.entry_bounds (index count width : Nat) :
    (index + 1) * width ≤ (index + (count + 1)) * width ∧ width ≤ (index + 1) * width :=
  ⟨Nat.mul_le_mul_right width (by omega), Nat.le_mul_of_pos_left width (by omega)⟩

namespace Checked

/-- Why a step does not give a result. -/
inductive Stop where
  /-- The step reports an error. -/
  | cause (error : Error)
  /-- A difference would be below zero. -/
  | belowZero
  /-- A read would leave the page. -/
  | offPage

/-- A step that stops only to report an error. -/
def lift {α : Type} (x : Except Error α) : Except Stop α := x.mapError .cause

/-- The difference of two numbers. -/
def minus (a b : Nat) : Except Stop Nat := if b ≤ a then .ok (a - b) else .error .belowZero

/-- The number of `width` bytes at `offset`. -/
def uint (page : Page) (offset width : Nat) : Except Stop Nat :=
  if offset + width ≤ page.size then .ok (fieldAt page.bytes offset width) else .error .offPage

section Lift

variable {α β : Type} {page : Page} {a b offset width : Nat}

@[simp]
theorem lift_ok (a : α) : lift (.ok a) = .ok a := rfl

theorem lift_bind (x : Except Error α) (f : α → Except Error β) :
    lift (x >>= f) = lift x >>= fun a => lift (f a) := by
  cases x <;> rfl

theorem minus_eq (h : b ≤ a) : minus a b = .ok (a - b) := if_pos h

theorem uint_eq (h : offset + width ≤ page.size) :
    uint page offset width = lift (page.uint offset width) := by
  rw [uint, if_pos h, Page.uint_eq_ok h, lift_ok]

end Lift

/-! ## Compact headers

Each definition follows one for compact records, with its differences and reads made in steps. -/

def isNull (page : Page) (origin index : Nat) : Except Stop Bool := do
  let bitmapEnd ← minus origin 5
  let first ← minus bitmapEnd 1
  let offset ← minus first (index / 8)
  let bits ← uint page offset 1
  return bits.testBit (index % 8)

def lengthByte (page : Page) (origin bottom : Nat) : Except Stop (Nat × Nat) := do
  if bottom = 0 then .error (.cause (.format (.lengthTableUnderrun origin page.number)))
  else
    let below ← minus bottom 1
    let byte ← uint page below 1
    return (byte, below)

def variableExtent (page : Page) (origin : Nat) (type : DataType) (bottom : Nat) :
    Except Stop (Extent × Nat) := do
  let (first, bottom) ← lengthByte page origin bottom
  if type.allowsLongLength && first.testBit 7 then
    let (second, bottom) ← lengthByte page origin bottom
    return ({ length := 256 * (first % 64) + second, external := first.testBit 6 }, bottom)
  else
    return ({ length := first }, bottom)

def extent (page : Page) (origin : Nat) (column : Column) (nullIndex bottom : Nat) :
    Except Stop (Extent × Nat) := do
  let null ← if column.nullable then isNull page origin nullIndex else pure false
  if null then return ({ length := 0, null := true }, bottom)
  else
    match column.type.fixedWidth with
    | some width => return ({ length := width }, bottom)
    | none => variableExtent page origin column.type bottom

def extents (page : Page) (origin : Nat) :
    List Column → (nullIndex bottom : Nat) → Except Stop (List Extent × Nat)
  | [], _, bottom => .ok ([], bottom)
  | column :: columns, nullIndex, bottom => do
    let (first, bottom) ← extent page origin column nullIndex bottom
    let nullIndex := if column.nullable then nullIndex + 1 else nullIndex
    let (rest, bottom) ← extents page origin columns nullIndex bottom
    return (first :: rest, bottom)

def compactFields (page : Page) (origin : Nat) (columns : List Column) :
    Except Stop (NameTable Extent × Nat) := do
  let bitmapEnd ← minus origin 5
  if bitmapEnd < Compact.bitmapSize columns then
    .error (.cause (.format (.nullBitmapUnderrun origin page.number)))
  else
    let top ← minus bitmapEnd (Compact.bitmapSize columns)
    let (extents, bottom) ← extents page origin columns 0 top
    let length ← minus bitmapEnd bottom
    return (.ofList ((columns.map (·.name)).zip extents), length)

def compactHeader (page : Page) (columns : Option (List Column)) (origin : Nat) :
    Except Stop RecordHeader := do
  let info ← uint page (← minus origin 5) 1
  let status ← uint page (← minus origin 4) 2
  let distance ← uint page (← minus origin 2) 2
  let kind := RecordKind.ofStatus status
  let (fields, length) ←
    match columns with
    | some columns => if kind.isSentinel then pure ([], 0) else compactFields page origin columns
    | none => pure ([], 0)
  return {
    origin
    format := .compact
    next := Compact.target origin distance
    kind
    heapNumber := status / 8
    owned := info % 16
    flags := info / 16 * 16
    ends := none
    fields
    length := 5 + length }

section Compact

variable {page : Page} {origin : Nat}

theorem isNull_eq {index : Nat} (hroom : 5 + (index / 8 + 1) ≤ origin)
    (hinside : origin < page.size) :
    isNull page origin index = lift (Compact.isNull page origin index) := by
  unfold isNull Compact.isNull
  rw [minus_eq (by omega), ok_bind, minus_eq (by omega), ok_bind, minus_eq (by omega), ok_bind,
    uint_eq (by omega), lift_bind]
  rfl

theorem lengthByte_eq {bottom : Nat} (hbottom : bottom ≤ origin) (hinside : origin < page.size) :
    lengthByte page origin bottom = lift (Compact.lengthByte page origin bottom) := by
  cases bottom with
  | zero => rfl
  | succ below =>
    unfold lengthByte Compact.lengthByte
    rw [if_neg (by omega), minus_eq (by omega), ok_bind, Nat.add_sub_cancel,
      uint_eq (by omega), lift_bind]
    rfl

theorem variableExtent_eq {type : DataType} {bottom : Nat} (hbottom : bottom ≤ origin)
    (hinside : origin < page.size) :
    variableExtent page origin type bottom =
      lift (Compact.variableExtent page origin type bottom) := by
  unfold variableExtent Compact.variableExtent
  rw [lengthByte_eq hbottom hinside]
  rcases hfirst : Compact.lengthByte page origin bottom with e | ⟨first, middle⟩
  · rfl
  · have hmiddle := Compact.lengthByte_bottom_le hfirst
    simp only [lift_ok, ok_bind]
    split
    · rw [lengthByte_eq (by omega) hinside, lift_bind]
      rfl
    · rfl

theorem extent_eq {column : Column} {nullIndex bottom : Nat}
    (hnull : column.nullable = true → 5 + (nullIndex / 8 + 1) ≤ origin) (hbottom : bottom ≤ origin)
    (hinside : origin < page.size) :
    extent page origin column nullIndex bottom =
      lift (Compact.extent page origin column nullIndex bottom) := by
  have hvariable : variableExtent page origin column.type bottom =
      lift (Compact.variableExtent page origin column.type bottom) :=
    variableExtent_eq hbottom hinside
  unfold extent Compact.extent
  by_cases hnullable : column.nullable = true
  · simp only [hnullable, if_true]
    rw [isNull_eq (hnull hnullable) hinside]
    rcases Compact.isNull page origin nullIndex with e | null
    · rfl
    · cases null with
      | true => rfl
      | false =>
        cases column.type.fixedWidth with
        | some width => rfl
        | none => exact hvariable
  · simp only [hnullable]
    cases column.type.fixedWidth with
    | some width => rfl
    | none => exact hvariable

theorem extents_eq {columns : List Column} {bitmap nullIndex bottom : Nat}
    (hroom : 5 + bitmap ≤ origin)
    (hbits : nullIndex + columns.countP (·.nullable) ≤ 8 * bitmap) (hbottom : bottom ≤ origin)
    (hinside : origin < page.size) :
    extents page origin columns nullIndex bottom =
      lift (Compact.extents page origin columns nullIndex bottom) := by
  induction columns generalizing nullIndex bottom with
  | nil => rfl
  | cons column columns ih =>
    obtain ⟨hbit, hrest⟩ := Compact.nullIndex_step hbits
    unfold extents Compact.extents
    rw [extent_eq (fun hnullable => by have := hbit hnullable; omega) hbottom hinside]
    rcases hread : Compact.extent page origin column nullIndex bottom with e | ⟨first, middle⟩
    · rfl
    · have hmiddle := Compact.extent_bottom_le hread
      simp only [lift_ok, ok_bind]
      rw [ih hrest (by omega), lift_bind]
      rfl

theorem compactFields_eq {columns : List Column} (hroom : 5 ≤ origin)
    (hinside : origin < page.size) :
    compactFields page origin columns = lift (Compact.fields page origin columns) := by
  unfold compactFields Compact.fields
  rw [minus_eq hroom, ok_bind]
  split
  · rfl
  · rename_i hfits
    simp only
    rw [minus_eq (by omega), ok_bind,
      extents_eq (by omega) (Compact.countP_le_bitmapSize columns) (by omega) hinside]
    rcases hread : Compact.extents page origin columns 0
      (origin - 5 - Compact.bitmapSize columns) with e | ⟨es, bottom⟩
    · rfl
    · have hbottom := (Compact.length_extents hread).2
      simp only [lift_ok, ok_bind]
      rw [minus_eq (by omega)]
      rfl

theorem compactHeader_eq {columns : Option (List Column)} (hroom : 5 ≤ origin)
    (hinside : origin < page.size) :
    compactHeader page columns origin = lift (Compact.header page columns origin) := by
  unfold compactHeader Compact.header
  rw [minus_eq hroom, ok_bind, uint_eq (by omega), lift_bind]
  congr 1
  funext info
  rw [minus_eq (by omega), ok_bind, uint_eq (by omega), lift_bind]
  congr 1
  funext status
  rw [minus_eq (by omega), ok_bind, uint_eq (by omega), lift_bind]
  congr 1
  funext distance
  cases columns with
  | none => rfl
  | some columns =>
    simp only
    split
    · rfl
    · rw [compactFields_eq hroom hinside, lift_bind]
      rfl

end Compact

/-! ## Redundant headers

The same for redundant records. -/

def tableExtents (page : Page) (origin width : Nat) :
    (count index previous : Nat) → Except Stop (List Extent)
  | 0, _, _ => .ok []
  | count + 1, index, previous => do
    let base ← minus origin 6
    let offset ← minus base ((index + 1) * width)
    let raw ← uint page offset width
    let (fieldEnd, null, external) := Redundant.entry width raw
    let rest ← tableExtents page origin width count (index + 1) fieldEnd
    return { length := fieldEnd - previous, null, external } :: rest

def table (page : Page) (origin : Nat) (ends : EndTable) : Except Stop (List Extent) := do
  let base ← minus origin 6
  if base < ends.count * ends.width then
    .error (.cause (.format (.fieldEndsUnderrun origin page.number)))
  else tableExtents page origin ends.width ends.count 0 0

def redundantFields (page : Page) (origin : Nat) (ends : EndTable) (columns : List Column) :
    Except Stop (NameTable Extent) := do
  let extents ← table page origin ends
  let entries ← lift (columns.mapM (Redundant.extentOf page origin ends extents))
  return .ofList entries

def redundantHeader (page : Page) (columns : Option (List Column)) (origin : Nat) :
    Except Stop RecordHeader := do
  let info ← uint page (← minus origin 6) 1
  let bits ← uint page (← minus origin 5) 3
  let next ← uint page (← minus origin 2) 2
  let ends : EndTable := { count := bits / 2 % 2 ^ 10, width := if bits % 2 = 1 then 1 else 2 }
  let kind ← lift (Redundant.kind page origin)
  let fields ←
    match columns with
    | some columns => if kind.isSentinel then pure [] else redundantFields page origin ends columns
    | none => pure []
  return {
    origin
    format := .redundant
    next
    kind
    heapNumber := bits / 2 ^ 11
    owned := info % 16
    flags := info / 16 * 16
    ends := some ends
    fields
    length := 6 + ends.count * ends.width }

section Redundant

variable {page : Page} {origin : Nat}

theorem tableExtents_eq {width count index previous : Nat}
    (hroom : 6 + (index + count) * width ≤ origin) (hinside : origin < page.size) :
    tableExtents page origin width count index previous =
      lift (Redundant.extents page origin width count index previous) := by
  induction count generalizing index previous with
  | zero => rfl
  | succ count ih =>
    obtain ⟨hentry, hwidth⟩ := Redundant.entry_bounds index count width
    unfold tableExtents Redundant.extents
    rw [minus_eq (by omega), ok_bind, minus_eq (by omega), ok_bind, uint_eq (by omega), lift_bind]
    congr 1
    funext raw
    simp only
    rw [ih (by rw [show index + 1 + count = index + (count + 1) by omega]; exact hroom), lift_bind]
    rfl

theorem redundantFields_eq {ends : EndTable} {columns : List Column} (hroom : 6 ≤ origin)
    (hinside : origin < page.size) :
    redundantFields page origin ends columns =
      lift (Redundant.fields page origin ends columns) := by
  have htable : table page origin ends = lift (Redundant.table page origin ends) := by
    unfold table Redundant.table
    rw [minus_eq hroom, ok_bind]
    split
    · rfl
    · exact tableExtents_eq (by rw [Nat.zero_add]; omega) hinside
  unfold redundantFields Redundant.fields
  rw [htable, lift_bind]
  congr 1
  funext extents
  rw [lift_bind]
  rfl

theorem redundantHeader_eq {columns : Option (List Column)} (hroom : 6 ≤ origin)
    (hinside : origin < page.size) :
    redundantHeader page columns origin = lift (Redundant.header page columns origin) := by
  unfold redundantHeader Redundant.header
  rw [minus_eq hroom, ok_bind, uint_eq (by omega), lift_bind]
  congr 1
  funext info
  rw [minus_eq (by omega), ok_bind, uint_eq (by omega), lift_bind]
  congr 1
  funext bits
  rw [minus_eq (by omega), ok_bind, uint_eq (by omega), lift_bind]
  congr 1
  funext next
  simp only
  rw [lift_bind]
  congr 1
  funext kind
  cases columns with
  | none => rfl
  | some columns =>
    simp only
    split
    · rfl
    · rw [redundantFields_eq hroom hinside, lift_bind]
      rfl

end Redundant

/-! ## Headers -/

/-- The header of the record at `origin`. -/
def header (page : Page) (format : RowFormat) (columns : Option (List Column)) (origin : Nat) :
    Except Stop RecordHeader :=
  if origin < format.fixedSize ∨ page.size ≤ origin then
    .error (.cause (.format (.recordOutside origin page.number)))
  else
    match format with
    | .compact => compactHeader page columns origin
    | .redundant => redundantHeader page columns origin

/-- No step of reading a header stops at a difference below zero or at the end of the page. -/
theorem header_eq (page : Page) (format : RowFormat) (columns : Option (List Column))
    (origin : Nat) :
    header page format columns origin = lift (RecordHeader.read page format columns origin) := by
  unfold header RecordHeader.read
  split
  · rfl
  · rename_i hinside
    cases format with
    | compact =>
      exact compactHeader_eq (by simp only [RowFormat.fixedSize] at hinside; omega) (by omega)
    | redundant =>
      exact redundantHeader_eq (by simp only [RowFormat.fixedSize] at hinside; omega) (by omega)

end Checked

end Tablespace
