import Tablespace.Index.Node
import Tablespace.Proofs.Steps

/-!
# What can be wrong with a record

However the bytes of a page lie, a record that cannot be read is reported as a fault of its form.
Links of an index are not looked at where a record is read, so no reading of a record says that one
leads astray: `Node.recordAt_formal`.
-/

namespace Tablespace

/-- If this fails, then over bytes that do not have the form they should have. -/
def Formal {α : Type} (x : Except Error α) : Prop :=
  ∀ e, x = .error e → ∃ fault, e = .format fault

namespace Formal

variable {α β : Type}

theorem ok (a : α) : Formal (.ok a) := by
  intro e h
  cases h

theorem error (fault : FormatFault) : Formal (.error (.format fault) : Except Error α) := by
  intro e h
  cases h
  exact ⟨fault, rfl⟩

theorem bind {x : Except Error α} {f : α → Except Error β} (hx : Formal x)
    (hf : ∀ a, Formal (f a)) : Formal (x >>= f) := by
  intro e h
  rcases bind_eq_error_iff.1 h with hfirst | ⟨a, -, hrest⟩
  · exact hx e hfirst
  · exact hf a e hrest

theorem map {x : Except Error α} (hx : Formal x) (f : α → β) : Formal (f <$> x) := by
  cases x with
  | error cause =>
    intro e h
    cases h
    exact hx cause rfl
  | ok a => exact ok (f a)

theorem mapM {f : α → Except Error β} (hf : ∀ a, Formal (f a)) (as : List α) :
    Formal (as.mapM f) := by
  intro e h
  obtain ⟨a, -, ha⟩ := exists_of_mapM_eq_error h
  exact hf a e ha

end Formal

/-! ## Bytes -/

section Bytes

variable (page : Page) (offset width : Nat)

theorem Page.read_formal : Formal (page.read offset width) := by
  unfold Page.read
  split
  · exact .ok _
  · exact .error _

theorem Page.uint_formal : Formal (page.uint offset width) :=
  (page.read_formal offset width).map bigEndian

theorem Page.byte_formal : Formal (page.byte offset) := page.uint_formal offset 1

theorem ExternalReference.read_formal : Formal (ExternalReference.read page offset) :=
  (page.read_formal offset size).map ofBytes

end Bytes

/-! ## Headers -/

section Headers

variable (page : Page) (origin : Nat)

theorem Compact.isNull_formal (index : Nat) : Formal (isNull page origin index) :=
  (page.byte_formal _).bind fun _ => .ok _

theorem Compact.lengthByte_formal (bottom : Nat) : Formal (lengthByte page origin bottom) := by
  cases bottom with
  | zero => exact .error _
  | succ bottom => exact (page.byte_formal bottom).bind fun _ => .ok _

theorem Compact.variableExtent_formal (type : DataType) (bottom : Nat) :
    Formal (variableExtent page origin type bottom) := by
  refine (lengthByte_formal page origin bottom).bind fun first => ?_
  simp only
  split
  · exact (lengthByte_formal page origin first.2).bind fun _ => .ok _
  · exact .ok _

theorem Compact.extent_formal (column : Column) (nullIndex bottom : Nat) :
    Formal (extent page origin column nullIndex bottom) := by
  unfold extent
  extract_lets stored
  have hstored (null : Bool) : Formal (stored null) := by
    simp only [stored]
    split
    · exact .ok _
    · split
      · exact .ok _
      · exact variableExtent_formal page origin column.type bottom
  split
  · exact (isNull_formal page origin nullIndex).bind hstored
  · exact (Formal.ok false).bind hstored

theorem Compact.extents_formal (columns : List Column) (nullIndex bottom : Nat) :
    Formal (extents page origin columns nullIndex bottom) := by
  induction columns generalizing nullIndex bottom with
  | nil => exact .ok _
  | cons column columns ih =>
    refine (extent_formal page origin column nullIndex bottom).bind fun first => ?_
    exact (ih _ first.2).bind fun _ => .ok _

theorem Compact.fields_formal (columns : List Column) : Formal (fields page origin columns) := by
  unfold fields
  split
  · exact .error _
  · exact (extents_formal page origin columns 0 _).bind fun _ => .ok _

theorem Compact.header_formal (columns : Option (List Column)) :
    Formal (header page columns origin) := by
  refine (page.byte_formal _).bind fun _ => (page.uint_formal _ _).bind fun status =>
    (page.uint_formal _ _).bind fun _ => ?_
  cases columns with
  | none => exact .ok _
  | some columns =>
    simp only
    split
    · exact .ok _
    · exact (fields_formal page origin columns).bind fun _ => .ok _

theorem Redundant.extents_formal (width count index previous : Nat) :
    Formal (extents page origin width count index previous) := by
  induction count generalizing index previous with
  | zero => exact .ok _
  | succ count ih =>
    exact (page.uint_formal _ width).bind fun _ => (ih _ _).bind fun _ => .ok _

theorem Redundant.fields_formal (ends : EndTable) (columns : List Column) :
    Formal (fields page origin ends columns) := by
  refine Formal.bind ?_ fun extents => Formal.bind (.mapM (fun column => ?_) columns) fun _ => .ok _
  · unfold table
    split
    · exact .error _
    · exact extents_formal page origin ends.width ends.count 0 0
  · unfold extentOf
    split
    · exact .ok _
    · exact .error _

theorem Redundant.kind_formal : Formal (kind page origin) := by
  unfold kind
  split
  · exact .ok _
  · split
    · exact .ok _
    · exact (page.uint_formal levelOffset 2).map _

theorem Redundant.header_formal (columns : Option (List Column)) :
    Formal (header page columns origin) := by
  refine (page.byte_formal _).bind fun _ => (page.uint_formal _ _).bind fun bits =>
    (page.uint_formal _ _).bind fun _ => (kind_formal page origin).bind fun kind => ?_
  cases columns with
  | none => exact .ok _
  | some columns =>
    simp only
    split
    · exact .ok _
    · exact (fields_formal page origin _ columns).bind fun _ => .ok _

theorem RecordHeader.read_formal (format : RowFormat) (columns : Option (List Column)) :
    Formal (RecordHeader.read page format columns origin) := by
  unfold RecordHeader.read
  split
  · exact .error _
  · cases format with
    | compact => exact Compact.header_formal page origin columns
    | redundant => exact Redundant.header_formal page origin columns

end Headers

/-! ## Records -/

section Records

variable (page : Page) (header : RecordHeader)

theorem Column.value_formal (column : Column) (offset : Nat) :
    Formal (column.value page header offset) := by
  unfold Column.value
  split
  · exact .error _
  · split
    · exact .ok _
    · split
      · exact .error _
      · exact (page.read_formal offset _).bind fun _ => .ok _

theorem Column.external_formal (column : Column) (offset : Nat) :
    Formal (column.external page header offset) := by
  unfold Column.external
  split
  · exact .ok _
  · split
    · exact (ExternalReference.read_formal page _).map some
    · exact .ok _

theorem readFields_formal (columns : List Column) (offset : Nat) :
    Formal (readFields page header columns offset) := by
  induction columns generalizing offset with
  | nil => exact .ok _
  | cons column columns ih =>
    refine (column.value_formal page header offset).bind fun value => ?_
    exact (column.external_formal page header offset).bind fun _ =>
      (ih (offset + value.2)).bind fun _ => .ok _

theorem Record.read_formal (format : RowFormat) (columns : Option (List Column)) (origin : Nat) :
    Formal (Record.read page format columns origin) := by
  refine (RecordHeader.read_formal page origin format columns).bind fun header => ?_
  cases columns with
  | none => exact .ok _
  | some columns =>
    simp only
    split
    · exact .ok _
    · refine (readFields_formal page header columns origin).bind fun fields => ?_
      split
      · exact ((page.uint_formal fields.2 4).map some).bind fun _ => .ok _
      · exact .ok _

end Records

/-- A record that cannot be read is no link that leads astray. -/
theorem Node.recordAt_formal (node : Node) (origin : Nat) : Formal (node.recordAt origin) :=
  Record.read_formal node.page node.format node.columns origin

theorem Node.recordAt_ne_link (node : Node) (origin page : Nat) (fault : LinkFault) :
    node.recordAt origin ≠ .error (.link page fault) := by
  intro h
  obtain ⟨form, hform⟩ := node.recordAt_formal origin _ h
  cases hform

end Tablespace
