import Tablespace.Proofs.CatalogContents
import Tablespace.Proofs.LeafContents

/-!
# Catalogs with one page for each index

The smallest system space with a catalog has one page for each index of the data dictionary. Where
each page is a file of its own, such a space can be built from the rows on these pages, whatever
they are. Main statements: `SmallCatalog.ofSpace_space`, its catalog can be opened;
`SmallCatalog.records_eq` and `SmallCatalog.records_of_held`, the records of an index are those on
its page; `SmallCatalog.holds`, the catalog lists what the pages list.
-/

namespace Tablespace

/-! ## Pages -/

namespace SmallCatalog

def text (s : String) : List UInt8 := s.toList.map fun c => .ofNat c.toNat

/-- A row of an index with the distance to the next one. -/
def row (index : CatalogIndex) (distance : Nat) (values : List (List UInt8)) : StoredRecord where
  form := .compact
  mark := { TwoLeaves.last.mark with link := TwoLeaves.link distance }
  row := (values.take index.layout.keys.length ++ [List.replicate 6 0, List.replicate 7 0] ++
    values.drop index.layout.keys.length).map ({ bytes := · })
  child := none

/-- The rows as they lie on a page. -/
def heapBytes (index : CatalogIndex) (heap : List StoredRecord) : List UInt8 :=
  heap.flatMap fun record => record.headerBytes (index.layout.columns true) ++ record.dataBytes

/-- What every page begins with: that it belongs to an index, to that of number zero, and that it is
a leaf without neighbours. -/
def pageHead : List UInt8 :=
  List.replicate 12 0 ++ toBigEndian 4 noPage ++ List.replicate 8 0 ++ [69, 191] ++
    List.replicate 16 0 ++ [128, 2] ++ List.replicate 50 0

/-- A page: the sentinels, the first of which tells the distance to the first row, and the rows. -/
def pageImage (index : CatalogIndex) (first : Nat) (heap : List StoredRecord) : ByteArray :=
  let bytes := [0, 0, 2] ++ toBigEndian 2 first ++ List.replicate 8 0 ++ [0, 0, 11, 0, 0] ++
    List.replicate 8 0 ++ heapBytes index heap
  ⟨⟨pageHead ++ (bytes ++ List.replicate (4002 - bytes.length) 0)⟩⟩

section Page

variable {index : CatalogIndex} {first : Nat} {heap : List StoredRecord}

theorem size_pageImage (h : (heapBytes index heap).length ≤ 3976) :
    (pageImage index first heap).size = 4096 := by
  have hhead : pageHead.length = 94 := by decide
  simp only [pageImage, ByteArray.size, List.size_toArray, List.length_append, hhead,
    List.length_replicate, length_toBigEndian, List.length_cons, List.length_nil]
  omega

/-- What is read at the beginning of a page. -/
theorem fieldAt_pageImage {offset len : Nat} (h : offset + len ≤ 94) :
    fieldAt (pageImage index first heap) offset len =
      bigEndian ((pageHead.drop offset).take len) := by
  have hhead : pageHead.length = 94 := by decide
  rw [fieldAt, slice_eq, pageImage, List.drop_append_of_le_length (by omega),
    List.take_append_of_le_length]
  rw [List.length_drop]
  omega

end Page

end SmallCatalog

/-! ## The space -/

/-- The rows on the page of each index. -/
structure SmallCatalog where
  /-- The rows in the order in which they lie on the page. -/
  heap : CatalogIndex → List StoredRecord
  /-- The distance from the infimum to the first row. -/
  first : CatalogIndex → Nat
  /-- The page has room for the rows. -/
  fits : ∀ index, (SmallCatalog.heapBytes index (heap index)).length ≤ 3976

namespace SmallCatalog

/-- The header of the data dictionary. -/
def header : CatalogHeader where
  maxRow := 0
  maxTable := 7
  maxIndex := 22
  maxSpace := 0
  mixLow := 0
  roots := { tables := 1, tableIds := 5, columns := 2, indexes := 3, fields := 4 }
  unused := 0
  segment := some ⟨0, 0, 0⟩

/-- The page of the header. -/
def headerImage : ByteArray :=
  let bytes := List.replicate 38 0 ++ toBigEndian 8 header.maxRow ++
    toBigEndian 8 header.maxTable ++ toBigEndian 8 header.maxIndex ++ List.replicate 8 0 ++
    [1, 5, 2, 3, 4].flatMap (toBigEndian 4)
  ⟨⟨bytes ++ List.replicate (4096 - bytes.length) 0⟩⟩

/-- A page of zeros. -/
def emptyImage : ByteArray := ⟨Array.replicate 4096 0⟩

theorem size_emptyImage : emptyImage.size = 4096 := Array.size_replicate

theorem size_headerImage : headerImage.size = 4096 := by decide +kernel

theorem pageSize_mem : 4096 ∈ pageSizes := by decide

theorem extent_le_totalSize (name : String) (files : List DataFile) :
    SpaceHeader.extent ≤ totalSize (⟨name, emptyImage⟩ :: files) := by
  rw [totalSize, List.map_cons, List.sum_cons, size_emptyImage]
  exact Nat.le_trans (by decide) (Nat.le_add_right _ _)

variable (small : SmallCatalog)

/-- The page of an index. -/
def image (index : CatalogIndex) : ByteArray :=
  pageImage index (small.first index) (small.heap index)

theorem size_image (index : CatalogIndex) : (small.image index).size = 4096 :=
  size_pageImage (small.fits index)

theorem kind_image (index : CatalogIndex) :
    (PageHeader.ofBytes (small.image index)).kind = .index := by
  show PageKind.ofCode (fieldAt (small.image index) 24 2) = .index
  rw [image, fieldAt_pageImage (by decide)]
  decide

/-- The system space: the indexes between pages of zeros, and the header on page seven. -/
def space : Space where
  files := [⟨"0", emptyImage⟩, ⟨"1", small.image .tables⟩, ⟨"2", small.image .columns⟩,
    ⟨"3", small.image .indexes⟩, ⟨"4", small.image .fields⟩, ⟨"5", small.image .tableIds⟩,
    ⟨"6", emptyImage⟩, ⟨"7", headerImage⟩]
  pageSize := 4096
  pageSizeAllowed := pageSize_mem
  headerFits := extent_le_totalSize "0" _

/-- The catalog of the space. -/
def catalog : Catalog := ⟨small.space, header⟩

theorem sizes : ∀ file ∈ small.space.files, file.bytes.size = small.space.pageSize := by
  simp only [space, List.forall_mem_cons, size_image, size_emptyImage, size_headerImage,
    List.not_mem_nil, false_imp_iff, implies_true, and_self]

theorem isSystem_space : small.space.isSystem = true := by
  have hfirst : fill 0 SpaceHeader.extent small.space.files 0 .empty =
      emptyImage.extract 0 SpaceHeader.extent := by
    simp [space, fill, size_emptyImage, SpaceHeader.extent]
  rw [Space.isSystem, Space.id, Space.header, hfirst]
  decide +kernel

theorem read_headerImage (hfits : PageHeader.size ≤ headerImage.size) :
    CatalogHeader.read ⟨7, headerImage, hfits⟩ = .ok header := by
  revert hfits
  decide +kernel

theorem ofSpace_space : Catalog.ofSpace small.space = .ok small.catalog := by
  have hfits : PageHeader.size ≤ headerImage.size := by
    rw [size_headerImage]
    decide
  have hpage : small.space.page Space.dictionaryPageNumber = .ok ⟨7, headerImage, hfits⟩ :=
    @Space.page_of_file small.space ⟨"7", headerImage⟩ 7 rfl small.sizes hfits
  rw [Catalog.ofSpace, if_pos small.isSystem_space, hpage, ok_bind, read_headerImage]
  rfl

/-! ## The indexes -/

/-- The only page of an index. -/
def leaf (index : CatalogIndex) : Node where
  page :=
    { number := index.root header
      bytes := small.image index
      headerFits := by
        rw [small.size_image]
        decide }
  layout := some index.layout
  kindIsIndex := small.kind_image index
  headerFits := by
    rw [Page.size, small.size_image]
    decide

/-- The tree of an index. -/
def tree (index : CatalogIndex) : Tree := ⟨small.space, index.root header, some index.layout⟩

theorem rootNode_tree (index : CatalogIndex) :
    (small.tree index).rootNode = .ok (small.leaf index) := by
  cases index with
  | tables =>
    exact @Tree.node_of_file (small.tree .tables) (small.leaf .tables) "1" rfl rfl small.sizes
  | tableIds =>
    exact @Tree.node_of_file (small.tree .tableIds) (small.leaf .tableIds) "5" rfl rfl small.sizes
  | columns =>
    exact @Tree.node_of_file (small.tree .columns) (small.leaf .columns) "2" rfl rfl small.sizes
  | indexes =>
    exact @Tree.node_of_file (small.tree .indexes) (small.leaf .indexes) "3" rfl rfl small.sizes
  | fields =>
    exact @Tree.node_of_file (small.tree .fields) (small.leaf .fields) "4" rfl rfl small.sizes

theorem tree_eq (index : CatalogIndex) : small.catalog.tree index = .ok (small.tree index) :=
  Catalog.tree_of_rootNode (small.rootNode_tree index)

theorem level_leaf (index : CatalogIndex) : (small.leaf index).level = 0 := by
  show fieldAt (small.image index) 64 2 = 0
  rw [image, fieldAt_pageImage (by decide)]
  decide

theorem next?_leaf (index : CatalogIndex) : (small.leaf index).next? = none := by
  show PageHeader.link? (fieldAt (small.image index) 12 4) = none
  rw [image, fieldAt_pageImage (by decide)]
  decide

/-- Every index has the number zero. -/
theorem index_tree (index : CatalogIndex) : (small.tree index).index = .ok 0 := by
  have hindex : (small.leaf index).index = 0 := by
    show fieldAt (small.image index) 66 8 = 0
    rw [image, fieldAt_pageImage (by decide)]
    decide
  rw [Tree.index, rootNode_tree, ok_bind, hindex]
  rfl

theorem exists_tree (index : CatalogIndex) : ∃ tree, small.catalog.tree index = .ok tree :=
  ⟨_, small.tree_eq index⟩

theorem index_ne {id : Nat} (hid : id ≠ 0) (index : CatalogIndex) (tree : Tree)
    (h : small.catalog.tree index = .ok tree) : tree.index ≠ .ok id := by
  rw [tree_eq, Except.ok.injEq] at h
  rw [← h, index_tree]
  intro heq
  cases heq
  exact hid rfl

variable {small}

/-- The records of an index are the rows on its page. -/
theorem records_eq {index : CatalogIndex} {records : List Record}
    (hrecords : (small.leaf index).records = .ok records) :
    small.catalog.records index = .ok (records.filter (·.kind = .conventional)) :=
  Catalog.records_of_onlyLeaf (small.rootNode_tree index) (small.level_leaf index)
    (small.next?_leaf index) hrecords

/-- Where the page of an index holds given rows, these are its records. -/
theorem records_of_held {index : CatalogIndex} {rows : List (Nat × StoredRecord)}
    (hheld : StoredLeaf.Held ⟨small.leaf index, rows⟩ index.layout) :
    small.catalog.records index =
      .ok (rows.map fun r => r.2.decoded (index.layout.columns true) r.1) := by
  have hread : (small.leaf index).records =
      .ok (StoredLeaf.rows ⟨small.leaf index, rows⟩ index.layout) := by
    rw [Node.records, StoredLeaf.cursor_items_of_held rfl (index.nodup_names true) hheld]
    exact mapM_id_eq_ok_iff.2 rfl
  rw [records_eq hread, List.filter_eq_self.2]
  · rfl
  · intro record hrecord
    obtain ⟨r, hr, rfl⟩ := List.mem_map.1 hrecord
    have hkind : r.2.kind = .conventional := by simp [StoredRecord.kind, hheld.rows r hr]
    simp [hkind]

/-- The rows on the page of an index list the entries. -/
def Lists {α : Type} (small : SmallCatalog) (index : CatalogIndex)
    (IsEntry : CatalogRow → α → Prop) (entries : List α) : Prop :=
  ∃ records ∈ (small.leaf index).records.toOption,
    List.Forall₂ IsEntry ((records.filter (·.kind = .conventional)).map (·.values)) entries

instance {α : Type} (index : CatalogIndex) (IsEntry : CatalogRow → α → Prop)
    [∀ row, DecidablePred (IsEntry row)] (entries : List α) :
    Decidable (small.Lists index IsEntry entries) :=
  inferInstanceAs (Decidable (∃ _ ∈ _, _))

theorem Lists.exists_rows {α : Type} {index : CatalogIndex} {IsEntry : CatalogRow → α → Prop}
    {entries : List α} (h : small.Lists index IsEntry entries) :
    ∃ rows, small.catalog.rows index = .ok rows ∧ List.Forall₂ IsEntry rows entries := by
  obtain ⟨records, hrecords, hentries⟩ := h
  exact ⟨_, Catalog.rows_of_records (records_eq (mem_toOption_iff.1 hrecords)), hentries⟩

/-- The catalog lists what the pages list. -/
theorem holds {contents : CatalogContents}
    (htables : small.Lists .tables CatalogRow.IsTable contents.tables)
    (hcolumns : small.Lists .columns CatalogRow.IsColumn contents.columns)
    (hindexes : small.Lists .indexes CatalogRow.IsIndex contents.indexes)
    (hfields : small.Lists .fields CatalogRow.IsField contents.fields) :
    small.catalog.Holds contents :=
  ⟨htables.exists_rows, hcolumns.exists_rows, hindexes.exists_rows, hfields.exists_rows⟩

end SmallCatalog

end Tablespace
