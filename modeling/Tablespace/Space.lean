import Tablespace.Page.Basic

/-!
# Spaces

A space is the sequence of the bytes of its files, cut into pages of one size. Page `n` lies at byte
`n` times the page size, whatever file that byte is in, and a page may begin in one file and end in
the next.

Main statements: `fill_eq` says that reading across files is reading from the files joined,
`readAt_eq_ok` that every read inside the space succeeds, and `page_eq_ok` that every whole page can
be read.
-/

namespace Tablespace

/-- A file of a space. -/
structure DataFile where
  /-- The name of the file. -/
  name : String
  /-- The bytes of the file. -/
  bytes : ByteArray

/-- The bytes of files, one after the other. -/
def joined : List DataFile → ByteArray
  | [] => .empty
  | file :: files => file.bytes ++ joined files

/-- The number of bytes of files together. -/
def totalSize (files : List DataFile) : Nat := (files.map (·.bytes.size)).sum

/-- A read of `len` bytes at `offset` that has the bytes `filled` so far and goes on through files,
the first of which begins at byte `start` of the space. Each file gives what it has of the bytes
that are missing. -/
def fill (offset len : Nat) : List DataFile → (start : Nat) → (filled : ByteArray) → ByteArray
  | [], _, filled => filled
  | file :: files, start, filled =>
    let stop := start + file.bytes.size
    let position := offset + filled.size
    if filled.size = len then filled
    else if stop ≤ position ∨ position < start then fill offset len files stop filled
    else
      let taken := min (stop - position) (len - filled.size)
      fill offset len files stop
        (filled ++ file.bytes.extract (position - start) (position - start + taken))

/-- The sizes that pages may have. -/
def pageSizes : List Nat := [4096, 8192, 16384, 32768, 65536]

/-- A space. -/
structure Space where
  /-- The files, in order. -/
  files : List DataFile
  /-- The size of a page in bytes. -/
  pageSize : Nat := 16384
  /-- Pages may have this size. -/
  pageSizeAllowed : pageSize ∈ pageSizes := by decide
  /-- The files hold at least the header of the space. -/
  headerFits : SpaceHeader.extent ≤ totalSize files

namespace Space

/-- The names of the files, separated by commas. -/
def nameOf (files : List DataFile) : String := ",".intercalate (files.map (·.name))

/-- The space made of files. -/
def ofFiles (files : List DataFile) : Except Error Space :=
  if files.isEmpty then .error (.request .noFiles)
  else if h : SpaceHeader.extent ≤ totalSize files then .ok { files, headerFits := h }
  else .error (.format (.spaceTooSmall (nameOf files) (totalSize files)))

/-- The space made of files with the given names, which `contents` looks up: the bytes of a file or
what is wrong with it. -/
def openFiles (contents : String → Except IoFault ByteArray) (names : List String) :
    Except Error Space := do
  let files ← names.mapM fun name =>
    match contents name with
    | .ok bytes => .ok { name, bytes : DataFile }
    | .error fault => .error (.io fault)
  ofFiles files

/-- The space made of images that have no file names. -/
def ofImages (images : List ByteArray) : Except Error Space :=
  ofFiles (images.mapIdx fun i bytes => { name := s!"<memory:{i}>", bytes })

/-- The same space with pages of another size. -/
def withPageSize (space : Space) (size : Nat) : Except Error Space :=
  if h : size ∈ pageSizes then .ok { space with pageSize := size, pageSizeAllowed := h }
  else .error (.request (.pageSize size))

/-- The name of the space: the names of its files. -/
def name (space : Space) : String := nameOf space.files

/-- The number of bytes. -/
def size (space : Space) : Nat := totalSize space.files

/-- The number of whole pages. -/
def pageCount (space : Space) : Nat := space.size / space.pageSize

/-- The header of the space. -/
def header (space : Space) : SpaceHeader :=
  .ofBytes (fill 0 SpaceHeader.extent space.files 0 .empty)

/-- The number of the space. -/
def id (space : Space) : Nat := space.header.space

/-- Whether this is the system space, which holds the data dictionary. -/
def isSystem (space : Space) : Bool := space.id == 0

/-- The `len` bytes at `offset`. -/
def readAt (space : Space) (offset len : Nat) : Except Error ByteArray :=
  if space.size < offset + len then
    .error (.io (.pastEnd len offset space.name space.size))
  else
    let bytes := fill offset len space.files 0 .empty
    if bytes.size = len then .ok bytes
    else .error (.io (.shortRead offset space.name bytes.size len))

/-- The page with a number. -/
def page (space : Space) (number : Nat) : Except Error Page := do
  if space.pageCount ≤ number then
    .error (.request (.pageOutOfRange number space.name space.pageCount))
  else
    Page.ofBytes number (← space.readAt (number * space.pageSize) space.pageSize)

/-- The number of the page that holds the header of the data dictionary. -/
def dictionaryPageNumber : Nat := 7

/-- The page of the system space that holds the header of the data dictionary. -/
def dictionaryPage (space : Space) : Except Error Page :=
  if space.isSystem then space.page dictionaryPageNumber
  else .error (.request (.notSystemSpace space.name space.id))

end Space

/-! ## Reading across files -/

theorem size_joined (files : List DataFile) : (joined files).size = totalSize files := by
  induction files with
  | nil => rfl
  | cons file files ih =>
    rw [joined, ByteArray.size_append, ih, totalSize, totalSize, List.map_cons, List.sum_cons]

theorem joined_append (before after : List DataFile) :
    joined (before ++ after) = joined before ++ joined after := by
  induction before with
  | nil => simp [joined]
  | cons file before ih => rw [List.cons_append, joined, ih, joined, ByteArray.append_assoc]

theorem extract_min_size (bytes : ByteArray) (i j : Nat) :
    bytes.extract i (min j bytes.size) = bytes.extract i j := by
  rw [ByteArray.ext_iff, ByteArray.data_extract, ByteArray.data_extract,
    Array.extract_eq_extract_right, ByteArray.size_data]
  omega

/-- Files that have given what they have of a read leave to the files after them what those have of
it. -/
theorem fill_joined (offset len : Nat) (before files : List DataFile) :
    fill offset len files (totalSize before) ((joined before).extract offset (offset + len)) =
      (joined (before ++ files)).extract offset (offset + len) := by
  induction files generalizing before with
  | nil => rw [fill, List.append_nil]
  | cons file files ih =>
    have hsize : ((joined before).extract offset (offset + len)).size =
        min (offset + len) (totalSize before) - offset := by
      rw [ByteArray.size_extract, size_joined]
    have hstop : totalSize (before ++ [file]) = totalSize before + file.bytes.size := by
      simp [totalSize]
    -- what the read has once this file has given its part
    have hpart : (joined (before ++ [file])).extract offset (offset + len) =
        (joined before).extract offset (offset + len) ++
          file.bytes.extract (offset - totalSize before) (offset + len - totalSize before) := by
      rw [joined_append, ByteArray.extract_append, size_joined]
      simp [joined]
    have hrest := ih (before ++ [file])
    rw [hpart, hstop, List.append_assoc, List.singleton_append] at hrest
    simp only [fill, hsize]
    split
    · next hfull =>
      have hpast : (joined (file :: files)).extract (offset - totalSize before)
          (offset + len - totalSize before) = .empty :=
        ByteArray.extract_eq_empty_iff.2 (by omega)
      rw [joined_append, ByteArray.extract_append, size_joined, hpast, ByteArray.append_empty]
    · next hmissing =>
      split
      · next hskip =>
        have hnone : file.bytes.extract (offset - totalSize before)
            (offset + len - totalSize before) = .empty :=
          ByteArray.extract_eq_empty_iff.2 (by omega)
        rw [← hrest, hnone, ByteArray.append_empty]
      · next htake =>
        have hfrom : offset + (min (offset + len) (totalSize before) - offset) - totalSize before =
            offset - totalSize before := by omega
        have hto : offset - totalSize before +
            min (totalSize before + file.bytes.size -
                (offset + (min (offset + len) (totalSize before) - offset)))
              (len - (min (offset + len) (totalSize before) - offset)) =
            min (offset + len - totalSize before) file.bytes.size := by omega
        rw [hfrom, hto, extract_min_size, hrest]

/-- Reading across files is reading from the files joined. -/
theorem fill_eq (offset len : Nat) (files : List DataFile) :
    fill offset len files 0 .empty = (joined files).extract offset (offset + len) := by
  have hempty : ByteArray.empty.extract offset (offset + len) = .empty :=
    ByteArray.extract_eq_empty_iff.2 (by simp)
  have h := fill_joined offset len [] files
  rwa [joined, hempty] at h

namespace Space

variable {space : Space}

/-- Every read inside the space succeeds. -/
theorem readAt_eq_ok {offset len : Nat} (h : offset + len ≤ space.size) :
    space.readAt offset len = .ok ((joined space.files).extract offset (offset + len)) := by
  have hsize : ((joined space.files).extract offset (offset + len)).size = len := by
    rw [ByteArray.size_extract, size_joined]
    have : totalSize space.files = space.size := rfl
    omega
  rw [readAt, if_neg (by omega), fill_eq]
  simp [hsize]

theorem le_pageSize (space : Space) : 4096 ≤ space.pageSize := by
  have h := space.pageSizeAllowed
  simp only [pageSizes, List.mem_cons, List.not_mem_nil, or_false] at h
  omega

/-- Files with enough bytes for a header make a space. -/
theorem ofFiles_eq_ok {files : List DataFile} (h : SpaceHeader.extent ≤ totalSize files) :
    ofFiles files = .ok { files, headerFits := h } := by
  have hnonempty : files ≠ [] := by
    rintro rfl
    exact absurd h (by decide)
  rw [ofFiles, if_neg (by simpa using hnonempty), dif_pos h]

/-- Every page below the count of whole pages can be read. -/
theorem page_eq_ok {number : Nat} (h : number < space.pageCount) :
    ∃ page, space.page number = .ok page ∧ page.number = number ∧
      page.bytes = (joined space.files).extract (number * space.pageSize)
        (number * space.pageSize + space.pageSize) ∧
      page.size = space.pageSize := by
  have hlong := space.le_pageSize
  have hinside : number * space.pageSize + space.pageSize ≤ space.size := by
    rw [← Nat.succ_mul]
    exact (Nat.le_div_iff_mul_le (by omega)).1 h
  have hsize : ((joined space.files).extract (number * space.pageSize)
      (number * space.pageSize + space.pageSize)).size = space.pageSize := by
    rw [ByteArray.size_extract, size_joined]
    have : totalSize space.files = space.size := rfl
    omega
  have hfits : PageHeader.size ≤ ((joined space.files).extract (number * space.pageSize)
      (number * space.pageSize + space.pageSize)).size := by
    rw [hsize]
    exact Nat.le_trans (by decide) hlong
  refine ⟨⟨number, _, hfits⟩, ?_, rfl, rfl, hsize⟩
  rw [page, if_neg (Nat.not_le.2 h), readAt_eq_ok hinside]
  exact dif_pos hfits

end Space

end Tablespace
