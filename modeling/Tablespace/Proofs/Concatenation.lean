import Mathlib.Data.List.Basic
import Tablespace.Space

/-!
# A space is the concatenation of its files

However the bytes of a space are divided among its files, they are read as one string: files may be
empty, may end inside a page, and a page may go through any number of them. `Space.ReadsAs` says
what every reading operation answers in terms of that string.

Main statements: `Space.readsAs_joined`, for any space, and `Space.ofImages_readsAs`, that images
with enough bytes for a header always make such a space, for every page size, and that any other
division of the same bytes makes one with the same contents.
-/

namespace Tablespace

/-- The bytes of images, one after the other. -/
def concatenated (images : List ByteArray) : List UInt8 := images.flatMap (·.data.toList)

theorem toList_joined (files : List DataFile) :
    (joined files).data.toList = concatenated (files.map DataFile.bytes) := by
  induction files with
  | nil => rfl
  | cons file files ih =>
    rw [joined, ByteArray.data_append, Array.toList_append, ih]
    rfl

theorem toList_extract (bytes : ByteArray) (offset len : Nat) :
    (bytes.extract offset (offset + len)).data.toList =
      (bytes.data.toList.drop offset).take len := by
  rw [ByteArray.data_extract, Array.toList_extract, List.extract_eq_take_drop,
    Nat.add_sub_cancel_left]

namespace Space

/-- The space reads as the string `whole` of bytes: in it, with an error of its own past it. -/
structure ReadsAs (space : Space) (whole : List UInt8) : Prop where
  size : space.size = whole.length
  pageCount : space.pageCount = whole.length / space.pageSize
  header : space.header = .ofBytes (whole.take SpaceHeader.extent).toByteArray
  id : space.id = (SpaceHeader.ofBytes (whole.take SpaceHeader.extent).toByteArray).space
  read : ∀ offset len, offset + len ≤ whole.length →
    ∃ bytes, space.readAt offset len = .ok bytes ∧
      bytes.data.toList = (whole.drop offset).take len
  readPast : ∀ offset len, whole.length < offset + len →
    space.readAt offset len = .error (.io (.pastEnd len offset space.name whole.length))
  page : ∀ number < whole.length / space.pageSize,
    ∃ page, space.page number = .ok page ∧ page.number = number ∧
      page.bytes.data.toList = (whole.drop (number * space.pageSize)).take space.pageSize
  pagePast : ∀ number, whole.length / space.pageSize ≤ number →
    space.page number =
      .error (.request (.pageOutOfRange number space.name (whole.length / space.pageSize)))

/-- No read of the space, of a page or of any other bytes, gives fewer bytes than asked for. -/
def NeverShort (space : Space) : Prop :=
  ∀ start name filled wanted,
    (∀ offset len, space.readAt offset len ≠ .error (.io (.shortRead start name filled wanted))) ∧
    ∀ number, space.page number ≠ .error (.io (.shortRead start name filled wanted))

/-- The spaces have the same contents, whatever their files are called. -/
structure SameContents (a b : Space) : Prop where
  size : a.size = b.size
  pageCount : a.pageCount = b.pageCount
  header : a.header = b.header
  id : a.id = b.id
  page : ∀ number page, a.page number = .ok page ↔ b.page number = .ok page

section Whole

variable {space a b : Space} {whole : List UInt8}

/-- A space reads as its files joined. -/
theorem readsAs_joined (space : Space) : space.ReadsAs (joined space.files).data.toList := by
  have hlength : (joined space.files).data.toList.length = space.size := by
    rw [Array.length_toList, ByteArray.size_data, size_joined]
    rfl
  have hheader : space.header =
      .ofBytes ((joined space.files).data.toList.take SpaceHeader.extent).toByteArray := by
    have hbytes : (joined space.files).extract 0 (0 + SpaceHeader.extent) =
        ((joined space.files).data.toList.take SpaceHeader.extent).toByteArray := by
      apply ByteArray.ext
      apply Array.toList_inj.1
      rw [toList_extract, List.toList_data_toByteArray, List.drop_zero]
    rw [Space.header, fill_eq, hbytes]
  have hcount : space.pageCount = (joined space.files).data.toList.length / space.pageSize := by
    rw [hlength]
    rfl
  refine ⟨hlength.symm, hcount, hheader, by rw [Space.id, hheader], ?_, ?_, ?_, ?_⟩
  · intro offset len hinside
    rw [hlength] at hinside
    exact ⟨_, readAt_eq_ok hinside, toList_extract _ _ _⟩
  · intro offset len hpast
    rw [hlength] at hpast ⊢
    exact if_pos hpast
  · intro number hnumber
    rw [← hcount] at hnumber
    obtain ⟨page, hpage, hplace, hbytes, -⟩ := page_eq_ok hnumber
    exact ⟨page, hpage, hplace, by rw [hbytes, toList_extract]⟩
  · intro number hnumber
    rw [← hcount] at hnumber ⊢
    rw [Space.page, if_pos hnumber]

theorem ReadsAs.neverShort (h : space.ReadsAs whole) : space.NeverShort := by
  intro start name filled wanted
  constructor
  · intro offset len hshort
    rcases Nat.lt_or_ge whole.length (offset + len) with hpast | hinside
    · rw [h.readPast offset len hpast] at hshort
      cases hshort
    · obtain ⟨bytes, hread, -⟩ := h.read offset len hinside
      rw [hread] at hshort
      cases hshort
  · intro number hshort
    rcases Nat.lt_or_ge number (whole.length / space.pageSize) with hinside | hpast
    · obtain ⟨page, hpage, -⟩ := h.page number hinside
      rw [hpage] at hshort
      cases hshort
    · rw [h.pagePast number hpast] at hshort
      cases hshort

/-- A page of one space is a page of any other that reads as the same bytes. -/
theorem ReadsAs.page_of_page (ha : a.ReadsAs whole) (hb : b.ReadsAs whole)
    (hsize : a.pageSize = b.pageSize) {number : Nat} {page : Page}
    (hpage : a.page number = .ok page) : b.page number = .ok page := by
  rcases Nat.lt_or_ge number (whole.length / a.pageSize) with hinside | hpast
  · obtain ⟨pageA, hpageA, hplaceA, hbytesA⟩ := ha.page number hinside
    obtain ⟨pageB, hpageB, hplaceB, hbytesB⟩ := hb.page number (hsize ▸ hinside)
    rw [hpage] at hpageA
    cases hpageA
    have hbytes : pageB.bytes = page.bytes := by
      apply ByteArray.ext
      apply Array.toList_inj.1
      rw [hbytesA, hbytesB, hsize]
    rw [hpageB, Page.ext (hplaceB.trans hplaceA.symm) hbytes]
  · rw [ha.pagePast number hpast] at hpage
    cases hpage

theorem ReadsAs.sameContents (ha : a.ReadsAs whole) (hb : b.ReadsAs whole)
    (hsize : a.pageSize = b.pageSize) : a.SameContents b where
  size := by rw [ha.size, hb.size]
  pageCount := by rw [ha.pageCount, hb.pageCount, hsize]
  header := by rw [ha.header, hb.header]
  id := by rw [ha.id, hb.id]
  page _ _ := ⟨ha.page_of_page hb hsize, hb.page_of_page ha hsize.symm⟩

end Whole

/-! ## Spaces made of images -/

section Images

variable {images : List ByteArray}

/-- Images with enough bytes for a header make a space, which reads as the images joined under every
page size. -/
theorem exists_ofImages (hextent : 150 ≤ (concatenated images).length) :
    ∃ space, ofImages images = .ok space ∧ ∀ size ∈ pageSizes,
      ∃ sized, space.withPageSize size = .ok sized ∧ sized.pageSize = size ∧
        sized.ReadsAs (concatenated images) := by
  have hbytes : (images.mapIdx fun i bytes => (⟨s!"<memory:{i}>", bytes⟩ : DataFile)).map
      DataFile.bytes = images := by
    apply List.ext_getElem
    · rw [List.length_map, List.length_mapIdx]
    · intro i _ _
      rw [List.getElem_map, List.getElem_mapIdx]
  have htotal : SpaceHeader.extent ≤
      totalSize (images.mapIdx fun i bytes => (⟨s!"<memory:{i}>", bytes⟩ : DataFile)) := by
    rw [← size_joined, ← ByteArray.size_data, ← Array.length_toList, toList_joined, hbytes]
    exact hextent
  refine ⟨⟨_, 16384, by decide, htotal⟩, ofFiles_eq_ok htotal, ?_⟩
  intro size hsize
  refine ⟨_, dif_pos hsize, rfl, ?_⟩
  have hreads := readsAs_joined ⟨_, size, hsize, htotal⟩
  rwa [toList_joined, hbytes] at hreads

/-- Images with enough bytes for a header make a space, which reads as the images joined under every
page size, and has the contents of any other space that the same bytes make. -/
theorem ofImages_readsAs (hextent : 150 ≤ (concatenated images).length) :
    ∃ space, ofImages images = .ok space ∧ ∀ size ∈ pageSizes,
      ∃ sized, space.withPageSize size = .ok sized ∧ sized.pageSize = size ∧
        sized.ReadsAs (concatenated images) ∧ sized.NeverShort ∧
        ∀ others, concatenated others = concatenated images →
          ∃ other sizedOther, ofImages others = .ok other ∧
            other.withPageSize size = .ok sizedOther ∧ sizedOther.SameContents sized := by
  obtain ⟨space, hspace, hsizes⟩ := exists_ofImages hextent
  refine ⟨space, hspace, fun size hsize => ?_⟩
  obtain ⟨sized, hsized, hpageSize, hreads⟩ := hsizes size hsize
  refine ⟨sized, hsized, hpageSize, hreads, hreads.neverShort, ?_⟩
  intro others hsame
  obtain ⟨other, hother, hsizesOther⟩ := @exists_ofImages others (hsame ▸ hextent)
  obtain ⟨sizedOther, hsizedOther, hpageSizeOther, hreadsOther⟩ := hsizesOther size hsize
  refine ⟨other, sizedOther, hother, hsizedOther, ?_⟩
  exact (hsame ▸ hreadsOther).sameContents hreads (hpageSizeOther.trans hpageSize.symm)

/-- Three images, one of them empty, that part the second page of 4096 bytes. -/
def partedImages : List ByteArray :=
  [⟨Array.replicate 5000 1⟩, .empty, ⟨Array.replicate 4000 2⟩]

theorem concatenated_partedImages :
    concatenated partedImages = List.replicate 5000 1 ++ List.replicate 4000 2 := by
  simp [-List.reduceReplicate, concatenated, partedImages]

/-- The parted page holds the end of the first image and the start of the last one. -/
theorem ofImages_readsAs_parted : 150 ≤ (concatenated partedImages).length ∧
    ∃ space sized, ofImages partedImages = .ok space ∧ space.withPageSize 4096 = .ok sized ∧
      (∃ page, sized.page 1 = .ok page ∧
        page.bytes.data.toList = List.replicate 904 1 ++ List.replicate 3192 2) ∧
      sized.readAt 8990 11 = .error (.io (.pastEnd 11 8990 sized.name 9000)) := by
  have hlength : (concatenated partedImages).length = 9000 := by
    rw [concatenated_partedImages, List.length_append, List.length_replicate, List.length_replicate]
  have hextent : 150 ≤ (concatenated partedImages).length := by
    rw [hlength]
    decide
  obtain ⟨space, hspace, hsizes⟩ := ofImages_readsAs hextent
  obtain ⟨sized, hsized, hpageSize, hreads, -⟩ := hsizes 4096 (by decide)
  refine ⟨hextent, space, sized, hspace, hsized, ?_, ?_⟩
  · obtain ⟨page, hpage, -, hbytes⟩ := hreads.page 1 (by rw [hlength, hpageSize]; decide)
    refine ⟨page, hpage, ?_⟩
    rw [hbytes, hpageSize, concatenated_partedImages]
    simp [-List.reduceReplicate, List.drop_append, List.take_append]
  · have hpast := hreads.readPast 8990 11 (by rw [hlength]; decide)
    rwa [hlength] at hpast

end Images

end Space

end Tablespace
