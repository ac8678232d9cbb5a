import Tablespace.Proofs.CursorEnd
import Tablespace.Proofs.PageContents
import Tablespace.Space

/-!
# Distances between compact records

A compact record has the distance to the next one in sixteen bits, and these are read as a number
with a sign. A writer puts down the lowest sixteen bits of the difference of the two origins. On
pages of up to 32768 bytes every difference is found again. On a page of 65536 bytes two records can
be farther apart than fifteen bits count; then the distance that is read leads out of the page, and
a cursor takes the chain to end there.

Main statement: `Compact.next_of_distance`.
-/

namespace Tablespace

namespace Compact

variable {origin next : Nat}

/-- The distance that is put down at the record at `origin` for the one at `next`. -/
def distance (origin next : Nat) : Nat := (((next : Int) - origin) % 2 ^ 16).toNat

/-- Sixteen bits with a sign have room for the distance. -/
def InReach (origin next : Nat) : Prop := next < origin + 2 ^ 15 ∧ origin ≤ next + 2 ^ 15

theorem distance_lt (origin next : Nat) : distance origin next < 2 ^ 16 := by
  unfold distance
  omega

theorem target_distance_of_inReach (h : InReach origin next) :
    target origin (distance origin next) = next := by
  obtain ⟨hafter, hbefore⟩ := h
  unfold target distance
  split <;> omega

/-- A record too far behind: the distance counts as negative and leads before the page. -/
theorem target_distance_of_far_after (h : origin + 2 ^ 15 ≤ next) (hnext : next < 2 ^ 16) :
    target origin (distance origin next) = 0 := by
  have hdistance : distance origin next = next - origin := by
    unfold distance
    omega
  rw [target, hdistance, if_neg (by omega)]
  omega

/-- A record too far before: the distance counts as positive and leads behind the page. -/
theorem target_distance_of_far_before (h : next + 2 ^ 15 < origin) (horigin : origin < 2 ^ 16) :
    target origin (distance origin next) = next + 2 ^ 16 := by
  have hdistance : distance origin next = next + 2 ^ 16 - origin := by
    unfold distance
    omega
  rw [target, hdistance, if_pos (by omega)]
  omega

/-- A distance out of reach leads before the page or behind it, and not to the record. -/
theorem target_distance_of_not_inReach (horigin : origin < 2 ^ 16) (hnext : next < 2 ^ 16)
    (h : ¬ InReach origin next) :
    target origin (distance origin next) ≠ next ∧
      (target origin (distance origin next) = 0 ∨
        2 ^ 16 ≤ target origin (distance origin next)) := by
  unfold InReach at h
  rcases Nat.lt_or_ge next (origin + 2 ^ 15) with hbefore | hafter
  · rw [target_distance_of_far_before (by omega) horigin]
    omega
  · rw [target_distance_of_far_after hafter hnext]
    omega

theorem target_distance_eq_iff (horigin : origin < 2 ^ 16) (hnext : next < 2 ^ 16) :
    target origin (distance origin next) = next ↔ InReach origin next := by
  constructor
  · intro htarget
    by_contra hfar
    exact (target_distance_of_not_inReach horigin hnext hfar).1 htarget
  · exact target_distance_of_inReach

/-- On pages of up to 32768 bytes all records are in reach of each other. -/
theorem inReach_of_lt (horigin : origin < 2 ^ 15) (hnext : next < 2 ^ 15) :
    InReach origin next := by
  unfold InReach
  omega

end Compact

/-! ## Distances on a page -/

section Pages

variable {page : Page} {origin next : Nat}

/-- The bytes before a record are read as the number that was put down there. -/
theorem Page.fieldAt_of_holdsBefore {n : Nat} (h : page.HoldsBefore origin (toBigEndian 2 n))
    (hn : n < 2 ^ 16) : fieldAt page.bytes (origin - 2) 2 = n := by
  obtain ⟨-, hholds⟩ := h
  rw [length_toBigEndian] at hholds
  have hread := hholds.uint_toBigEndian hn
  obtain ⟨hinside, -⟩ := Page.holds_iff.1 hholds
  rw [length_toBigEndian] at hinside
  rw [Page.uint_eq_ok hinside, Except.ok.injEq] at hread
  exact hread

theorem Compact.exists_header_of_distance (hroom : 5 ≤ origin) (hinside : origin < page.size)
    (hlink : page.HoldsBefore origin (toBigEndian 2 (distance origin next))) :
    ∃ header, RecordHeader.read page .compact none origin = .ok header ∧
      header.next = target origin (distance origin next) := by
  obtain ⟨header, hread, -, hnext⟩ := Compact.exists_header hroom hinside
  rw [Page.fieldAt_of_holdsBefore hlink (distance_lt origin next)] at hnext
  refine ⟨header, ?_, hnext⟩
  have hfixed : ¬ (origin < RowFormat.compact.fixedSize ∨ page.size ≤ origin) := by
    have hfive : RowFormat.compact.fixedSize = 5 := rfl
    omega
  unfold RecordHeader.read
  rw [if_neg hfixed]
  exact hread

theorem Node.linkAt_of_distance {node : Node} (hformat : node.format = .compact)
    (hlink : node.page.HoldsBefore origin (toBigEndian 2 (Compact.distance origin next))) :
    node.linkAt origin = Compact.target origin (Compact.distance origin next) := by
  unfold linkAt
  rw [hformat, Page.fieldAt_of_holdsBefore hlink (Compact.distance_lt origin next)]

theorem Node.successor_of_inReach {node : Node} (hformat : node.format = .compact)
    (horigin : node.HasRoomAt origin) (hnext : node.HasRoomAt next) (hother : next ≠ origin)
    (hsupremum : next ≠ node.format.supremum)
    (hlink : node.page.HoldsBefore origin (toBigEndian 2 (Compact.distance origin next)))
    (hreach : Compact.InReach origin next) : node.successor origin = .ok (some next) := by
  have htarget := linkAt_of_distance hformat hlink
  rw [Compact.target_distance_of_inReach hreach] at htarget
  have hlinks : node.LinksTo origin next := by
    refine ⟨horigin, ?_, htarget⟩
    unfold EndsAt
    rw [htarget]
    rintro (hlast | hself | hout)
    · exact hsupremum hlast
    · exact hother hself
    · exact hout hnext
  exact hlinks.successor

theorem Node.successor_of_not_inReach {node : Node} (hformat : node.format = .compact)
    (hsize : node.page.size ≤ 2 ^ 16) (horigin : node.HasRoomAt origin)
    (hnext : next < node.page.size)
    (hlink : node.page.HoldsBefore origin (toBigEndian 2 (Compact.distance origin next)))
    (hfar : ¬ Compact.InReach origin next) : node.successor origin = .ok none := by
  have hinside := horigin.2
  have hout := (Compact.target_distance_of_not_inReach (by omega) (by omega) hfar).2
  refine successor_of_endsAt horigin (.inr (.inr ?_))
  rw [linkAt_of_distance hformat hlink]
  rintro ⟨hroom, hlt⟩
  have hfive : node.format.fixedSize = 5 := by
    rw [hformat]
    rfl
  omega

end Pages

/-- Where the distance to another record is put down at a compact record, the header names that
record as the next one just if sixteen bits with a sign have room for the distance. That is so for
all records of a page that has one of the sizes of pages but the largest. A cursor at the record
then moves to the other one; if the distance is out of reach, it finds the end of the chain. -/
theorem Compact.next_of_distance {page : Page} {origin next : Nat} (hsize : page.size ∈ pageSizes)
    (hroom : 5 ≤ origin) (horigin : origin < page.size) (hnext : next < page.size)
    (hlink : page.HoldsBefore origin (toBigEndian 2 (distance origin next))) :
    ∃ header, RecordHeader.read page .compact none origin = .ok header ∧
      (header.next = next ↔ InReach origin next) ∧
      (page.size ≠ 65536 → InReach origin next) ∧
      ∀ node : Node, node.page = page → node.format = .compact → 5 ≤ next → next ≠ origin →
        next ≠ node.format.supremum →
        (InReach origin next →
          (Cursor.start node origin .forward).next.1 = some (node.recordAt next) ∧
            ((Cursor.start node origin .forward).after 1).position = next) ∧
        (¬ InReach origin next → (Cursor.start node origin .forward).Yields []) := by
  simp only [pageSizes, List.mem_cons, List.not_mem_nil, or_false] at hsize
  obtain ⟨header, hread, htarget⟩ := exists_header_of_distance hroom horigin hlink
  refine ⟨header, hread, ?_, ?_, ?_⟩
  · rw [htarget]
    exact target_distance_eq_iff (by omega) (by omega)
  · intro hsmaller
    exact inReach_of_lt (by omega) (by omega)
  · rintro node rfl hformat hnextRoom hother hsupremum
    have hfive : node.format.fixedSize = 5 := by
      rw [hformat]
      rfl
    have horiginRoom : node.HasRoomAt origin := ⟨by omega, horigin⟩
    constructor
    · intro hreach
      have hsuccessor := Node.successor_of_inReach hformat horiginRoom ⟨by omega, hnext⟩ hother
        hsupremum hlink hreach
      have hmoves := Cursor.next_start_of_link hsuccessor
      constructor
      · rw [hmoves]
      · rw [Cursor.after, hmoves]
        rfl
    · intro hfar
      have hend := Node.successor_of_not_inReach hformat (by omega) horiginRoom hnext hlink hfar
      exact Cursor.yields_of_walk (Node.walk_of_none hend node.stepLimit)

/-! ## A page of 65536 bytes -/

namespace FarApart

/-- Two records: the infimum links to the one at 120, which links to the one at 40120, which links
to the supremum. -/
def bytes : List UInt8 :=
  List.replicate 24 0 ++ [69, 191] ++ List.replicate 16 0 ++ [128, 4] ++ List.replicate 50 0 ++
    [1, 0, 2, 0, 21] ++ List.replicate 8 0 ++ [3, 0, 11, 0, 0] ++ List.replicate 3 0 ++
    [0, 0, 16, 156, 64] ++ List.replicate 39995 0 ++ [0, 0, 24, 99, 184] ++
    List.replicate 25416 0

def image : ByteArray := ⟨⟨bytes⟩⟩

theorem size_image : image.size = 65536 := by
  have hlength (bs : List UInt8) : (⟨⟨bs⟩⟩ : ByteArray).size = bs.length := rfl
  rw [image, hlength]
  unfold bytes
  simp only [List.length_append, List.length_replicate]
  rfl

/-- Numbers of the page are read from the list of its bytes, which is not counted for this. -/
theorem fieldAt_image (offset width : Nat) :
    fieldAt image offset width = bigEndian ((bytes.drop offset).take width) := by
  rw [fieldAt, slice_eq]
  rfl

def page : Page := ⟨4, image, by rw [size_image]; decide⟩

theorem size_page : page.size = 65536 := size_image

theorem kind_page : page.kind = .index := by
  have hkind : fieldAt page.bytes 24 2 = 17855 := by
    rw [page, fieldAt_image]
    decide +kernel
  have hcode (other : Page) : other.kind = .ofCode (fieldAt other.bytes 24 2) := rfl
  rw [hcode, hkind]
  rfl

def node : Node := ⟨page, none, kind_page, by rw [size_page]; decide⟩

theorem format_node : node.format = .compact := by
  have hpage : node.page = page := rfl
  have hcount : fieldAt node.page.bytes 42 2 = 32772 := by
    rw [hpage, page, fieldAt_image]
    decide +kernel
  have hformat (other : Node) :
      other.format = .ofHeapCount (fieldAt other.page.bytes 42 2) := rfl
  rw [hformat, hcount]
  decide

theorem holdsBefore {origin next : Nat} (hroom : 2 ≤ origin) (hinside : origin ≤ 65536)
    (h : (bytes.drop (origin - 2)).take 2 = toBigEndian 2 (Compact.distance origin next)) :
    page.HoldsBefore origin (toBigEndian 2 (Compact.distance origin next)) := by
  refine ⟨by rwa [length_toBigEndian], Page.holds_iff.2 ?_⟩
  rw [length_toBigEndian, size_page]
  refine ⟨by omega, ?_⟩
  rw [← h, slice_eq]
  rfl

theorem first_linked : page.HoldsBefore 99 (toBigEndian 2 (Compact.distance 99 120)) :=
  holdsBefore (by decide) (by decide) (by decide +kernel)

theorem second_linked : page.HoldsBefore 120 (toBigEndian 2 (Compact.distance 120 40120)) :=
  holdsBefore (by decide) (by decide) (by decide +kernel)

end FarApart

/-- The first record is in reach of the infimum: the header names it and a cursor moves to it. -/
theorem Compact.next_of_distance_farApart :
    FarApart.page.size ∈ pageSizes ∧
      FarApart.page.HoldsBefore 99 (toBigEndian 2 (distance 99 120)) ∧
      (∃ header, RecordHeader.read FarApart.page .compact none 99 = .ok header ∧
        header.next = 120) ∧
      FarApart.node.cursor.next.1 = some (FarApart.node.recordAt 120) := by
  have hsize : FarApart.page.size ∈ pageSizes := by
    rw [FarApart.size_page]
    decide
  have hreach : InReach 99 120 := inReach_of_lt (by decide) (by decide)
  have hinside : 120 < FarApart.page.size := by
    rw [FarApart.size_page]
    decide
  obtain ⟨header, hread, hnext, -, hcursor⟩ := next_of_distance hsize (by decide)
    (Nat.lt_trans (by decide) hinside) hinside FarApart.first_linked
  have hformat := FarApart.format_node
  have hstart : FarApart.node.cursor = .start FarApart.node 99 .forward := by
    rw [Node.cursor, hformat]
    rfl
  have hother : 120 ≠ FarApart.node.format.supremum := by
    rw [hformat]
    decide
  obtain ⟨hmoves, -⟩ := hcursor FarApart.node rfl hformat (by decide) (by decide) hother
  exact ⟨hsize, FarApart.first_linked, ⟨header, hread, hnext.2 hreach⟩, hstart ▸ (hmoves hreach).1⟩

/-- The second record is out of reach of the first: the distance is put down as for any other, but
the header of the first names the beginning of the page, and a cursor there finds no other
record. -/
theorem Compact.next_lost_farApart :
    FarApart.page.size ∈ pageSizes ∧ 40120 < FarApart.page.size ∧
      FarApart.page.HoldsBefore 120 (toBigEndian 2 (distance 120 40120)) ∧
      (∃ header, RecordHeader.read FarApart.page .compact none 120 = .ok header ∧
        header.next = 0) ∧
      FarApart.node.format = .compact ∧
      (Cursor.start FarApart.node 120 .forward).Yields [] := by
  have hsize : FarApart.page.size = 65536 := FarApart.size_page
  have hlink := FarApart.second_linked
  have hfar : ¬ InReach 120 40120 := by
    unfold InReach
    omega
  have htarget : target 120 (distance 120 40120) = 0 :=
    target_distance_of_far_after (by decide) (by decide)
  obtain ⟨header, hread, hnext⟩ := exists_header_of_distance (by decide) (by omega) hlink
  have hroom : FarApart.node.HasRoomAt 120 := by
    have hpage : FarApart.node.page.size = 65536 := hsize
    have hfixed : FarApart.node.format.fixedSize = 5 := by
      rw [FarApart.format_node]
      rfl
    unfold Node.HasRoomAt
    omega
  have hend := Node.successor_of_not_inReach FarApart.format_node (Nat.le_of_eq hsize) hroom
    (by rw [show FarApart.node.page.size = 65536 from hsize]; decide) hlink hfar
  refine ⟨?_, by omega, hlink, ⟨header, hread, hnext.trans htarget⟩, FarApart.format_node,
    Cursor.yields_of_walk (Node.walk_of_none hend FarApart.node.stepLimit)⟩
  rw [hsize]
  decide

end Tablespace
