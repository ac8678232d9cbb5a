import Tablespace.Text.HexDump

/-!
# Reading a hex dump

A hex dump loses nothing: its text has a line for every sixteen bytes, and the address, the columns
and the picture of each line are found again from their places in the text alone. The address ends
at the first space, however many digits it takes. From there the columns stand at fixed places, and
no digit is a bar, so that the picture begins after the first bar.

The readers here know the layout of a line but not how it is written. A line is taken apart first,
then the lines of a dump by induction on its pieces of sixteen bytes, then the text.

Main statement: `HexDump.text_lossless`.
-/

namespace Tablespace.Text

/-! ## Hexadecimal numbers -/

namespace Hex

/-- The number that hexadecimal digits spell, read on from `n`. -/
def numberFrom (n : Nat) : List Char → Option Nat
  | [] => some n
  | c :: cs => (digit? c).bind fun d => numberFrom (16 * n + d) cs

/-- The number that a non-empty row of hexadecimal digits spells. -/
def number? : List Char → Option Nat
  | [] => none
  | cs => numberFrom 0 cs

theorem numberFrom_append (n : Nat) (cs ds : List Char) :
    numberFrom n (cs ++ ds) = (numberFrom n cs).bind (numberFrom · ds) := by
  induction cs generalizing n with
  | nil => rfl
  | cons c cs ih =>
    rw [List.cons_append, numberFrom, numberFrom, Option.bind_assoc]
    simp only [ih]

theorem numberFrom_toDigits (n : Nat) : numberFrom 0 (Nat.toDigits 16 n) = some n := by
  induction n using Nat.strongRecOn with
  | ind n ih =>
    have hlast : ∀ m d, d < 16 → numberFrom m [digit d] = some (16 * m + d) := by
      intro m d hd
      rw [numberFrom, digit?_digit hd]
      rfl
    rw [Nat.toDigits_eq_if (by decide)]
    by_cases hn : n < 16
    · rw [if_pos hn]
      exact (hlast 0 n hn).trans (by rw [Nat.mul_zero, Nat.zero_add])
    · rw [if_neg hn, numberFrom_append, ih _ (by omega), Option.bind_some]
      exact (hlast _ _ (Nat.mod_lt n (by decide))).trans (by rw [Nat.div_add_mod])

/-- Zeros before a number do not change it. -/
theorem number?_number (width n : Nat) : number? (number width n) = some n := by
  have hzeros : ∀ k, numberFrom 0 (List.replicate k '0') = some 0 := by
    intro k
    induction k with
    | zero => rfl
    | succ k ih => exact ih
  have hread : numberFrom 0 (number width n) = some n := by
    rw [number, List.leftpad, numberFrom_append, hzeros, Option.bind_some, numberFrom_toDigits]
  cases hdigits : number width n with
  | nil =>
    have hne : number width n ≠ [] := List.append_ne_nil_of_right_ne_nil _ Nat.toDigits_ne_nil
    exact absurd hdigits hne
  | cons c cs =>
    rw [hdigits] at hread
    exact hread

theorem le_length_number (width n : Nat) : width ≤ (number width n).length := by
  rw [number, List.length_leftpad]
  exact Nat.le_max_left ..

theorem mem_toDigits {n : Nat} {c : Char} (h : c ∈ Nat.toDigits 16 n) : ∃ d < 16, c = digit d := by
  induction n using Nat.strongRecOn with
  | ind n ih =>
    rw [Nat.toDigits_eq_if (by decide)] at h
    by_cases hn : n < 16
    · rw [if_pos hn, List.mem_singleton] at h
      exact ⟨n, hn, h⟩
    · rw [if_neg hn, List.mem_append, List.mem_singleton] at h
      rcases h with hhigh | hlow
      · exact ih _ (by omega) hhigh
      · exact ⟨n % 16, Nat.mod_lt n (by decide), hlow⟩

theorem mem_number {width n : Nat} {c : Char} (h : c ∈ number width n) :
    ∃ d < 16, c = digit d := by
  rw [number, List.leftpad, List.mem_append] at h
  rcases h with hzero | hdigit
  · exact ⟨0, by decide, List.eq_of_mem_replicate hzero⟩
  · exact mem_toDigits hdigit

theorem mem_pair {b : UInt8} {c : Char} (h : c ∈ pair b) : ∃ d < 16, c = digit d := by
  have hb : b.toNat < 256 := b.toNat_lt
  rw [pair, List.mem_cons, List.mem_singleton] at h
  rcases h with rfl | rfl
  · exact ⟨_, by omega, rfl⟩
  · exact ⟨_, by omega, rfl⟩

/-- A digit is none of the characters that are not digits. -/
theorem digit_ne {d : Nat} {c : Char} (hd : d < 16) (hc : digit? c = none) : digit d ≠ c := by
  rintro rfl
  rw [digit?_digit hd] at hc
  cases hc

end Hex

namespace HexDump

/-! ## The reader -/

/-- The lines of a text. A text without characters has none. -/
def linesOf (cs : List Char) : List (List Char) := if cs = [] then [] else cs.splitOn '\n'

/-- The address of a line: what stands before the first space. -/
def addressOf (line : List Char) : List Char := line.takeWhile (· ≠ ' ')

/-- What follows the address and the two spaces after it. -/
def body (line : List Char) : List Char := line.drop ((addressOf line).length + 2)

/-- The two characters of column `i`. A column takes three characters, and the columns of the second
half stand one further right. -/
def slot (line : List Char) (i : Nat) : List Char := ((body line).drop (3 * i + i / 8)).take 2

/-- A column that shows no byte. -/
def blankSlot : List Char := [' ', ' ']

/-- The columns of a line that are not blank. -/
def pairs (line : List Char) : List (List Char) :=
  ((List.range width).map (slot line)).filter (· ≠ blankSlot)

/-- The bytes that the columns of all lines spell. -/
def read? (cs : List Char) : Option (List UInt8) :=
  Hex.decode? ((linesOf cs).flatMap pairs).flatten

/-- The characters between the bars: what follows the first bar, without the bar that ends the
line. -/
def pictureOf (line : List Char) : List Char := (line.dropWhile (· ≠ '|')).tail.dropLast

/-- How a picture shows a byte or no byte. -/
def Pictures (c : Char) : Option UInt8 → Prop
  | some b => if 0x20 ≤ b.toNat ∧ b.toNat ≤ 0x7E then c.toNat = b.toNat else c = '.'
  | none => c = ' '

/-- What line `k` of a dump of `bytes` shows if the dump begins at `base`. -/
structure Shows (base : Nat) (bytes : List UInt8) (k : Nat) (line : List Char) : Prop where
  address : addressOf line = Hex.number 8 (base + 16 * k)
  address_value : Hex.number? (addressOf line) = some (base + 16 * k)
  address_width : 8 ≤ (addressOf line).length
  address_fits : base + 16 * k < 2 ^ 64
  columns : ∀ i < 16, slot line i = (bytes[16 * k + i]?.map Hex.pair).getD blankSlot
  picture_width : (pictureOf line).length = 16
  picture : ∀ i < 16, ∃ c, (pictureOf line)[i]? = some c ∧ Pictures c bytes[16 * k + i]?

variable {address first last i : Nat} {bytes : List UInt8} {c : Char}

/-! ## The characters of a line -/

/-- The characters of the columns are digits and spaces. -/
theorem mem_columns (h : c ∈ columns bytes first last) : (∃ d < 16, c = Hex.digit d) ∨ c = ' ' := by
  rw [columns, List.mem_flatMap] at h
  obtain ⟨i, -, hc⟩ := h
  cases hbyte : bytes[i]? with
  | none =>
    rw [hbyte] at hc
    right
    simpa [column] using hc
  | some b =>
    rw [hbyte, column, List.mem_append, List.mem_singleton] at hc
    exact hc.imp_left Hex.mem_pair

/-- The part of a line before its first bar. -/
def front (address : Nat) (bytes : List UInt8) : List Char :=
  Hex.number 8 address ++ [' ', ' '] ++ columns bytes 0 8 ++ [' '] ++ columns bytes 8 width ++ [' ']

theorem line_eq (address : Nat) (bytes : List UInt8) :
    line address bytes = front address bytes ++ '|' :: (picture bytes ++ ['|']) := by
  simp only [line, front, List.append_assoc, List.cons_append, List.nil_append]

theorem mem_front (h : c ∈ front address bytes) : (∃ d < 16, c = Hex.digit d) ∨ c = ' ' := by
  simp only [front, List.mem_append, List.mem_cons, List.not_mem_nil, or_false] at h
  rcases h with ((((h | h | h) | h) | h) | h) | h
  · exact .inl (Hex.mem_number h)
  · exact .inr h
  · exact .inr h
  · exact mem_columns h
  · exact .inr h
  · exact mem_columns h
  · exact .inr h

theorem shown_pictures (b : UInt8) : Pictures (shown b) (some b) := by
  by_cases h : 0x20 ≤ b.toNat ∧ b.toNat ≤ 0x7E
  · have hvalid : b.toNat.isValidChar := .inl (by omega)
    have hshown : shown b = Char.ofNatAux b.toNat hvalid := (if_pos h).trans (dif_pos hvalid)
    rw [Pictures, if_pos h, hshown]
    rfl
  · rw [Pictures, if_neg h, shown, if_neg h]

/-- A picture does not break the line. -/
theorem not_pictures_newline (b : Option UInt8) : ¬ Pictures '\n' b := by
  intro hpictures
  cases b with
  | none => cases hpictures
  | some b =>
    rw [Pictures] at hpictures
    split at hpictures
    · have hcode : '\n'.toNat = 10 := rfl
      omega
    · cases hpictures

/-! ## Taking a line apart -/

theorem addressOf_line (address : Nat) (bytes : List UInt8) :
    addressOf (line address bytes) = Hex.number 8 address := by
  have hdigits : ∀ c ∈ Hex.number 8 address, decide (c ≠ ' ') = true := by
    intro c hc
    obtain ⟨d, hd, rfl⟩ := Hex.mem_number hc
    exact decide_eq_true (Hex.digit_ne hd rfl)
  simp only [addressOf, line, List.append_assoc]
  rw [List.takeWhile_append_of_pos hdigits]
  exact List.append_nil _

/-- The columns of a line, its picture and what stands between them. -/
theorem body_line (address : Nat) (bytes : List UInt8) :
    body (line address bytes) =
      columns bytes 0 8 ++ ([' '] ++ (columns bytes 8 width ++
        ([' ', '|'] ++ (picture bytes ++ ['|'])))) := by
  have hskip : (Hex.number 8 address ++ [' ', ' ']).length = (Hex.number 8 address).length + 2 := by
    rw [List.length_append]
    rfl
  rw [body, addressOf_line, ← hskip]
  simp only [line, List.append_assoc]
  rw [← List.append_assoc (Hex.number 8 address), List.drop_left]

theorem columns_eq_append (h : first < last) :
    columns bytes first last = column bytes[first]? ++ columns bytes (first + 1) last := by
  obtain ⟨n, rfl⟩ := Nat.exists_eq_add_of_lt h
  have hcount : first + n + 1 - first = n + 1 := by omega
  have hrest : first + n + 1 - (first + 1) = n := by omega
  rw [columns, columns, hcount, hrest, List.range'_succ, List.flatMap_cons]

theorem length_column (b : Option UInt8) : (column b).length = 3 := by
  cases b <;> rfl

theorem length_columns (bytes : List UInt8) (first last : Nat) :
    (columns bytes first last).length = 3 * (last - first) := by
  rw [columns, List.length_flatMap]
  simp only [length_column, List.map_const', List.sum_replicate_nat, List.length_range']
  omega

/-- Each column is found three characters after the one before it. -/
theorem take_drop_columns (rest : List Char) (h : first + i < last) :
    ((columns bytes first last ++ rest).drop (3 * i)).take 2 =
      (bytes[first + i]?.map Hex.pair).getD blankSlot := by
  induction i generalizing first with
  | zero =>
    rw [columns_eq_append (by omega), Nat.mul_zero, List.drop_zero, Nat.add_zero]
    cases bytes[first]? <;> rfl
  | succ i ih =>
    have hskip : 3 * (i + 1) = (column bytes[first]?).length + 3 * i := by
      rw [length_column]
      omega
    rw [columns_eq_append (by omega), List.append_assoc, hskip, List.drop_length_add_append,
      ih (by omega), Nat.succ_add_eq_add_succ]

theorem slot_line (h : i < 16) :
    slot (line address bytes) i = (bytes[i]?.map Hex.pair).getD blankSlot := by
  rw [slot, body_line]
  rcases Nat.lt_or_ge i 8 with hlow | hhigh
  · rw [Nat.div_eq_of_lt hlow, Nat.add_zero, take_drop_columns _ (by omega), Nat.zero_add]
  · -- the first half and the gap after it take twenty-five characters
    obtain ⟨j, rfl⟩ := Nat.exists_eq_add_of_le hhigh
    have hskip : 3 * (8 + j) + (8 + j) / 8 = (columns bytes 0 8 ++ [' ']).length + 3 * j := by
      rw [List.length_append, length_columns, List.length_singleton]
      omega
    rw [hskip, ← List.append_assoc, List.drop_length_add_append]
    exact take_drop_columns _ h

theorem pictureOf_line (address : Nat) (bytes : List UInt8) :
    pictureOf (line address bytes) = picture bytes := by
  have hfront : ∀ c ∈ front address bytes, decide (c ≠ '|') = true := by
    intro c hc
    rcases mem_front hc with ⟨d, hd, rfl⟩ | rfl
    · exact decide_eq_true (Hex.digit_ne hd rfl)
    · rfl
  rw [pictureOf, line_eq, List.dropWhile_append_of_pos hfront]
  exact List.dropLast_concat

theorem length_picture (bytes : List UInt8) : (picture bytes).length = width := by
  rw [picture, List.length_map, List.length_range]

theorem picture_pictures (h : i < width) :
    ∃ c, (picture bytes)[i]? = some c ∧ Pictures c bytes[i]? := by
  refine ⟨(bytes[i]?.map shown).getD ' ', ?_, ?_⟩
  · rw [picture, List.getElem?_map, List.getElem?_range h, Option.map_some]
  · cases bytes[i]? with
    | none => rfl
    | some b => exact shown_pictures b

/-- The columns that are not blank are the bytes of the line. -/
theorem filter_slots {n : Nat} (h : bytes.length ≤ n) :
    ((List.range n).map fun i => (bytes[i]?.map Hex.pair).getD blankSlot).filter (· ≠ blankSlot) =
      bytes.map Hex.pair := by
  induction n generalizing bytes with
  | zero =>
    obtain rfl := List.length_eq_zero_iff.1 (Nat.le_zero.1 h)
    rfl
  | succ n ih =>
    rw [List.range_succ_eq_map, List.map_cons, List.map_map]
    cases bytes with
    | nil => exact @ih [] (Nat.zero_le n)
    | cons b bytes =>
      have hpair : Hex.pair b ≠ blankSlot := by
        intro heq
        have hdigit : (' ' : Char) ∈ Hex.pair b := heq ▸ List.mem_cons_self
        obtain ⟨d, hd, hspace⟩ := Hex.mem_pair hdigit
        exact Hex.digit_ne hd rfl hspace.symm
      rw [List.filter_cons_of_pos (by simpa using hpair), List.map_cons]
      exact congrArg _ (ih (Nat.le_of_succ_le_succ h))

theorem pairs_line (h : bytes.length ≤ width) :
    pairs (line address bytes) = bytes.map Hex.pair := by
  have hslots : (List.range width).map (slot (line address bytes)) =
      (List.range width).map fun i => (bytes[i]?.map Hex.pair).getD blankSlot :=
    List.map_congr_left fun i hi => slot_line (List.mem_range.1 hi)
  rw [pairs, hslots, filter_slots h]

/-! ## The lines of a dump -/

theorem lines_eq (address : Nat) (bytes : List UInt8) :
    lines address bytes = (List.range ((bytes.length + 15) / 16)).map fun k =>
      line (address + 16 * k) ((bytes.drop (16 * k)).take 16) := by
  fun_induction lines address bytes with
  | case1 address => rfl
  | case2 address bytes hne ih =>
    have hpos : 0 < bytes.length := List.length_pos_iff.2 hne
    have hcount : (bytes.length + 15) / 16 = ((bytes.drop width).length + 15) / 16 + 1 := by
      rw [List.length_drop, width]
      omega
    have hnext : ∀ k, line (address + width + 16 * k) (((bytes.drop width).drop (16 * k)).take 16) =
        line (address + 16 * (k + 1)) ((bytes.drop (16 * (k + 1))).take 16) := by
      intro k
      have haddress : address + width + 16 * k = address + 16 * (k + 1) := by rw [width]; omega
      have hplace : width + 16 * k = 16 * (k + 1) := by rw [width]; omega
      rw [List.drop_drop, haddress, hplace]
    rw [ih, hcount, List.range_succ_eq_map, List.map_cons, List.map_map]
    exact congrArg (line address (bytes.take width) :: ·) (List.map_congr_left fun k _ => hnext k)

/-- The columns of all lines together show each byte once, in their order. -/
theorem flatMap_pairs_lines (address : Nat) (bytes : List UInt8) :
    (lines address bytes).flatMap pairs = bytes.map Hex.pair := by
  fun_induction lines address bytes with
  | case1 address => rfl
  | case2 address bytes hne ih =>
    rw [List.flatMap_cons, ih, pairs_line (List.length_take_le ..), ← List.map_append,
      List.take_append_drop]

/-! ## The text of a dump -/

theorem newline_notMem_line (address : Nat) (bytes : List UInt8) : '\n' ∉ line address bytes := by
  intro h
  rw [line_eq, List.mem_append, List.mem_cons, List.mem_append, List.mem_singleton] at h
  rcases h with hfront | hbar | hpicture | hbar
  · rcases mem_front hfront with ⟨d, hd, hdigit⟩ | hspace
    · exact Hex.digit_ne hd rfl hdigit.symm
    · cases hspace
  · cases hbar
  · obtain ⟨i, hi, heq⟩ := List.mem_iff_getElem.1 hpicture
    obtain ⟨c, hc, hpictures⟩ := picture_pictures (length_picture bytes ▸ hi)
    rw [List.getElem?_eq_getElem hi, heq] at hc
    cases hc
    exact not_pictures_newline _ hpictures
  · cases hbar

theorem linesOf_text (address : Nat) (bytes : List UInt8) :
    linesOf (text address bytes).toList = lines address bytes := by
  have hlist : (text address bytes).toList = ['\n'].intercalate (lines address bytes) := by
    rw [text, String.toList_intercalate, List.map_map]
    congr 1
    refine (List.map_congr_left fun l _ => String.toList_ofList).trans ?_
    exact List.map_id _
  have hnewline : ∀ l ∈ lines address bytes, '\n' ∉ l := by
    intro l hl
    rw [lines_eq, List.mem_map] at hl
    obtain ⟨k, -, rfl⟩ := hl
    exact newline_notMem_line _ _
  rw [linesOf, hlist]
  by_cases hnone : lines address bytes = []
  · rw [hnone]
    rfl
  · have hsplit := List.splitOn_intercalate '\n' hnewline hnone
    have hne : ['\n'].intercalate (lines address bytes) ≠ [] := by
      intro hempty
      -- the only line of an empty text would be empty, but every line has a bar
      rw [hempty] at hsplit
      have hmem : [] ∈ lines address bytes := hsplit ▸ List.mem_singleton_self []
      rw [lines_eq, List.mem_map] at hmem
      obtain ⟨k, -, hline⟩ := hmem
      rw [line_eq] at hline
      exact List.append_ne_nil_of_right_ne_nil _ (List.cons_ne_nil _ _) hline
    rw [if_neg hne, hsplit]

theorem shows_line {k : Nat} (hfits : address + bytes.length < 2 ^ 64)
    (hk : k < (bytes.length + 15) / 16) :
    Shows address bytes k (line (address + 16 * k) ((bytes.drop (16 * k)).take 16)) := by
  have hbyte : ∀ i < 16, ((bytes.drop (16 * k)).take 16)[i]? = bytes[16 * k + i]? := by
    intro i hi
    rw [List.getElem?_take_of_lt hi, List.getElem?_drop]
  refine ⟨addressOf_line _ _, ?_, ?_, by omega, ?_, ?_, ?_⟩
  · rw [addressOf_line, Hex.number?_number]
  · rw [addressOf_line]
    exact Hex.le_length_number _ _
  · intro i hi
    rw [slot_line hi, hbyte i hi]
  · rw [pictureOf_line, length_picture, width]
  · intro i hi
    rw [pictureOf_line, ← hbyte i hi]
    exact picture_pictures hi

/-- The dump of a byte string below the end of the address space has a line for every sixteen bytes,
each of which shows its address, its bytes and their picture, and the columns of all lines spell the
byte string. So do the digits that are written without columns. -/
theorem text_lossless (base : Nat) (bytes : List UInt8) (h : base + bytes.length < 2 ^ 64) :
    (linesOf (text base bytes).toList).length = (bytes.length + 15) / 16 ∧
      (∀ k line, (linesOf (text base bytes).toList)[k]? = some line → Shows base bytes k line) ∧
        read? (text base bytes).toList = some bytes ∧
          Hex.decode? (Hex.text bytes).toList = some bytes := by
  refine ⟨?_, ?_, ?_, ?_⟩
  · rw [linesOf_text, lines_eq, List.length_map, List.length_range]
  · intro k line hline
    rw [linesOf_text, lines_eq, List.getElem?_map, Option.map_eq_some_iff] at hline
    obtain ⟨j, hj, rfl⟩ := hline
    obtain ⟨hk, rfl⟩ := List.getElem?_eq_some_iff.1 hj
    rw [List.length_range] at hk
    rw [List.getElem_range]
    exact shows_line h hk
  · rw [read?, linesOf_text, flatMap_pairs_lines]
    exact Hex.decode?_encode bytes
  · rw [Hex.text, String.toList_ofList]
    exact Hex.decode?_encode bytes

/-- Two lines on either side of the last address that eight digits can write. -/
theorem text_lossless_wide :
    0xFFFFFFF0 + (List.replicate 17 (7 : UInt8)).length < 2 ^ 64 ∧
      (linesOf (text 0xFFFFFFF0 (List.replicate 17 7)).toList).length = 2 ∧
        (∀ line, (linesOf (text 0xFFFFFFF0 (List.replicate 17 7)).toList)[1]? = some line →
          addressOf line = "100000000".toList) ∧
          read? (text 0xFFFFFFF0 (List.replicate 17 7)).toList = some (List.replicate 17 7) := by
  have hfits : 0xFFFFFFF0 + (List.replicate 17 (7 : UInt8)).length < 2 ^ 64 := by decide
  obtain ⟨hlength, hshows, hread, -⟩ := text_lossless 0xFFFFFFF0 (List.replicate 17 7) hfits
  refine ⟨hfits, hlength, ?_, hread⟩
  intro line hline
  exact (hshows 1 line hline).address.trans (by decide)

end HexDump

end Tablespace.Text
