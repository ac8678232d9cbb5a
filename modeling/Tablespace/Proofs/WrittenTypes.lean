import Mathlib.Tactic.SplitIfs
import Tablespace.Column.TypeName
import Tablespace.Proofs.DecimalDigits

/-!
# Types read back from their written forms

The written form of a type is the canonical one of the definitions that describe it. Every type that
a definition describes is one whose written form reads back as it, and what a definition describes
depends neither on the case of its letters nor on the blanks around it.

The reader asks of a character only whether it is a blank, a bracket, a sign or a digit. None of
these is a letter, so that every step of the reader commutes with `upper`; only the names in an
error keep their case. A written form has neither a blank at its ends nor a second bracket, so that
the reader finds the name and the size where the writer put them.

Main statement: `DataType.ofDefinition_name`.
-/

namespace Tablespace

namespace Text

/-! ## Letters in upper case -/

/-- What holds of every character of a range holds of each one that lies in it. -/
theorem of_mem_range {P : Char → Prop} {first count : Nat}
    (h : ∀ n ∈ List.range' first count, P (Char.ofNat n)) {c : Char} (hlow : first ≤ c.toNat)
    (hhigh : c.toNat < first + count) : P c := by
  rw [← Char.ofNat_toNat c]
  exact h _ (List.mem_range'_1.2 ⟨hlow, hhigh⟩)

/-- What does not tell the letters of the alphabet apart by case does so for no character. -/
theorem apply_toUpper {α : Type} {f : Char → α}
    (h : ∀ n ∈ List.range' 'a'.toNat 26, f (Char.ofNat n).toUpper = f (Char.ofNat n)) (c : Char) :
    f c.toUpper = f c := by
  by_cases hc : 'a' ≤ c ∧ c ≤ 'z'
  · have hhigh : c.toNat ≤ 'z'.toNat := hc.2
    exact of_mem_range (P := fun c => f c.toUpper = f c) h hc.1 (Nat.lt_succ_of_le hhigh)
  · have hsame : c.toUpper = c := dif_neg hc
    rw [hsame]

theorem isBlank_of_isDigit {c : Char} (h : c.isDigit = true) : isBlank c = false := by
  have hall : ∀ n ∈ List.range' '0'.toNat 10, isBlank (Char.ofNat n) = false := by decide
  unfold Char.isDigit at h
  rw [Bool.and_eq_true, decide_eq_true_eq, decide_eq_true_eq] at h
  have hhigh : c.toNat ≤ '9'.toNat := h.2
  exact of_mem_range (P := (isBlank · = false)) hall h.1 (Nat.lt_succ_of_le hhigh)

/-- A letter in upper case is no blank and no bracket, and is its own upper case. -/
theorem upper_case_of_isUpper {c : Char} (h : c.isUpper = true) :
    isBlank c = false ∧ c ≠ '(' ∧ c.toUpper = c := by
  have hall : ∀ n ∈ List.range' 'A'.toNat 26, isBlank (Char.ofNat n) = false ∧
      Char.ofNat n ≠ '(' ∧ (Char.ofNat n).toUpper = Char.ofNat n := by decide
  unfold Char.isUpper at h
  rw [decide_eq_true_eq] at h
  have hhigh : c.toNat ≤ 'Z'.toNat := h.2
  exact of_mem_range (P := fun c => isBlank c = false ∧ c ≠ '(' ∧ c.toUpper = c) hall h.1
    (Nat.lt_succ_of_le hhigh)

theorem isBlank_toUpper (c : Char) : isBlank c.toUpper = isBlank c :=
  apply_toUpper (by decide) c

theorem toUpper_toUpper (c : Char) : c.toUpper.toUpper = c.toUpper :=
  apply_toUpper (by decide) c

theorem Number.digit?_toUpper (c : Char) : Number.digit? c.toUpper = Number.digit? c :=
  apply_toUpper (by decide) c

/-! ## Blanks at the ends -/

theorem dropWhile_of_head {cs : List Char} (h : ∀ hne : cs ≠ [], isBlank (cs.head hne) = false) :
    cs.dropWhile isBlank = cs := by
  cases cs with
  | nil => rfl
  | cons c cs =>
    have hfirst : ¬ isBlank c = true := Bool.not_eq_true _ ▸ h (List.cons_ne_nil c cs)
    exact List.dropWhile_cons_of_neg hfirst

/-- A text without a blank at either end stays as it is. -/
theorem trim_of_ends {cs : List Char} (hfirst : ∀ hne : cs ≠ [], isBlank (cs.head hne) = false)
    (hlast : ∀ hne : cs ≠ [], isBlank (cs.getLast hne) = false) : trim cs = cs := by
  have hreverse : cs.reverse.dropWhile isBlank = cs.reverse := by
    refine dropWhile_of_head fun hne => ?_
    rw [List.head_reverse]
    exact hlast _
  rw [trim, dropWhile_of_head hfirst, hreverse, List.reverse_reverse]

theorem trim_eq_self {cs : List Char} (h : ∀ c ∈ cs, isBlank c = false) : trim cs = cs :=
  trim_of_ends (fun hne => h _ (List.head_mem hne)) (fun hne => h _ (List.getLast_mem hne))

/-- A trimmed text has no blank left at its ends. -/
theorem trim_trim (cs : List Char) : trim (trim cs) = trim cs := by
  apply trim_of_ends
  · intro hne
    -- the first character that stays is the first one of the text without its leading blanks
    have hbegins : trim cs <+: cs.dropWhile isBlank := by
      rw [trim, ← List.reverse_suffix, List.reverse_reverse]
      exact List.dropWhile_suffix isBlank
    have hrest : cs.dropWhile isBlank ≠ [] := by
      intro hnil
      rw [hnil, List.prefix_nil] at hbegins
      exact hne hbegins
    rw [hbegins.head hne]
    exact List.head_dropWhile_not isBlank hrest
  · intro hne
    have hreverse : (trim cs).reverse ≠ [] := List.reverse_ne_nil_iff.2 hne
    rw [← List.head_reverse hreverse]
    simp only [trim, List.reverse_reverse] at hreverse ⊢
    exact List.head_dropWhile_not isBlank hreverse

end Text

namespace DataType

open Text (isBlank splitFirst)

variable {cs : List Char} {type : DataType}

/-! ## Reading in either case -/

theorem upper_upper (cs : List Char) : upper (upper cs) = upper cs := by
  rw [upper, upper, List.map_map]
  exact List.map_congr_left fun c _ => Text.toUpper_toUpper c

theorem dropWhile_upper (cs : List Char) :
    (upper cs).dropWhile isBlank = upper (cs.dropWhile isBlank) := by
  have hblank : isBlank ∘ Char.toUpper = isBlank := funext Text.isBlank_toUpper
  rw [upper, List.dropWhile_map, hblank, upper]

theorem reverse_upper (cs : List Char) : (upper cs).reverse = upper cs.reverse :=
  List.map_reverse.symm

theorem trim_upper (cs : List Char) : Text.trim (upper cs) = upper (Text.trim cs) := by
  rw [Text.trim, Text.trim, dropWhile_upper, reverse_upper, dropWhile_upper, reverse_upper]

theorem splitFirst_upper {p : Char → Bool} (hp : ∀ c, p c.toUpper = p c) (cs : List Char) :
    splitFirst p (upper cs) = (upper (splitFirst p cs).1, (splitFirst p cs).2.map upper) := by
  induction cs with
  | nil => rfl
  | cons c cs ih =>
    change splitFirst p (c.toUpper :: upper cs) = _
    rw [splitFirst, splitFirst, hp, ih]
    cases p c <;> rfl

theorem words_upper (cs : List Char) : Text.words (upper cs) = (Text.words cs).map upper := by
  have hsplit : (upper cs).splitOnP isBlank = (cs.splitOnP isBlank).map upper := by
    induction cs with
    | nil => rfl
    | cons c cs ih =>
      change (c.toUpper :: upper cs).splitOnP isBlank = _
      rw [List.splitOnP_cons_eq_if_modifyHead, List.splitOnP_cons_eq_if_modifyHead,
        Text.isBlank_toUpper, ih]
      cases isBlank c with
      | true => rfl
      | false => cases cs.splitOnP isBlank <;> rfl
  rw [Text.words, Text.words, hsplit, List.filter_map]
  congr 2
  funext ds
  cases ds <;> rfl

theorem digitsFrom_upper (n : Nat) (cs : List Char) :
    Text.Number.digitsFrom n (upper cs) = Text.Number.digitsFrom n cs := by
  induction cs generalizing n with
  | nil => rfl
  | cons c cs ih =>
    change Text.Number.digitsFrom n (c.toUpper :: upper cs) = _
    rw [Text.Number.digitsFrom, Text.Number.digitsFrom, Text.Number.digit?_toUpper]
    cases Text.Number.digit? c with
    | none => rfl
    | some d => exact ih _

theorem read?_upper (cs : List Char) : Text.Number.read? (upper cs) = Text.Number.read? cs := by
  have hdigits : ∀ ds, Text.Number.digits? (upper ds) = Text.Number.digits? ds := by
    intro ds
    cases ds with
    | nil => rfl
    | cons d ds => exact digitsFrom_upper 0 (d :: ds)
  cases cs with
  | nil => rfl
  | cons c cs =>
    change Text.Number.read? (c.toUpper :: upper cs) = _
    by_cases hc : c = '+'
    · have hupper : c.toUpper = '+' := by rw [hc]; rfl
      rw [hupper, hc, Text.Number.read?_plus, Text.Number.read?_plus, hdigits]
    · have hplus : (c.toUpper == '+') = (c == '+') :=
        Text.apply_toUpper (f := (· == '+')) (by decide) c
      have hupper : c.toUpper ≠ '+' := by
        rw [← beq_eq_false_iff_ne, hplus, beq_eq_false_iff_ne]
        exact hc
      rw [Text.Number.read?_of_not_plus fun rest h => hc (List.cons.inj h).1,
        Text.Number.read?_of_not_plus fun rest h => hupper (List.cons.inj h).1]
      exact congrArg (Option.filter _) (hdigits (c :: cs))

theorem splitSize_upper (word : List Char) :
    splitSize (upper word) = (upper (splitSize word).1, upper (splitSize word).2) := by
  have hopen : ∀ c : Char, (c.toUpper == '(') = (c == '(') :=
    Text.apply_toUpper (f := (· == '(')) (by decide)
  have hclose : ∀ c : Char, (c.toUpper == ')') = (c == ')') :=
    Text.apply_toUpper (f := (· == ')')) (by decide)
  unfold splitSize
  rw [splitFirst_upper hopen]
  rcases splitFirst (· == '(') word with ⟨base, _ | rest⟩
  · rfl
  · have hsplit := splitFirst_upper (p := (· == ')')) hclose rest.reverse
    simp only [Option.map_some, reverse_upper, hsplit]
    rcases splitFirst (· == ')') rest.reverse with ⟨after, _ | size⟩
    · rfl
    · simp only [Option.map_some, reverse_upper]

theorem ofParts_upper (base size properties : List Char) :
    (ofParts (upper base) (upper size) (upper properties)).toOption =
      (ofParts base size properties).toOption := by
  have hunsigned : (Text.words (upper properties)).any (upper · = "UNSIGNED".toList) =
      (Text.words properties).any (upper · = "UNSIGNED".toList) := by
    rw [words_upper, List.any_map]
    congr 1
    funext ds
    rw [Function.comp_apply, upper_upper]
  unfold ofParts
  simp only [hunsigned, trim_upper, upper_upper, read?_upper]
  split
  · rfl
  · split <;> rfl
  · rfl
  · rfl

/-- A definition describes the same type in upper case. -/
theorem ofDefinition_upper (cs : List Char) :
    (ofDefinition (upper cs)).toOption = (ofDefinition cs).toOption := by
  have hspace : ∀ c : Char, (c.toUpper == ' ') = (c == ' ') :=
    Text.apply_toUpper (f := (· == ' ')) (by decide)
  unfold ofDefinition
  rw [trim_upper, splitFirst_upper hspace]
  rcases splitFirst (· == ' ') (Text.trim cs) with ⟨word, _ | properties⟩
  · simp only [Option.map_none, splitSize_upper]
    exact ofParts_upper _ _ []
  · simp only [Option.map_some, splitSize_upper]
    exact ofParts_upper _ _ properties

theorem ofDefinition_trim (cs : List Char) : ofDefinition (Text.trim cs) = ofDefinition cs := by
  rw [ofDefinition, Text.trim_trim, ofDefinition]

/-- What a definition describes depends neither on the case of its letters nor on the blanks around
it. -/
theorem ofDefinition_eq_ok_of_upper_trim {cs' : List Char}
    (h : upper (Text.trim cs) = upper (Text.trim cs')) (hok : ofDefinition cs = .ok type) :
    ofDefinition cs' = .ok type := by
  have hsame : (ofDefinition cs').toOption = (ofDefinition cs).toOption := by
    rw [← ofDefinition_trim cs', ← ofDefinition_upper, ← h, ofDefinition_upper, ofDefinition_trim]
  rw [hok] at hsame
  cases hread : ofDefinition cs' with
  | error e => rw [hread] at hsame; cases hsame
  | ok type' => rw [hread] at hsame; cases hsame; rfl

/-! ## The types that a definition describes -/

/-- The types that a definition can describe: an integer has one of the known widths, and a size
fits into 64 bits. -/
def Definable : DataType → Prop
  | integer width _ => width ∈ [1, 2, 3, 4, 6, 8]
  | char size | varChar size | binary size | varBinary size => size < 2 ^ 64
  | blob | transactionId | rollPointer | rowId => True
  | multiByteChar _ | uninterpreted _ _ => False

theorem integerWidth?_mem {base : String} {width : Nat} (h : integerWidth? base = some width) :
    width ∈ [1, 2, 3, 4, 6, 8] := by
  unfold integerWidth? at h
  grind

/-- The types that take a size are four. -/
theorem sized?_cases {base : String} {sized : Nat → DataType} (h : sized? base = some sized) :
    base = "CHAR" ∧ sized = char ∨ base = "VARCHAR" ∧ sized = varChar ∨
      base = "BINARY" ∧ sized = binary ∨ base = "VARBINARY" ∧ sized = varBinary := by
  unfold sized? at h
  split_ifs at h with hchar hvarChar hbinary hvarBinary
  · exact .inl ⟨hchar, (Option.some.inj h).symm⟩
  · exact .inr (.inl ⟨hvarChar, (Option.some.inj h).symm⟩)
  · exact .inr (.inr (.inl ⟨hbinary, (Option.some.inj h).symm⟩))
  · exact .inr (.inr (.inr ⟨hvarBinary, (Option.some.inj h).symm⟩))

/-- The types that take nothing are four. -/
theorem plain?_cases {base : String} (h : plain? base = some type) :
    type = blob ∨ type = transactionId ∨ type = rollPointer ∨ type = rowId := by
  unfold plain? at h
  split_ifs at h with hblob htransactionId hrollPointer hrowId
  · exact .inl (Option.some.inj h).symm
  · exact .inr (.inl (Option.some.inj h).symm)
  · exact .inr (.inr (.inl (Option.some.inj h).symm))
  · exact .inr (.inr (.inr (Option.some.inj h).symm))

theorem definable_of_ofParts {base size properties : List Char}
    (h : ofParts base size properties = .ok type) : type.Definable := by
  simp only [ofParts] at h
  split at h
  next width _ _ hwidth =>
    cases h
    exact integerWidth?_mem hwidth
  next sized _ hsized =>
    split at h
    next n hread =>
      cases h
      have hsize := Text.Number.lt_of_read? hread
      rcases sized?_cases hsized with ⟨-, rfl⟩ | ⟨-, rfl⟩ | ⟨-, rfl⟩ | ⟨-, rfl⟩ <;> exact hsize
    next => cases h
  next hplain =>
    cases h
    rcases plain?_cases hplain with rfl | rfl | rfl | rfl <;> trivial
  next => cases h

/-- A definition describes nothing but definable types. -/
theorem definable_of_ofDefinition (h : ofDefinition cs = .ok type) : type.Definable := by
  unfold ofDefinition at h
  exact definable_of_ofParts h

/-! ## Reading a written form -/

/-- A name and a size in brackets are taken apart at the brackets. -/
theorem splitSize_brackets {base digits : List Char} (hbase : ∀ c ∈ base, c ≠ '(') :
    splitSize (base ++ '(' :: (digits ++ [')'])) = (base, digits) := by
  have hopen : splitFirst (· == '(') (base ++ '(' :: (digits ++ [')'])) =
      (base, some (digits ++ [')'])) := by
    rw [Text.splitFirst_eq_some_iff]
    exact ⟨'(', rfl, rfl, fun c hc => beq_eq_false_iff_ne.2 (hbase c hc)⟩
  have hclose : splitFirst (· == ')') (digits ++ [')']).reverse = ([], some digits.reverse) := by
    rw [Text.splitFirst_eq_some_iff]
    exact ⟨')', List.reverse_append, rfl, by simp⟩
  unfold splitSize
  rw [hopen]
  simp only [hclose, List.reverse_reverse]

/-- A definition without blanks is one word. -/
theorem ofDefinition_word {word base size : List Char} (hword : ∀ c ∈ word, isBlank c = false)
    (hsplit : splitSize word = (base, size)) : ofDefinition word = ofParts base size [] := by
  have hwhole : splitFirst (· == ' ') word = (word, none) := by
    refine Text.splitFirst_of_none fun c hc => ?_
    rw [beq_eq_false_iff_ne]
    rintro rfl
    exact absurd (hword ' ' hc) (by decide)
  unfold ofDefinition
  rw [Text.trim_eq_self hword, hwhole]
  simp only [hsplit, Option.getD_none]

/-- The names of the types that take a size are letters in upper case and name no integer. -/
theorem sized?_base {base : String} {sized : Nat → DataType} (h : sized? base = some sized) :
    integerWidth? base = none ∧ ∀ c ∈ base.toList, c.isUpper = true := by
  rcases sized?_cases h with ⟨rfl, -⟩ | ⟨rfl, -⟩ | ⟨rfl, -⟩ | ⟨rfl, -⟩
  all_goals exact ⟨rfl, List.all_eq_true.1 rfl⟩

theorem ofDefinition_sized {base : String} {sized : Nat → DataType} {n : Nat}
    (h : sized? base = some sized) (hn : n < 2 ^ 64) :
    ofDefinition (base.toList ++ '(' :: (Nat.toDigits 10 n ++ [')'])) = .ok (sized n) := by
  obtain ⟨hinteger, hletters⟩ := sized?_base h
  have hbase : ∀ c ∈ base.toList, isBlank c = false ∧ c ≠ '(' ∧ c.toUpper = c := fun c hc =>
    Text.upper_case_of_isUpper (hletters c hc)
  have hupper : upper base.toList = base.toList :=
    (List.map_congr_left fun c hc => (hbase c hc).2.2).trans (List.map_id _)
  have hdigits : ∀ c ∈ Nat.toDigits 10 n, isBlank c = false := by
    intro c hc
    exact Text.isBlank_of_isDigit (Nat.isDigit_of_mem_toDigits (by decide) (by decide) hc)
  have hword : ∀ c ∈ base.toList ++ '(' :: (Nat.toDigits 10 n ++ [')']), isBlank c = false := by
    intro c hc
    simp only [List.mem_append, List.mem_cons, List.not_mem_nil, or_false] at hc
    rcases hc with hc | rfl | hc | rfl
    · exact (hbase c hc).1
    · decide
    · exact hdigits c hc
    · decide
  rw [ofDefinition_word hword (splitSize_brackets fun c hc => (hbase c hc).2.1)]
  simp only [ofParts, Text.trim_eq_self fun c hc => (hbase c hc).1, hupper, String.ofList_toList,
    hinteger, h, Text.trim_eq_self hdigits, Text.Number.read?_toDigits hn]

/-- The written form of a type that takes a size is its name with the size in brackets. -/
theorem toList_name_sized {base : String} {sized : Nat → DataType} {n : Nat}
    (h : sized? base = some sized) :
    (sized n).name.toList = base.toList ++ '(' :: (Nat.toDigits 10 n ++ [')']) := by
  have hwritten : ∀ opening : String, (opening ++ toString n ++ ")").toList =
      opening.toList ++ (Nat.toDigits 10 n ++ [')']) := by
    intro opening
    rw [String.toList_append, String.toList_append, List.append_assoc,
      Nat.toString_eq_ofList_toDigits, String.toList_ofList]
    rfl
  rcases sized?_cases h with ⟨rfl, rfl⟩ | ⟨rfl, rfl⟩ | ⟨rfl, rfl⟩ | ⟨rfl, rfl⟩
  · exact hwritten "CHAR("
  · exact hwritten "VARCHAR("
  · exact hwritten "BINARY("
  · exact hwritten "VARBINARY("

/-- The written form of a definable type describes it. -/
theorem ofDefinition_name_of_definable (h : type.Definable) :
    ofDefinition type.name.toList = .ok type := by
  have hsized : ∀ base sized n, sized? base = some sized → n < 2 ^ 64 →
      ofDefinition (sized n).name.toList = .ok (sized n) := by
    intro base sized n hbase hn
    rw [toList_name_sized hbase]
    exact ofDefinition_sized hbase hn
  cases type with
  | integer width unsigned =>
    simp only [Definable, List.mem_cons, List.not_mem_nil, or_false] at h
    rcases h with rfl | rfl | rfl | rfl | rfl | rfl <;> cases unsigned <;> rfl
  | char size => exact hsized "CHAR" char size rfl h
  | varChar size => exact hsized "VARCHAR" varChar size rfl h
  | binary size => exact hsized "BINARY" binary size rfl h
  | varBinary size => exact hsized "VARBINARY" varBinary size rfl h
  | blob => rfl
  | transactionId => rfl
  | rollPointer => rfl
  | rowId => rfl
  | multiByteChar _ => exact h.elim
  | uninterpreted _ _ => exact h.elim

/-- The written form of a type is canonical: whatever definition describes the type, its written
form describes it too, and so does every definition that differs in the case of letters and the
blanks around it only. The types that a definition describes are the definable ones. -/
theorem ofDefinition_name (type : DataType) :
    (∀ cs, ofDefinition cs = .ok type →
        type.Definable ∧ ofDefinition type.name.toList = .ok type) ∧
      (type.Definable → ofDefinition type.name.toList = .ok type) ∧
        ∀ cs cs', upper (Text.trim cs) = upper (Text.trim cs') →
          ofDefinition cs = .ok type → ofDefinition cs' = .ok type := by
  refine ⟨?_, ofDefinition_name_of_definable, ?_⟩
  · intro cs hok
    have hdefinable := definable_of_ofDefinition hok
    exact ⟨hdefinable, ofDefinition_name_of_definable hdefinable⟩
  · intro cs cs' hsame hok
    exact ofDefinition_eq_ok_of_upper_trim hsame hok

/-- A size with a sign and a leading zero, in mixed case, after a blank beyond ASCII and before a
line end. -/
theorem ofDefinition_name_varChar :
    ofDefinition "\u00a0varChar(+0100)\n".toList = .ok (varChar 100) ∧
      (varChar 100).name = "VARCHAR(100)" ∧
        ofDefinition (varChar 100).name.toList = .ok (varChar 100) ∧
          ofDefinition " Varchar(100)".toList = .ok (varChar 100) := by
  have hread : ofDefinition "\u00a0varChar(+0100)\n".toList = .ok (varChar 100) := by rfl
  obtain ⟨hname, -, hsame⟩ := ofDefinition_name (varChar 100)
  obtain ⟨-, hwritten⟩ := hname _ hread
  exact ⟨hread, rfl, hwritten, hsame _ _ (by decide) hwritten⟩

end DataType

end Tablespace
