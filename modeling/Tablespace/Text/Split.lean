/-!
# Splitting a text

A text is split at the first character with a property.

Main statement: `splitFirst_eq_some_iff`, the parts and the character between them make up the text,
and the first part has no character with the property.
-/

namespace Tablespace.Text

/-- The text before the first character with a property, and the text after it if there is one. -/
def splitFirst (p : Char → Bool) : List Char → List Char × Option (List Char)
  | [] => ([], none)
  | c :: cs =>
    if p c then ([], some cs)
    else
      let (before, after) := splitFirst p cs
      (c :: before, after)

/-- A text without such a character stays whole. -/
theorem splitFirst_of_none {p : Char → Bool} {cs : List Char} (h : ∀ c ∈ cs, p c = false) :
    splitFirst p cs = (cs, none) := by
  induction cs with
  | nil => rfl
  | cons c cs ih =>
    rw [splitFirst, if_neg (by simp [h c]), ih fun d hd => h d (List.mem_cons_of_mem c hd)]

/-- The parts and the character between them make up the text, and the first part has no character
with the property. -/
theorem splitFirst_eq_some_iff {p : Char → Bool} {cs before after : List Char} :
    splitFirst p cs = (before, some after) ↔
      ∃ c, cs = before ++ c :: after ∧ p c = true ∧ ∀ d ∈ before, p d = false := by
  induction cs generalizing before with
  | nil => simp [splitFirst]
  | cons c cs ih =>
    by_cases hc : p c = true
    · rw [splitFirst, if_pos hc]
      constructor
      · intro h
        obtain ⟨rfl, rfl⟩ : [] = before ∧ cs = after := by simpa using h
        exact ⟨c, rfl, hc, by simp⟩
      · rintro ⟨d, heq, -, hbefore⟩
        cases before with
        | nil => simp_all
        | cons e before =>
          obtain ⟨rfl, -⟩ : c = e ∧ cs = before ++ d :: after := by simpa using heq
          simp [hc] at hbefore
    · rw [splitFirst, if_neg hc]
      constructor
      · intro h
        obtain ⟨hbefore, hafter⟩ : c :: (splitFirst p cs).1 = before ∧
            (splitFirst p cs).2 = some after := by simpa using h
        obtain ⟨d, heq, hd, hall⟩ := (@ih (splitFirst p cs).1).1 (by rw [← hafter])
        refine ⟨d, ?_, hd, ?_⟩
        · rw [← hbefore, List.cons_append, ← heq]
        · rw [← hbefore]
          simpa [hc] using hall
      · rintro ⟨d, heq, hd, hall⟩
        cases before with
        | nil =>
          obtain ⟨rfl, -⟩ : c = d ∧ cs = after := by simpa using heq
          exact absurd hd hc
        | cons e before =>
          obtain ⟨hhead, htail⟩ : c = e ∧ cs = before ++ d :: after := by simpa using heq
          have := ih.2 ⟨d, htail, hd, fun x hx => hall x (List.mem_cons_of_mem e hx)⟩
          simp [this, hhead]

end Tablespace.Text
