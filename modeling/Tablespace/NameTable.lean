/-!
# Tables of named entries

A table keeps one entry a name, in the order in which the names came first; a later entry of a name
takes the place of the earlier one.

Main statements: `get?_put_self` and `get?_put_of_ne`, what is looked up is what was put last;
`ofList_eq_self`, a list of entries with different names is its own table, and `get?_of_mem`, there
every entry is found.
-/

namespace Tablespace

/-- Entries with their names. -/
abbrev NameTable (α : Type) := List (String × α)

namespace NameTable

variable {α : Type}

/-- The table with an entry for a name. -/
def put : NameTable α → String → α → NameTable α
  | [], name, a => [(name, a)]
  | (n, b) :: rest, name, a => if n = name then (n, a) :: rest else (n, b) :: put rest name a

/-- The entry for a name. -/
def get? (table : NameTable α) (name : String) : Option α := table.lookup name

/-- The table of a list of entries. -/
def ofList (entries : List (String × α)) : NameTable α :=
  entries.foldl (fun table e => table.put e.1 e.2) []

/-- The entries in the order of their names. -/
def sorted (table : NameTable α) : List (String × α) :=
  table.mergeSort fun a b => decide (a.1 ≤ b.1)

/-! ## Looking up -/

@[simp]
theorem get?_put_self (table : NameTable α) (name : String) (a : α) :
    (table.put name a).get? name = some a := by
  induction table with
  | nil => simp [put, get?]
  | cons e rest ih =>
    obtain ⟨n, b⟩ := e
    by_cases h : n = name
    · simp [put, get?, h]
    · have hne : (name == n) = false := by simpa using Ne.symm h
      simpa [put, get?, h, List.lookup_cons, hne] using ih

theorem get?_put_of_ne {name other : String} (h : other ≠ name) (table : NameTable α) (a : α) :
    (table.put name a).get? other = table.get? other := by
  have hother : (other == name) = false := by simpa using h
  induction table with
  | nil => simp [put, get?, List.lookup_cons, hother]
  | cons e rest ih =>
    obtain ⟨n, b⟩ := e
    by_cases hn : n = name
    · simp [put, get?, hn, List.lookup_cons, hother]
    · cases hcompare : other == n with
      | true => simp [put, get?, hn, List.lookup_cons, hcompare]
      | false => simpa [put, get?, hn, List.lookup_cons, hcompare] using ih

/-! ## Lists as tables -/

/-- An entry for a new name comes last. -/
theorem put_of_notMem {table : NameTable α} {name : String} (a : α)
    (h : name ∉ table.map Prod.fst) : table.put name a = table ++ [(name, a)] := by
  induction table with
  | nil => rfl
  | cons e rest ih =>
    obtain ⟨n, b⟩ := e
    simp only [List.map_cons, List.mem_cons, not_or] at h
    rw [put, if_neg (Ne.symm h.1), ih h.2, List.cons_append]

/-- Entries with different new names are added to a table at its end. -/
theorem foldl_put {entries : List (String × α)} {table : NameTable α}
    (h : ((table ++ entries).map Prod.fst).Nodup) :
    entries.foldl (fun table e => table.put e.1 e.2) table = table ++ entries := by
  induction entries generalizing table with
  | nil => simp
  | cons e entries ih =>
    have hnot : e.1 ∉ table.map Prod.fst := by
      simp only [List.map_append, List.map_cons] at h
      intro hmem
      exact (List.nodup_append.1 h).2.2 _ hmem _ (List.mem_cons_self) rfl
    rw [List.foldl_cons, put_of_notMem _ hnot, ih (by simpa using h)]
    simp

/-- A list of entries with different names is its own table. -/
theorem ofList_eq_self {entries : List (String × α)} (h : (entries.map Prod.fst).Nodup) :
    ofList entries = entries := by
  rw [ofList, foldl_put (by simpa using h), List.nil_append]

/-- Where names are different, every entry is found under its name. -/
theorem get?_of_mem {table : NameTable α} (h : (table.map Prod.fst).Nodup) {name : String} {a : α}
    (hmem : (name, a) ∈ table) : table.get? name = some a := by
  induction table with
  | nil => cases hmem
  | cons e rest ih =>
    obtain ⟨n, b⟩ := e
    rw [List.map_cons, List.nodup_cons] at h
    rcases List.mem_cons.1 hmem with heq | hrest
    · cases heq
      simp [get?]
    · have hne : name ≠ n := by
        rintro rfl
        exact h.1 (List.mem_map.2 ⟨_, hrest, rfl⟩)
      have hcompare : (name == n) = false := by simpa using hne
      simpa [get?, List.lookup_cons, hcompare] using ih h.2 hrest

end NameTable

end Tablespace
