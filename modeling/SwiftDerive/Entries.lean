/-! # Entries

Lists of keys with values, in the order in which the keys first came.
-/

namespace SwiftDerive

set_option autoImplicit false

/-- The entries with a value put under a key: in the place of the key if it is there, else at the
end. -/
def putEntry {α : Type} (key : String) (value : α) : List (String × α) → List (String × α)
  | [] => [(key, value)]
  | (k, v) :: entries =>
    if k = key then (k, value) :: entries else (k, v) :: putEntry key value entries

/-- The entries put one after the other, so that of equal keys the last value counts, in the
first place. -/
def mergeEntries {α : Type} (entries : List (String × α)) : List (String × α) :=
  entries.foldl (fun merged entry => putEntry entry.1 entry.2 merged) []

theorem lookup_putEntry {α : Type} (key : String) (value : α) (k : String)
    (entries : List (String × α)) :
    (putEntry key value entries).lookup k =
      if k = key then some value else entries.lookup k := by
  induction entries with
  | nil =>
    by_cases h : k = key
    · simp [putEntry, h]
    · simp [putEntry, List.lookup_cons, h, beq_false_of_ne h]
  | cons entry entries ih =>
    obtain ⟨l, v⟩ := entry
    by_cases hl : l = key
    · subst hl
      by_cases h : k = l
      · simp [putEntry, h]
      · simp [putEntry, List.lookup_cons, h, beq_false_of_ne h]
    · by_cases h : k = l
      · subst h
        simp [putEntry, hl]
      · simp [putEntry, List.lookup_cons, hl, beq_false_of_ne h, ih]

end SwiftDerive
