import Mathlib.Data.List.Nodup
import SwiftDerive.Entries

/-! # Entries as mappings

Entries in which no key comes twice are those of a mapping: what stands under the keys determines
them up to their order. Putting a value under a key keeps the keys distinct.
-/

namespace SwiftDerive

set_option autoImplicit false

variable {α : Type}

def keysOf (entries : List (String × α)) : List String :=
  entries.map Prod.fst

def DistinctKeys (entries : List (String × α)) : Prop :=
  (keysOf entries).Nodup

instance (entries : List (String × α)) : Decidable (DistinctKeys entries) :=
  inferInstanceAs (Decidable (keysOf entries).Nodup)

@[simp] theorem keysOf_nil : keysOf ([] : List (String × α)) = [] := rfl

@[simp] theorem keysOf_cons (entry : String × α) (entries : List (String × α)) :
    keysOf (entry :: entries) = entry.1 :: keysOf entries := rfl

@[simp] theorem keysOf_append (as bs : List (String × α)) :
    keysOf (as ++ bs) = keysOf as ++ keysOf bs := List.map_append

theorem lookup_cons_ite (key : String) (entry : String × α) (entries : List (String × α)) :
    (entry :: entries).lookup key = if key = entry.1 then some entry.2 else entries.lookup key := by
  obtain ⟨k, v⟩ := entry
  by_cases h : key = k
  · simp [h]
  · simp [List.lookup_cons, h, beq_false_of_ne h]

theorem lookup_graph (f : String → α) (keys : List String) (key : String) :
    (keys.map fun k => (k, f k)).lookup key = if key ∈ keys then some (f key) else none := by
  induction keys with
  | nil => rfl
  | cons k keys ih =>
    rw [List.map_cons, lookup_cons_ite, ih]
    by_cases h : key = k
    · simp [h]
    · simp [h]

theorem lookup_mapValues {β : Type} (f : α → β) (key : String) (entries : List (String × α)) :
    (entries.map fun entry => (entry.1, f entry.2)).lookup key = (entries.lookup key).map f := by
  induction entries with
  | nil => rfl
  | cons entry entries ih =>
    rw [List.map_cons, lookup_cons_ite, lookup_cons_ite, ih]
    split <;> rfl

theorem distinctKeys_nil : DistinctKeys ([] : List (String × α)) := List.nodup_nil

theorem distinctKeys_singleton (entry : String × α) : DistinctKeys [entry] :=
  List.nodup_singleton entry.1

theorem distinctKeys_cons_iff (entry : String × α) (entries : List (String × α)) :
    DistinctKeys (entry :: entries) ↔ entry.1 ∉ keysOf entries ∧ DistinctKeys entries :=
  List.nodup_cons

theorem mem_keysOf_of_mem {key : String} {value : α} {entries : List (String × α)}
    (h : (key, value) ∈ entries) : key ∈ keysOf entries :=
  List.mem_map.mpr ⟨(key, value), h, rfl⟩

theorem mem_keysOf_iff_lookup (key : String) (entries : List (String × α)) :
    key ∈ keysOf entries ↔ ∃ value, entries.lookup key = some value := by
  induction entries with
  | nil => simp
  | cons entry entries ih =>
    rw [lookup_cons_ite, keysOf_cons, List.mem_cons, ih]
    by_cases h : key = entry.1 <;> simp [h]

theorem lookup_eq_none_iff_keysOf (key : String) (entries : List (String × α)) :
    entries.lookup key = none ↔ key ∉ keysOf entries := by
  rw [mem_keysOf_iff_lookup]
  cases entries.lookup key <;> simp

theorem mem_of_lookup {key : String} {value : α} {entries : List (String × α)}
    (h : entries.lookup key = some value) : (key, value) ∈ entries := by
  obtain ⟨before, behind, rfl, _⟩ := List.lookup_eq_some_iff.mp h
  exact List.mem_append_right _ List.mem_cons_self

theorem DistinctKeys.lookup_eq_some_iff {entries : List (String × α)} (h : DistinctKeys entries)
    (key : String) (value : α) : entries.lookup key = some value ↔ (key, value) ∈ entries := by
  constructor
  · exact mem_of_lookup
  · induction entries with
    | nil => simp
    | cons entry entries ih =>
      obtain ⟨k, v⟩ := entry
      obtain ⟨hNew, hRest⟩ := (distinctKeys_cons_iff _ _).mp h
      intro hMem
      rcases List.mem_cons.mp hMem with hHead | hTail
      · cases hHead
        simp
      · have hNe : key ≠ k := by
          rintro rfl
          exact hNew (mem_keysOf_of_mem hTail)
        rw [lookup_cons_ite, if_neg hNe]
        exact ih hRest hTail

theorem perm_of_lookup_eq {as bs : List (String × α)} (hAs : DistinctKeys as)
    (hBs : DistinctKeys bs) (h : ∀ key, as.lookup key = bs.lookup key) : as.Perm bs := by
  apply (List.perm_ext_iff_of_nodup (List.Nodup.of_map _ hAs) (List.Nodup.of_map _ hBs)).mpr
  rintro ⟨key, value⟩
  rw [← hAs.lookup_eq_some_iff, ← hBs.lookup_eq_some_iff, h]

theorem DistinctKeys.of_perm {as bs : List (String × α)} (h : DistinctKeys as)
    (hPerm : as.Perm bs) : DistinctKeys bs :=
  (hPerm.map Prod.fst).nodup_iff.mp h

theorem DistinctKeys.lookup_of_perm {as bs : List (String × α)} (h : DistinctKeys as)
    (hPerm : as.Perm bs) (key : String) : as.lookup key = bs.lookup key := by
  apply Option.ext
  intro value
  rw [h.lookup_eq_some_iff, (h.of_perm hPerm).lookup_eq_some_iff, hPerm.mem_iff]

theorem DistinctKeys.filter {entries : List (String × α)} (h : DistinctKeys entries)
    (p : String × α → Bool) : DistinctKeys (entries.filter p) :=
  (List.filter_sublist.map Prod.fst).nodup h

theorem lookup_filter_key (p : String → Bool) (key : String) (entries : List (String × α)) :
    (entries.filter fun entry => p entry.1).lookup key =
      if p key then entries.lookup key else none := by
  induction entries with
  | nil => simp
  | cons entry entries ih =>
    by_cases hKept : p entry.1 = true
    · rw [List.filter_cons_of_pos (by simpa using hKept), lookup_cons_ite, lookup_cons_ite, ih]
      by_cases h : key = entry.1 <;> simp [h, hKept]
    · rw [List.filter_cons_of_neg (by simpa using hKept), lookup_cons_ite, ih]
      by_cases h : key = entry.1 <;> simp [h, hKept]

/-! ## Putting values under keys -/

theorem putEntry_of_notMem {key : String} {entries : List (String × α)}
    (h : key ∉ keysOf entries) (value : α) : putEntry key value entries = entries ++ [(key, value)] := by
  induction entries with
  | nil => rfl
  | cons entry entries ih =>
    obtain ⟨k, v⟩ := entry
    obtain ⟨hNe, hRest⟩ := not_or.mp (mt List.mem_cons.mpr h)
    rw [putEntry, if_neg (Ne.symm hNe), ih hRest, List.cons_append]

theorem keysOf_putEntry (key : String) (value : α) (entries : List (String × α)) :
    keysOf (putEntry key value entries) =
      if key ∈ keysOf entries then keysOf entries else keysOf entries ++ [key] := by
  induction entries with
  | nil => rfl
  | cons entry entries ih =>
    obtain ⟨k, v⟩ := entry
    by_cases hk : k = key
    · simp [putEntry, hk]
    · by_cases hMem : key ∈ keysOf entries
      · simp [putEntry, hk, ih, hMem]
      · simp [putEntry, hk, ih, hMem, Ne.symm hk]

theorem DistinctKeys.putEntry {entries : List (String × α)} (h : DistinctKeys entries)
    (key : String) (value : α) : DistinctKeys (putEntry key value entries) := by
  unfold DistinctKeys
  rw [keysOf_putEntry]
  split
  · exact h
  · next hNew => exact List.nodup_append.mpr ⟨h, List.nodup_singleton key, by grind⟩

theorem foldl_putEntry_of_distinct {entries : List (String × α)} (merged : List (String × α))
    (h : DistinctKeys (merged ++ entries)) :
    entries.foldl (fun merged entry => putEntry entry.1 entry.2 merged) merged =
      merged ++ entries := by
  induction entries generalizing merged with
  | nil => simp
  | cons entry entries ih =>
    have hNew : entry.1 ∉ keysOf merged := by
      intro hMem
      rw [DistinctKeys, keysOf_append] at h
      exact (List.nodup_append.mp h).2.2 entry.1 hMem entry.1 List.mem_cons_self rfl
    have hMoved : merged ++ entry :: entries = merged ++ [entry] ++ entries := by simp
    rw [List.foldl_cons, putEntry_of_notMem hNew, hMoved]
    exact ih (merged ++ [entry]) (hMoved ▸ h)

theorem mergeEntries_of_distinct {entries : List (String × α)} (h : DistinctKeys entries) :
    mergeEntries entries = entries :=
  foldl_putEntry_of_distinct [] h

theorem lookup_mergeEntries (key : String) (entries : List (String × α)) :
    (mergeEntries entries).lookup key = entries.reverse.lookup key := by
  suffices hFrom : ∀ merged : List (String × α),
      (entries.foldl (fun merged entry => putEntry entry.1 entry.2 merged) merged).lookup key =
        (entries.reverse ++ merged).lookup key by
    simpa [mergeEntries] using hFrom []
  induction entries with
  | nil => simp
  | cons entry entries ih =>
    intro merged
    rw [List.foldl_cons, ih, List.reverse_cons, List.append_assoc, List.lookup_append,
      List.lookup_append, lookup_putEntry, List.singleton_append, lookup_cons_ite]

end SwiftDerive
