import Mathlib.Data.List.Nodup
import Mathlib.Data.List.Perm.Basic
import LiveConfig.Table

/-! Tables that hold the same.

A table lists its entries in some order, but what it means is its look-up function. Two tables hold
the same exactly if the entries of the one are a reordering of those of the other, so a statement
about every table that holds the same is one about every order in which its entries can be visited.
In particular any entry may be the last one. -/
namespace LiveConfig.Table

variable {α : Type} {t u : Table α} {key : String} {value : α}

/-- The same values under the same keys, in whatever order each lists them. -/
def Alike (t u : Table α) : Prop := ∀ key, t.get? key = u.get? key

theorem Alike.refl (t : Table α) : t.Alike t := fun _ => rfl

theorem mem_of_lookup {es : List (String × α)} (found : es.lookup key = some value) :
    (key, value) ∈ es := by
  obtain ⟨before, after, entries, _⟩ := List.lookup_eq_some_iff.mp found
  simp [entries]

theorem exists_lookup {es : List (String × α)} (member : (key, value) ∈ es) :
    ∃ v, es.lookup key = some v := by
  cases found : es.lookup key with
  | some v => exact ⟨v, rfl⟩
  | none =>
    have apart := List.lookup_eq_none_iff.mp found (key, value) member
    simp at apart

theorem mem_entries_iff {e : String × α} : e ∈ t.entries ↔ t.get? e.1 = some e.2 := by
  constructor
  · intro member
    exact get?_of_mem_entries member
  · intro found
    exact mem_entries_of_get? found

theorem alike_iff_perm : t.Alike u ↔ t.entries.Perm u.entries := by
  have once : t.entries.Nodup := t.nodup.of_map Prod.fst
  have once' : u.entries.Nodup := u.nodup.of_map Prod.fst
  rw [List.perm_ext_iff_of_nodup once once']
  constructor
  · intro alike e
    rw [mem_entries_iff, mem_entries_iff, alike e.1]
  · intro same key
    apply Option.ext
    intro value
    have member := same (key, value)
    rwa [mem_entries_iff, mem_entries_iff] at member

/-- What is put under a new key stands at the end. -/
theorem put_of_absent {es : List (String × α)} (absent : key ∉ es.map Prod.fst) :
    put key value es = es ++ [(key, value)] := by
  induction es with
  | nil => rfl
  | cons e es ih =>
    obtain ⟨k, v⟩ := e
    simp only [List.map_cons, List.mem_cons, not_or] at absent
    simp [put, Ne.symm absent.1, ih absent.2]

theorem eq_of_entries (same : t.entries = u.entries) : t = u := by
  obtain ⟨es, nodup⟩ := t
  obtain ⟨es', nodup'⟩ := u
  cases same
  rfl

/-- A table is made of its entries in their order. -/
theorem ofList_entries (t : Table α) : ofList t.entries = t := by
  have appended (es : List (String × α)) (u : Table α)
      (distinct : ((u.entries ++ es).map Prod.fst).Nodup) :
      (u.insertAll es).entries = u.entries ++ es := by
    induction es generalizing u with
    | nil => exact (List.append_nil _).symm
    | cons e es ih =>
      have absent : e.1 ∉ u.entries.map Prod.fst := by
        rw [List.map_append, List.nodup_append] at distinct
        intro held
        exact distinct.2.2 e.1 held e.1 List.mem_cons_self rfl
      have grown : (u.insert e.1 e.2).entries = u.entries ++ [e] := put_of_absent absent
      have rest := ih (u.insert e.1 e.2) (by rw [grown, List.append_assoc]; exact distinct)
      rw [grown, List.append_assoc] at rest
      exact rest
  exact eq_of_entries (appended t.entries empty t.nodup)

section Map

variable {β : Type} (f : α → β)

theorem put_map (key : String) (value : α) (es : List (String × α)) :
    (put key value es).map (fun e => (e.1, f e.2)) =
      put key (f value) (es.map fun e => (e.1, f e.2)) := by
  induction es with
  | nil => rfl
  | cons e es ih =>
    by_cases same : e.1 = key
    · simp [put, same]
    · simp [put, same, ih]

theorem map_insert (t : Table α) (key : String) (value : α) :
    (t.insert key value).map f = (t.map f).insert key (f value) :=
  eq_of_entries (put_map f key value t.entries)

theorem map_erase (t : Table α) (key : String) : (t.erase key).map f = (t.map f).erase key := by
  apply eq_of_entries
  unfold map erase
  simp only [List.filter_map]
  rfl

theorem map_insertAll (t : Table α) (es : List (String × α)) :
    (t.insertAll es).map f = (t.map f).insertAll (es.map fun e => (e.1, f e.2)) := by
  induction es generalizing t with
  | nil => rfl
  | cons e es ih =>
    have rest := ih (t.insert e.1 e.2)
    rw [map_insert] at rest
    exact rest

end Map

theorem alike_reorder (t : Table α) {es : List (String × α)} (moved : es.Perm t.entries) :
    t.Alike (t.reorder es moved) := alike_iff_perm.mpr moved.symm

/-- The entry of a key can be moved to the end. -/
theorem erase_append_perm (found : t.get? key = some value) :
    ((t.erase key).entries ++ [(key, value)]).Perm t.entries := by
  have absent : key ∉ (t.erase key).entries.map Prod.fst := by
    intro held
    have present : ((t.erase key).get? key).isSome = true := mem_keys_iff.mp held
    simp at present
  rw [← put_of_absent absent]
  apply (alike_iff_perm (t := (t.erase key).insert key value)).mp
  intro k
  by_cases same : k = key
  · simp [same, found]
  · simp [same]

end LiveConfig.Table
