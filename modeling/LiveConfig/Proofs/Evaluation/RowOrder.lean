import Mathlib.Data.List.Nodup
import Mathlib.Data.List.Range
import LiveConfig.Rule.Basic

/-! The order of rows.

The rows that apply under an environment are tried in the order of their indexes in the document,
those for the environment before those for none. No index occurs twice, since a row is for one
environment or for none. `documentRows` reads them off the document, index by index, and is what the
evaluator tries. -/
namespace LiveConfig

namespace Config

/-- The indexes of the rows for an environment, in the order of the document. -/
def indexesFor (c : Config) (environment : Option Int64) : List Nat :=
  (List.range c.rows.length).filter fun i => c.rows[i]?.map Row.environment == some environment

/-- The indexes of the rows for the environment, if there is one, and then of those for none. -/
def documentOrder (c : Config) (environment : Option Int64) : List Nat :=
  (if environment.isSome then c.indexesFor environment else []) ++ c.indexesFor none

/-- The rows at these indexes. -/
def documentRows (c : Config) (environment : Option Int64) : List (Nat × Row) :=
  (c.documentOrder environment).filterMap fun i => c.rows[i]?.map fun row => (i, row)

variable {c : Config} {environment : Option Int64}

theorem mem_indexesFor {i : Nat} :
    i ∈ c.indexesFor environment ↔ c.rows[i]?.map Row.environment = some environment := by
  unfold indexesFor
  rw [List.mem_filter, List.mem_range, beq_iff_eq]
  constructor
  · exact fun both => both.2
  · intro found
    obtain ⟨row, present, _⟩ := Option.map_eq_some_iff.mp found
    exact ⟨(List.getElem?_eq_some_iff.mp present).1, found⟩

theorem indexes_filter (c : Config) (environment : Option Int64) :
    (c.indexedRows.filter fun r => r.2.environment == environment).map Prod.fst =
      c.indexesFor environment := by
  have inPlace : ∀ r ∈ c.indexedRows, (r.2.environment == environment) =
      (c.rows[r.1]?.map Row.environment == some environment) := by
    intro r member
    obtain ⟨row, indexed, rfl⟩ := List.mem_map.mp member
    rw [List.mem_zipIdx_iff_getElem?.mp indexed]
    rfl
  have indexes : c.indexedRows.map Prod.fst = List.range c.rows.length := by
    unfold indexedRows
    rw [List.map_map, List.range_eq_range']
    exact List.zipIdx_map_snd 0 c.rows
  unfold indexesFor
  rw [List.filter_congr inPlace, ← indexes, List.filter_map]
  rfl

theorem rowOrder_eq (c : Config) (environment : Option Int64) :
    c.rowOrder environment = c.documentOrder environment := by
  have default : (c.indexedRows.filter fun r => r.2.environment.isNone).map Prod.fst =
      c.indexesFor none := by
    rw [← indexes_filter]
    congr 2
    funext r
    cases r.2.environment <;> rfl
  unfold rowOrder applicableRows documentOrder
  rw [List.map_append, default]
  cases environment with
  | none => simp
  | some id => simp [← indexes_filter]

theorem getElem?_of_applicable {i : Nat} {row : Row}
    (applicable : (i, row) ∈ c.applicableRows environment) : c.rows[i]? = some row := by
  have indexed : (i, row) ∈ c.indexedRows := by
    rcases List.mem_append.mp applicable with own | default
    · exact (List.mem_filter.mp own).1
    · exact (List.mem_filter.mp default).1
  obtain ⟨⟨_, _⟩, listed, same⟩ := List.mem_map.mp indexed
  cases same
  exact List.mem_zipIdx_iff_getElem?.mp listed

theorem documentRows_eq (c : Config) (environment : Option Int64) :
    c.documentRows environment = c.applicableRows environment := by
  have kept : ∀ r ∈ c.applicableRows environment,
      ((fun i => c.rows[i]?.map fun row => (i, row)) ∘ Prod.fst) r = some r := by
    intro r applicable
    simp [getElem?_of_applicable applicable]
  rw [documentRows, ← rowOrder_eq, rowOrder, List.filterMap_map, List.filterMap_congr kept,
    List.filterMap_some]

theorem nodup_documentOrder (c : Config) (environment : Option Int64) :
    (c.documentOrder environment).Nodup := by
  have once (environment : Option Int64) : (c.indexesFor environment).Nodup :=
    List.nodup_range.filter _
  unfold documentOrder
  refine List.nodup_append.mpr ⟨?_, once none, ?_⟩
  · split
    · exact once environment
    · exact List.nodup_nil
  · intro i own j default
    rintro rfl
    split at own
    · rename_i given
      have same := (mem_indexesFor.mp own).symm.trans (mem_indexesFor.mp default)
      cases same
      cases given
    · cases own

end Config

end LiveConfig
