import Mathlib.Data.List.Perm.Basic
import Mathlib.Order.MinMax
import LiveConfig.Proofs.Layers.Order

/-! The highwater mark.

The mark is computed from the configs that are held, from the mark before and from the id that was
accepted; ids of stale deliveries have no part in it. It is nevertheless the greatest id that was
ever delivered: a stale delivery is older than the config that makes it stale, and no config is held
whose id is above the mark. -/
namespace LiveConfig

/-- The greatest of zero and the ids of some arrivals. -/
def highestId (arrivals : List Arrival) : Int := (arrivals.map fun a => a.id.toInt).foldr max 0

theorem highestId_nonneg (arrivals : List Arrival) : 0 ≤ highestId arrivals := by
  unfold highestId
  induction arrivals with
  | nil => exact Int.le_refl 0
  | cons a rest ih => exact Int.le_trans ih (le_max_right _ _)

theorem highestId_append (first second : List Arrival) :
    highestId (first ++ second) = max (highestId first) (highestId second) := by
  induction first with
  | nil => exact (max_eq_right (highestId_nonneg second)).symm
  | cons a first ih =>
    unfold highestId at ih ⊢
    rw [List.cons_append, List.map_cons, List.foldr_cons, ih, List.map_cons, List.foldr_cons,
      max_assoc]

theorem highestId_perm {arrivals arrivals' : List Arrival} (same : arrivals.Perm arrivals') :
    highestId arrivals = highestId arrivals' :=
  (same.map _).foldr_eq 0

namespace Layers

theorem toInt_greater (a b : Int64) : (greater a b).toInt = max a.toInt b.toInt := by
  unfold greater
  split
  · rename_i le
    exact (max_eq_right (Int64.le_iff_toInt_le.mp le)).symm
  · rename_i gt
    rw [Int64.le_iff_toInt_le] at gt
    omega

theorem foldl_greater_le {ids : List Int64} {first : Int64} {bound : Int}
    (start : first.toInt ≤ bound) (all : ∀ id ∈ ids, id.toInt ≤ bound) :
    (ids.foldl greater first).toInt ≤ bound := by
  induction ids generalizing first with
  | nil => exact start
  | cons id ids ih =>
    rw [List.forall_mem_cons] at all
    refine ih ?_ all.2
    rw [toInt_greater]
    exact max_le start all.1

theorem greatestId_le {t : Table Element} {bound : Int} (nonneg : 0 ≤ bound)
    (held : ∀ key e, t.get? key = some e → e.config.id.toInt ≤ bound) :
    (greatestId t).toInt ≤ bound := by
  have ids : ∀ id ∈ t.values.map (fun e => e.config.id), id.toInt ≤ bound := by
    intro id member
    obtain ⟨e, value, rfl⟩ := List.mem_map.mp member
    obtain ⟨entry, inTable, rfl⟩ := List.mem_map.mp value
    exact held entry.1 entry.2 (Table.get?_of_mem_entries inTable)
  unfold greatestId
  split
  · exact nonneg
  · rename_i id rest listed
    rw [listed, List.forall_mem_cons] at ids
    exact foldl_greater_le ids.1 ids.2

/-- The mark is at least zero and every id that is held. -/
structure Marked (l : Layers) : Prop where
  nonneg : 0 ≤ l.highwater.toInt
  bounds : ∀ key e, l.delivered.get? key = some e → e.config.id.toInt ≤ l.highwater.toInt

theorem marked_start (defaults overrides : List Element) : (start defaults overrides).Marked :=
  ⟨Int.le_refl 0, fun _ _ held => absurd held (Option.some_ne_none _).symm⟩

/-- Marking leads to the accepted id where what is held is no further than that. -/
theorem highwater_mark {l : Layers} {accepted : Int64} (nonneg : 0 ≤ l.highwater.toInt)
    (held : ∀ key e, l.delivered.get? key = some e →
      e.config.id.toInt ≤ max l.highwater.toInt accepted.toInt) :
    (l.mark accepted).highwater.toInt = max l.highwater.toInt accepted.toInt := by
  have greatest := greatestId_le (le_max_of_le_left nonneg) held
  simp only [mark, toInt_greater]
  omega

/-- Whatever is held after a delivery is no newer than the mark before and the delivery. -/
theorem Marked.held_le {l : Layers} (marked : l.Marked) {a : Arrival} {key : String} {e : Element}
    (held : (l.apply a.1 a.2).result.2.delivered.get? key = some e) :
    e.config.id.toInt ≤ max l.highwater.toInt a.id.toInt := by
  rcases held_apply held with before | rfl
  · exact le_max_of_le_left (marked.bounds key e before)
  · exact le_max_right _ _

theorem id_lt_of_newer {l : Layers} {a : Arrival} {e : Element}
    (newer : l.newer? a.key a.id = some e) :
    l.delivered.get? a.key = some e ∧ a.id.toInt < e.config.id.toInt := by
  obtain ⟨held, found, greater⟩ := Option.bind_eq_some_iff.mp newer
  split at greater
  · rename_i older
    cases greater
    exact ⟨found, Int64.lt_iff_toInt_lt.mp older⟩
  · cases greater

/-- A delivery raises the mark to its id, also when it is stale and its id is left out. -/
theorem Marked.highwater_apply {l : Layers} (marked : l.Marked) (a : Arrival) :
    (l.apply a.1 a.2).result.2.highwater.toInt = max l.highwater.toInt a.id.toInt := by
  have held : ∀ key e, (l.apply a.1 a.2).result.2.delivered.get? key = some e →
      e.config.id.toInt ≤ max l.highwater.toInt a.id.toInt := fun _ _ => marked.held_le
  rw [result_apply] at held ⊢
  cases newer : l.newer? a.key a.id with
  | some e =>
    obtain ⟨found, older⟩ := id_lt_of_newer newer
    have bound := marked.bounds a.key e found
    have kept : (l.mark 0).highwater.toInt = max l.highwater.toInt 0 :=
      highwater_mark marked.nonneg fun key e held => le_max_of_le_left (marked.bounds key e held)
    change (l.mark 0).highwater.toInt = _
    rw [kept, max_eq_left marked.nonneg, max_eq_left (by omega)]
  | none =>
    simp only [newer] at held ⊢
    split
    · rename_i tombstone
      simp only [tombstone, if_true] at held
      exact highwater_mark marked.nonneg held
    · rename_i config
      simp only [config, Bool.false_eq_true, if_false] at held
      exact highwater_mark marked.nonneg held

theorem Marked.apply {l : Layers} (marked : l.Marked) (a : Arrival) :
    (l.apply a.1 a.2).result.2.Marked := by
  have raised := marked.highwater_apply a
  refine ⟨?_, fun key e held => ?_⟩
  · rw [raised]
    exact le_max_of_le_left marked.nonneg
  · rw [raised]
    exact marked.held_le held

theorem Marked.applyAll {l : Layers} (marked : l.Marked) (arrivals : List Arrival) :
    (l.applyAll arrivals).result.Marked ∧
      (l.applyAll arrivals).result.highwater.toInt =
        max l.highwater.toInt (highestId arrivals) := by
  induction arrivals generalizing l with
  | nil => exact ⟨marked, (max_eq_left marked.nonneg).symm⟩
  | cons a rest ih =>
    obtain ⟨kept, highest⟩ := ih (marked.apply a)
    rw [applyAll_cons]
    refine ⟨kept, ?_⟩
    rw [highest, marked.highwater_apply a, max_assoc]
    rfl

end Layers

/-- After a run of deliveries the mark is the greatest of zero and their ids, whatever their order;
further ones do not lower it, no config is held with a greater id, and a client has the same mark
however the deliveries are divided into its updates. -/
theorem highwater_eq_highestId (config : ClientConfig) (arrivals : List Arrival) :
    let run := fun arrivals =>
      ((Layers.start config.bundledDefaults config.localOverrides).applyAll arrivals).result
    (run arrivals).highwater.toInt = highestId arrivals ∧
    (∀ more, (run arrivals).highwater ≤ (run (arrivals ++ more)).highwater) ∧
    (∀ arrivals', arrivals.Perm arrivals' →
      (run arrivals').highwater = (run arrivals).highwater) ∧
    (∀ key e, (run arrivals).delivered.get? key = some e →
      e.config.id ≤ (run arrivals).highwater) ∧
    (∀ us, Client.arrivalsOf us = arrivals →
      ((Client.start config).applyEach us).result.highwater = (run arrivals).highwater) := by
  intro run
  have marked := fun arrivals => (Layers.marked_start config.bundledDefaults
    config.localOverrides).applyAll arrivals
  have mark : ∀ arrivals, (run arrivals).highwater.toInt = highestId arrivals := fun arrivals =>
    (marked arrivals).2.trans (max_eq_right (highestId_nonneg arrivals))
  refine ⟨mark arrivals, fun more => ?_, fun arrivals' same => ?_, fun key e held => ?_, ?_⟩
  · rw [Int64.le_iff_toInt_le, mark, mark, highestId_append]
    exact le_max_left _ _
  · rw [← Int64.toInt_inj, mark, mark, highestId_perm same]
  · exact Int64.le_iff_toInt_le.mpr ((marked arrivals).1.bounds key e held)
  · rintro us rfl
    unfold Client.highwater
    rw [Client.layers_applyEach]
    rfl

/-- A tombstone that removes the newest config leaves the mark at its own id, below which later
deliveries are held. -/
theorem highwater_of_deletion :
    let config : ClientConfig := ⟨none, .empty, [], [], 0, false, fun _ => .asMerged⟩
    let arrivals := [Arrival.version (-4), .version 5, .deletion 7, .version 6]
    let run := fun arrivals =>
      ((Layers.start config.bundledDefaults config.localOverrides).applyAll arrivals).result
    (run arrivals).highwater = 7 ∧ highestId arrivals = 7 ∧
      ∃ e, (run arrivals).delivered.get? "k" = some e ∧ e.config.id = 6 ∧
        e.config.id ≤ (run arrivals).highwater := by
  intro config arrivals run
  have marks := highwater_eq_highestId config arrivals
  have highest : highestId arrivals = 7 := by decide
  refine ⟨Int64.toInt_inj.mp (marks.1.trans highest), highest, ?_⟩
  have held : ((run arrivals).delivered.get? "k").map (·.config.id) = some 6 := by decide
  obtain ⟨e, found, id⟩ := Option.map_eq_some_iff.mp held
  exact ⟨e, found, id, marks.2.2.2.1 "k" e found⟩

end LiveConfig
