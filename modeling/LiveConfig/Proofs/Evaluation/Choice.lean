import LiveConfig.Proofs.Evaluation.RowOrder

/-! Choosing a conditional value.

Rows are tried in order and in a row its conditional values; the first is chosen of which every
criterion holds. How it is found out whether a criterion holds is left open: it may fail or not come
to an end, and then the choice fails or does not come to an end, unless it has been made before.
`chosen` is the choice when every criterion is decided. -/
namespace LiveConfig

/-- A conditional value of a config and where it stands there. -/
structure Choice where
  rowIndex : Nat
  row : Row
  valueIndex : Nat
  value : ConditionalValue

section Search

variable {m : Type → Type} [Monad m]

/-- The first conditional value of some rows of which every criterion holds. -/
def firstChoice (holds : Row → Criterion → m Bool) (rows : List (Nat × Row)) : m (Option Choice) :=
  rows.findSomeM? fun r => do
    let found ← r.2.values.zipIdx.findM? fun v => v.1.criteria.allM (holds r.2)
    return found.map fun v => ⟨r.1, r.2, v.2, v.1⟩

theorem allM_congr {α : Type} {p p' : α → m Bool} {l : List α} (same : ∀ a ∈ l, p a = p' a) :
    l.allM p = l.allM p' := by
  induction l with
  | nil => rfl
  | cons a l ih =>
    simp only [List.forall_mem_cons] at same
    rw [List.allM_cons, List.allM_cons, same.1, ih same.2]

theorem findM?_congr {α : Type} {p p' : α → m Bool} {l : List α} (same : ∀ a ∈ l, p a = p' a) :
    l.findM? p = l.findM? p' := by
  induction l with
  | nil => rfl
  | cons a l ih =>
    simp only [List.forall_mem_cons] at same
    rw [List.findM?, List.findM?, same.1, ih same.2]

theorem findSomeM?_congr {α β : Type} {f f' : α → m (Option β)} {l : List α}
    (same : ∀ a ∈ l, f a = f' a) : l.findSomeM? f = l.findSomeM? f' := by
  induction l with
  | nil => rfl
  | cons a l ih =>
    simp only [List.forall_mem_cons] at same
    rw [List.findSomeM?_cons, List.findSomeM?_cons, same.1, ih same.2]

/-- Only the criteria of the rows matter. -/
theorem firstChoice_congr {holds holds' : Row → Criterion → m Bool} {rows : List (Nat × Row)}
    (same : ∀ r ∈ rows, ∀ v ∈ r.2.values, ∀ c ∈ v.criteria, holds r.2 c = holds' r.2 c) :
    firstChoice holds rows = firstChoice holds' rows := by
  apply findSomeM?_congr
  intro r hr
  have inRow : r.2.values.zipIdx.findM? (fun v => v.1.criteria.allM (holds r.2)) =
      r.2.values.zipIdx.findM? fun v => v.1.criteria.allM (holds' r.2) := by
    apply findM?_congr
    intro v hv
    exact allM_congr (same r hr v.1 (List.fst_mem_of_mem_zipIdx hv))
  rw [inRow]

end Search

/-- The first conditional value of some rows of which every criterion holds, where it is decided
which do. -/
def chosen (holds : Row → Criterion → Bool) (rows : List (Nat × Row)) : Option Choice :=
  rows.findSome? fun r =>
    (r.2.values.zipIdx.find? fun v => v.1.criteria.all (holds r.2)).map fun v =>
      ⟨r.1, r.2, v.2, v.1⟩

theorem firstChoice_pure {m : Type → Type} [Monad m] [LawfulMonad m]
    (holds : Row → Criterion → Bool) (rows : List (Nat × Row)) :
    firstChoice (m := m) (fun row c => pure (holds row c)) rows = pure (chosen holds rows) := by
  unfold firstChoice chosen
  simp only [List.allM_pure, List.findM?_pure, pure_bind]
  exact List.findSomeM?_pure

theorem firstChoice_of_decided {m : Type → Type} [Monad m] [LawfulMonad m]
    {holds : Row → Criterion → m Bool} {decided : Row → Criterion → Bool} {rows : List (Nat × Row)}
    (decides : ∀ r ∈ rows, ∀ v ∈ r.2.values, ∀ c ∈ v.criteria,
      holds r.2 c = pure (decided r.2 c)) :
    firstChoice holds rows = pure (chosen decided rows) := by
  have same : firstChoice holds rows = firstChoice (fun row c => pure (decided row c)) rows :=
    firstChoice_congr decides
  rw [same, firstChoice_pure]

theorem chosen_congr {holds holds' : Row → Criterion → Bool} {rows : List (Nat × Row)}
    (same : ∀ r ∈ rows, ∀ v ∈ r.2.values, ∀ c ∈ v.criteria, holds r.2 c = holds' r.2 c) :
    chosen holds rows = chosen holds' rows := by
  have decided : firstChoice (fun row c => some (holds row c)) rows = some (chosen holds' rows) :=
    firstChoice_of_decided fun r hr v hv c hc => congrArg some (same r hr v hv c hc)
  exact Option.some.inj ((firstChoice_pure holds rows).symm.trans decided)

/-- The first conditional value of some rows of which every criterion holds: each one in an earlier
row, and each earlier one in its row, has a criterion that does not hold. -/
structure Choice.IsFirst (holds : Row → Criterion → Prop) (rows : List (Nat × Row))
    (choice : Choice) : Prop where
  inRows : ∃ before after, rows = before ++ (choice.rowIndex, choice.row) :: after ∧
    ∀ r ∈ before, ∀ v ∈ r.2.values, ∃ c ∈ v.criteria, ¬ holds r.2 c
  inRow : choice.row.values[choice.valueIndex]? = some choice.value
  holding : ∀ c ∈ choice.value.criteria, holds choice.row c
  earlier : ∀ i < choice.valueIndex, ∀ v, choice.row.values[i]? = some v →
    ∃ c ∈ v.criteria, ¬ holds choice.row c

section Failing

variable {ε : Type} {holds : Row → Criterion → Except ε Bool} {rows : List (Nat × Row)}

theorem mem_of_findM? {α : Type} {p : α → Except ε Bool} {l : List α} {a : α}
    (found : l.findM? p = .ok (some a)) : a ∈ l := by
  induction l with
  | nil => cases found
  | cons b l ih =>
    rw [List.findM?] at found
    cases tested : p b with
    | error e =>
      rw [tested] at found
      cases found
    | ok holds =>
      rw [tested] at found
      cases holds with
      | true =>
        cases found
        exact List.mem_cons_self
      | false => exact List.mem_cons_of_mem b (ih found)

/-- A choice that could be made is one of the conditional values of the rows. -/
theorem mem_of_firstChoice {choice : Choice} (found : firstChoice holds rows = .ok (some choice)) :
    (choice.rowIndex, choice.row) ∈ rows ∧ choice.value ∈ choice.row.values := by
  unfold firstChoice at found
  induction rows with
  | nil => cases found
  | cons r rows ih =>
    rw [List.findSomeM?_cons] at found
    cases searched : r.2.values.zipIdx.findM? fun v => v.1.criteria.allM (holds r.2) with
    | error e =>
      rw [searched] at found
      cases found
    | ok inRow =>
      rw [searched] at found
      cases inRow with
      | none =>
        obtain ⟨inRows, member⟩ := ih found
        exact ⟨List.mem_cons_of_mem r inRows, member⟩
      | some v =>
        cases found
        exact ⟨List.mem_cons_self, List.fst_mem_of_mem_zipIdx (mem_of_findM? searched)⟩

end Failing

section Decided

variable {holds : Row → Criterion → Bool} {rows : List (Nat × Row)}

theorem all_eq_false_iff {row : Row} {cs : List Criterion} :
    cs.all (holds row) = false ↔ ∃ c ∈ cs, ¬ holds row c = true := by
  rw [List.all_eq_false]

/-- The search of one row finds a conditional value where it stands in the row. -/
theorem find?_zipIdx_eq_some_iff {α : Type} {p : α → Bool} {l : List α} {a : α} {i : Nat} :
    (l.zipIdx.find? fun x => p x.1) = some (a, i) ↔
      l[i]? = some a ∧ p a = true ∧ ∀ j < i, ∀ b, l[j]? = some b → p b = false := by
  rw [List.find?_eq_some_iff_getElem]
  constructor
  · rintro ⟨holds, k, inside, found, before⟩
    simp only [List.getElem_zipIdx, Nat.zero_add, Prod.mk.injEq] at found
    obtain ⟨rfl, rfl⟩ := found
    simp only [List.length_zipIdx] at inside
    refine ⟨List.getElem?_eq_getElem inside, holds, ?_⟩
    intro j earlier b at_
    obtain ⟨_, rfl⟩ := List.getElem?_eq_some_iff.mp at_
    have failed := before j earlier
    simpa only [List.getElem_zipIdx, Bool.not_eq_true'] using failed
  · rintro ⟨found, holds, before⟩
    obtain ⟨inside, rfl⟩ := List.getElem?_eq_some_iff.mp found
    refine ⟨holds, i, by simpa only [List.length_zipIdx] using inside, ?_, ?_⟩
    · simp only [List.getElem_zipIdx, Nat.zero_add]
    · intro j earlier
      have failed := before j earlier _ (List.getElem?_eq_getElem (Nat.lt_trans earlier inside))
      simpa only [List.getElem_zipIdx, Bool.not_eq_true'] using failed

theorem chosen_eq_none_iff : chosen holds rows = none ↔
    ∀ r ∈ rows, ∀ v ∈ r.2.values, ∃ c ∈ v.criteria, ¬ holds r.2 c = true := by
  unfold chosen
  rw [List.findSome?_eq_none_iff]
  refine forall₂_congr fun r _ => ?_
  rw [Option.map_eq_none_iff, List.find?_eq_none]
  constructor
  · intro failed v member
    obtain ⟨i, inside, rfl⟩ := List.mem_iff_getElem.mp member
    have atIndex : (r.2.values[i], i) ∈ r.2.values.zipIdx :=
      List.mem_zipIdx_iff_getElem?.mpr (List.getElem?_eq_getElem inside)
    exact all_eq_false_iff.mp (Bool.eq_false_iff.mpr (failed _ atIndex))
  · intro failed v member
    have inRow := List.fst_mem_of_mem_zipIdx member
    exact Bool.eq_false_iff.mp (all_eq_false_iff.mpr (failed v.1 inRow))

theorem chosen_eq_some_iff {choice : Choice} : chosen holds rows = some choice ↔
    choice.IsFirst (fun row c => holds row c = true) rows := by
  unfold chosen
  rw [List.findSome?_eq_some_iff]
  constructor
  · rintro ⟨before, r, after, rfl, found, passed⟩
    obtain ⟨⟨v, i⟩, searched, rfl⟩ := Option.map_eq_some_iff.mp found
    obtain ⟨inRow, holding, earlier⟩ :=
      (find?_zipIdx_eq_some_iff
        (p := fun v : ConditionalValue => v.criteria.all (holds r.2))).mp searched
    have failed : chosen holds before = none := List.findSome?_eq_none_iff.mpr passed
    refine ⟨⟨before, after, rfl, chosen_eq_none_iff.mp failed⟩, inRow,
      List.all_eq_true.mp holding, ?_⟩
    intro i before v found
    exact all_eq_false_iff.mp (earlier i before v found)
  · rintro ⟨⟨before, after, rows, failed⟩, inRow, holding, earlier⟩
    have searched : (choice.row.values.zipIdx.find? fun v => v.1.criteria.all (holds choice.row)) =
        some (choice.value, choice.valueIndex) :=
      (find?_zipIdx_eq_some_iff (p := fun v => v.criteria.all (holds choice.row))).mpr
        ⟨inRow, List.all_eq_true.mpr holding,
          fun i before v found => all_eq_false_iff.mpr (earlier i before v found)⟩
    have passed : chosen holds before = none := chosen_eq_none_iff.mpr failed
    refine ⟨before, _, after, rows, ?_, List.findSome?_eq_none_iff.mp passed⟩
    simp only [searched]
    rfl

end Decided
end LiveConfig
