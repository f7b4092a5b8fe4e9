import LiveConfig.Proofs.Evaluation.Record

/-! What a match takes from the conditional value that was selected, for any source of positions.

Draws may differ from one segment to the next, so an evaluation has no single result. Whatever is
drawn, a match that it ends with stands for one conditional value of an applicable row: its indexes
point there, and its value is that one's, or a variant of it if that one is a distribution. -/
namespace LiveConfig

open Drawing (Ends)

/-- The conditional value that a match points at. -/
def Match.conditional? (m : Match) : Option ConditionalValue := do
  let row ← m.element.config.rows[m.rowIndex]?
  row.values[m.valueIndex]?

namespace Inquiry

variable {q : Inquiry} {inner : Scope → String → Drawing Match} {scope : Scope} {key : String}

theorem ends_firstHolding (vs : List ConditionalValue) (i : Nat) :
    Ends (q.firstHolding inner scope key i vs) fun r => ∀ found, r = .ok (some found) →
      ∃ k v, found.1 = i + k ∧ vs[k]? = some v ∧ found.2.1 = v.value := by
  induction vs generalizing i with
  | nil =>
    refine Drawing.ends_pure ?_
    rintro _ ⟨⟩
  | cons v vs ih =>
    unfold firstHolding
    refine (Drawing.ends_any _).bind (fun judged _ => ?_) ?_
    · cases judged with
      | some criteria =>
        refine Drawing.ends_pure ?_
        rintro _ ⟨⟩
        exact ⟨0, v, rfl, rfl, rfl⟩
      | none =>
        refine (ih (i + 1)).mono fun r later found given => ?_
        obtain ⟨k, w, index, place, value⟩ := later found given
        exact ⟨k + 1, w, by omega, place, value⟩
    · rintro _ _ _ ⟨⟩

theorem ends_firstRow (rows : List (Nat × Row)) :
    Ends (q.firstRow inner scope key rows) fun r => ∀ found, r = .ok (some found) →
      ∃ row v, (found.1, row) ∈ rows ∧ row.values[found.2.1]? = some v ∧ found.2.2.1 = v.value := by
  induction rows with
  | nil =>
    refine Drawing.ends_pure ?_
    rintro _ ⟨⟩
  | cons row rows ih =>
    unfold firstRow
    refine (ends_firstHolding row.2.values 0).bind (fun inRow holds => ?_) ?_
    · cases inRow with
      | some found =>
        obtain ⟨k, v, index, place, value⟩ := holds found rfl
        rw [Nat.zero_add] at index
        refine Drawing.ends_pure ?_
        rintro _ ⟨⟩
        exact ⟨row.2, v, List.mem_cons_self, index ▸ place, value⟩
      | none =>
        refine ih.mono fun r later found given => ?_
        obtain ⟨other, v, member, rest⟩ := later found given
        exact ⟨other, v, List.mem_cons_of_mem row member, rest⟩
    · rintro _ _ _ ⟨⟩

/-- A match stands for a conditional value: it points at it and has the value that is settled for it
at some draw. -/
def Selects (q : Inquiry) (m : Match) (v : ConditionalValue) : Prop :=
  m.conditional? = some v ∧ ∃ n, q.settled n m.key v.value = .ok (m.value, m.variantIndex)

theorem ends_tryRows (e : Element) (environment : Option Int64) :
    Ends (q.tryRows inner scope e (e.config.applicableRows environment)) fun r =>
      ∀ m, r = .ok m → m.element = e ∧ ∃ v, q.Selects m v := by
  unfold tryRows
  refine (ends_firstRow (e.config.applicableRows environment)).bind (fun found holds => ?_) ?_
  · cases found with
    | none =>
      refine Drawing.ends_throw ?_
      rintro _ ⟨⟩
    | some found =>
      obtain ⟨rowIndex, valueIndex, value, criteria⟩ := found
      obtain ⟨row, v, applicable, inRow, rfl⟩ := holds _ rfl
      have concluded : Ends (q.conclude e.key v.value) fun r =>
          ∃ n, r = q.settled n e.key v.value := ends_conclude fun n => ⟨n, rfl⟩
      refine concluded.bind (fun settled ⟨n, same⟩ => ?_) ?_
      · refine Drawing.ends_pure ?_
        rintro _ ⟨⟩
        refine ⟨rfl, v, ?_, n, same.symm⟩
        simp only [Match.conditional?, Config.getElem?_of_applicable applicable, inRow,
          Option.bind_eq_bind, Option.bind_some]
      · rintro _ _ _ ⟨⟩
  · rintro _ _ _ ⟨⟩

theorem ends_selected (budget : Nat) (scope : Scope) (key : String) :
    Ends (q.resolve budget scope key) fun r =>
      ∀ m, r = .ok m → q.snapshot.get? key = some m.element ∧ ∃ v, q.Selects m v := by
  cases budget with
  | zero =>
    refine Drawing.ends_throw ?_
    rintro _ ⟨⟩
  | succ budget =>
    unfold resolve
    cases present : q.snapshot.get? key with
    | none =>
      refine Drawing.ends_throw ?_
      rintro _ ⟨⟩
    | some e =>
      refine (ends_tryRows e q.snapshot.environment).mono fun r holds m given => ?_
      obtain ⟨rfl, selected⟩ := holds m given
      exact ⟨rfl, selected⟩

/-- With distributions resolved, a match takes the value that was selected or a variant of it. -/
theorem Selects.takes {m : Match} {v : ConditionalValue} {sharder : Sharder} {draws : Draws}
    (selects : q.Selects m v) (resolves : q.selection = .resolve sharder draws) :
    m.Takes v.value := by
  obtain ⟨_, n, settled⟩ := selects
  exact takes_of_settled resolves settled

end Inquiry
end LiveConfig
