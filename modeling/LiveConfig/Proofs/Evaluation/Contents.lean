import LiveConfig.Proofs.Evaluation.Relevance
import LiveConfig.Proofs.Table

/-! Evaluations read contents, not listings.

An evaluation looks configs and properties up by name and never walks through a table. So two
inquiries over tables that hold the same have the same answer, with the same draws and the same log,
in whatever orders their tables list what they hold. -/
namespace LiveConfig

namespace Inquiry

/-- The same question, put to tables that hold the same. -/
structure Alike (q q' : Inquiry) : Prop where
  elements : q.snapshot.elements.Alike q'.snapshot.elements
  environment : q.snapshot.environment = q'.snapshot.environment
  properties : q.properties.Alike q'.properties
  selection : q.selection = q'.selection
  now : q.now = q'.now

variable {q q' : Inquiry}

theorem Alike.resolve (alike : q.Alike q') (budget : Nat) (scope : Scope) (key : String) :
    q.resolve budget scope key = q'.resolve budget scope key := by
  apply Near.resolve_eq
  apply near_of_same alike.environment fun k _ => alike.elements k
  · intro k _ e _ r _ v _ c _
    simp only [outside, alike.properties c.property, alike.now]
  · intro k _ e _ r _ v _
    apply conclude_congr alike.selection
    intro d _
    exact Distribution.identity?_congr fun name _ => alike.properties name

theorem Alike.answer (alike : q.Alike q') (key : String) : q.answer key = q'.answer key := by
  unfold Inquiry.answer
  rw [alike.resolve]

end Inquiry
end LiveConfig
