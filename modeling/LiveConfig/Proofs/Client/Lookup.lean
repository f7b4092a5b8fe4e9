import LiveConfig.Client.Read
import LiveConfig.Proofs.Context.Flattening
import LiveConfig.Proofs.Evaluation.Identified

/-! What reads look properties up in.

A read that brings contexts, or is made in a scope, merges them anew, and each merging may list the
contexts in an order of its own. The reads that bring none share what was merged for them. So what
two reads of the same contexts see is the same exactly if they share it or if no name is ambiguous
among what is merged; where also every distribution finds an identity, they evaluate a key alike. -/
namespace LiveConfig.Client

variable {c : Client} {w w' : World} {ambient ambient' passed passed' : Option ContextSet}
variable {key : String}

/-- Reads of these contexts share what they see, or it is free of the order of the contexts. -/
def Clear (c : Client) (ambient passed : Option ContextSet) : Prop :=
  (ambient = none ∧ passed = none) ∨ (c.mergedFor ambient passed).Unambiguous

theorem clear_iff : c.Clear ambient passed ↔ ∀ l l',
    (c.lookupFor l ambient passed).flattened.Alike
      (c.lookupFor l' ambient passed).flattened := by
  by_cases shared : ambient = none ∧ passed = none
  · obtain ⟨rfl, rfl⟩ := shared
    constructor
    · intro _ l l'
      exact .refl _
    · intro _
      exact .inl ⟨rfl, rfl⟩
  · have own (l : Listing) :
        c.lookupFor l ambient passed = (c.mergedFor ambient passed).listed l := by
      apply if_neg
      simpa using shared
    simp only [Clear, shared, false_or, own]
    exact (LookupContext.listed_alike_iff _).symm

/-- The evaluation that a read performs. -/
def evaluation (c : Client) (w : World) (ambient passed : Option ContextSet) (key : String) :
    Evaluation Match :=
  c.snapshot.tryEvaluateDrawing Murmur3.fraction (w.draws 0) (w.clock 0)
    (c.lookupFor w.listing ambient passed) key

theorem evaluation_of_alike
    (identified : c.snapshot.Identified key (c.lookupFor w.listing ambient passed))
    (alike : (c.lookupFor w.listing ambient passed).flattened.Alike
      (c.lookupFor w'.listing ambient' passed').flattened)
    (time : w.clock 0 = w'.clock 0) :
    c.evaluation w ambient passed key = c.evaluation w' ambient' passed' key := by
  unfold evaluation
  rw [time]
  exact identified.tryEvaluateDrawing_eq alike _ _ _ _

/-- Two reads of the same contexts at one time, whatever is drawn and listed in each. -/
theorem Clear.evaluation_eq (clear : c.Clear ambient passed)
    (identified : c.snapshot.Identified key (c.lookupFor w.listing ambient passed))
    (time : w.clock 0 = w'.clock 0) :
    c.evaluation w ambient passed key = c.evaluation w' ambient passed key :=
  evaluation_of_alike identified (clear_iff.mp clear w.listing w'.listing) time

/-- Two contexts that meet at the city of a user. -/
def twoCities : ContextSet := .ofList
  [⟨"user", .ofList [("home.city", (Value.string "Oslo").plain)]⟩,
    ⟨"user.home", .ofList [("city", (Value.string "Rome").plain)]⟩]

/-- Callers in Rome. -/
def romans : Criterion := ⟨"user.home.city", .isOneOf, some (Value.stringList ["Rome"]).plain⟩

/-- A read where the clock stands and nothing else is to be found. -/
def still (l : Listing) : World := ⟨fun _ => 0, fun _ _ => .zero false, fun _ => none, l⟩

end LiveConfig.Client
