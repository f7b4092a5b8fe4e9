import LiveConfig.Proofs.Evaluation.Contents

/-! Keys whose distributions all find an identity.

Positions are drawn only for distributions that find no identity to hash. Where every distribution
that a key leads to finds one, the key is evaluated alike with all sources of positions, and for all
look-up contexts that show the same. -/
namespace LiveConfig.Snapshot

open Relation (ReflTransGen)

variable {s : Snapshot} {key segment : String} {context context' : LookupContext}

theorem conclude_of_identified {v : ConfigValue}
    (identified : ∀ d, v.value = .weighted d → (d.identity? context.flattened).isSome = true)
    (sharder : Sharder) (draws draws' : Draws) (now : Int64) (key : String) :
    ((s.inquiry (.resolve sharder draws) now context).conclude key v : Drawing _) =
      (s.inquiry (.resolve sharder draws') now context).conclude key v := by
  unfold Inquiry.conclude inquiry
  cases weighted : v.value with
  | weighted d =>
    obtain ⟨identity, found⟩ := Option.isSome_iff_exists.mp (identified d weighted)
    simp only [Inquiry.locate, found]
  | _ => rfl

/-- Every distribution that a key leads to finds an identity to hash. -/
def Identified (s : Snapshot) (key : String) (context : LookupContext) : Prop :=
  ∀ k, ReflTransGen s.Refers key k → ∀ e, s.get? k = some e →
    ∀ r ∈ e.config.applicableRows s.environment, ∀ d ∈ r.2.distributions,
      (d.identity? context.flattened).isSome = true

theorem Identified.refers (identified : s.Identified key context)
    (refers : s.Refers key segment) : s.Identified segment context :=
  fun k reached => identified k (.head refers reached)

theorem identified_of_entries
    (found : ∀ entry ∈ s.elements.entries, ∀ r ∈ entry.2.config.applicableRows s.environment,
      ∀ d ∈ r.2.distributions, (d.identity? context.flattened).isSome = true) :
    s.Identified key context :=
  fun k _ e present => found (k, e) (Table.mem_entries_of_get? present)

/-- Then it makes no difference what is drawn. -/
theorem Identified.near (identified : s.Identified key context) (sharder : Sharder)
    (draws draws' : Draws) (now : Int64) :
    (s.inquiry (.resolve sharder draws) now context).Near Prod.mk
      (s.inquiry (.resolve sharder draws') now context) key := by
  apply Inquiry.near_of_same
  · rfl
  · intros
    rfl
  · intros
    rfl
  · intro k reached e present r applicable v inRow
    apply conclude_of_identified
    intro d weighted
    exact identified k reached e present r applicable d (Row.mem_distributions inRow weighted)

theorem Identified.tryEvaluateDrawing_eq (identified : s.Identified key context)
    (alike : context.flattened.Alike context'.flattened) (sharder : Sharder)
    (draws draws' : Draws) (now : Int64) : s.tryEvaluateDrawing sharder draws now context key =
      s.tryEvaluateDrawing sharder draws' now context' key := by
  have shown : (s.inquiry (.resolve sharder draws') now context).Alike
      (s.inquiry (.resolve sharder draws') now context') := ⟨.refl _, rfl, alike, rfl, rfl⟩
  have drawn := (identified.near sharder draws draws' now).resolve_eq (maxSegmentDepth + 1)
    .outermost
  calc s.tryEvaluateDrawing sharder draws now context key
      = s.tryEvaluateDrawing sharder draws' now context key := congrArg Drawing.evaluation drawn
    _ = s.tryEvaluateDrawing sharder draws' now context' key := shown.answer key

end LiveConfig.Snapshot
