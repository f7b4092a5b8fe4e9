import LiveConfig.Proofs.Evaluation.Relevance

/-! Only what is named is read of a context.

An evaluation looks a property up under the name that a criterion gives, and an identity under the
name that a distribution is hashed by, in the rows that apply of the configs that the key leads to.
Callers who hold the same under all of these names get the same answer, with the same draws and the
same log, whatever else they hold: there is no other way from a context into an evaluation. -/
namespace LiveConfig

open Relation (ReflTransGen)

/-- The names that a row looks up: those of its criteria, and those that its distributions are
hashed by. -/
def Row.names (row : Row) : List String :=
  (row.values.flatMap fun v => v.criteria.map Criterion.property) ++
    row.distributions.filterMap Distribution.hashBy

theorem Row.mem_names_of_criterion {row : Row} {v : ConditionalValue} {c : Criterion}
    (inRow : v ∈ row.values) (guards : c ∈ v.criteria) : c.property ∈ row.names := by
  apply List.mem_append_left
  exact List.mem_flatMap.mpr ⟨v, inRow, List.mem_map_of_mem guards⟩

theorem Row.mem_names_of_distribution {row : Row} {d : WeightedValues} {name : String}
    (carried : d ∈ row.distributions) (hashed : d.hashBy = some name) : name ∈ row.names := by
  apply List.mem_append_right
  exact List.mem_filterMap.mpr ⟨d, carried, hashed⟩

namespace Snapshot

variable {s : Snapshot} {key : String} {c c' : LookupContext}

/-- An applicable row of a config that a key leads to looks a name up. -/
def Reads (s : Snapshot) (key name : String) : Prop :=
  ∃ k e r, ReflTransGen s.Refers key k ∧ s.get? k = some e ∧
    r ∈ e.config.applicableRows s.environment ∧ name ∈ r.2.names

theorem near_of_named (agree : ∀ name, s.Reads key name → c.get? name = c'.get? name)
    (selection : Selection) (now : Int64) :
    (s.inquiry selection now c).Near Prod.mk (s.inquiry selection now c') key := by
  have same : ∀ k, ReflTransGen s.Refers key k → ∀ e, s.get? k = some e →
      ∀ r ∈ e.config.applicableRows s.environment, ∀ name ∈ r.2.names,
        c.flattened.get? name = c'.flattened.get? name :=
    fun k reached e present r applicable name named =>
      agree name ⟨k, e, r, reached, present, applicable, named⟩
  apply Inquiry.near_of_same
  · rfl
  · intro k _
    rfl
  · intro k reached e present r applicable v inRow criterion guards
    have seen := same k reached e present r applicable _
      (Row.mem_names_of_criterion inRow guards)
    simp only [Inquiry.outside, inquiry, seen]
  · intro k reached e present r applicable v inRow
    apply Inquiry.conclude_congr
    · rfl
    · intro d weighted
      apply Distribution.identity?_congr
      intro name hashed
      exact same k reached e present r applicable name
        (Row.mem_names_of_distribution (Row.mem_distributions inRow weighted) hashed)

/-- Callers who agree on every name that is read for a key get the same answer: the same error, or
the same match with the same record of criteria. -/
theorem tryEvaluateDrawing_of_named
    (agree : ∀ name, s.Reads key name → c.get? name = c'.get? name) (sharder : Sharder)
    (draws : Draws) (now : Int64) :
    s.tryEvaluateDrawing sharder draws now c key =
      s.tryEvaluateDrawing sharder draws now c' key := by
  have near := near_of_named agree (.resolve sharder draws) now
  unfold tryEvaluateDrawing Inquiry.answer
  rw [near.resolve_eq]

/-- A flag that is split by user for the members of a segment, which are those of the gold tier. -/
def pinned : Snapshot :=
  let split : Value := .weighted
    ⟨[⟨1, (Value.string "a").plain⟩, ⟨1, (Value.string "b").plain⟩], some "user.key"⟩
  let flag : Config := ⟨"flag", 2, .featureFlag, none,
    [⟨none, .empty, [⟨[⟨"", .inSegment, some (Value.string "members").plain⟩], split.plain⟩]⟩], []⟩
  let members : Config := ⟨"members", 1, .segment, none,
    [⟨none, .empty, [⟨[⟨"tier", .isOneOf, some (Value.stringList ["gold"]).plain⟩],
      (Value.bool true).plain⟩]⟩], []⟩
  ⟨index [⟨flag, ⟨.remote, none⟩⟩, ⟨members, ⟨.remote, none⟩⟩], none, .empty⟩

theorem pinned_reads {name : String} (reads : pinned.Reads "flag" name) :
    name ∈ ["", "user.key", "tier"] := by
  obtain ⟨k, e, r, reached, present, applicable, named⟩ := reads
  have met : k ∈ ["flag", "members"] := mem_of_reached List.mem_cons_self (by decide) reached
  have names : ∀ entry ∈ pinned.elements.entries,
      ∀ r ∈ entry.2.config.applicableRows none, ∀ n ∈ r.2.names, n ∈ ["", "user.key", "tier"] := by
    decide
  exact names (k, e) (Table.mem_entries_of_get? present) r applicable name named

/-- A gold user, with some other property of the user. -/
def goldUser (scope : Option String) (other value : String) : LookupContext :=
  ⟨scope, .ofList [
    ⟨"user", .ofList [("key", (Value.string "u1").plain), (other, (Value.string value).plain)]⟩,
    ⟨"", .ofList [("tier", (Value.string "gold").plain)]⟩]⟩

/-- Neither the namespace nor the other property of the user is read: the user gets one variant. -/
theorem pinned_of_named : ∃ m, m.variantIndex.isSome ∧
    (pinned.tryEvaluateDrawing Murmur3.fraction (fun _ => .zero false) 0
      (goldUser none "email" "u1@b.c") "flag").outcome = .ok m ∧
    (pinned.tryEvaluateDrawing Murmur3.fraction (fun _ => .zero false) 0
      (goldUser (some "app") "plan" "free") "flag").outcome = .ok m := by
  have agree : ∀ name, pinned.Reads "flag" name →
      (goldUser none "email" "u1@b.c").get? name =
        (goldUser (some "app") "plan" "free").get? name := by
    intro name reads
    have named := pinned_reads reads
    simp only [List.mem_cons, List.not_mem_nil, or_false] at named
    rcases named with rfl | rfl | rfl
    · rfl
    · rfl
    · rfl
  have same := tryEvaluateDrawing_of_named agree Murmur3.fraction (fun _ => .zero false) 0
  have first : (pinned.tryEvaluateDrawing Murmur3.fraction (fun _ => .zero false) 0
      (goldUser none "email" "u1@b.c") "flag").outcome.toOption.map (·.variantIndex.isSome) =
        some true := by decide +kernel
  obtain ⟨m, given, variant⟩ := Drawing.exists_ok_of_map first
  exact ⟨m, variant, given, same ▸ given⟩

end Snapshot
end LiveConfig
