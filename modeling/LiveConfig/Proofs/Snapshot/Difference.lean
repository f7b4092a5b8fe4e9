import LiveConfig.Proofs.Evaluation.Ending
import LiveConfig.Proofs.Snapshot.Configured
import LiveConfig.Proofs.Text.ByteOrder

/-! What the events of a diff tell.

Each event of a diff is about one key. Between timeless snapshots the events are determined by the
values that the keys of either snapshot evaluate to for the default contexts: there is one event for
every key whose values are not equal, with these two values, and the events are in the order of the
bytes of their keys. So the diff of the way back consists of the same events with their values
exchanged. A value that holds NaN differs from every value, and its key has an event in each
diff. -/
namespace LiveConfig

/-- The event of the way back. -/
def ChangeEvent.reversed (e : ChangeEvent) : ChangeEvent := ⟨e.key, e.new, e.old⟩

namespace Snapshot

/-- What a key evaluates to for the default contexts of the snapshot, distributions being kept; a
key that is absent or has no rule that applies evaluates to nothing. -/
def unselected? (s : Snapshot) (scope : Option String) (now : Int64) (key : String) :
    Option ConfigValue :=
  (s.evaluateUnselected now ⟨scope, s.defaultContext⟩ key).outcome.toOption.map Match.value

/-- One event for each key of either snapshot whose values are not equal, with these values, in the
order of the bytes of the keys. -/
structure Tells (scope : Option String) (now : Int64) (old new : Snapshot)
    (events : List ChangeEvent) : Prop where
  ordered : events.Pairwise fun e e' => Text.bytes e.key < Text.bytes e'.key
  keys (key : String) : key ∈ events.map ChangeEvent.key ↔
    (old.contains key = true ∨ new.contains key = true) ∧
      (old.unselected? scope now key == new.unselected? scope now key) = false
  values (e : ChangeEvent) : e ∈ events → e.old = old.unselected? scope now e.key ∧
    e.new = new.unselected? scope now e.key
  present (e : ChangeEvent) : e ∈ events → e.old.isSome = true ∨ e.new.isSome = true

section Keys

variable (old new : Snapshot)

theorem sorted_unionKeys : (unionKeys old new).Pairwise (· < ·) := by
  have ordered : (unionKeys old new).Pairwise fun a b => decide (a ≤ b) = true := by
    refine List.pairwise_mergeSort ?_ ?_ _
    · intro a b c first second
      rw [decide_eq_true_eq] at first second ⊢
      exact String.le_trans first second
    · intro a b
      rw [Bool.or_eq_true, decide_eq_true_eq, decide_eq_true_eq]
      exact String.le_total a b
  refine (List.Pairwise.and ordered (nodup_unionKeys old new)).imp fun {a b} both => ?_
  obtain ⟨le, apart⟩ := both
  rw [← String.not_le]
  exact fun back => apart (String.le_antisymm (of_decide_eq_true le) back)

theorem unionKeys_comm : unionKeys old new = unionKeys new old := by
  refine List.Perm.eq_of_pairwise ?_ (sorted_unionKeys old new)
    (sorted_unionKeys new old) ?_
  · intro a b _ _ less greater
    exact (String.lt_irrefl a (String.lt_trans less greater)).elim
  · rw [List.perm_ext_iff_of_nodup (nodup_unionKeys old new) (nodup_unionKeys new old)]
    intro key
    rw [mem_unionKeys, mem_unionKeys, or_comm]

end Keys

/-- Nothing is evaluated to only by a key that is absent or has no rule that applies. -/
theorem unselected?_eq_none_iff {s : Snapshot} {scope : Option String} {now : Int64}
    {key : String} : s.unselected? scope now key = none ↔ s.get? key = none ∨
      (s.evaluateUnselected now ⟨scope, s.defaultContext⟩ key).outcome = .error .noMatch := by
  have absent : (s.evaluateUnselected now ⟨scope, s.defaultContext⟩ key).outcome =
      .error .keyNotFound ↔ s.get? key = none :=
    Inquiry.outcome_answer_eq_keyNotFound_iff _ key
  rw [← absent, unselected?]
  cases ended : (s.evaluateUnselected now ⟨scope, s.defaultContext⟩ key).outcome with
  | ok m => simp [Except.toOption]
  | error failure => rcases Inquiry.error_of_answer ended with rfl | rfl <;> simp [Except.toOption]

theorem configured_eq_unselected? (s : Snapshot) (scope : Option String) (now : Int64) :
    s.configured scope now = s.unselected? scope now := by
  funext key
  rw [configured_eq, unselected?]
  cases (s.evaluateUnselected now ⟨scope, s.defaultContext⟩ key).outcome <;> rfl

section Change

variable {before after : String → Option ConfigValue}

theorem change?_eq_some_iff {key : String} {e : ChangeEvent} :
    change? before after key = some e ↔
      (before key == after key) = false ∧ e = ⟨key, before key, after key⟩ := by
  unfold change?
  cases before key == after key with
  | true => simp
  | false => simp [eq_comm]

theorem change?_reversed (key : String) :
    change? after before key = (change? before after key).map ChangeEvent.reversed := by
  unfold change?
  rw [BEq.comm (a := after key)]
  split <;> rfl

/-- Keys in order give events in the order of their bytes. -/
theorem ordered_changes {keys : List String} (sorted : keys.Pairwise (· < ·)) :
    (keys.filterMap (change? before after)).Pairwise fun e e' =>
      Text.bytes e.key < Text.bytes e'.key := by
  refine List.Pairwise.filterMap _ ?_ sorted
  intro key key' less e changed e' changed'
  rw [eq_of_change? changed, eq_of_change? changed']
  exact Text.bytes_lt_bytes less

theorem isSome_of_change? {key : String} {e : ChangeEvent}
    (changed : change? before after key = some e) : e.old.isSome = true ∨ e.new.isSome = true := by
  obtain ⟨differ, rfl⟩ := change?_eq_some_iff.mp changed
  change (before key).isSome = true ∨ (after key).isSome = true
  cases old : before key with
  | some v => exact .inl rfl
  | none =>
    cases new : after key with
    | some v => exact .inr rfl
    | none =>
      rw [old, new] at differ
      cases differ

end Change

variable {old new : Snapshot}

theorem tells_diff (scope : Option String) (timeless : old.Timeless) (timeless' : new.Timeless)
    (clock : Clock) (now : Int64) :
    Tells scope now old new (diff scope clock old new).result := by
  rw [result_diff timeless timeless' clock now, configured_eq_unselected?,
    configured_eq_unselected?]
  refine ⟨ordered_changes (sorted_unionKeys old new), fun key => ?_, fun e told => ?_,
    fun e told => ?_⟩
  · rw [List.mem_map, contains_iff, contains_iff, ← mem_unionKeys]
    constructor
    · rintro ⟨e, told, rfl⟩
      obtain ⟨key, listed, changed⟩ := List.mem_filterMap.mp told
      obtain ⟨differ, rfl⟩ := change?_eq_some_iff.mp changed
      exact ⟨listed, differ⟩
    · rintro ⟨listed, differ⟩
      exact ⟨_, List.mem_filterMap.mpr ⟨key, listed, change?_eq_some_iff.mpr ⟨differ, rfl⟩⟩, rfl⟩
  · obtain ⟨key, _, changed⟩ := List.mem_filterMap.mp told
    rw [eq_of_change? changed]
    exact ⟨rfl, rfl⟩
  · obtain ⟨key, _, changed⟩ := List.mem_filterMap.mp told
    exact isSome_of_change? changed

theorem reversed_diff (scope : Option String) (timeless : old.Timeless) (timeless' : new.Timeless)
    (clock clock' : Clock) : (diff scope clock' new old).result =
      (diff scope clock old new).result.map ChangeEvent.reversed := by
  rw [result_diff timeless timeless' clock 0, result_diff timeless' timeless clock' 0,
    unionKeys_comm new old, List.map_filterMap]
  exact List.filterMap_congr fun key _ => change?_reversed key

/-- Between timeless snapshots, whatever the clock reads, the events tell exactly how the values of
keys differ, a key having no value if it is absent or nothing matches; and the way back consists of
the same events with their values exchanged. -/
theorem diff_exact (scope : Option String) (timeless : old.Timeless) (timeless' : new.Timeless)
    (clock clock' : Clock) (now : Int64) :
    Tells scope now old new (diff scope clock old new).result ∧
    (diff scope clock' new old).result =
      (diff scope clock old new).result.map ChangeEvent.reversed ∧
    ∀ (s : Snapshot) (key : String), s.unselected? scope now key = none ↔ s.get? key = none ∨
      (s.evaluateUnselected now ⟨scope, s.defaultContext⟩ key).outcome = .error .noMatch :=
  ⟨tells_diff scope timeless timeless' clock now,
    reversed_diff scope timeless timeless' clock clock',
    fun _ _ => unselected?_eq_none_iff⟩

/-- Keys with one value each, and one that has a value for a plan in some namespaces. -/
def catalogue (plan : String) (values : List (String × Value)) : Snapshot :=
  let targeted : ConditionalValue :=
    ⟨[⟨"user.plan", .isOneOf, some (Value.stringList ["pro"]).plain⟩,
      ⟨namespaceName, .hierarchicalMatch, some (Value.string "billing").plain⟩],
      (Value.string "pro").plain⟩
  let config (key : String) (v : ConditionalValue) : Element :=
    ⟨⟨key, 1, .config, none, [⟨none, .empty, [v]⟩], []⟩, ⟨.remote, none⟩⟩
  ⟨index (config "targeted" targeted :: values.map fun e => config e.1 (.always e.2.plain)), none,
    .ofList [⟨"user", .ofList [("plan", (Value.string plan).plain)]⟩]⟩

def catalogueBefore : Snapshot :=
  catalogue "free" [("kept", .string "same"), ("changed", .int 1), ("removed", .bool true)]

def catalogueAfter : Snapshot :=
  catalogue "pro" [("added", .string "new"), ("kept", .string "same"), ("changed", .int 2)]

/-- There are events for the key that is added, for those that are changed and removed, and for the
one whose rule only the new default contexts meet. -/
theorem catalogue_told : catalogueBefore.Timeless ∧ catalogueAfter.Timeless ∧
    Tells (some "billing.invoices") 0 catalogueBefore catalogueAfter
      (diff (some "billing.invoices") (fun _ => 0) catalogueBefore catalogueAfter).result ∧
    (∀ key ∈ ["added", "changed", "removed", "targeted"],
      key ∈ (diff (some "billing.invoices") (fun _ => 0) catalogueBefore
        catalogueAfter).result.map ChangeEvent.key) ∧
    "kept" ∉ (diff (some "billing.invoices") (fun n => .ofNat n) catalogueAfter
      catalogueBefore).result.map ChangeEvent.key := by
  have entries {s : Snapshot} (timeless : ∀ e ∈ s.elements.entries, e.2.config.Timeless) :
      s.Timeless := fun key e present => timeless (key, e) (Table.mem_entries_of_get? present)
  have before : catalogueBefore.Timeless := entries (by decide)
  have after : catalogueAfter.Timeless := entries (by decide)
  obtain ⟨told, back, _⟩ := diff_exact (some "billing.invoices") before after (fun _ => 0)
    (fun n => .ofNat n) 0
  have differ : ∀ key ∈ ["added", "changed", "removed", "targeted"],
      (catalogueBefore.contains key = true ∨ catalogueAfter.contains key = true) ∧
        (catalogueBefore.unselected? (some "billing.invoices") 0 key ==
          catalogueAfter.unselected? (some "billing.invoices") 0 key) = false := by decide +kernel
  refine ⟨before, after, told, fun key listed => (told.keys key).mpr (differ key listed), ?_⟩
  rw [back, List.map_map]
  exact (told.keys "kept").not.mpr (by decide +kernel)

end Snapshot
end LiveConfig
