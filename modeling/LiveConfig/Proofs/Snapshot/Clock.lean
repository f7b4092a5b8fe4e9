import LiveConfig.Proofs.Context.Named
import LiveConfig.Proofs.Snapshot.Configured

/-! When the events of a diff tell the time.

The diff reads the clock twice for every key, and a criterion can ask what it shows. So the events
are a function of the two snapshots only if each key is settled: it is configured to equal values at
all times, or in each snapshot to one value that does not change with time. In particular a snapshot
differs from itself as soon as the clock passes a bound between the two readings. Where nothing asks
for the time, or the default contexts answer in place of the clock, every key is settled. -/
namespace LiveConfig

namespace Clock

/-- The clock is never put back. -/
def Forward (clock : Clock) : Prop := ∀ i j, i ≤ j → clock i ≤ clock j

/-- The clock that shows `t` before evaluation number `n`, and `t'` from then on. -/
def turning (n : Nat) (t t' : Int64) : Clock := fun i => if i < n then t else t'

theorem forward_turning (n : Nat) {t t' : Int64} (le : t ≤ t') : (turning n t t').Forward := by
  intro i j before
  unfold turning
  split
  · split
    · exact Int64.le_refl t
    · exact le
  · rw [if_neg (by omega)]
    exact Int64.le_refl t'

end Clock

namespace Snapshot

variable {scope : Option String} {old new : Snapshot} {key : String}

/-- The event of a key whose value is read at `t` in the old snapshot and at `t'` in the new. -/
def eventAt (scope : Option String) (old new : Snapshot) (key : String) (t t' : Int64) :
    Option ChangeEvent :=
  change? (old.configured scope t) (new.configured scope t') key

/-- The values of a key are equal at all times, or each is the same at all times. -/
def Settled (scope : Option String) (old new : Snapshot) (key : String) : Prop :=
  (∀ t t', (old.configured scope t key == new.configured scope t' key) = true) ∨
    (∀ t t', old.configured scope t key = old.configured scope t' key) ∧
      ∀ t t', new.configured scope t key = new.configured scope t' key

theorem eventAt_eq_none {t t' : Int64} : eventAt scope old new key t t' = none ↔
    (old.configured scope t key == new.configured scope t' key) = true := by
  constructor
  · exact beq_of_change?
  · intro equal
    rw [eventAt, change?, if_pos equal]

theorem Settled.eventAt (settled : Settled scope old new key) (t t' u u' : Int64) :
    eventAt scope old new key t t' = eventAt scope old new key u u' := by
  rcases settled with equal | ⟨before, after⟩
  · rw [eventAt_eq_none.mpr (equal t t'), eventAt_eq_none.mpr (equal u u')]
  · rw [Snapshot.eventAt, Snapshot.eventAt, change?, change?, before t u, after t' u']

/-- If values that are read in order are equal, those that are read out of order are. -/
theorem beq_of_forward
    (equal : ∀ t t', t ≤ t' → (old.configured scope t key == new.configured scope t' key) = true)
    (t t' : Int64) : (old.configured scope t key == new.configured scope t' key) = true := by
  rcases Int64.le_total t t' with ordered | reversed
  · exact equal t t' ordered
  · have here := equal t t (Int64.le_refl t)
    have back := BEq.symm (equal t' t reversed)
    have there := equal t' t' (Int64.le_refl t')
    exact BEq.trans (BEq.trans here back) there

/-- A key is settled if its event is the same for all readings in order. -/
theorem settled_of_eventAt (same : ∀ t t' u u', t ≤ t' → u ≤ u' →
    eventAt scope old new key t t' = eventAt scope old new key u u') :
    Settled scope old new key := by
  cases first : eventAt scope old new key 0 0 with
  | none =>
    refine .inl (beq_of_forward fun t t' ordered => ?_)
    rw [← eventAt_eq_none, same t t' 0 0 ordered (Int64.le_refl 0), first]
  | some e =>
    have values (t : Int64) : e = ⟨key, old.configured scope t key, new.configured scope t key⟩ :=
      eq_of_change? ((same t t 0 0 (Int64.le_refl t) (Int64.le_refl 0)).trans first)
    refine .inr ⟨fun t t' => ?_, fun t t' => ?_⟩
    · exact congrArg ChangeEvent.old ((values t).symm.trans (values t'))
    · exact congrArg ChangeEvent.new ((values t).symm.trans (values t'))

section Changes

variable {clock clock' : Clock} {turn : Nat} {keys : List String}

theorem mem_changes {e : ChangeEvent}
    (told : e ∈ (changes scope clock old new turn keys).result) :
    e.key ∈ keys ∧ ∃ t t', eventAt scope old new e.key t t' = some e := by
  induction keys generalizing turn with
  | nil => cases told
  | cons key keys ih =>
    rw [result_changes_cons, List.mem_append, Option.mem_toList] at told
    rcases told with first | later
    · have named : e.key = key := by rw [eq_of_change? first]
      rw [named]
      exact ⟨List.mem_cons_self, _, _, first⟩
    · obtain ⟨listed, event⟩ := ih later
      exact ⟨List.mem_cons_of_mem key listed, event⟩

/-- Among the events is that of a key at the two readings that are taken for it. -/
theorem find?_changes (distinct : keys.Nodup) {i : Nat} (listed : keys[i]? = some key) :
    (changes scope clock old new turn keys).result.find? (fun e => e.key == key) =
      eventAt scope old new key (clock (turn + 2 * i)) (clock (turn + 2 * i + 1)) := by
  induction keys generalizing turn i with
  | nil => cases listed
  | cons first keys ih =>
    obtain ⟨outside, distinct⟩ := List.nodup_cons.mp distinct
    rw [result_changes_cons, List.find?_append]
    cases i with
    | zero =>
      obtain rfl : first = key := Option.some.inj listed
      have none_later : (changes scope clock old new (turn + 2) keys).result.find?
          (fun e => e.key == first) = none := by
        refine List.find?_eq_none.mpr fun e told same => ?_
        rw [beq_iff_eq] at same
        exact outside (same ▸ (mem_changes told).1)
      rw [none_later, Option.or_none]
      change List.find? _ (eventAt scope old new first (clock turn) (clock (turn + 1))).toList =
        eventAt scope old new first (clock turn) (clock (turn + 1))
      cases event : eventAt scope old new first (clock turn) (clock (turn + 1)) with
      | none => rfl
      | some e =>
        have named : (e.key == first) = true := by rw [eq_of_change? event, BEq.rfl]
        exact List.find?_cons_of_pos named
    | succ i =>
      have none_first : (change? (old.configured scope (clock turn))
          (new.configured scope (clock (turn + 1))) first).toList.find? (fun e => e.key == key) =
            none := by
        refine List.find?_eq_none.mpr fun e told same => ?_
        rw [eq_of_change? (Option.mem_toList.mp told), beq_iff_eq] at same
        have here : first = key := same
        exact outside (here ▸ List.mem_of_getElem? listed)
      rw [none_first, Option.none_or, ih distinct listed]
      congr 2
      · omega
      · omega

/-- The events of settled keys are the same under any two clocks. -/
theorem result_changes_of_settled (settled : ∀ key ∈ keys, Settled scope old new key) :
    (changes scope clock old new turn keys).result =
      (changes scope clock' old new turn keys).result := by
  induction keys generalizing turn with
  | nil => rfl
  | cons key keys ih =>
    obtain ⟨first, later⟩ := List.forall_mem_cons.mp settled
    have same := first.eventAt (clock turn) (clock (turn + 1)) (clock' turn) (clock' (turn + 1))
    rw [result_changes_cons, result_changes_cons, ih later]
    exact congrArg (fun e => Option.toList e ++ _) same

end Changes

/-- Every reading of a key, in order, is taken by a diff under some clock. -/
theorem find?_diff_turning (scope : Option String) (listed : key ∈ unionKeys old new)
    {t t' : Int64} (ordered : t ≤ t') :
    ∃ clock : Clock, clock.Forward ∧
      (diff scope clock old new).result.find? (fun e => e.key == key) =
        eventAt scope old new key t t' := by
  obtain ⟨i, here⟩ := List.getElem?_of_mem listed
  refine ⟨.turning (2 * i + 1) t t', Clock.forward_turning _ ordered, ?_⟩
  have before : Clock.turning (2 * i + 1) t t' (0 + 2 * i) = t := if_pos (by omega)
  have after : Clock.turning (2 * i + 1) t t' (0 + 2 * i + 1) = t' := if_neg (by omega)
  rw [diff, find?_changes (nodup_unionKeys old new) here, before, after]

theorem beq_of_unlisted (outside : key ∉ unionKeys old new) (t t' : Int64) :
    (old.configured scope t key == new.configured scope t' key) = true := by
  have missing {s : Snapshot} (absent : key ∉ s.elements.keys) (t : Int64) :
      s.configured scope t key = none := by
    apply configured_absent
    cases present : s.get? key with
    | none => rfl
    | some e => exact (absent (Table.mem_keys_iff.mpr (Option.isSome_of_eq_some present))).elim
  obtain ⟨before, after⟩ := not_or.mp (mt mem_unionKeys.mpr outside)
  rw [missing before t, missing after t']
  rfl

/-- The diff is a function of the snapshots exactly if every key is settled. -/
theorem clockFree_iff : (∀ clock clock', clock.Forward → clock'.Forward →
      (diff scope clock old new).result = (diff scope clock' old new).result) ↔
    ∀ key, Settled scope old new key := by
  constructor
  · intro pure key
    by_cases listed : key ∈ unionKeys old new
    · refine settled_of_eventAt fun t t' u u' ordered ordered' => ?_
      obtain ⟨clock, forward, event⟩ := find?_diff_turning scope listed ordered
      obtain ⟨clock', forward', event'⟩ := find?_diff_turning scope listed ordered'
      rw [← event, ← event', pure clock clock' forward forward']
    · exact .inl (beq_of_unlisted listed)
  · intro settled clock clock' _ _
    exact result_changes_of_settled fun key _ => settled key

/-- A snapshot never differs from itself exactly if the values of each key are equal at all
times. -/
theorem quiet_iff {s : Snapshot} : (∀ clock, clock.Forward → (diff scope clock s s).result = []) ↔
    ∀ key t t', (s.configured scope t key == s.configured scope t' key) = true := by
  constructor
  · intro quiet key
    by_cases listed : key ∈ unionKeys s s
    · refine beq_of_forward fun t t' ordered => ?_
      obtain ⟨clock, forward, event⟩ := find?_diff_turning scope listed ordered
      rw [← eventAt_eq_none, ← event, quiet clock forward]
      rfl
    · exact beq_of_unlisted listed
  · intro equal clock _
    refine List.eq_nil_iff_forall_not_mem.mpr fun e told => ?_
    obtain ⟨_, t, t', event⟩ := mem_changes told
    rw [eventAt_eq_none.mpr (equal e.key t t')] at event
    cases event

/-- For a key nothing asks for the time, or the default contexts answer in place of the clock. -/
def Untimed (s : Snapshot) (scope : Option String) (key : String) : Prop :=
  s.Reads key currentTimeName →
    ((⟨scope, s.defaultContext⟩ : LookupContext).get? currentTimeName).isSome = true

theorem Untimed.near {s : Snapshot} (untimed : s.Untimed scope key) (selection : Selection)
    (now now' : Int64) :
    (s.inquiry selection now ⟨scope, s.defaultContext⟩).Near Prod.mk
      (s.inquiry selection now' ⟨scope, s.defaultContext⟩) key := by
  apply Inquiry.near_of_same
  · rfl
  · intro k _
    rfl
  · intro k reached e present r applicable v inRow criterion guards
    unfold Inquiry.outside
    by_cases timed : criterion.property = currentTimeName
    · have reads : s.Reads key currentTimeName :=
        ⟨k, e, r, reached, present, applicable, timed ▸ Row.mem_names_of_criterion inRow guards⟩
      obtain ⟨v, held⟩ := Option.isSome_iff_exists.mp (untimed reads)
      have found : (LookupContext.flattened ⟨scope, s.defaultContext⟩).get? criterion.property =
        some v := timed ▸ held
      simp only [Snapshot.inquiry, found, Option.some_or]
    · simp only [Snapshot.inquiry, if_neg timed]
  · intro k reached e present r applicable v inRow
    exact Inquiry.conclude_congr rfl fun _ _ => rfl

theorem Untimed.configured {s : Snapshot} (untimed : s.Untimed scope key) (t t' : Int64) :
    s.configured scope t key = s.configured scope t' key := by
  have same : s.evaluateUnselected t ⟨scope, s.defaultContext⟩ key =
      s.evaluateUnselected t' ⟨scope, s.defaultContext⟩ key := by
    unfold evaluateUnselected Inquiry.answer
    rw [(untimed.near .keep t t').resolve_eq]
  rw [configured_eq, configured_eq, same]

/-- A diff gives the same events under all clocks exactly if every key is settled, and none from a
snapshot to itself exactly if its values are equal at all times. Both hold if nothing asks for the
time unless the default contexts answer, the second for values without NaN. -/
theorem diff_pure_iff_settled (scope : Option String) (old new : Snapshot) :
    ((∀ clock clock', clock.Forward → clock'.Forward →
        (diff scope clock old new).result = (diff scope clock' old new).result) ↔
      ∀ key, Settled scope old new key) ∧
    ((∀ clock, clock.Forward → (diff scope clock old old).result = []) ↔
      ∀ key t t', (old.configured scope t key == old.configured scope t' key) = true) ∧
    (∀ key, old.Untimed scope key → new.Untimed scope key → Settled scope old new key) ∧
    (old.NaNFree → (∀ key, old.Untimed scope key) →
      ∀ clock, clock.Forward → (diff scope clock old old).result = []) := by
  refine ⟨clockFree_iff, quiet_iff, ?_, ?_⟩
  · intro key before after
    exact .inr ⟨before.configured, after.configured⟩
  · intro numbers untimed
    refine quiet_iff.mpr fun key t t' => ?_
    rw [(untimed key).configured t t']
    exact configured_beq_of_numbers numbers

/-- A key whose value depends on whether a bound has passed. -/
def curfew (bound : Int64) (defaults : ContextSet) : Snapshot :=
  let early : ConditionalValue :=
    ⟨[⟨currentTimeName, .lessThan, some (Value.int bound).plain⟩], (Value.string "early").plain⟩
  let config : Config := ⟨"phase", 1, .config, none,
    [⟨none, .empty, [early, .always (Value.string "late").plain]⟩], []⟩
  ⟨index [⟨config, ⟨.remote, none⟩⟩], none, defaults⟩

/-- Default contexts that give the current time keep it from passing the bound. -/
theorem curfew_stopped :
    (diff none (.turning 1 0 2000)
      (curfew 1000 (.ofList [⟨"prefab", .ofList [("current-time", (Value.int 0).plain)]⟩]))
      (curfew 1000 (.ofList [⟨"prefab", .ofList [("current-time", (Value.int 0).plain)]⟩]))).result
        = [] := by
  let s := curfew 1000 (.ofList [⟨"prefab", .ofList [("current-time", (Value.int 0).plain)]⟩])
  have numbers : s.NaNFree := by
    intro key e present
    have all : ∀ entry ∈ s.elements.entries, ∀ row ∈ entry.2.config.rows, ∀ v ∈ row.values,
        v.value.value.hasNaN = false := by decide
    exact all (key, e) (Table.mem_entries_of_get? present)
  have untimed (key : String) : s.Untimed none key := fun _ => by decide
  exact (diff_pure_iff_settled none s s).2.2.2 numbers untimed _
    (Clock.forward_turning 1 (by decide))

/-- Two snapshots differ at one time and not at another, and one differs from itself while the bound
passes. -/
theorem curfew_tells_the_time :
    (diff none (fun _ => 0) (curfew 1500000000000 .empty) (curfew 9000000000000 .empty)).result = []
      ∧
    (diff none (fun _ => 1785000000000) (curfew 1500000000000 .empty)
      (curfew 9000000000000 .empty)).result.map ChangeEvent.key = ["phase"] ∧
    (Clock.turning 1 0 2000).Forward ∧
    (diff none (.turning 1 0 2000) (curfew 1000 .empty) (curfew 1000 .empty)).result.map
      ChangeEvent.key = ["phase"] := by
  refine ⟨?_, by decide +kernel, Clock.forward_turning 1 (by decide), by decide +kernel⟩
  have silent : (diff none (fun _ => 0) (curfew 1500000000000 .empty)
      (curfew 9000000000000 .empty)).result.isEmpty = true := by decide +kernel
  exact List.isEmpty_iff.mp silent

end Snapshot
end LiveConfig
