import LiveConfig.Proofs.Client.Published
import LiveConfig.Proofs.Snapshot.Configured

/-! Replaying the events of a client.

An event says what a key was configured to and what it is configured to now. Applied in order, the
events that updates return lead from the values of the first snapshot to those of the published one,
and each tells truly what it replaces. One update is the difference of two snapshots; a run goes
through one after another. -/
namespace LiveConfig

/-- Sets the key of an event to its new value, or removes it. -/
def ChangeEvent.applyTo (e : ChangeEvent) (t : Table ConfigValue) : Table ConfigValue :=
  match e.new with
  | some v => t.insert e.key v
  | none => t.erase e.key

@[simp] theorem ChangeEvent.get?_applyTo (e : ChangeEvent) (t : Table ConfigValue) (key : String) :
    (e.applyTo t).get? key = if key = e.key then e.new else t.get? key := by
  unfold applyTo
  cases e.new with
  | some v => exact Table.get?_insert t e.key key v
  | none => exact Table.get?_erase t e.key key

/-- A table after events, applied in order. -/
def replay (t : Table ConfigValue) (events : List ChangeEvent) : Table ConfigValue :=
  events.foldl (fun t e => e.applyTo t) t

theorem replay_cons (t : Table ConfigValue) (e : ChangeEvent) (events : List ChangeEvent) :
    replay t (e :: events) = replay (e.applyTo t) events := rfl

theorem replay_append (t : Table ConfigValue) (first second : List ChangeEvent) :
    replay t (first ++ second) = replay (replay t first) second := List.foldl_append

/-- The old value of each event is equal to the entry that it replaces. -/
def Replaces : Table ConfigValue → List ChangeEvent → Prop
  | _, [] => True
  | t, e :: events => (e.old == t.get? e.key) = true ∧ Replaces (e.applyTo t) events

theorem Replaces.append {t : Table ConfigValue} {first second : List ChangeEvent}
    (head : Replaces t first) (tail : Replaces (replay t first) second) :
    Replaces t (first ++ second) := by
  induction first generalizing t with
  | nil => exact tail
  | cons e first ih => exact ⟨head.1, ih head.2 tail⟩

/-- A table that holds equal values under the keys of a function. -/
def Table.Agrees (t : Table ConfigValue) (values : String → Option ConfigValue) : Prop :=
  ∀ key, (t.get? key == values key) = true

section Step

variable {before after : String → Option ConfigValue} {t : Table ConfigValue}

/-- Changes of other keys leave an entry alone. -/
theorem get?_replay_changes {keys : List String} {key : String} (other : key ∉ keys) :
    (replay t (keys.filterMap (Snapshot.change? before after))).get? key = t.get? key := by
  induction keys generalizing t with
  | nil => rfl
  | cons k keys ih =>
    rw [List.mem_cons, not_or] at other
    obtain ⟨apart, outside⟩ := other
    cases changed : Snapshot.change? before after k with
    | none =>
      rw [List.filterMap_cons_none changed]
      exact ih outside
    | some e =>
      rw [List.filterMap_cons_some changed, replay_cons, ih outside, ChangeEvent.get?_applyTo,
        Snapshot.eq_of_change? changed, if_neg apart]

/-- The changes of some keys tell what they replace and bring these keys up to date. -/
theorem replay_changes (proper : ∀ key, (after key == after key) = true) {keys : List String}
    (nodup : keys.Nodup) (agrees : ∀ key ∈ keys, (t.get? key == before key) = true) :
    Replaces t (keys.filterMap (Snapshot.change? before after)) ∧
      ∀ key ∈ keys, ((replay t (keys.filterMap (Snapshot.change? before after))).get? key ==
        after key) = true := by
  induction keys generalizing t with
  | nil => exact ⟨trivial, List.forall_mem_nil _⟩
  | cons k keys ih =>
    obtain ⟨once, nodup⟩ := List.nodup_cons.mp nodup
    obtain ⟨head, tail⟩ := List.forall_mem_cons.mp agrees
    cases changed : Snapshot.change? before after k with
    | none =>
      rw [List.filterMap_cons_none changed]
      obtain ⟨replaces, updated⟩ := ih nodup tail
      refine ⟨replaces, List.forall_mem_cons.mpr ⟨?_, updated⟩⟩
      rw [get?_replay_changes once]
      exact BEq.trans head (Snapshot.beq_of_change? changed)
    | some e =>
      have event := Snapshot.eq_of_change? changed
      have others : ∀ key ∈ keys, ((e.applyTo t).get? key == before key) = true := by
        intro key member
        have apart : key ≠ e.key := by
          rw [event]
          rintro rfl
          exact once member
        rw [ChangeEvent.get?_applyTo, if_neg apart]
        exact tail key member
      obtain ⟨replaces, updated⟩ := ih nodup others
      rw [List.filterMap_cons_some changed, replay_cons]
      refine ⟨⟨?_, replaces⟩, List.forall_mem_cons.mpr ⟨?_, updated⟩⟩
      · rw [event]
        exact BEq.symm head
      · rw [get?_replay_changes once, ChangeEvent.get?_applyTo, event, if_pos rfl]
        exact proper k

/-- The difference of two stable snapshots leads from the values of the one to those of the
other. -/
theorem replay_diff {old new : Snapshot} {scope : Option String} (stable : old.Stable)
    (stable' : new.Stable) (clock : Clock) (now : Int64)
    (agrees : t.Agrees (old.configured scope now)) :
    Replaces t (Snapshot.diff scope clock old new).result ∧
      (replay t (Snapshot.diff scope clock old new).result).Agrees (new.configured scope now) := by
  rw [Snapshot.result_diff stable.timeless stable'.timeless clock now]
  obtain ⟨replaces, updated⟩ := replay_changes (fun _ => Snapshot.configured_beq_self stable')
    (Snapshot.nodup_unionKeys old new) (fun key _ => agrees key)
  refine ⟨replaces, fun key => ?_⟩
  by_cases listed : key ∈ Snapshot.unionKeys old new
  · exact updated key listed
  -- a key of neither snapshot is configured to nothing in both
  rw [Snapshot.mem_unionKeys, not_or] at listed
  have absent : ∀ {s : Snapshot}, key ∉ s.elements.keys → s.configured scope now key = none :=
    fun missing => Snapshot.configured_absent
      (Option.not_isSome_iff_eq_none.mp (Table.mem_keys_iff.not.mp missing))
  rw [get?_replay_changes (Snapshot.mem_unionKeys.not.mpr (not_or.mpr listed)), absent listed.2,
    ← absent listed.1]
  exact agrees key

end Step

/-- Every config of every layer is stable. -/
def Layers.Stable (l : Layers) : Prop :=
  ∀ key e, l.defaults.get? key = some e ∨ l.delivered.get? key = some e ∨
    l.overrides.get? key = some e → e.config.Stable

theorem Snapshot.mem_of_get?_index {es : List Element} {key : String} {e : Element}
    (found : (index es).get? key = some e) : e ∈ es :=
  mem_of_lastOf ((get?_index es key).symm.trans found)

theorem Layers.stable_start {defaults overrides : List Element}
    (stable : ∀ e ∈ defaults, e.config.Stable) (stable' : ∀ e ∈ overrides, e.config.Stable) :
    (start defaults overrides).Stable := by
  rintro key e (bundled | ⟨⟨⟩⟩ | overriding)
  · exact stable e (Snapshot.mem_of_get?_index bundled)
  · exact stable' e (Snapshot.mem_of_get?_index overriding)

theorem Layers.Stable.applyAll {l : Layers} (stable : l.Stable) {arrivals : List Arrival}
    (arriving : ∀ a ∈ arrivals, a.1.Stable) : (l.applyAll arrivals).result.Stable := by
  induction arrivals generalizing l with
  | nil => exact stable
  | cons a rest ih =>
    obtain ⟨first, later⟩ := List.forall_mem_cons.mp arriving
    rw [applyAll_cons]
    refine ih ?_ later
    obtain ⟨defaults, overrides⟩ := l.fixed_apply a
    rintro key e (bundled | held | overriding)
    · rw [defaults] at bundled
      exact stable key e (.inl bundled)
    · rcases held_apply held with before | rfl
      · exact stable key e (.inr (.inl before))
      · exact first
    · rw [overrides] at overriding
      exact stable key e (.inr (.inr overriding))

theorem Layers.Stable.merged {l : Layers} (stable : l.Stable) {s : Snapshot}
    (published : s.elements = l.merged) : s.Stable := by
  intro key e present
  have found : l.merged.get? key = some e := published ▸ present
  rw [Layers.get?_merged, Option.or_eq_some_iff, Option.or_eq_some_iff] at found
  refine stable key e ?_
  tauto

namespace Client

/-- The events that updates return, one update after another. -/
def eventsOf (c : Client) : List (Clock × Update) → List ChangeEvent
  | [] => []
  | (clock, u) :: us => (c.apply clock u).result.1 ++ (c.apply clock u).result.2.eventsOf us

section Update

variable (c : Client) (clock : Clock) (u : Update)

theorem scope_apply : (c.apply clock u).result.2.scope = c.scope := by
  unfold apply
  simp only [Logged.result_bind, Logged.result_pure]
  obtain ⟨_, _, same⟩ := dispatch_frame _ _
  rw [same]
  rfl

/-- An update returns the difference of the snapshots before and after it. -/
theorem events_apply : (c.apply clock u).result.1 =
    (Snapshot.diff c.scope clock c.snapshot (c.apply clock u).result.2.snapshot).result := by
  rw [snapshot_apply]
  rfl

end Update

theorem elements_applyEach {c : Client} (published : c.snapshot.elements = c.layers.merged)
    (us : List (Clock × Update)) : (c.applyEach us).result.snapshot.elements =
      (c.applyEach us).result.layers.merged := by
  rw [snapshot_applyEach published, layers_applyEach]

/-- The events of a run lead from the values of the first snapshot to those of the last. -/
theorem replay_eventsOf {c : Client} (published : c.snapshot.elements = c.layers.merged)
    {us : List (Clock × Update)}
    (stable : ∀ us', us' <+: us → (c.applyEach us').result.layers.Stable) (now : Int64)
    {t : Table ConfigValue} (agrees : t.Agrees (c.snapshot.configured c.scope now)) :
    Replaces t (c.eventsOf us) ∧
      (replay t (c.eventsOf us)).Agrees
        ((c.applyEach us).result.snapshot.configured c.scope now) := by
  induction us generalizing c t with
  | nil => exact ⟨trivial, agrees⟩
  | cons u us ih =>
    obtain ⟨clock, u⟩ := u
    have before : c.snapshot.Stable := (stable [] List.nil_prefix).merged published
    have later : ∀ us', us' <+: us →
        ((c.apply clock u).result.2.applyEach us').result.layers.Stable :=
      fun us' first => stable ((clock, u) :: us') ((List.prefix_cons_inj _).mpr first)
    have after : (c.apply clock u).result.2.snapshot.Stable :=
      (later [] List.nil_prefix).merged (c.elements_apply clock u)
    obtain ⟨replaces, updated⟩ := replay_diff before after clock now agrees
    rw [← c.events_apply clock u] at replaces updated
    rw [← c.scope_apply clock u] at updated
    obtain ⟨rest, final⟩ := ih (c.elements_apply clock u) later updated
    rw [c.scope_apply clock u] at final
    refine ⟨replaces.append rest, ?_⟩
    rw [eventsOf, replay_append]
    exact final

/-- Configs that are stable on their way in are stable in the layers. -/
theorem stable_of_inputs (config : ClientConfig) (us : List (Clock × Update))
    (defaults : ∀ e ∈ config.bundledDefaults, e.config.Stable)
    (overrides : ∀ e ∈ config.localOverrides, e.config.Stable)
    (delivered : ∀ a ∈ arrivalsOf us, a.1.Stable) :
    ∀ us', us' <+: us → ((start config).applyEach us').result.layers.Stable := by
  rintro us' ⟨rest, rfl⟩
  rw [layers_applyEach]
  refine (Layers.stable_start defaults overrides).applyAll fun a arrived => delivered a ?_
  rw [arrivalsOf, List.flatMap_append]
  exact List.mem_append_left _ arrived

/-- Whoever starts from the values of the first snapshot and applies the events of every update
holds the values of the published snapshot, up to equality of values, and each event tells what it
replaces. -/
theorem replay_reconstructs (config : ClientConfig) (us : List (Clock × Update))
    (stable : ∀ us', us' <+: us → ((start config).applyEach us').result.layers.Stable)
    (now now' : Int64) :
    Replaces ((start config).snapshot.valueTable config.scope now) ((start config).eventsOf us) ∧
      ∀ key, ((replay ((start config).snapshot.valueTable config.scope now)
          ((start config).eventsOf us)).get? key ==
        (((start config).applyEach us).result.snapshot.valueTable config.scope now').get? key) =
          true := by
  have first : (start config).snapshot.Stable := (stable [] List.nil_prefix).merged rfl
  have last : ((start config).applyEach us).result.snapshot.Stable :=
    (stable us List.prefix_rfl).merged (elements_applyEach rfl us)
  have agrees : ((start config).snapshot.valueTable config.scope now).Agrees
      ((start config).snapshot.configured config.scope now) := by
    intro key
    rw [Snapshot.get?_valueTable]
    exact Snapshot.configured_beq_self first
  obtain ⟨replaces, final⟩ := replay_eventsOf rfl stable now agrees
  refine ⟨replaces, fun key => ?_⟩
  rw [Snapshot.get?_valueTable, Snapshot.configured_at last now]
  exact final key

/-- Bundled: a flag for the members of a segment, with another value in environment 2. -/
def gated : ClientConfig :=
  let flag : Config := ⟨"flag", 1, .featureFlag, none,
    [⟨some 2, .empty, [.always (Value.string "two").plain]⟩,
      ⟨none, .empty,
        [⟨[⟨"", .inSegment, some (Value.string "beta").plain⟩], (Value.string "in").plain⟩,
          .always (Value.string "out").plain]⟩], []⟩
  ⟨some "app", .empty, [⟨flag, ⟨.bundledDefault, none⟩⟩], [], defaultTimeoutMillis, false,
    fun _ => .asMerged⟩

/-- The segment arrives with default contexts that are in it; the environment is switched; the
segment is deleted after an outdated version of it, and the environment is switched again. -/
def gatedUpdates : List (Clock × Update) :=
  let beta (id : Int64) (values : List ConditionalValue) : Arrival :=
    (⟨"beta", id, .segment, none, [⟨none, .empty, values⟩], []⟩, ⟨.remote, none⟩)
  let gold : ConditionalValue :=
    ⟨[⟨"user.tier", .isOneOf, some (Value.stringList ["gold"]).plain⟩], (Value.bool true).plain⟩
  let user : Context := ⟨"user", .ofList [("tier", (Value.string "gold").plain)]⟩
  [(fun _ => 0, ⟨[beta 5 [gold]], none, some (.ofList [user])⟩),
    (fun _ => 0, ⟨[], some 2, none⟩),
    (fun _ => 0, ⟨[beta 4 [gold], beta 6 []], some 3, none⟩)]

/-- The value of the flag in the table that is replayed through the first `n` updates. -/
def replayedFlag (n : Nat) : Option ConfigValue :=
  (replay ((start gated).snapshot.valueTable gated.scope 0)
    ((start gated).eventsOf (gatedUpdates.take n))).get? "flag"

/-- No update delivers the flag, and its value follows all of them. -/
theorem replay_gated : (replayedFlag 0 == some (Value.string "out").plain) = true ∧
    (replayedFlag 1 == some (Value.string "in").plain) = true ∧
    (replayedFlag 2 == some (Value.string "two").plain) = true ∧
    (replayedFlag 3 == some (Value.string "out").plain) = true := by
  have defaults : ∀ e ∈ gated.bundledDefaults, e.config.Stable := by decide
  have overrides : ∀ e ∈ gated.localOverrides, e.config.Stable := by decide
  have all : ∀ a ∈ arrivalsOf gatedUpdates, a.1.Stable := by decide
  have stable := stable_of_inputs gated gatedUpdates defaults overrides all
  have replayed (n : Nat) : (replayedFlag n == ((start gated).applyEach
      (gatedUpdates.take n)).result.snapshot.configured gated.scope 0 "flag") = true := by
    rw [← Snapshot.get?_valueTable]
    exact (replay_reconstructs gated (gatedUpdates.take n)
      (fun us' first => stable us' (first.trans (List.take_prefix n gatedUpdates))) 0 0).2 "flag"
  -- the updates are evaluated without telling their events to anyone
  have step (c : Client) (u : Clock × Update) (us : List (Clock × Update)) :
      (c.applyEach (u :: us)).result = ((c.apply u.1 u.2).result.2.applyEach us).result := rfl
  have done (c : Client) : (c.applyEach []).result = c := rfl
  refine ⟨BEq.trans (replayed 0) ?_, BEq.trans (replayed 1) ?_, BEq.trans (replayed 2) ?_,
    BEq.trans (replayed 3) ?_⟩
  all_goals
    simp only [gatedUpdates, List.take_zero, List.take_succ_cons, step, done, snapshot_apply,
      layers_apply]
    decide +kernel

end Client
end LiveConfig
