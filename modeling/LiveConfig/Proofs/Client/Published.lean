import LiveConfig.Proofs.Evaluation.References
import LiveConfig.Proofs.Layers.Order

/-! What a client publishes.

One update publishes the layers that it leaves, under the environment and with the default contexts
that it brings or else those from before. So after a run of updates the published snapshot is a
function of what the client was configured with, of all deliveries in their order, and of the last
environment and the last default contexts that an update brought: which update brought which
delivery makes no difference. -/
namespace LiveConfig

/-- The last of some elements that has a key. -/
def lastOf (es : List Element) (key : String) : Option Element := es.reverse.find? (·.key = key)

theorem Snapshot.get?_index (es : List Element) (key : String) :
    (index es).get? key = lastOf es key := by
  unfold index Table.ofList lastOf
  rw [Table.get?_insertAll, Table.get?_empty, Option.or_none, ← List.map_reverse,
    Table.lookup_keyed]

theorem key_of_lastOf {es : List Element} {key : String} {e : Element}
    (found : lastOf es key = some e) : e.key = key := by
  simpa using List.find?_some found

theorem mem_of_lastOf {es : List Element} {key : String} {e : Element}
    (found : lastOf es key = some e) : e ∈ es :=
  List.mem_reverse.mp (List.mem_of_find?_eq_some found)

/-- What is held under a key after deliveries, given what was held before. A delivery for the key is
accepted unless what is held is newer; then a tombstone leaves nothing and another config itself. -/
def heldAfter (held : Option Element) (key : String) (arrivals : List Arrival) : Option Element :=
  (arrivals.filter (·.key = key)).foldl (fun held a => a.leaves held) held

theorem heldAfter_cons (held : Option Element) (key : String) (a : Arrival)
    (rest : List Arrival) : heldAfter held key (a :: rest) =
      heldAfter (if key = a.key then a.leaves held else held) key rest := by
  unfold heldAfter
  by_cases same : key = a.key
  · rw [if_pos same, List.filter_cons_of_pos (by simpa using same.symm), List.foldl_cons]
  · rw [if_neg same, List.filter_cons_of_neg (by simpa using Ne.symm same)]

/-- Deliveries leave only what has the key. -/
theorem key_of_heldAfter {key : String} {arrivals : List Arrival} {held : Option Element}
    (own : ∀ e, held = some e → e.key = key) {e : Element}
    (left : heldAfter held key arrivals = some e) : e.key = key := by
  induction arrivals generalizing held with
  | nil => exact own e left
  | cons a rest ih =>
    rw [heldAfter_cons] at left
    refine ih ?_ left
    intro e kept
    split at kept
    · rename_i same
      rcases Arrival.leaves_cases kept with before | rfl
      · exact own e before
      · exact same.symm
    · exact own e kept

namespace Layers

theorem get?_delivered_applyAll (l : Layers) (key : String) (arrivals : List Arrival) :
    (l.applyAll arrivals).result.delivered.get? key =
      heldAfter (l.delivered.get? key) key arrivals := by
  induction arrivals generalizing l with
  | nil => rfl
  | cons a rest ih =>
    rw [applyAll_cons, ih, get?_delivered_apply, heldAfter_cons]
    by_cases same : key = a.key
    · rw [if_pos same, if_pos same, same]
    · rw [if_neg same, if_neg same]

end Layers

namespace Client

/-- The environment of the last update that brings one. -/
def lastEnvironment (us : List (Clock × Update)) : Option Int64 :=
  us.reverse.findSome? fun u => u.2.environment

/-- The default contexts of the last update that brings some. -/
def lastDefaults (us : List (Clock × Update)) : Option ContextSet :=
  us.reverse.findSome? fun u => u.2.defaultContext

section Update

variable (c : Client) (clock : Clock) (u : Update)

/-- What an update publishes: the layers that it leaves, with the environment and the default
contexts that it brings or else those from before. -/
theorem snapshot_apply : (c.apply clock u).result.2.snapshot =
    ⟨(c.layers.applyAll u.configs).result.merged, u.environment.or c.snapshot.environment,
      u.defaultContext.getD c.snapshot.defaultContext⟩ := by
  unfold apply
  simp only [Logged.result_bind, Logged.result_pure]
  obtain ⟨_, _, same⟩ := dispatch_frame _ _
  rw [same]
  rfl

/-- What an update publishes are the layers that it leaves. -/
theorem elements_apply : (c.apply clock u).result.2.snapshot.elements =
    (c.apply clock u).result.2.layers.merged := by
  rw [snapshot_apply, layers_apply]

end Update

/-- What a run publishes, whatever the client was when it began. -/
theorem snapshot_applyEach {c : Client} (published : c.snapshot.elements = c.layers.merged)
    (us : List (Clock × Update)) : (c.applyEach us).result.snapshot =
      ⟨(c.layers.applyAll (arrivalsOf us)).result.merged,
        (lastEnvironment us).or c.snapshot.environment,
        (lastDefaults us).getD c.snapshot.defaultContext⟩ := by
  induction us generalizing c with
  | nil =>
    change c.snapshot = ⟨c.layers.merged, c.snapshot.environment, c.snapshot.defaultContext⟩
    rw [← published]
  | cons u us ih =>
    obtain ⟨clock, u⟩ := u
    change ((c.apply clock u).result.2.applyEach us).result.snapshot = _
    have arrivals : arrivalsOf ((clock, u) :: us) = u.configs ++ arrivalsOf us := rfl
    rw [ih (c.elements_apply clock u), layers_apply, snapshot_apply, arrivals,
      Layers.applyAll_append]
    unfold lastEnvironment lastDefaults
    simp only [List.reverse_cons, List.findSome?_append, List.findSome?_singleton, Option.or_assoc,
      Option.getD_or]

section Run

variable (config : ClientConfig) (us : List (Clock × Update))

/-- The layers in their order of precedence, the fixed ones as they were configured. -/
theorem get?_snapshot_applyEach (key : String) :
    ((start config).applyEach us).result.snapshot.get? key =
      (lastOf config.localOverrides key).or
        ((((start config).applyEach us).result.layers.delivered.get? key).or
          (lastOf config.bundledDefaults key)) := by
  obtain ⟨defaults, overrides⟩ := (start config).layers.fixed_applyAll (arrivalsOf us)
  have merged := Layers.get?_merged ((start config).layers.applyAll (arrivalsOf us)).result key
  rw [defaults, overrides] at merged
  rw [← Snapshot.get?_index, ← Snapshot.get?_index, layers_applyEach, snapshot_applyEach rfl]
  exact merged

theorem delivered_applyEach (key : String) :
    ((start config).applyEach us).result.layers.delivered.get? key =
      heldAfter none key (arrivalsOf us) := by
  rw [layers_applyEach, Layers.get?_delivered_applyAll]
  rfl

theorem keyed_applyEach : ((start config).applyEach us).result.snapshot.Keyed := by
  intro key e present
  rw [get?_snapshot_applyEach, delivered_applyEach, Option.or_eq_some_iff,
    Option.or_eq_some_iff] at present
  rcases present with overriding | ⟨_, held | ⟨_, bundled⟩⟩
  · exact key_of_lastOf overriding
  · exact key_of_heldAfter (fun _ none => absurd none (Option.some_ne_none _).symm) held
  · exact key_of_lastOf bundled

end Run

/-- The published snapshot gives, under every key, the last local override of that key, or else what
the deliveries have left there, or else the last bundled default; each element is held under its
own key, and the environment and the default contexts are those that an update brought last. Updates
that deliver the same configs in the same order, divided differently, publish the same snapshot and
reach the same highwater mark. -/
theorem published_of_stream (config : ClientConfig) (us : List (Clock × Update)) :
    let c := ((start config).applyEach us).result
    (∀ key, c.snapshot.get? key = (lastOf config.localOverrides key).or
      ((c.layers.delivered.get? key).or (lastOf config.bundledDefaults key))) ∧
    (∀ key, c.layers.delivered.get? key = heldAfter none key (arrivalsOf us)) ∧
    c.snapshot.Keyed ∧
    c.snapshot.environment = lastEnvironment us ∧
    c.snapshot.defaultContext = (lastDefaults us).getD .empty ∧
    ∀ us', arrivalsOf us' = arrivalsOf us → lastEnvironment us' = lastEnvironment us →
      (lastDefaults us').getD .empty = (lastDefaults us).getD .empty →
        ((start config).applyEach us').result.snapshot = c.snapshot ∧
        ((start config).applyEach us').result.highwater = c.highwater := by
  intro c
  have initial : (start config).snapshot.defaultContext = .empty := rfl
  have published : c.snapshot = _ := snapshot_applyEach rfl us
  refine ⟨get?_snapshot_applyEach config us, delivered_applyEach config us,
    keyed_applyEach config us, ?_, ?_, ?_⟩
  · rw [published]
    exact Option.or_none
  · rw [published]
    rfl
  · intro us' arrivals environment defaults
    constructor
    · rw [published, snapshot_applyEach rfl, arrivals, environment, initial, defaults]
    · change ((start config).applyEach us').result.layers.highwater =
        ((start config).applyEach us).result.layers.highwater
      rw [layers_applyEach, layers_applyEach, arrivals]

/-- Three updates and their deliveries in one: an environment, default contexts, and a key that is
deleted and comes back. -/
theorem published_joined :
    let config : ClientConfig := ⟨none, .empty, [], [], 0, false, fun _ => .asMerged⟩
    let user : ContextSet := .ofList [⟨"user", .ofList [("plan", (Value.string "pro").plain)]⟩]
    let us : List (Clock × Update) :=
      [(fun _ => 0, ⟨[Arrival.version 5], some 2, none⟩),
        (fun _ => 0, ⟨[Arrival.version 4, Arrival.deletion 7], none, some user⟩),
        (fun _ => 0, ⟨[Arrival.version 6], none, none⟩)]
    let us' : List (Clock × Update) :=
      [(fun _ => 1, ⟨[Arrival.version 5, Arrival.version 4, Arrival.deletion 7, Arrival.version 6],
        some 2, some user⟩)]
    ((start config).applyEach us').result.snapshot = ((start config).applyEach us).result.snapshot ∧
      ((start config).applyEach us').result.highwater =
        ((start config).applyEach us).result.highwater ∧
      ((start config).applyEach us).result.snapshot.contains "k" = true := by
  intro config user us us'
  have published := published_of_stream config us
  obtain ⟨same, mark⟩ := published.2.2.2.2.2 us' rfl rfl rfl
  refine ⟨same, mark, ?_⟩
  have found := published.1 "k"
  rw [published.2.1 "k"] at found
  change (Snapshot.get? _ "k").isSome = true
  rw [found]
  decide

end Client
end LiveConfig
