import LiveConfig.Proofs.Client.Reachable
import LiveConfig.Proofs.Client.Replay
import LiveConfig.Proofs.Evaluation.Contents
import LiveConfig.Proofs.Layers.Highwater

/-! Delivering an update again.

A second delivery starts from another state than the first: it may accept what was stale before, and
remove what was stored. Yet under each key the two runs meet. While they hold different things, the
one that holds the newer accepts nothing that the other does not accept too, and what both accept
leaves the same; so either they meet or the newer one never changes. Whichever of the two runs that
is, the second ends where the first did. -/
namespace LiveConfig

variable {a : Arrival} {held held' : Option Element}

/-- Nothing is held that has a greater id than what is held elsewhere. -/
def NoNewer (held held' : Option Element) : Prop :=
  ∀ e, held = some e → ∃ e', held' = some e' ∧ e.config.id ≤ e'.config.id

theorem noNewer_none (held : Option Element) : NoNewer none held := by
  intro e absent
  cases absent

theorem noNewer_total (held held' : Option Element) : NoNewer held held' ∨ NoNewer held' held := by
  cases held with
  | none => exact .inl (noNewer_none held')
  | some e =>
    cases held' with
    | none => exact .inr (noNewer_none (some e))
    | some e' =>
      rcases Int64.le_total e.config.id e'.config.id with le | le
      · refine .inl ?_
        rintro _ ⟨⟩
        exact ⟨e', rfl, le⟩
      · refine .inr ?_
        rintro _ ⟨⟩
        exact ⟨e, rfl, le⟩

namespace Arrival

/-- An arrival is stale, or leaves what it wants. -/
theorem stale_or_accepted (a : Arrival) (held : Option Element) :
    (∃ e, held = some e ∧ a.id < e.config.id ∧ a.leaves held = held) ∨
      ((∀ e, held = some e → e.config.id ≤ a.id) ∧ a.leaves held = a.wanted) := by
  cases held with
  | none =>
    refine .inr ⟨?_, rfl⟩
    intro e absent
    cases absent
  | some e =>
    by_cases stale : a.id < e.config.id
    · exact .inl ⟨e, rfl, stale, if_pos stale⟩
    · refine .inr ⟨?_, if_neg stale⟩
      rintro _ ⟨⟩
      exact Int64.not_lt.mp stale

theorem id_of_wanted {e : Element} (wanted : a.wanted = some e) : e.config.id = a.id := by
  unfold Arrival.wanted at wanted
  split at wanted
  · cases wanted
  · cases wanted
    rfl

end Arrival

/-- Where the newer run finds a delivery stale, it stays the newer one. -/
theorem NoNewer.leaves {e : Element} (noNewer : NoNewer held (some e))
    (stale : a.id < e.config.id) : NoNewer (a.leaves held) (some e) := by
  rcases a.stale_or_accepted held with ⟨_, _, _, kept⟩ | ⟨_, accepted⟩
  · rw [kept]
    exact noNewer
  · rw [accepted]
    intro d wanted
    refine ⟨e, rfl, ?_⟩
    rw [Arrival.id_of_wanted wanted]
    exact Int64.le_of_lt stale

/-- Of two runs over the same deliveries the newer one never changes, unless they meet. -/
theorem NoNewer.meets_or_stays (noNewer : NoNewer held held') (key : String)
    (arrivals : List Arrival) : heldAfter held key arrivals = heldAfter held' key arrivals ∨
      heldAfter held' key arrivals = held' := by
  induction arrivals generalizing held with
  | nil => exact .inr rfl
  | cons a rest ih =>
    rw [heldAfter_cons, heldAfter_cons]
    by_cases same : key = a.key
    · rw [if_pos same, if_pos same]
      rcases a.stale_or_accepted held' with ⟨e, rfl, stale, kept⟩ | ⟨bound, accepted⟩
      · rw [kept]
        exact ih (noNewer.leaves stale)
      · -- what the newer run accepts, the other one accepts too
        have accepted' : a.leaves held = a.wanted := by
          rcases a.stale_or_accepted held with ⟨e, rfl, stale, _⟩ | ⟨_, accepted'⟩
          · obtain ⟨e', newer, le⟩ := noNewer e rfl
            have later := bound e' newer
            rw [Int64.lt_iff_toInt_lt] at stale
            rw [Int64.le_iff_toInt_le] at le later
            omega
          · exact accepted'
        rw [accepted, accepted']
        exact .inl rfl
    · rw [if_neg same, if_neg same]
      exact ih noNewer

/-- Deliveries that are made again leave what they left the first time. -/
theorem heldAfter_heldAfter (held : Option Element) (key : String) (arrivals : List Arrival) :
    heldAfter (heldAfter held key arrivals) key arrivals = heldAfter held key arrivals := by
  rcases noNewer_total held (heldAfter held key arrivals) with older | newer
  · rcases older.meets_or_stays key arrivals with meets | stays
    · exact meets.symm
    · exact stays
  · rcases newer.meets_or_stays key arrivals with meets | stays
    · exact meets
    · rw [stays, stays]

theorem Layers.delivered_again (l : Layers) (arrivals : List Arrival) :
    ((l.applyAll arrivals).result.applyAll arrivals).result.delivered.Alike
      (l.applyAll arrivals).result.delivered := by
  intro key
  rw [get?_delivered_applyAll, get?_delivered_applyAll, heldAfter_heldAfter]

theorem Layers.merged_again (l : Layers) (arrivals : List Arrival) :
    ((l.applyAll arrivals).result.applyAll arrivals).result.merged.Alike
      (l.applyAll arrivals).result.merged := by
  intro key
  obtain ⟨defaults, overrides⟩ := (l.applyAll arrivals).result.fixed_applyAll arrivals
  rw [get?_merged, get?_merged, l.delivered_again arrivals key, defaults, overrides]

theorem Layers.Marked.highwater_again {l : Layers} (marked : l.Marked) (arrivals : List Arrival) :
    ((l.applyAll arrivals).result.applyAll arrivals).result.highwater =
      (l.applyAll arrivals).result.highwater := by
  obtain ⟨marked', raised⟩ := marked.applyAll arrivals
  obtain ⟨_, raised'⟩ := marked'.applyAll arrivals
  rw [← Int64.toInt_inj, raised', raised]
  omega

namespace Snapshot

/-- The same elements under the same keys, in the same environment and with the same default
contexts. -/
structure Alike (s t : Snapshot) : Prop where
  elements : s.elements.Alike t.elements
  environment : s.environment = t.environment
  defaultContext : s.defaultContext = t.defaultContext

variable {s t : Snapshot}

theorem Alike.configured (alike : s.Alike t) (scope : Option String) (now : Int64) (key : String) :
    s.configured scope now key = t.configured scope now key := by
  have inquiries : (s.inquiry .keep now ⟨scope, s.defaultContext⟩).Alike
      (t.inquiry .keep now ⟨scope, t.defaultContext⟩) := by
    constructor
    · exact alike.elements
    · exact alike.environment
    · rw [alike.defaultContext]
      exact .refl _
    · rfl
    · rfl
  have answered := inquiries.answer key
  rw [configured_eq, configured_eq, evaluateUnselected, answered]
  rfl

theorem Alike.stable (alike : s.Alike t) (stable : t.Stable) : s.Stable := by
  intro key e present
  exact stable key e ((alike.elements key).symm.trans present)

/-- Between snapshots that hold the same nothing changes. -/
theorem Alike.diff (alike : s.Alike t) (stable : t.Stable) (scope : Option String) (clock : Clock) :
    (diff scope clock t s).result = [] := by
  rw [result_diff stable.timeless (alike.stable stable).timeless clock 0,
    List.filterMap_eq_nil_iff]
  intro key _
  have same := alike.configured scope 0 key
  rw [change?, same, if_pos (configured_beq_self stable)]

end Snapshot

namespace Client

theorem Reachable.marked {c : Client} (reachable : c.Reachable) : c.layers.Marked := by
  obtain ⟨config, us, layers, _⟩ := reachable.of_updates
  rw [layers, layers_applyEach]
  exact ((Layers.marked_start _ _).applyAll _).1

theorem published_again (c : Client) (u : Update) (clock clock' : Clock) :
    ((c.apply clock u).result.2.apply clock' u).result.2.snapshot.Alike
      (c.apply clock u).result.2.snapshot := by
  have again := snapshot_apply (c.apply clock u).result.2 clock' u
  rw [layers_apply, snapshot_apply c clock u] at again
  rw [again, snapshot_apply c clock u]
  constructor
  · exact c.layers.merged_again u.configs
  · cases u.environment <;> rfl
  · cases u.defaultContext <;> rfl

/-- An update that is applied a second time, right after the first, leaves the delivered configs,
the published snapshot and the highwater mark as they are. Where every config of the layers and of
the update is stable, it returns no events. -/
theorem redelivery_changes_nothing {c : Client} (reachable : c.Reachable) (u : Update)
    (clock clock' : Clock) :
    let once := (c.apply clock u).result.2
    let again := (once.apply clock' u).result
    again.2.layers.delivered.Alike once.layers.delivered ∧
    again.2.snapshot.Alike once.snapshot ∧
    again.2.highwater = once.highwater ∧
    (c.layers.Stable → (∀ a ∈ u.configs, a.1.Stable) → again.1 = []) := by
  intro once again
  have layers : once.layers = (c.layers.applyAll u.configs).result := layers_apply c clock u
  have layers' : again.2.layers = (once.layers.applyAll u.configs).result :=
    layers_apply once clock' u
  have published : again.2.snapshot.Alike once.snapshot := c.published_again u clock clock'
  refine ⟨?_, published, ?_, ?_⟩
  · rw [layers', layers]
    exact c.layers.delivered_again u.configs
  · change again.2.layers.highwater = once.layers.highwater
    rw [layers', layers]
    exact reachable.marked.highwater_again u.configs
  · intro stable arriving
    have after : once.snapshot.Stable := by
      apply Layers.Stable.merged (stable.applyAll arriving)
      rw [← layers]
      exact c.elements_apply clock u
    have difference : again.1 =
        (Snapshot.diff once.scope clock' once.snapshot again.2.snapshot).result :=
      once.events_apply clock' u
    rw [difference]
    exact published.diff after once.scope clock'

/-- The first delivery drops the version 4 and removes the key; the second one stores the version 4
and removes it again. Both end with the version 2, which comes last. -/
theorem redelivery_of_late_version :
    let c := ((start ⟨none, .empty, [], [], 0, false, fun _ => .asMerged⟩).apply (fun _ => 0)
      ⟨[Arrival.version 5], none, none⟩).result.2
    let u : Update :=
      ⟨[Arrival.version 4, Arrival.deletion 5, Arrival.version 2], some 1, some .empty⟩
    let once := (c.apply (fun _ => 0) u).result.2
    let again := (once.apply (fun _ => 1) u).result
    (once.layers.delivered.get? "k").map (·.config.id) = some 2 ∧
      (again.2.layers.delivered.get? "k").map (·.config.id) = some 2 ∧
      again.2.snapshot.elements.get? "k" = once.snapshot.elements.get? "k" ∧
      again.2.highwater = 5 ∧ again.1 = [] := by
  intro c u once again
  have reachable : c.Reachable :=
    (Reachable.start ⟨none, .empty, [], [], 0, false, fun _ => .asMerged⟩).step none
      (.apply (fun _ => 0) ⟨[Arrival.version 5], none, none⟩)
  obtain ⟨delivered, published, highwater, silent⟩ :=
    redelivery_changes_nothing reachable u (fun _ => 0) (fun _ => 1)
  have before : c.layers = ((Layers.start [] []).applyAll [Arrival.version 5]).result :=
    layers_apply _ _ _
  have layers : once.layers = (c.layers.applyAll u.configs).result := layers_apply _ _ _
  rw [before] at layers
  have first : (once.layers.delivered.get? "k").map (·.config.id) = some 2 := by
    rw [layers]
    decide
  have mark : once.highwater = 5 := by
    change once.layers.highwater = 5
    rw [layers]
    decide
  have stable : c.layers.Stable := by
    rw [before]
    exact (Layers.stable_start (by decide) (by decide)).applyAll (by decide)
  refine ⟨first, ?_, published.elements "k", ?_, silent stable (by decide)⟩
  · rw [delivered "k"]
    exact first
  · rw [highwater]
    exact mark

end Client
end LiveConfig
