import LiveConfig.Proofs.Client.Memory
import LiveConfig.Proofs.Client.Reachable
import LiveConfig.Proofs.Client.Replay

/-! What is held stays as it is.

The references of a memory lead to what the layers of a client hold, and its generations are the
snapshots that the client publishes, one after another. A reader may hold any of them: whatever else
is published, and whatever is asked of generations that share its elements, what it holds answers as
the snapshot did when it was published. -/
namespace LiveConfig.Memory

theorem map_index (place : Nat) (es : List Element) :
    (index place es).map Cell.element = Snapshot.index es := by
  unfold index Snapshot.index Table.ofList
  rw [Table.map_insertAll, List.map_map]
  have keyed : (es.zipIdx place).map (fun e => (e.1.key, e.1)) = es.map fun e => (e.key, e) := by
    conv_rhs => rw [← List.zipIdx_map_fst place es, List.map_map]
    rfl
  exact congrArg _ keyed

/-- The layers refer to the elements that are in some layers of configs. -/
structure Holds (m : Memory) (l : Layers) : Prop where
  defaults : m.defaults.map Cell.element = l.defaults
  delivered : m.delivered.map Cell.element = l.delivered
  overrides : m.overrides.map Cell.element = l.overrides

namespace Holds

variable {m : Memory} {l : Layers}

theorem newer? (holds : m.Holds l) (key : String) (id : Int64) :
    l.newer? key id = (m.newer? key id).map Cell.element := by
  unfold Layers.newer? Memory.newer?
  rw [← holds.delivered, Table.get?_map]
  cases m.delivered.get? key with
  | none => rfl
  | some c =>
    simp only [Option.map_some, Option.bind_some]
    split <;> rfl

theorem deliver (holds : m.Holds l) (a : Arrival) :
    (m.deliver a).Holds (l.apply a.1 a.2).result.2 := by
  have newer : l.newer? a.key a.id = (m.newer? a.1.key a.1.id).map Cell.element :=
    holds.newer? a.key a.id
  rw [Layers.result_apply, newer]
  unfold Memory.deliver
  cases m.newer? a.1.key a.1.id with
  | some c => exact ⟨holds.defaults, holds.delivered, holds.overrides⟩
  | none =>
    simp only [Option.map_none]
    split
    · refine ⟨holds.defaults, ?_, holds.overrides⟩
      rw [← holds.delivered]
      exact Table.map_erase Cell.element m.delivered a.key
    · refine ⟨holds.defaults, ?_, holds.overrides⟩
      rw [← holds.delivered]
      exact Table.map_insert Cell.element m.delivered a.key ⟨m.made.length, ⟨a.1, a.2⟩⟩

theorem deliverAll (holds : m.Holds l) (arrivals : List Arrival) :
    (arrivals.foldl Memory.deliver m).Holds (l.applyAll arrivals).result := by
  induction arrivals generalizing m l with
  | nil => exact holds
  | cons a rest ih =>
    rw [Layers.applyAll_cons]
    exact ih (holds.deliver a)

theorem merged (holds : m.Holds l) : m.merged.map Cell.element = l.merged := by
  have entries (t : Table Cell) :
      (t.entries.map fun e => (e.1, e.2.element)) = (t.map Cell.element).entries := rfl
  unfold Memory.merged Layers.merged
  rw [Table.map_insertAll, Table.map_insertAll, entries, entries, holds.defaults, holds.delivered,
    holds.overrides]

end Holds

/-- A memory holds and publishes what a client does. -/
structure Reflects (m : Memory) (c : Client) : Prop where
  scope : m.scope = c.scope
  layers : m.Holds c.layers
  current : m.current.snapshot = c.snapshot

namespace Reflects

variable {m : Memory} {c : Client}

theorem start (config : ClientConfig) : (start config).Reflects (Client.start config) := by
  have holds : (Memory.start config).Holds (Client.start config).layers :=
    ⟨map_index _ _, rfl, map_index _ _⟩
  refine ⟨rfl, holds, ?_⟩
  exact congrArg (Snapshot.mk · none .empty) holds.merged

theorem renew (reflects : m.Reflects c) (sound : m.Sound) (clock : Clock) (u : Update) :
    (m.renew u).Reflects (c.apply clock u).result.2 := by
  have holds := reflects.layers.deliverAll u.configs
  have environment : m.current.environment = c.snapshot.environment :=
    congrArg Snapshot.environment reflects.current
  have defaultContext : m.current.defaultContext = c.snapshot.defaultContext :=
    congrArg Snapshot.defaultContext reflects.current
  constructor
  case scope => rw [(sound.renew u).2.scope, reflects.scope, Client.scope_apply]
  case layers =>
    rw [Client.layers_apply]
    exact ⟨holds.defaults, holds.delivered, holds.overrides⟩
  case current =>
    rw [Client.snapshot_apply, ← holds.merged, ← environment, ← defaultContext]
    rfl

/-- An update gives the same events, and what it leaves is the same. -/
theorem update (reflects : m.Reflects c) (sound : m.Sound) (clock : Clock) (u : Update) :
    (m.update clock u).1 = (c.apply clock u).result.1 ∧
      (m.update clock u).2.Reflects (c.apply clock u).result.2 := by
  obtain ⟨memos, updated, _⟩ := sound.update clock u
  have renewed := reflects.renew sound clock u
  have layers := renewed.layers
  rw [updated]
  refine ⟨?_, renewed.scope, ⟨layers.defaults, layers.delivered, layers.overrides⟩,
    renewed.current⟩
  rw [Client.events_apply, renewed.current, reflects.current, reflects.scope]

end Reflects

/-- The updates among some accesses. -/
def updatesOf (accesses : List Access) : List (Clock × Update) :=
  accesses.filterMap fun
    | .update clock u => some (clock, u)
    | _ => none

/-- The snapshots that a client publishes, the first before any update. -/
def published (config : ClientConfig) (us : List (Clock × Update)) : List Snapshot :=
  us.inits.map fun us => ((Client.start config).applyEach us).result.snapshot

theorem published_snoc (config : ClientConfig) (us : List (Clock × Update)) (u : Clock × Update) :
    published config (us ++ [u]) =
      published config us ++ [((Client.start config).applyEach (us ++ [u])).result.snapshot] := by
  unfold published
  rw [List.inits_append, List.map_append]
  rfl

theorem generations_renew (m : Memory) (u : Update) :
    (m.renew u).generations = m.generations ++ [(m.renew u).current] := by
  have delivered (arrivals : List Arrival) :
      (arrivals.foldl deliver m).generations = m.generations := by
    induction arrivals generalizing m with
    | nil => rfl
    | cons a rest ih =>
      rw [List.foldl_cons, ih]
      unfold deliver
      split
      · rfl
      · split <;> rfl
  rw [← delivered u.configs]
  rfl

/-- Accesses other than updates leave traces in what is remembered alone. -/
theorem perform_cases (m : Memory) (access : Access) :
    (∃ clock u, access = .update clock u) ∨
      updatesOf [access] = [] ∧ ∃ memos shared, m.perform access = { m with memos, shared } := by
  cases access with
  | update clock u => exact .inl ⟨clock, u, rfl⟩
  | evaluate i selection now context key =>
    refine .inr ⟨rfl, ?_⟩
    simp only [perform]
    cases m.generations[i]? with
    | none => exact ⟨m.memos, m.shared, rfl⟩
    | some g => exact ⟨_, m.shared, rfl⟩
  | rowOrder i key environment =>
    refine .inr ⟨rfl, ?_⟩
    simp only [perform]
    cases m.generations[i]?.bind fun g => g.cells.get? key with
    | none => exact ⟨m.memos, m.shared, rfl⟩
    | some c => exact ⟨_, m.shared, rfl⟩
  | sharedLookup i =>
    refine .inr ⟨rfl, ?_⟩
    simp only [perform]
    cases m.generations[i]? with
    | none => exact ⟨m.memos, m.shared, rfl⟩
    | some g =>
      unfold sharedLookup
      cases m.shared i with
      | none => exact ⟨m.memos, _, rfl⟩
      | some context => exact ⟨m.memos, m.shared, rfl⟩

/-- After any accesses the memory holds what the client does, and its generations are the snapshots
that the client has published. -/
theorem run (config : ClientConfig) (accesses : List Access) :
    ((start config).after accesses).Reflects
        ((Client.start config).applyEach (updatesOf accesses)).result ∧
      ((start config).after accesses).generations.map Generation.snapshot =
        published config (updatesOf accesses) := by
  induction accesses using List.reverseRecOn with
  | nil => exact ⟨.start config, congrArg (fun s => [s]) (Reflects.start config).current⟩
  | append_singleton accesses access ih =>
    obtain ⟨reflects, generations⟩ := ih
    have sound := ((Sound.start config).after accesses).1
    have updates : updatesOf (accesses ++ [access]) = updatesOf accesses ++ updatesOf [access] :=
      List.filterMap_append
    have last : (start config).after (accesses ++ [access]) =
        ((start config).after accesses).perform access := List.foldl_concat ..
    rw [last, updates]
    rcases perform_cases ((start config).after accesses) access with
      ⟨clock, u, rfl⟩ | ⟨silent, memos, shared, same⟩
    · obtain ⟨_, updated⟩ := reflects.update sound clock u
      have snoc := Client.applyEach_snoc (Client.start config) (updatesOf accesses) clock u
      refine ⟨?_, ?_⟩
      · change Reflects _ (Client.applyEach _ (updatesOf accesses ++ [(clock, u)])).result
        rw [snoc]
        exact updated
      · change List.map _ (((start config).after accesses).update clock u).2.generations =
          published config (updatesOf accesses ++ [(clock, u)])
        rw [published_snoc, snoc, ← generations, ← updated.current]
        exact (congrArg (List.map _) (generations_renew _ u)).trans List.map_append
    · rw [silent, List.append_nil, same]
      exact ⟨⟨reflects.scope, ⟨reflects.layers.defaults, reflects.layers.delivered,
        reflects.layers.overrides⟩, reflects.current⟩, generations⟩

theorem after_append (m : Memory) (accesses later : List Access) :
    m.after (accesses ++ later) = (m.after accesses).after later := List.foldl_append

/-- A generation that is held is, for good, the snapshot that the client published under its number.
After any later accesses, evaluating a key against it gives what this snapshot gives for the same
draws, clock and contexts, with the same log; its elements give the order of their rows as the
document has it, however often and for whatever environments they have been asked, each index once;
and reads that bring no contexts share those of the client and of this snapshot. The order of its
rows is what an element gives also if it is in no memory. -/
theorem held_stable (config : ClientConfig) (accesses later : List Access) {i : Nat}
    {g : Generation} (held : ((start config).after accesses).generations[i]? = some g) :
    let m := (start config).after (accesses ++ later)
    m.generations[i]? = some g ∧
    (published config (updatesOf accesses))[i]? = some g.snapshot ∧
    (∀ selection now context key, ∃ memos,
      m.evaluate g selection now context key = (fun outcome => (outcome, { m with memos })) <$>
        ((g.snapshot.inquiry selection now context).answer key).run) ∧
    (∀ key c (environments : List (Option Int64)), g.cells.get? key = some c →
      ((environments.mapM c.rowOrder).run m.memos).result.1 =
        environments.map c.element.config.documentOrder) ∧
    (m.sharedLookup i g).1 = ⟨config.scope, (ContextSources.merge
      ⟨some config.globalContext, some g.snapshot.defaultContext, none, none⟩).listed
        (config.listings (i + 1))⟩ ∧
    (∀ (c : Cell) (environments : List (Option Int64)),
      ((environments.mapM c.rowOrder).run .empty).result.1 =
        environments.map c.element.config.documentOrder) ∧
    ∀ (c : Config) environment, (c.documentOrder environment).Nodup := by
  intro m
  obtain ⟨sound, fromStart⟩ := (Sound.start config).after (accesses ++ later)
  have kept : m.generations[i]? = some g := by
    have extended := (((Sound.start config).after accesses).1.after later).2
    rw [← after_append] at extended
    exact extended.generation held
  have member : g ∈ m.generations := List.mem_of_getElem? kept
  refine ⟨kept, ?_, ?_, ?_, ?_, ?_, Config.nodup_documentOrder⟩
  · rw [← (run config accesses).2, List.getElem?_map, held]
    rfl
  · intro selection now context key
    obtain ⟨memos, evaluated, _⟩ := sound.evaluate member selection now context key
    exact ⟨memos, evaluated⟩
  · intro key c environments present
    have placed := sound.generations g member key c present
    obtain ⟨memos, _, ran⟩ := Cell.rowOrder_each placed environments m.memos sound.memos
    rw [ran]
    rfl
  · rw [(sound.sharedLookup kept).1, fromStart.baseLookup]
    rfl
  · intro c environments
    have alone : Function.const Nat (some c.element) c.place = some c.element := rfl
    obtain ⟨memos, _, ran⟩ := Cell.rowOrder_each alone environments _ Memos.sound_empty
    rw [ran]
    rfl

/-- A generation for one environment, held while its only element is asked for another one and goes
into a generation for that. -/
theorem held_across_environments :
    let rowFor (environment : Option Int64) (text : String) : Row :=
      ⟨environment, .empty, [.always (Value.string text).plain]⟩
    let element : Element :=
      ⟨⟨"k", 1, .config, none, [rowFor (some 1) "one", rowFor none "other", rowFor (some 2) "two"],
        []⟩, ⟨.remote, none⟩⟩
    let g : Generation := ⟨.ofList [("k", ⟨0, element⟩)], some 1, .empty⟩
    let config : ClientConfig := ⟨none, .empty, [], [], 0, false, fun _ => .asMerged⟩
    let accesses : List Access :=
      [.update (fun _ => 0) ⟨[(element.config, element.provenance)], some 1, none⟩]
    let later : List Access :=
      [.rowOrder 1 "k" (some 2), .update (fun _ => 0) ⟨[], some 2, none⟩,
        .evaluate 2 .keep 0 ⟨none, .empty⟩ "k", .sharedLookup 1]
    let m := (start config).after (accesses ++ later)
    m.generations[1]? = some g ∧
      ((m.evaluate g .keep 0 ⟨none, .empty⟩ "k").result.1.toOption.map Match.rowIndex) = some 0 ∧
      (([some 2, some 1, none].mapM (Cell.mk 0 element).rowOrder).run m.memos).result.1 =
        [[2, 1], [0, 1], [1]] := by
  intro rowFor element g config accesses later m
  have held : ((start config).after accesses).generations[1]? = some g := rfl
  obtain ⟨kept, _, evaluated, asked, _⟩ := held_stable config accesses later held
  have orders : [some 2, some 1, none].map element.config.documentOrder =
      [[2, 1], [0, 1], [1]] := by
    decide
  refine ⟨kept, ?_, ?_⟩
  · obtain ⟨memos, same⟩ := evaluated .keep 0 ⟨none, .empty⟩ "k"
    rw [same]
    rfl
  · rw [← orders]
    unfold m
    exact asked "k" ⟨0, element⟩ [some 2, some 1, none] rfl

end LiveConfig.Memory
