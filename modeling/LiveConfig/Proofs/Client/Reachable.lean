import LiveConfig.Client.Read
import LiveConfig.Proofs.Client.Published

/-! The states of a client.

Callers update a client, register listeners, read, and take what was heard and reported, each in the
ambient scope that happens to surround the call. Only an update touches the layers and what is
published; everything else leaves traces in the registrations and the records alone. So a client
that can be reached holds the layers, and publishes the snapshot, that some run of updates leaves
behind. -/
namespace LiveConfig

namespace ClientM

variable {α β : Type}

/-- The client after an action in an ambient scope. -/
def after (act : ClientM α) (ambient : Ambient) (c : Client) : Client :=
  ((act.run ambient).run c).result.2

/-- An action that changes no more than who listens, what was heard and what was reported. -/
def Keeps (act : ClientM α) : Prop :=
  ∀ ambient c, ∃ listeners deliveries reports,
    act.after ambient c = { c with listeners, deliveries, reports }

theorem keeps_of_after {act : ClientM α} (unchanged : ∀ ambient c, act.after ambient c = c) :
    act.Keeps := by
  intro ambient c
  exact ⟨c.listeners, c.deliveries, c.reports, unchanged ambient c⟩

theorem Keeps.bind {x : ClientM α} {f : α → ClientM β} (first : x.Keeps)
    (second : ∀ a, (f a).Keeps) : (x >>= f).Keeps := by
  intro ambient c
  obtain ⟨_, _, _, before⟩ := first ambient c
  obtain ⟨listeners, deliveries, reports, later⟩ :=
    second ((x.run ambient).run c).result.1 ambient (x.after ambient c)
  refine ⟨listeners, deliveries, reports, ?_⟩
  change (f ((x.run ambient).run c).result.1).after ambient (x.after ambient c) = _
  rw [later, before]

theorem keeps_getMatch (w : World) (passed : Option ContextSet) (key : String) :
    (getMatch w passed key).Keeps := keeps_of_after fun _ _ => rfl

theorem keeps_report (m : Match) : (report m).Keeps := by
  intro ambient c
  change ∃ listeners deliveries reports, (if c.reporting then _ else c) = _
  split
  · exact ⟨c.listeners, c.deliveries, c.reports ++ [m], rfl⟩
  · exact ⟨c.listeners, c.deliveries, c.reports, rfl⟩

theorem keeps_resolve (tracked : Bool) (w : World) (passed : Option ContextSet) (key : String) :
    (resolve tracked w passed key).Keeps := by
  apply (keeps_getMatch w passed key).bind
  intro found
  cases found with
  | none => exact keeps_of_after fun _ _ => rfl
  | some m =>
    have read : ∀ m : Match, Keeps (do let v ← m.reify w.vars; return some v) :=
      fun _ => keeps_of_after fun _ _ => rfl
    cases tracked with
    | false => exact read m
    | true => exact (keeps_report m).bind fun _ => read m

theorem keeps_getAs (view : Value → Option α) (w : World) (passed : Option ContextSet)
    (key : String) : (getAs view w passed key).Keeps := by
  apply (keeps_resolve true w passed key).bind
  intro v
  apply keeps_of_after
  intro ambient c
  cases v with
  | none => rfl
  | some v =>
    simp only
    cases view v.value <;> rfl

theorem keeps_featureIsOn (w : World) (passed : Option ContextSet) (key : String) :
    (featureIsOn w passed key).Keeps :=
  (keeps_getAs Value.bool? w passed key).bind fun _ => keeps_of_after fun _ _ => rfl

theorem after_waitForInitialization (ambient : Ambient) (c : Client) :
    waitForInitialization.after ambient c = c := by
  unfold waitForInitialization
  change after (if c.initialized then _ else _) ambient c = c
  split
  · rfl
  · rfl

theorem keeps_waitForInitialization : waitForInitialization.Keeps :=
  keeps_of_after after_waitForInitialization

/-- What callers ask of a client. The reads of one kind of value are `getAs` at its view. -/
inductive Public : {α : Type} → ClientM α → Prop
  | apply (clock : Clock) (u : Update) : Public (ClientM.apply clock u)
  | addListener (l : Listener) : Public (addListener l)
  | takeDeliveries : Public takeDeliveries
  | takeReports : Public takeReports
  | getMatch (w : World) (passed : Option ContextSet) (key : String) :
      Public (getMatch w passed key)
  | resolve (tracked : Bool) (w : World) (passed : Option ContextSet) (key : String) :
      Public (resolve tracked w passed key)
  | getAs {α : Type} (view : Value → Option α) (w : World) (passed : Option ContextSet)
      (key : String) : Public (getAs view w passed key)
  | featureIsOn (w : World) (passed : Option ContextSet) (key : String) :
      Public (featureIsOn w passed key)
  | levelFor (w : World) (logger : String) : Public (levelFor w logger)
  | waitForInitialization : Public waitForInitialization

/-- A call is an update or keeps the layers and what is published. -/
theorem Public.cases {act : ClientM α} (asked : Public act) :
    (∃ clock u, ∀ ambient c, act.after ambient c = (c.apply clock u).result.2) ∨ act.Keeps := by
  cases asked with
  | apply clock u => exact .inl ⟨clock, u, fun _ _ => rfl⟩
  | addListener l => exact .inr fun _ c => ⟨c.listeners ++ [l], c.deliveries, c.reports, rfl⟩
  | takeDeliveries => exact .inr fun _ c => ⟨c.listeners, [], c.reports, rfl⟩
  | takeReports => exact .inr fun _ c => ⟨c.listeners, c.deliveries, [], rfl⟩
  | getMatch w passed key => exact .inr (keeps_getMatch w passed key)
  | resolve tracked w passed key => exact .inr (keeps_resolve tracked w passed key)
  | getAs view w passed key => exact .inr (keeps_getAs view w passed key)
  | featureIsOn w passed key => exact .inr (keeps_featureIsOn w passed key)
  | levelFor w logger => exact .inr (keeps_of_after fun _ _ => rfl)
  | waitForInitialization => exact .inr keeps_waitForInitialization

end ClientM

namespace Client

/-- A client to which callers have led, call by call. -/
inductive Reachable : Client → Prop
  | start (config : ClientConfig) : Reachable (start config)
  | step {α : Type} {c : Client} {act : ClientM α} (ambient : Ambient) :
      Reachable c → ClientM.Public act → Reachable (act.after ambient c)

theorem applyEach_snoc (c : Client) (us : List (Clock × Update)) (clock : Clock) (u : Update) :
    (c.applyEach (us ++ [(clock, u)])).result =
      ((c.applyEach us).result.apply clock u).result.2 := by
  induction us generalizing c with
  | nil => rfl
  | cons first us ih => exact ih _

/-- A client that can be reached holds and publishes what a run of updates leaves behind. -/
theorem Reachable.of_updates {c : Client} (reachable : c.Reachable) :
    ∃ config us, c.layers = ((Client.start config).applyEach us).result.layers ∧
      c.snapshot = ((Client.start config).applyEach us).result.snapshot := by
  induction reachable with
  | start config => exact ⟨config, [], rfl, rfl⟩
  | @step α c act ambient _ asked ih =>
    obtain ⟨config, us, layers, snapshot⟩ := ih
    rcases asked.cases with ⟨clock, u, updated⟩ | kept
    · refine ⟨config, us ++ [(clock, u)], ?_, ?_⟩
      · rw [updated, applyEach_snoc, layers_apply, layers_apply, layers]
      · rw [updated, applyEach_snoc, snapshot_apply, snapshot_apply, layers, snapshot]
    · obtain ⟨_, _, _, same⟩ := kept ambient c
      rw [same]
      exact ⟨config, us, layers, snapshot⟩

end Client
end LiveConfig
