import LiveConfig.Proofs.Client.Session

/-! What listeners hear.

A client keeps its listeners in the order in which they were registered and never drops one, so the
place of a listener tells it from the others. A run registers listeners and applies updates in any
order, and a listener may register others whenever it is called. Each update makes one round: if it
returns events, then exactly the listeners that were registered when the round began are called,
each once, in the order of registration, with all of these events and at the revision that the
update has published. -/
namespace LiveConfig

namespace Client

/-- Calling listeners one after another, with what they register meanwhile. -/
theorem foldl_call (events : List ChangeEvent) (ls : List Listener) (c : Client) :
    ls.foldl (call events) c =
      { c with
        listeners := c.listeners ++ ls.flatMap fun l => l.registers c.store.revision events
        deliveries := c.deliveries ++ ls.map fun l => ⟨l.name, events, c.store.revision⟩ } := by
  induction ls generalizing c with
  | nil => simp
  | cons l ls ih => simp [ih, call]

/-- One call of each listener, unless there is nothing to tell. -/
def told (events : List ChangeEvent) (revision : Nat) (ls : List Listener) : List Delivery :=
  if events.isEmpty then [] else ls.map fun l => ⟨l.name, events, revision⟩

theorem deliveries_dispatch (c : Client) (events : List ChangeEvent) :
    (c.dispatch events).deliveries =
      c.deliveries ++ told events c.store.revision c.listeners := by
  unfold dispatch told
  split
  · simp
  · rw [foldl_call]

/-- Whoever is registered keeps the place. -/
theorem listeners_dispatch (c : Client) (events : List ChangeEvent) :
    c.listeners <+: (c.dispatch events).listeners := by
  unfold dispatch
  split
  · exact List.prefix_refl _
  · rw [foldl_call]
    exact List.prefix_append _ _

/-- A client with one more listener. -/
def adding (c : Client) (l : Listener) : Client := { c with listeners := c.listeners ++ [l] }

/-- A client that has published an update and told nobody of it yet. -/
def published (c : Client) (u : Update) : Client :=
  { c with layers := (c.layers.applyAll u.configs).result }.publish
    (u.environment.or c.snapshot.environment) (u.defaultContext.getD c.snapshot.defaultContext)

section Update

variable (c : Client) (clock : Clock) (u : Update)

/-- An update publishes first and then tells what it returns. -/
theorem after_apply : (c.apply clock u).result.2 =
    { (c.published u).dispatch (c.apply clock u).result.1 with initialized := true } := rfl

theorem store_apply : (c.apply clock u).result.2.store = (c.published u).store := by
  obtain ⟨_, _, same⟩ := dispatch_frame (c.published u) (c.apply clock u).result.1
  rw [after_apply, same]

theorem revision_apply :
    (c.apply clock u).result.2.store.revision = c.store.revision + 1 := by
  rw [store_apply]
  rfl

theorem deliveries_apply : (c.apply clock u).result.2.deliveries =
    c.deliveries ++ told (c.apply clock u).result.1 (c.apply clock u).result.2.store.revision
      c.listeners := by
  rw [store_apply]
  exact deliveries_dispatch _ _

theorem listeners_apply : c.listeners <+: (c.apply clock u).result.2.listeners :=
  (c.published u).listeners_dispatch (c.apply clock u).result.1

end Update

end Client

/-- What callers do that concerns listeners. -/
inductive Call
  | register (l : Listener)
  | update (clock : Clock) (u : Update)

/-- An update that was performed: how many listeners were registered when it began, the events that
it returned, and the store that it left. -/
structure Round where
  registered : Nat
  events : List ChangeEvent
  store : Store

/-- The calls of listeners in a round, from the listeners in the order of their registration. -/
def Round.deliveries (r : Round) (ls : List Listener) : List Delivery :=
  Client.told r.events r.store.revision (ls.take r.registered)

/-- Of the first `n` listeners, those with a name that only the one at place `i` has. -/
theorem Listener.filter_take {ls : List Listener} {i : Nat} {l : Listener}
    (place : ls[i]? = some l)
    (only : ∀ j l', ls[j]? = some l' → l'.name = l.name → j = i) (n : Nat) :
    (ls.take n).filter (fun l' => l'.name = l.name) = if i < n then [l] else [] := by
  induction ls generalizing i n with
  | nil => cases place
  | cons first ls ih =>
    cases n with
    | zero => simp
    | succ n =>
      cases i with
      | zero =>
        obtain rfl := Option.some.inj place
        have others : (ls.take n).filter (fun l' => l'.name = first.name) = [] := by
          rw [List.filter_eq_nil_iff]
          intro l' member same
          obtain ⟨j, found⟩ := List.mem_iff_getElem?.mp (List.mem_of_mem_take member)
          exact absurd (only (j + 1) l' found (of_decide_eq_true same)) (Nat.succ_ne_zero j)
        simp [others]
      | succ i =>
        have other : first.name ≠ l.name := fun same =>
          absurd (only 0 first rfl same) (Nat.succ_ne_zero i).symm
        have rest := ih (i := i) place (fun j l' found same => by
          have := only (j + 1) l' found same
          omega) n
        simp [other, rest]

/-- Whether a round reaches the listener at a place. -/
def Round.reaches (r : Round) (i : Nat) : Bool := i < r.registered && !r.events.isEmpty

/-- A listener that its name tells from the others is called once in every round that reaches it. -/
theorem Round.filter_deliveries {ls : List Listener} {i : Nat} {l : Listener}
    (place : ls[i]? = some l)
    (only : ∀ j l', ls[j]? = some l' → l'.name = l.name → j = i) (r : Round) :
    (r.deliveries ls).filter (fun h => h.listener = l.name) =
      if r.reaches i then [⟨l.name, r.events, r.store.revision⟩] else [] := by
  unfold Round.deliveries Client.told Round.reaches
  cases r.events.isEmpty with
  | true => simp
  | false =>
    have mine := Listener.filter_take place only r.registered
    simp only [List.filter_map, Function.comp_def, Bool.false_eq_true, if_false, mine]
    by_cases earlier : i < r.registered <;> simp [earlier]

/-- A listener that its name tells from the others hears the rounds that reach it, in their
order. -/
theorem Round.filter_rounds {ls : List Listener} {i : Nat} {l : Listener}
    (place : ls[i]? = some l)
    (only : ∀ j l', ls[j]? = some l' → l'.name = l.name → j = i) (rs : List Round) :
    (rs.flatMap (Round.deliveries · ls)).filter (fun h => h.listener = l.name) =
      (rs.filter (Round.reaches · i)).map fun r => ⟨l.name, r.events, r.store.revision⟩ := by
  induction rs with
  | nil => rfl
  | cons r rs ih =>
    rw [List.flatMap_cons, List.filter_append, ih, r.filter_deliveries place only]
    by_cases reached : r.reaches i <;> simp [reached]

namespace Call

/-- Performs calls in order; gives the rounds of the updates among them. -/
def perform : List Call → ClientM (List Round)
  | [] => return []
  | register l :: calls => do
    ClientM.addListener l
    perform calls
  | update clock u :: calls => do
    let registered := (← getThe Client).listeners.length
    let events ← ClientM.apply clock u
    let store := (← getThe Client).store
    let rounds ← perform calls
    return ⟨registered, events, store⟩ :: rounds

/-- The rounds of a run that begins with a client. -/
def rounds (calls : List Call) (ambient : Ambient) (c : Client) : List Round :=
  (((perform calls).run ambient).run c).result.1

section Run

variable {ambient : Ambient} {c : Client} {calls : List Call}

theorem rounds_register {l : Listener} :
    rounds (register l :: calls) ambient c = rounds calls ambient (c.adding l) := rfl

theorem after_register {l : Listener} : (perform (register l :: calls)).after ambient c =
    (perform calls).after ambient (c.adding l) := rfl

theorem rounds_update {clock : Clock} {u : Update} : rounds (update clock u :: calls) ambient c =
    ⟨c.listeners.length, (c.apply clock u).result.1, (c.apply clock u).result.2.store⟩ ::
      rounds calls ambient (c.apply clock u).result.2 := rfl

theorem after_update {clock : Clock} {u : Update} :
    (perform (update clock u :: calls)).after ambient c =
      (perform calls).after ambient (c.apply clock u).result.2 := rfl

/-- Whoever is registered keeps the place throughout a run. -/
theorem listeners_perform (calls : List Call) (ambient : Ambient) (c : Client) :
    c.listeners <+: ((perform calls).after ambient c).listeners := by
  induction calls generalizing c with
  | nil => exact List.prefix_refl _
  | cons call calls ih =>
    cases call with
    | register l =>
      rw [after_register]
      exact (List.prefix_append c.listeners [l]).trans (ih (c.adding l))
    | update clock u =>
      rw [after_update]
      exact (c.listeners_apply clock u).trans (ih _)

/-- What listeners hear in a run, round after round. -/
theorem deliveries_perform (calls : List Call) (ambient : Ambient) (c : Client) :
    ((perform calls).after ambient c).deliveries = c.deliveries ++
      (rounds calls ambient c).flatMap
        (Round.deliveries · ((perform calls).after ambient c).listeners) := by
  induction calls generalizing c with
  | nil => exact (List.append_nil _).symm
  | cons call calls ih =>
    cases call with
    | register l =>
      rw [after_register, rounds_register]
      exact ih (c.adding l)
    | update clock u =>
      -- those who are registered before the update are the first of all who are in the end
      have first : c.listeners =
          ((perform calls).after ambient (c.apply clock u).result.2).listeners.take
            c.listeners.length :=
        List.prefix_iff_eq_take.mp
          ((c.listeners_apply clock u).trans (listeners_perform calls ambient _))
      rw [after_update, rounds_update, ih, c.deliveries_apply, List.flatMap_cons, Round.deliveries,
        ← first, List.append_assoc]

theorem after_append (earlier later : List Call) (ambient : Ambient) (c : Client) :
    (perform (earlier ++ later)).after ambient c =
      (perform later).after ambient ((perform earlier).after ambient c) := by
  induction earlier generalizing c with
  | nil => rfl
  | cons call earlier ih =>
    cases call with
    | register l => exact ih (c.adding l)
    | update clock u => exact ih (c.apply clock u).result.2

theorem rounds_append (earlier later : List Call) (ambient : Ambient) (c : Client) :
    rounds (earlier ++ later) ambient c =
      rounds earlier ambient c ++ rounds later ambient ((perform earlier).after ambient c) := by
  induction earlier generalizing c with
  | nil => rfl
  | cons call earlier ih =>
    cases call with
    | register l => exact ih (c.adding l)
    | update clock u => exact congrArg (List.cons _) (ih (c.apply clock u).result.2)

theorem revision_rounds (calls : List Call) (ambient : Ambient) (c : Client) {n : Nat} {r : Round}
    (played : (rounds calls ambient c)[n]? = some r) :
    r.store.revision = c.store.revision + n + 1 := by
  induction calls generalizing c n with
  | nil => cases played
  | cons call calls ih =>
    cases call with
    | register l =>
      rw [rounds_register] at played
      exact ih (c.adding l) played
    | update clock u =>
      rw [rounds_update] at played
      cases n with
      | zero =>
        cases played
        exact c.revision_apply clock u
      | succ n =>
        have later := ih _ (by simpa using played)
        rw [c.revision_apply] at later
        omega

end Run

/-- What listeners hear in a run. Each update makes a round, with the number of listeners that are
registered when it begins, the events that it returns and the store that it leaves; these listeners
are the first of all who are registered in the end, and every round publishes the next revision.
What is heard are the rounds in their order: in a round with events the listeners that were
registered when it began are called, in the order of registration, with all the events and at the
revision that it has published; in a round without events nobody is. So a listener hears exactly the
rounds with events that began after its registration, each once. -/
theorem heard_in_rounds (calls : List Call) (ambient : Ambient) (c : Client) :
    let d := (perform calls).after ambient c
    (∀ earlier clock u later, calls = earlier ++ update clock u :: later →
      let before := (perform earlier).after ambient c
      before.listeners <+: d.listeners ∧
      (rounds calls ambient c)[(rounds earlier ambient c).length]? =
        some ⟨before.listeners.length, (before.apply clock u).result.1,
          (before.apply clock u).result.2.store⟩) ∧
    (∀ n r, (rounds calls ambient c)[n]? = some r →
      r.store.revision = c.store.revision + n + 1) ∧
    ∃ heard, d.deliveries = c.deliveries ++ heard ∧
      heard = ((rounds calls ambient c).flatMap fun r =>
        if r.events.isEmpty then []
        else (d.listeners.take r.registered).map fun l => ⟨l.name, r.events, r.store.revision⟩) ∧
      ∀ i l, d.listeners[i]? = some l →
        (∀ j l', d.listeners[j]? = some l' → l'.name = l.name → j = i) →
        (heard.filter fun h => h.listener = l.name) =
          ((rounds calls ambient c).filter (Round.reaches · i)).map fun r =>
            ⟨l.name, r.events, r.store.revision⟩ := by
  intro d
  refine ⟨?_, fun _ _ played => revision_rounds calls ambient c played,
    (rounds calls ambient c).flatMap (Round.deliveries · d.listeners),
    deliveries_perform calls ambient c, rfl, ?_⟩
  · rintro earlier clock u later rfl
    intro before
    constructor
    · change before.listeners <+:
        ((perform (earlier ++ update clock u :: later)).after ambient c).listeners
      rw [after_append]
      exact listeners_perform _ ambient before
    · rw [rounds_append, List.getElem?_append_right (Nat.le_refl _), Nat.sub_self, rounds_update]
      rfl
  · exact fun i l place only => Round.filter_rounds place only _

/-- A listener that registers another one when it hears of the first update. -/
def welcoming : Listener :=
  .mk "host" fun revision _ => if revision = 2 then [.plain "guest"] else []

/-- A registration and three updates, the second of which delivers nothing new. -/
def visit : List Call :=
  [register welcoming, update (fun _ => 0) ⟨[Arrival.version 1], none, none⟩,
    update (fun _ => 0) ⟨[Arrival.version 1], none, none⟩,
    update (fun _ => 0) ⟨[Arrival.version 2], none, none⟩]

/-- A listener that was registered while the first update was told hears of the third alone. -/
theorem heard_by_guest :
    let c := Client.start ⟨none, .empty, [], [], 0, false, fun _ => .asMerged⟩
    let d := (perform visit).after none c
    d.listeners.map Listener.name = ["host", "guest"] ∧
    (d.deliveries.filter fun h => h.listener = "guest").map
      (fun h => (h.events.length, h.revision)) = [(1, 4)] := by
  intro c d
  have names : d.listeners.map Listener.name = ["host", "guest"] := by decide +kernel
  have reached : ((rounds visit none c).filter (Round.reaches · 1)).map
      (fun r => (r.events.length, r.store.revision)) = [(1, 4)] := by decide +kernel
  have named (j : Nat) (l : Listener) (found : d.listeners[j]? = some l) :
      ["host", "guest"][j]? = some l.name := by
    rw [← names, List.getElem?_map, found]
    rfl
  obtain ⟨guest, place⟩ : ∃ l, d.listeners[1]? = some l := by
    have present := congrArg List.length names
    rw [List.length_map] at present
    exact ⟨_, List.getElem?_eq_getElem (by simp [present])⟩
  have guestName : "guest" = guest.name := by simpa using named 1 guest place
  have only (j : Nat) (l : Listener) (found : d.listeners[j]? = some l)
      (same : l.name = guest.name) : j = 1 := by
    have entry := named j l found
    rw [same, ← guestName] at entry
    rcases j with _ | _ | j <;> simp at entry ⊢
  obtain ⟨_, _, heard, told, _, each⟩ := heard_in_rounds visit none c
  have all : d.deliveries = heard := told
  constructor
  · exact names
  · rw [all, guestName, each 1 guest place only, List.map_map, ← reached]
    rfl

end Call
end LiveConfig
