import LiveConfig.Client.Update

/-! What deliveries do to the layers.

A delivery touches one key of the delivered layer. `leaves` says what is held under that key
afterwards, given what was held before; the fixed layers stay as they are. The layers of a client
depend on the configs of its updates in their order, and not on how these are divided into
updates. -/
namespace LiveConfig

/-- A config on its way to the layers, with its provenance. -/
abbrev Arrival := Config × Provenance

namespace Arrival

def key (a : Arrival) : String := a.1.key

def id (a : Arrival) : Int64 := a.1.id

/-- What an arrival asks to be held under its key. -/
def wanted (a : Arrival) : Option Element := if a.1.isTombstone then none else some ⟨a.1, a.2⟩

/-- What is held under the key of an arrival after it. -/
def leaves (a : Arrival) : Option Element → Option Element
  | some e => if a.id < e.config.id then some e else a.wanted
  | none => a.wanted

theorem leaves_cases {a : Arrival} {held : Option Element} {e : Element}
    (left : a.leaves held = some e) : held = some e ∨ e = ⟨a.1, a.2⟩ := by
  have wanted : a.wanted = some e → e = ⟨a.1, a.2⟩ := by
    unfold Arrival.wanted
    split
    · rintro ⟨⟩
    · rintro ⟨⟩
      rfl
  unfold leaves at left
  split at left
  · split at left
    · exact .inl left
    · exact .inr (wanted left)
  · exact .inr (wanted left)

end Arrival

namespace Layers

theorem leaves_of_newer {l : Layers} {a : Arrival} {e : Element}
    (newer : l.newer? a.key a.id = some e) :
    a.leaves (l.delivered.get? a.key) = l.delivered.get? a.key := by
  unfold newer? at newer
  obtain ⟨held, found, greater⟩ := Option.bind_eq_some_iff.mp newer
  rw [found]
  unfold Arrival.leaves
  split at greater
  · rename_i older
    simp only [older, if_true]
  · cases greater

theorem leaves_of_not_newer {l : Layers} {a : Arrival} (newest : l.newer? a.key a.id = none) :
    a.leaves (l.delivered.get? a.key) = a.wanted := by
  unfold newer? at newest
  cases found : l.delivered.get? a.key with
  | none => rfl
  | some held =>
    rw [found, Option.bind_some] at newest
    unfold Arrival.leaves
    split at newest
    · cases newest
    · rename_i older
      simp only [older, if_false]

/-- Everything that a delivery does. The rules of a config are validated for the log alone. -/
theorem result_apply (l : Layers) (a : Arrival) : (l.apply a.1 a.2).result =
    match l.newer? a.key a.id with
    | some _ => (.stale, l.mark 0)
    | none =>
      if a.1.isTombstone then (.removed, { l with delivered := l.delivered.erase a.key }.mark a.id)
      else (.stored, { l with delivered := l.delivered.insert a.key ⟨a.1, a.2⟩ }.mark a.id) := by
  unfold apply
  change Logged.result (match l.newer? a.key a.id with | some e => _ | none => _) = _
  cases l.newer? a.key a.id with
  | some e => rfl
  | none =>
    simp only
    split
    · rfl
    · cases a.1.validate <;> rfl

/-- A delivery decides what is held under its key and touches no other. -/
theorem get?_delivered_apply (l : Layers) (a : Arrival) (key : String) :
    (l.apply a.1 a.2).result.2.delivered.get? key =
      if key = a.key then a.leaves (l.delivered.get? a.key) else l.delivered.get? key := by
  rw [result_apply]
  cases newer : l.newer? a.key a.id with
  | some e =>
    rw [leaves_of_newer newer]
    change l.delivered.get? key = _
    by_cases same : key = a.key
    · rw [if_pos same, same]
    · rw [if_neg same]
  | none =>
    rw [leaves_of_not_newer newer, Arrival.wanted]
    simp only
    split
    · exact Table.get?_erase l.delivered a.key key
    · exact Table.get?_insert l.delivered a.key key _

/-- What is held after a delivery was held before or has been delivered. -/
theorem held_apply {l : Layers} {a : Arrival} {key : String} {e : Element}
    (held : (l.apply a.1 a.2).result.2.delivered.get? key = some e) :
    l.delivered.get? key = some e ∨ e = ⟨a.1, a.2⟩ := by
  rw [get?_delivered_apply] at held
  split at held
  · rename_i same
    rw [same]
    exact Arrival.leaves_cases held
  · exact .inl held

theorem fixed_apply (l : Layers) (a : Arrival) :
    (l.apply a.1 a.2).result.2.defaults = l.defaults ∧
      (l.apply a.1 a.2).result.2.overrides = l.overrides := by
  rw [result_apply]
  cases l.newer? a.key a.id with
  | some e => exact ⟨rfl, rfl⟩
  | none =>
    simp only
    split <;> exact ⟨rfl, rfl⟩

theorem applyAll_cons (l : Layers) (a : Arrival) (rest : List Arrival) :
    (l.applyAll (a :: rest)).result = ((l.apply a.1 a.2).result.2.applyAll rest).result := rfl

theorem applyAll_append (l : Layers) (first second : List Arrival) :
    (l.applyAll (first ++ second)).result = ((l.applyAll first).result.applyAll second).result := by
  induction first generalizing l with
  | nil => rfl
  | cons a rest ih =>
    rw [List.cons_append, applyAll_cons, applyAll_cons]
    exact ih _

theorem fixed_applyAll (l : Layers) (arrivals : List Arrival) :
    (l.applyAll arrivals).result.defaults = l.defaults ∧
      (l.applyAll arrivals).result.overrides = l.overrides := by
  induction arrivals generalizing l with
  | nil => exact ⟨rfl, rfl⟩
  | cons a rest ih =>
    obtain ⟨defaults, overrides⟩ := ih (l.apply a.1 a.2).result.2
    obtain ⟨sameDefaults, sameOverrides⟩ := l.fixed_apply a
    rw [applyAll_cons]
    exact ⟨defaults.trans sameDefaults, overrides.trans sameOverrides⟩

/-- The last layer that has a key decides. -/
theorem get?_merged (l : Layers) (key : String) : l.merged.get? key =
    (l.overrides.get? key).or ((l.delivered.get? key).or (l.defaults.get? key)) := by
  unfold merged
  rw [Table.get?_overlay, Table.get?_overlay]

end Layers

namespace Client

/-- Applies updates one after another. -/
def applyEach (c : Client) : List (Clock × Update) → Logged Client
  | [] => return c
  | (clock, u) :: us => do
    let (_, c) ← c.apply clock u
    applyEach c us

/-- The configs of updates, in the order in which they are delivered. -/
def arrivalsOf (us : List (Clock × Update)) : List Arrival := us.flatMap fun u => u.2.configs

/-- Telling listeners changes what they heard and who listens, and nothing else. -/
theorem dispatch_frame (c : Client) (events : List ChangeEvent) :
    ∃ listeners deliveries, c.dispatch events = { c with listeners, deliveries } := by
  have called : ∀ ls : List Listener, ∀ c : Client, ∃ listeners deliveries,
      ls.foldl (call events) c = { c with listeners, deliveries } := by
    intro ls
    induction ls with
    | nil => exact fun c => ⟨c.listeners, c.deliveries, rfl⟩
    | cons l ls ih => exact fun c => ih (c.call events l)
  unfold dispatch
  split
  · exact ⟨c.listeners, c.deliveries, rfl⟩
  · exact called c.listeners c

theorem layers_dispatch (c : Client) (events : List ChangeEvent) :
    (c.dispatch events).layers = c.layers := by
  obtain ⟨_, _, same⟩ := c.dispatch_frame events
  rw [same]

theorem layers_apply (c : Client) (clock : Clock) (u : Update) :
    (c.apply clock u).result.2.layers = (c.layers.applyAll u.configs).result := by
  unfold apply
  simp only [Logged.result_bind, Logged.result_pure, layers_dispatch]
  rfl

theorem layers_applyEach (c : Client) (us : List (Clock × Update)) :
    (c.applyEach us).result.layers = (c.layers.applyAll (arrivalsOf us)).result := by
  induction us generalizing c with
  | nil => rfl
  | cons u us ih =>
    obtain ⟨clock, u⟩ := u
    change ((c.apply clock u).result.2.applyEach us).result.layers = _
    rw [ih, layers_apply]
    exact (Layers.applyAll_append c.layers u.configs (arrivalsOf us)).symm

end Client
end LiveConfig
