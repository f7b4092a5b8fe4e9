import Mathlib.Data.List.Infix
import LiveConfig.Client.Memory
import LiveConfig.Proofs.Evaluation.Recalled
import LiveConfig.Proofs.Table

/-! What accesses leave of a memory.

Whatever is done with the memory of a client, elements and generations are only added, every cell is
in the place of its element, and what is remembered about an element was computed for it: an element
is never changed, and its place is never given to another one. So every access is answered as if
nothing were remembered. -/
namespace LiveConfig

namespace Table

variable {owner owner' : Nat → Option Element} {t u : Table Cell}

theorem Placed.mono (placed : t.Placed owner)
    (kept : ∀ place e, owner place = some e → owner' place = some e) : t.Placed owner' :=
  fun key c present => kept c.place c.element (placed key c present)

theorem Placed.insert (placed : t.Placed owner) (key : String) {c : Cell}
    (owned : owner c.place = some c.element) : (t.insert key c).Placed owner := by
  intro key' c' present
  rw [get?_insert] at present
  split at present
  · cases present
    exact owned
  · exact placed key' c' present

theorem Placed.erase (placed : t.Placed owner) (key : String) : (t.erase key).Placed owner := by
  intro key' c' present
  rw [get?_erase] at present
  split at present
  · cases present
  · exact placed key' c' present

theorem Placed.overlay (placed : t.Placed owner) (top : u.Placed owner) :
    (t.insertAll u.entries).Placed owner := by
  intro key c present
  rw [get?_overlay] at present
  rcases Option.or_eq_some_iff.mp present with upper | ⟨_, lower⟩
  · exact top key c upper
  · exact placed key c lower

end Table

namespace Memory

def owner (m : Memory) (place : Nat) : Option Element := m.made[place]?

/-- The look-up context of reads of generation number `i` that bring none of their own. -/
def baseLookup (m : Memory) (i : Nat) (g : Generation) : LookupContext :=
  ⟨m.scope, (ContextSources.merge
    ⟨some m.globalContext, some g.defaultContext, none, none⟩).listed (m.listings (i + 1))⟩

theorem placed_index {owner : Nat → Option Element} {place : Nat} {es : List Element}
    (owned : ∀ i, i < es.length → owner (place + i) = es[i]?) :
    (index place es).Placed owner := by
  intro key c present
  unfold index Table.ofList at present
  rw [Table.get?_insertAll, Table.get?_empty, Option.or_none] at present
  obtain ⟨⟨e, j⟩, indexed, same⟩ :=
    List.mem_map.mp (List.mem_reverse.mp (Table.mem_of_lookup present))
  cases same
  obtain ⟨after, found⟩ := List.mk_mem_zipIdx_iff_le_and_getElem?_sub.mp indexed
  have inside := owned (j - place) (List.getElem?_eq_some_iff.mp found).1
  rw [Nat.add_sub_cancel' after] at inside
  exact inside.trans found

structure Extends (m m' : Memory) : Prop where
  made : m.made <+: m'.made
  generations : m.generations <+: m'.generations
  scope : m'.scope = m.scope
  globalContext : m'.globalContext = m.globalContext
  listings : m'.listings = m.listings

namespace Extends

variable {m m' m'' : Memory}

theorem refl (m : Memory) : m.Extends m :=
  ⟨List.prefix_refl _, List.prefix_refl _, rfl, rfl, rfl⟩

/-- What is remembered may be anything. -/
theorem remembering (m : Memory) (memos : Memos) : m.Extends { m with memos } :=
  ⟨List.prefix_refl _, List.prefix_refl _, rfl, rfl, rfl⟩

theorem trans (first : m.Extends m') (second : m'.Extends m'') : m.Extends m'' :=
  ⟨first.made.trans second.made, first.generations.trans second.generations,
    second.scope.trans first.scope, second.globalContext.trans first.globalContext,
    second.listings.trans first.listings⟩

theorem kept {α : Type} {l l' : List α} (before : l <+: l') {i : Nat} {a : α}
    (held : l[i]? = some a) : l'[i]? = some a := by
  obtain ⟨added, rfl⟩ := before
  rw [List.getElem?_append_left (List.getElem?_eq_some_iff.mp held).1]
  exact held

theorem owner (extended : m.Extends m') {place : Nat} {e : Element}
    (owned : m.owner place = some e) : m'.owner place = some e :=
  kept extended.made owned

theorem generation (extended : m.Extends m') {i : Nat} {g : Generation}
    (held : m.generations[i]? = some g) : m'.generations[i]? = some g :=
  kept extended.generations held

theorem baseLookup (extended : m.Extends m') (i : Nat) (g : Generation) :
    m'.baseLookup i g = m.baseLookup i g := by
  unfold Memory.baseLookup
  rw [extended.scope, extended.globalContext, extended.listings]

end Extends

/-- Cells are in their places, and what is remembered is right. -/
structure Sound (m : Memory) : Prop where
  defaults : m.defaults.Placed m.owner
  delivered : m.delivered.Placed m.owner
  overrides : m.overrides.Placed m.owner
  generations : ∀ g ∈ m.generations, g.cells.Placed m.owner
  memos : m.memos.Sound m.owner
  shared : ∀ i context, m.shared i = some context →
    ∃ g, m.generations[i]? = some g ∧ context = m.baseLookup i g

namespace Sound

variable {m m' : Memory}

theorem start (config : ClientConfig) : (start config).Sound := by
  have defaults : (index 0 config.bundledDefaults).Placed (Memory.start config).owner := by
    apply placed_index
    intro i inside
    rw [Nat.zero_add]
    exact List.getElem?_append_left inside
  have overrides : (index config.bundledDefaults.length config.localOverrides).Placed
      (Memory.start config).owner := by
    apply placed_index
    intro i _
    exact (List.getElem?_append_right (Nat.le_add_right ..)).trans (by rw [Nat.add_sub_cancel_left])
  have delivered : (Table.empty : Table Cell).Placed (Memory.start config).owner := by
    intro key c present
    cases present
  refine ⟨defaults, delivered, overrides, ?_, Memos.sound_empty, ?_⟩
  · intro g member
    cases List.mem_singleton.mp member
    exact (defaults.overlay delivered).overlay overrides
  · intro i context remembered
    cases remembered

theorem merged (sound : m.Sound) : m.merged.Placed m.owner :=
  (sound.defaults.overlay sound.delivered).overlay sound.overrides

theorem extend (sound : m.Sound) (extended : m.Extends m')
    (delivered : m'.delivered.Placed m'.owner)
    (generations : ∀ g ∈ m'.generations, g ∈ m.generations ∨ g.cells.Placed m'.owner)
    (fixed : m'.defaults = m.defaults ∧ m'.overrides = m.overrides)
    (remembered : m'.memos = m.memos ∧ m'.shared = m.shared) : m'.Sound where
  defaults := fixed.1 ▸ sound.defaults.mono fun _ _ => extended.owner
  delivered := delivered
  overrides := fixed.2 ▸ sound.overrides.mono fun _ _ => extended.owner
  generations := by
    intro g member
    rcases generations g member with before | placed
    · exact (sound.generations g before).mono fun _ _ => extended.owner
    · exact placed
  memos := by
    intro place environment order known
    rw [remembered.1] at known
    obtain ⟨e, owned, computed⟩ := sound.memos place environment order known
    exact ⟨e, extended.owner owned, computed⟩
  shared := by
    intro i context known
    rw [remembered.2] at known
    obtain ⟨g, held, merged⟩ := sound.shared i context known
    exact ⟨g, extended.generation held, merged.trans (extended.baseLookup i g).symm⟩

theorem deliver (sound : m.Sound) (a : Config × Provenance) :
    (m.deliver a).Sound ∧ m.Extends (m.deliver a) := by
  unfold Memory.deliver
  split
  · exact ⟨sound, .refl m⟩
  · split
    · have extended : m.Extends { m with delivered := m.delivered.erase a.1.key } :=
        ⟨List.prefix_refl _, List.prefix_refl _, rfl, rfl, rfl⟩
      exact ⟨sound.extend extended (sound.delivered.erase a.1.key) (fun g => .inl) ⟨rfl, rfl⟩
        ⟨rfl, rfl⟩, extended⟩
    · rename_i newest _
      have extended : m.Extends
          { m with
            made := m.made ++ [⟨a.1, a.2⟩]
            delivered := m.delivered.insert a.1.key ⟨m.made.length, ⟨a.1, a.2⟩⟩ } :=
        ⟨List.prefix_append _ _, List.prefix_refl _, rfl, rfl, rfl⟩
      refine ⟨sound.extend extended ?_ (fun g => .inl) ⟨rfl, rfl⟩ ⟨rfl, rfl⟩, extended⟩
      exact (sound.delivered.mono fun _ _ => extended.owner).insert a.1.key
        List.getElem?_concat_length

theorem deliverAll (sound : m.Sound) (arrivals : List (Config × Provenance)) :
    (arrivals.foldl Memory.deliver m).Sound ∧ m.Extends (arrivals.foldl Memory.deliver m) := by
  induction arrivals generalizing m with
  | nil => exact ⟨sound, .refl m⟩
  | cons a rest ih =>
    obtain ⟨delivered, first⟩ := sound.deliver a
    obtain ⟨all, later⟩ := ih delivered
    exact ⟨all, first.trans later⟩

theorem publish (sound : m.Sound) (environment : Option Int64) (defaultContext : ContextSet) :
    (m.publish environment defaultContext).Sound ∧
      m.Extends (m.publish environment defaultContext) := by
  have extended : m.Extends (m.publish environment defaultContext) :=
    ⟨List.prefix_refl _, List.prefix_append _ _, rfl, rfl, rfl⟩
  refine ⟨sound.extend extended sound.delivered ?_ ⟨rfl, rfl⟩ ⟨rfl, rfl⟩, extended⟩
  intro g member
  rcases List.mem_append.mp member with before | new
  · exact .inl before
  · cases List.mem_singleton.mp new
    exact .inr sound.merged

/-- A question to elements in memory is answered, and the memory is sound afterwards. -/
theorem ask {α : Type} {x : Recalling α} {y : Logged α} (sound : m.Sound)
    (answers : Recalling.Answers m.owner x y) :
    ∃ memos, x.run m.memos = (fun a => (a, memos)) <$> y ∧ Sound { m with memos } := by
  obtain ⟨memos, right, ran⟩ := answers m.memos sound.memos
  exact ⟨memos, ran, sound.defaults, sound.delivered, sound.overrides, sound.generations, right,
    sound.shared⟩

theorem evaluate (sound : m.Sound) {g : Generation} (held : g ∈ m.generations)
    (selection : Selection) (now : Int64) (context : LookupContext) (key : String) :
    ∃ memos, m.evaluate g selection now context key =
      (fun outcome => (outcome, { m with memos })) <$>
        ((g.snapshot.inquiry selection now context).answer key).run ∧ Sound { m with memos } := by
  obtain ⟨memos, ran, after⟩ :=
    sound.ask (Generation.answers_evaluate (sound.generations g held) selection now context key)
  refine ⟨memos, ?_, after⟩
  unfold Memory.evaluate
  rw [ran, bind_map_left, map_eq_pure_bind]

theorem rowOrder (sound : m.Sound) {c : Cell} (placed : m.owner c.place = some c.element)
    (environment : Option Int64) :
    ∃ memos, m.rowOrder c environment =
      (c.element.config.documentOrder environment, { m with memos }) ∧ Sound { m with memos } := by
  obtain ⟨memos, ran, after⟩ := sound.ask (Cell.answers_rowOrder placed environment)
  refine ⟨memos, ?_, after⟩
  unfold Memory.rowOrder
  rw [ran, ← Config.rowOrder_eq]
  rfl

theorem sharedLookup (sound : m.Sound) {i : Nat} {g : Generation}
    (held : m.generations[i]? = some g) :
    (m.sharedLookup i g).1 = m.baseLookup i g ∧ (m.sharedLookup i g).2.Sound ∧
      m.Extends (m.sharedLookup i g).2 := by
  unfold Memory.sharedLookup
  split
  · rename_i context known
    obtain ⟨g', held', rfl⟩ := sound.shared i context known
    cases held.symm.trans held'
    exact ⟨rfl, sound, .refl m⟩
  · refine ⟨rfl, ⟨sound.defaults, sound.delivered, sound.overrides, sound.generations, sound.memos,
      ?_⟩, List.prefix_refl _, List.prefix_refl _, rfl, rfl, rfl⟩
    intro j context known
    simp only at known
    split at known
    · rename_i same
      subst same
      cases known
      exact ⟨g, held, rfl⟩
    · exact sound.shared j context known

theorem current (sound : m.Sound) : m.current.cells.Placed m.owner :=
  sound.generations m.current (List.mem_append_right _ List.mem_cons_self)

theorem renew (sound : m.Sound) (u : Update) : (m.renew u).Sound ∧ m.Extends (m.renew u) := by
  obtain ⟨delivered, first⟩ := sound.deliverAll u.configs
  obtain ⟨published, second⟩ := delivered.publish (u.environment.or m.current.environment)
    (u.defaultContext.getD m.current.defaultContext)
  exact ⟨published, first.trans second⟩

/-- An update gives the events between the snapshots before and after it. -/
theorem update (sound : m.Sound) (clock : Clock) (u : Update) :
    ∃ memos, m.update clock u =
      ((Snapshot.diff m.scope clock m.current.snapshot (m.renew u).current.snapshot).result,
        { m.renew u with memos }) ∧ Sound { m.renew u with memos } := by
  obtain ⟨renewed, extended⟩ := sound.renew u
  obtain ⟨memos, ran, after⟩ := renewed.ask (Generation.answers_diff
    (sound.current.mono fun _ _ => extended.owner) renewed.current m.scope clock)
  refine ⟨memos, ?_, after⟩
  unfold Memory.update
  rw [ran]
  rfl

/-- Every access keeps a memory sound and what is held in it. -/
theorem perform (sound : m.Sound) (access : Access) :
    (m.perform access).Sound ∧ m.Extends (m.perform access) := by
  cases access with
  | update clock u =>
    obtain ⟨memos, updated, after⟩ := sound.update clock u
    change (m.update clock u).2.Sound ∧ m.Extends (m.update clock u).2
    rw [updated]
    exact ⟨after, (sound.renew u).2.trans (.remembering (m.renew u) memos)⟩
  | evaluate i selection now context key =>
    unfold Memory.perform
    simp only
    cases held : m.generations[i]? with
    | none => exact ⟨sound, .refl m⟩
    | some g =>
      obtain ⟨memos, evaluated, after⟩ :=
        sound.evaluate (List.mem_of_getElem? held) selection now context key
      simp only [evaluated]
      exact ⟨after, .remembering m memos⟩
  | rowOrder i key environment =>
    unfold Memory.perform
    simp only
    split
    · rename_i c found
      obtain ⟨g, held, present⟩ := Option.bind_eq_some_iff.mp found
      obtain ⟨memos, asked, after⟩ := sound.rowOrder
        (sound.generations g (List.mem_of_getElem? held) key c present) environment
      rw [asked]
      exact ⟨after, .remembering m memos⟩
    · exact ⟨sound, .refl m⟩
  | sharedLookup i =>
    unfold Memory.perform
    simp only
    cases held : m.generations[i]? with
    | none => exact ⟨sound, .refl m⟩
    | some g => exact (sound.sharedLookup held).2

theorem after (sound : m.Sound) (accesses : List Access) :
    (m.after accesses).Sound ∧ m.Extends (m.after accesses) := by
  induction accesses generalizing m with
  | nil => exact ⟨sound, .refl m⟩
  | cons access rest ih =>
    obtain ⟨performed, first⟩ := sound.perform access
    obtain ⟨done, later⟩ := ih performed
    exact ⟨done, first.trans later⟩

end Sound

end Memory
end LiveConfig
