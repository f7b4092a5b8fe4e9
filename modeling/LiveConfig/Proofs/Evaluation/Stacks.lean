import Mathlib.Data.List.Destutter
import LiveConfig.Proofs.Evaluation.Balance
import LiveConfig.Proofs.Evaluation.References

/-! What lies on the stacks of an evaluation.

The calls under way say which configs are being evaluated, and which row each of them is trying.
`Accounted` says that the stacks hold just that: the keys of these configs, no key twice and not
more of them than may be nested, and the properties of these rows where they have some. Whatever
call is made, it is so with this call under way. Since calls return with the stacks that they were
made with, it is so at all times, and an evaluation ends with nothing on its stacks. -/
namespace LiveConfig

structure Trial where
  element : Element
  row : Option Row

def Trial.frame? (t : Trial) : Option Properties :=
  t.row.bind fun row => if row.properties.isEmpty then none else some row.properties

/-- The configs whose rows some calls are trying, innermost first. -/
def trials : List Activity → List Trial
  | .row e row :: .rows _ :: u => ⟨e, some row⟩ :: trials u
  | .rows e :: u => ⟨e, none⟩ :: trials u
  | _ :: u => trials u
  | [] => []

/-- Whatever the stacks hold, a call ends as `y` does in a scope that holds the same, and it leaves
them as it has found them. -/
def Watching.Returns {α : Type} (call : DrawingT Watching α) (y : Scope → Drawing α) : Prop :=
  ∀ n u w, ∃ moments, runFrom call n u w =
    (fun r => (r, ⟨w.scope, w.moments ++ moments⟩)) <$> (y w.scope).run.run n

namespace Inquiry

/-- What lies on the stacks is accounted for by the calls that are under way. -/
structure Accounted (q : Inquiry) (u : List Activity) (s : Scope) : Prop where
  distinct : s.keys.Nodup
  few : s.keys.length ≤ maxSegmentDepth + 1
  keys : s.keys = (trials u).map (·.element.key)
  frames : s.frames = (trials u).filterMap Trial.frame?
  held : ∀ t ∈ trials u, q.snapshot.get? t.element.key = some t.element
  applies : ∀ t ∈ trials u, ∀ row, t.row = some row →
    ∃ i, (i, row) ∈ t.element.config.applicableRows q.snapshot.environment
  /-- A key is on no stack before its config is entered. -/
  outside : ∀ key outer, u = .key key :: outer → key ∉ s.keys

structure Disciplined (q : Inquiry) (budget : Nat) : Prop where
  /-- Calls of every kind return with the stacks that they were made with, be it with a match,
  without one or with an error. -/
  key : ∀ key, Watching.Returns (Watching.resolve q budget key) (q.follow · key)
  rows : ∀ e, Watching.Returns (Watching.tryRows q (Watching.resolve q budget) e)
    (q.tryRows q.follow · e (e.config.applicableRows q.snapshot.environment))
  row : ∀ e row, Watching.Returns (Watching.tryRow q (Watching.resolve q budget) e row)
    (q.firstHolding q.follow · e.key 0 row.values)
  criterion : ∀ e c, Watching.Returns (Watching.judge q (Watching.resolve q budget) e c)
    (q.judge q.follow · e.key c)
  membership : ∀ e c, Watching.Returns (Watching.membership (Watching.resolve q budget) e c)
    (Inquiry.membership q.follow · e.key c)
  /-- The answer for a caller is found with stacks that are empty before and after, and each call
  that is made on the way is recorded as returning with the stacks that it was made with. -/
  record : ∀ key, ∃ inside, q.Balanced [.key key] .outermost inside ∧
    q.watched budget key = (fun outcome => (outcome, ⟨.outermost,
      .entry [.key key] .outermost :: (inside ++ [.exit [.key key] .outermost])⟩)) <$>
        (q.answer key).run
  /-- At all times the stacks hold what belongs to the calls that are under way. -/
  accounted : ∀ key, ∀ m ∈ (q.watched budget key).result.2.moments, q.Accounted m.underWay m.scope

section Accounting

variable {q : Inquiry} {u : List Activity} {s s' : Scope} {a : Activity}

theorem accounted_outermost (q : Inquiry) (key : String) :
    q.Accounted [.key key] .outermost where
  distinct := List.nodup_nil
  few := Nat.zero_le _
  keys := rfl
  frames := rfl
  held := List.forall_mem_nil _
  applies := List.forall_mem_nil _
  outside _ _ _ := List.not_mem_nil

theorem Accounted.rows {key : String} {e : Element} (accounted : q.Accounted (.key key :: u) s)
    (keyed : q.snapshot.Keyed) (shallow : s.keys.length ≤ maxSegmentDepth)
    (present : q.snapshot.get? key = some e) :
    q.Accounted (.rows e :: .key key :: u) (s.enter e.key) where
  distinct := by
    rw [keyed key e present]
    exact List.nodup_cons.mpr ⟨accounted.outside key u rfl, accounted.distinct⟩
  few := Nat.succ_le_succ shallow
  keys := congrArg (e.key :: ·) accounted.keys
  frames := accounted.frames
  held := by
    refine List.forall_mem_cons.mpr ⟨?_, accounted.held⟩
    rw [keyed key e present]
    exact present
  applies := List.forall_mem_cons.mpr ⟨nofun, accounted.applies⟩
  outside := nofun

theorem Accounted.row {e : Element} {r : Nat × Row} (accounted : q.Accounted (.rows e :: u) s)
    (applicable : r ∈ e.config.applicableRows q.snapshot.environment) :
    q.Accounted (.row e r.2 :: .rows e :: u) (s.within r.2.properties) where
  distinct := by
    rw [Scope.keys_within]
    exact accounted.distinct
  few := by
    rw [Scope.keys_within]
    exact accounted.few
  keys := by
    rw [Scope.keys_within]
    exact accounted.keys
  frames := by
    have around : s.frames = (trials u).filterMap Trial.frame? := accounted.frames
    unfold Scope.within
    split
    · rename_i bare
      have nothing : (Trial.mk e (some r.2)).frame? = none := if_pos bare
      rw [trials, List.filterMap_cons_none nothing, around]
    · rename_i carries
      have carried : (Trial.mk e (some r.2)).frame? = some r.2.properties := if_neg carries
      rw [trials, List.filterMap_cons_some carried, around]
  held := List.forall_mem_cons.mpr (List.forall_mem_cons.mp accounted.held)
  applies := by
    refine List.forall_mem_cons.mpr ⟨?_, (List.forall_mem_cons.mp accounted.applies).2⟩
    rintro _ ⟨⟩
    exact ⟨r.1, applicable⟩
  outside := nofun

theorem Accounted.beside (accounted : q.Accounted u s) (same : trials (a :: u) = trials u)
    (outside : ∀ key, a = .key key → key ∉ s.keys) : q.Accounted (a :: u) s where
  distinct := accounted.distinct
  few := accounted.few
  keys := same ▸ accounted.keys
  frames := same ▸ accounted.frames
  held := same ▸ accounted.held
  applies := same ▸ accounted.applies
  outside key _ asked := outside key (List.cons.inj asked).1

theorem Accounted.call (accounted : q.Accounted u s) (keyed : q.snapshot.Keyed)
    (made : q.Calls u s a s') : q.Accounted (a :: u) s' := by
  cases made with
  | rows shallow present => exact accounted.rows keyed shallow present
  | row applicable => exact accounted.row applicable
  | criterion => exact accounted.beside rfl nofun
  | membership => exact accounted.beside rfl nofun
  | key _ outside =>
    refine accounted.beside rfl ?_
    rintro _ ⟨⟩
    exact outside

/-- What is so when a call is made is so until it returns. -/
theorem Accounted.moments {moments : List Moment} (accounted : q.Accounted u s)
    (keyed : q.snapshot.Keyed) (balanced : q.Balanced u s moments) :
    ∀ m ∈ moments, q.Accounted m.underWay m.scope := by
  induction balanced with
  | done => exact List.forall_mem_nil _
  | reading _ ih => exact List.forall_mem_cons.mpr ⟨accounted, ih accounted⟩
  | call made _ _ ihWithin ihRest =>
    have called := accounted.call keyed made
    refine List.forall_mem_cons.mpr ⟨called, List.forall_mem_append.mpr ⟨ihWithin called, ?_⟩⟩
    exact List.forall_mem_cons.mpr ⟨called, ihRest accounted⟩

end Accounting

theorem returns_of_performs {α : Type} {q : Inquiry} {a : Activity} {x : DrawingT Watching α}
    {y : Scope → Drawing α} (performs : ∀ u s, Watching.Performs q u s a x (y s)) :
    Watching.Returns x y := by
  rintro n u ⟨s, past⟩
  obtain ⟨_, _, ran⟩ := performs u s n past
  exact ⟨_, ran⟩

theorem watched_eq_answer (q : Inquiry) {budget : Nat} (enough : maxSegmentDepth < budget)
    (key : String) : ∃ inside, q.Balanced [.key key] .outermost inside ∧
      q.watched budget key = (fun outcome => (outcome, ⟨.outermost,
        .entry [.key key] .outermost :: (inside ++ [.exit [.key key] .outermost])⟩)) <$>
          (q.answer key).run := by
  have level : maxSegmentDepth < Scope.outermost.keys.length + budget := Nat.lt_add_left 0 enough
  obtain ⟨inside, balanced, ran⟩ := Watching.performs_resolve q [] .outermost key level 0 []
  refine ⟨inside, balanced, ?_⟩
  have answered : (q.answer key).run =
      (q.follow .outermost key).run.run 0 >>= fun r => pure r.1 := rfl
  rw [watched, ran, bind_map_left, answered, map_bind]
  simp only [map_pure]
  rfl

/-- Whatever its segments ask about, an evaluation keeps its stacks in order. The keys on them end
the recursion, so any budget will do that these cannot use up. -/
theorem disciplined {q : Inquiry} (keyed : q.snapshot.Keyed) {budget : Nat}
    (enough : maxSegmentDepth < budget) : q.Disciplined budget := by
  have level (s : Scope) : maxSegmentDepth < s.keys.length + budget :=
    Nat.lt_add_left s.keys.length enough
  have inside (u : List Activity) (s : Scope) (segment : String)
      (left : maxSegmentDepth < s.keys.length + budget) :=
    Watching.performs_resolve q u s segment left
  constructor
  case key => exact fun key => returns_of_performs fun u s => inside u s key (level s)
  case rows =>
    exact fun e => returns_of_performs fun u s => Watching.performs_tryRows inside u (level s) e
  case row =>
    exact fun e row => returns_of_performs fun u s =>
      Watching.performs_tryRow inside u (level s) e row
  case criterion =>
    exact fun e c => returns_of_performs fun u s =>
      Watching.performs_judge inside u (level s) e c
  case membership =>
    exact fun e c => returns_of_performs fun u s =>
      Watching.performs_membership inside u (level s) e c
  case record => exact watched_eq_answer q enough
  case accounted =>
    intro key
    obtain ⟨inside, balanced, recorded⟩ := watched_eq_answer q enough key
    have start := accounted_outermost q key
    rw [recorded]
    refine List.forall_mem_cons.mpr ⟨start, List.forall_mem_append.mpr ⟨?_, ?_⟩⟩
    · exact start.moments keyed balanced
    · exact List.forall_mem_singleton.mpr start

end Inquiry

namespace Snapshot

/-- The stacks grow and shrink while the flag asks about a segment that asks about another one,
which is missing. The row of the flag is the only one that carries properties. -/
theorem disciplined_tiered : ∃ q, q = tiered.inquiry .keep 0 ⟨none, .empty⟩ ∧
    q.snapshot.Keyed ∧ maxSegmentDepth < 17 ∧ q.Disciplined 17 ∧
    ((q.watched 17 "flag").result.2.moments.map fun m =>
      (m.scope.keys, m.scope.frames.map fun f => f.entries.map Prod.fst)).destutter (· ≠ ·) =
        [([], []), (["flag"], []), (["flag"], [["tier"]]), (["members", "flag"], [["tier"]]),
          (["flag"], [["tier"]]), (["flag"], []), ([], [])] :=
  ⟨_, rfl, tiered_keyed, by decide, Inquiry.disciplined tiered_keyed (by decide),
    by decide +kernel⟩

end Snapshot
end LiveConfig
