import Mathlib.Data.List.Chain
import Mathlib.Logic.Relation
import LiveConfig.Evaluation.Evaluator

/-! Which configs ask about which segments.

A config refers to the segments that the criteria of its applicable rows name, whether the snapshot
has them or not. Where the references that are reached from a key run in no cycle, a chain of them
meets no key twice, so a bound on the chains without a repeated key bounds all of them. A rank that
every reference lowers shows both at once. -/
namespace LiveConfig.Snapshot

open Relation (TransGen ReflTransGen)

variable {s : Snapshot} {key segment : String}

/-- Every element is held under its own key. -/
def Keyed (s : Snapshot) : Prop := ∀ key e, s.get? key = some e → e.key = key

/-- The segments that the criteria of a config's applicable rows name. -/
def references (s : Snapshot) (key : String) : List String :=
  match s.get? key with
  | none => []
  | some e => (e.config.applicableRows s.environment).flatMap fun r =>
      r.2.values.flatMap fun v => v.criteria.filterMap Criterion.segment?

def Refers (s : Snapshot) (key segment : String) : Prop := segment ∈ s.references key

/-- No key that references lead to from the given one leads back to itself. -/
def Acyclic (s : Snapshot) (key : String) : Prop :=
  ∀ k, ReflTransGen s.Refers key k → ¬ TransGen s.Refers k k

/-- No chain of more than `maxSegmentDepth` references starts at a key, without one repeated. -/
def Shallow (s : Snapshot) (key : String) : Prop :=
  ∀ ks, (key :: ks).IsChain s.Refers → (key :: ks).Nodup → ks.length ≤ maxSegmentDepth

/-- No chain of more than `n` references starts at a key. -/
def Bounded (s : Snapshot) (n : Nat) (key : String) : Prop :=
  ∀ ks, (key :: ks).IsChain s.Refers → ks.length ≤ n

theorem keyed_of_entries (own : ∀ entry ∈ s.elements.entries, entry.2.key = entry.1) : s.Keyed :=
  fun key e present => own (key, e) (Table.mem_entries_of_get? present)

theorem refers_of_criterion {e : Element} {r : Nat × Row} {v : ConditionalValue} {c : Criterion}
    (present : s.get? key = some e) (applicable : r ∈ e.config.applicableRows s.environment)
    (inRow : v ∈ r.2.values) (guards : c ∈ v.criteria) (named : c.segment? = some segment) :
    s.Refers key segment := by
  unfold Refers references
  simp only [present]
  exact List.mem_flatMap.mpr ⟨r, applicable,
    List.mem_flatMap.mpr ⟨v, inRow, List.mem_filterMap.mpr ⟨c, guards, named⟩⟩⟩

/-- A config that is evaluated in a scope asks about a segment in the scope of one of its rows. A
segment that is being evaluated is not entered again. -/
inductive Enters (s : Snapshot) : Scope × String → Scope × String → Prop
  | segment {scope : Scope} {key segment : String} {e : Element} {r : Nat × Row}
      {v : ConditionalValue} {c : Criterion} (present : s.get? key = some e)
      (applicable : r ∈ e.config.applicableRows s.environment) (inRow : v ∈ r.2.values)
      (guards : c ∈ v.criteria) (named : c.segment? = some segment)
      (fresh : segment ∉ ((scope.enter e.key).within r.2.properties).keys) :
      s.Enters (scope, key) ((scope.enter e.key).within r.2.properties, segment)

theorem Enters.refers {outer inner : Scope × String} (enters : s.Enters outer inner) :
    s.Refers outer.2 inner.2 := by
  cases enters with
  | segment present applicable inRow guards named _ =>
    exact refers_of_criterion present applicable inRow guards named

theorem leads_of_enters {outer inner : Scope × String} (enters : TransGen s.Enters outer inner) :
    TransGen s.Refers outer.2 inner.2 :=
  enters.lift Prod.snd fun _ _ => Enters.refers

/-- Only a key of the snapshot refers to anything. -/
theorem Refers.mem_keys (refers : s.Refers key segment) : key ∈ s.elements.keys := by
  unfold Refers references at refers
  cases present : s.get? key with
  | none =>
    rw [present] at refers
    exact absurd refers List.not_mem_nil
  | some e => exact Table.mem_keys_iff.mpr (Option.isSome_of_eq_some present)

/-- What is reached lies in any list that has the root and that references do not leave. -/
theorem mem_of_reached {ks : List String} (root : key ∈ ks)
    (closed : ∀ k ∈ ks, ∀ t ∈ s.references k, t ∈ ks) {k : String}
    (reached : ReflTransGen s.Refers key k) : k ∈ ks := by
  induction reached with
  | refl => exact root
  | tail _ refers ih => exact closed _ ih _ refers

theorem Acyclic.refers (acyclic : s.Acyclic key) (refers : s.Refers key segment) :
    s.Acyclic segment :=
  fun k reached => acyclic k (.head refers reached)

theorem Acyclic.nodup {ks : List String} (acyclic : s.Acyclic key)
    (chain : (key :: ks).IsChain s.Refers) : (key :: ks).Nodup := by
  have reached : ∀ k ∈ key :: ks, ReflTransGen s.Refers key k :=
    chain.induction _ _ (fun _ _ refers reached => reached.tail refers) fun _ => .refl
  have apart : (key :: ks).Pairwise (TransGen s.Refers) :=
    List.isChain_iff_pairwise.mp (chain.imp fun _ _ refers => .single refers)
  refine apart.imp_of_mem fun {a b} inChain _ leads => ?_
  rintro rfl
  exact acyclic a (reached a inChain) leads

theorem Acyclic.bounded (acyclic : s.Acyclic key) (shallow : s.Shallow key) :
    s.Bounded maxSegmentDepth key :=
  fun ks chain => shallow ks chain (acyclic.nodup chain)

theorem Bounded.refers {n : Nat} (bounded : s.Bounded (n + 1) key)
    (refers : s.Refers key segment) : s.Bounded n segment := by
  intro ks chain
  have longer := bounded (segment :: ks) (.cons_cons refers chain)
  exact Nat.le_of_succ_le_succ longer

theorem Bounded.not_refers (bounded : s.Bounded 0 key) : ¬ s.Refers key segment := by
  intro refers
  exact absurd (bounded [segment] (.cons_cons refers (.singleton _))) (Nat.not_succ_le_zero 0)

section Rank

variable {rank : String → Nat}

theorem rank_of_leads (lowers : ∀ k t, s.Refers k t → rank t < rank k)
    (leads : TransGen s.Refers key segment) : rank segment < rank key := by
  induction leads with
  | single refers => exact lowers _ _ refers
  | tail _ refers ih => exact (lowers _ _ refers).trans ih

theorem bounded_of_rank (lowers : ∀ k t, s.Refers k t → rank t < rank k) {ks : List String}
    (chain : (key :: ks).IsChain s.Refers) : ks.length ≤ rank key := by
  induction ks generalizing key with
  | nil => exact Nat.zero_le _
  | cons k ks ih =>
    obtain ⟨refers, rest⟩ := List.isChain_cons_cons.mp chain
    have shorter := ih rest
    have lower := lowers _ _ refers
    simp only [List.length_cons]
    omega

/-- A rank that every reference of the snapshot lowers, and that is small enough at a key. -/
theorem acyclic_and_shallow_of_rank (rank : String → Nat)
    (lowers : ∀ k ∈ s.elements.keys, ∀ t ∈ s.references k, rank t < rank k)
    (small : rank key ≤ maxSegmentDepth) : s.Acyclic key ∧ s.Shallow key := by
  have lower : ∀ k t, s.Refers k t → rank t < rank k :=
    fun k t refers => lowers k refers.mem_keys t refers
  refine ⟨fun k _ leads => ?_, fun ks chain _ => ?_⟩
  · exact absurd (rank_of_leads lower leads) (Nat.lt_irrefl _)
  · exact (bounded_of_rank lower chain).trans small

end Rank

/-- A flag that is split for the members of a segment, which leaves out those of another one that
the snapshot lacks. The row of the flag says which tier the segment sees. -/
def tiered : Snapshot :=
  let split : Value :=
    .weighted ⟨[⟨1, (Value.string "a").plain⟩, ⟨3, (Value.string "b").plain⟩], none⟩
  let flag : Config := ⟨"flag", 2, .featureFlag, none,
    [⟨none, .ofList [("tier", (Value.string "gold").plain)],
      [⟨[⟨"", .inSegment, some (Value.string "members").plain⟩], split.plain⟩,
        .always (Value.string "c").plain]⟩], []⟩
  let members : Config := ⟨"members", 1, .segment, none,
    [⟨none, .empty,
      [⟨[⟨"tier", .isOneOf, some (Value.stringList ["gold"]).plain⟩,
          ⟨"", .notInSegment, some (Value.string "banned").plain⟩],
        (Value.bool true).plain⟩]⟩], []⟩
  ⟨index [⟨flag, ⟨.remote, none⟩⟩, ⟨members, ⟨.remote, none⟩⟩], none, .empty⟩

theorem tiered_keyed : tiered.Keyed := keyed_of_entries (by decide)

theorem tiered_acyclic_and_shallow : tiered.Acyclic "flag" ∧ tiered.Shallow "flag" :=
  acyclic_and_shallow_of_rank
    (fun k => if k = "flag" then 2 else if k = "members" then 1 else 0) (by decide) (by decide)

end LiveConfig.Snapshot
