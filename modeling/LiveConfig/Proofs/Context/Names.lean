import LiveConfig.Context.Json
import LiveConfig.Proofs.Json.Views
import LiveConfig.Proofs.Context.Merge

/-! Names of contexts and the keys that they are held under.

Everything that makes a set from contexts holds each of them under its own name, and merging keeps
that up. Reading a set from data does not look: a member is held under its key, whatever the context
in it is called. So the sets that can be made hold every context under its own name, and no two of
one name, exactly if the data that is read has each context under its name. -/
namespace LiveConfig

namespace ContextSet

/-- The contexts that can be read from the members of an object have the names of their keys. Of two
members with one key the later counts. -/
def KeyedByName (j : Json) : Prop :=
  ∀ members, j = .object members → ∀ key c,
    (members.reverse.lookup key).bind Context.ofJson? = some c → c.name = key

theorem named_ofJson?_iff {j : Json} {s : ContextSet} (read : ofJson? j = some s) :
    s.Named ↔ KeyedByName j := by
  obtain ⟨t, table, rfl⟩ := Option.map_eq_some_iff.mp read
  cases j with
  | object members =>
    have held := Json.get?_of_tableOf? table
    constructor
    · intro named _ same key c member
      cases same
      exact named key c ((held key).trans member)
    · intro keyed key c found
      exact keyed members rfl key c ((held key).symm.trans found)
  | _ => cases table

/-- Sets of contexts that a caller can make: from contexts, from data that is accepted, and by
merging such sets. -/
inductive Built (accepted : Json → Prop) : ContextSet → Prop
  | empty : Built accepted .empty
  | insert {s : ContextSet} (c : Context) : Built accepted s → Built accepted (s.insert c)
  | ofList (cs : List Context) : Built accepted (.ofList cs)
  | read {j : Json} {s : ContextSet} : accepted j → ofJson? j = some s → Built accepted s
  | merge (s : ContextSources) : (∀ set ∈ s.present, Built accepted set) → Built accepted s.merge

theorem Built.named {accepted : Json → Prop} {s : ContextSet} (built : Built accepted s)
    (keyed : ∀ j, accepted j → (ofJson? j).isSome = true → KeyedByName j) : s.Named := by
  induction built with
  | empty => exact named_empty
  | insert c _ named => exact named.insert c
  | ofList cs => exact named_ofList cs
  | @read j s data read =>
    exact (named_ofJson?_iff read).mpr (keyed j data (Option.isSome_of_eq_some read))
  | merge s _ named => exact s.named_merge named

/-- Every set that can be made holds each context under its own name, and no two contexts of one
name, exactly if whatever is accepted as data has the contexts under their names. -/
theorem built_named_iff (accepted : Json → Prop) :
    (∀ s, Built accepted s → (∀ name c, s.get? name = some c → c.name = name) ∧
      (s.toList.map Context.name).Nodup) ↔
    ∀ j, accepted j → (ofJson? j).isSome = true → KeyedByName j := by
  constructor
  · intro invariant j data readable
    obtain ⟨s, read⟩ := Option.isSome_iff_exists.mp readable
    exact (named_ofJson?_iff read).mp (invariant s (.read data read)).1
  · intro keyed s built
    have named := built.named keyed
    exact ⟨named, named.nodup_toList⟩

/-- Data whose keys are not the names: a context comes under another name than its own, and two
contexts of one name stand side by side. -/
theorem built_from_other_keys :
    let user : Json := .object [("name", .string "user"), ("properties", .object [])]
    let data : Json := .object [("a", user), ("b", user)]
    ∃ s, Built (· = data) s ∧ (∃ c, s.get? "a" = some c ∧ c.name = "user") ∧
      ¬ (s.toList.map Context.name).Nodup := by
  intro user data
  obtain ⟨s, read⟩ := Option.isSome_iff_exists.mp
    (show (ofJson? data).isSome = true by decide)
  have underA : ((ofJson? data).bind (·.get? "a")).map Context.name = some "user" := by decide
  have names : (ofJson? data).map (·.toList.map Context.name) = some ["user", "user"] := by decide
  rw [read, Option.bind_some, Option.map_eq_some_iff] at underA
  rw [read, Option.map_some, Option.some.injEq] at names
  refine ⟨s, .read rfl read, underA, ?_⟩
  rw [names]
  decide

end ContextSet
end LiveConfig
