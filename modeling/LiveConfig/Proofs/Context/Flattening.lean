import Mathlib.Data.List.Forall2
import LiveConfig.Proofs.Context.Merge
import LiveConfig.Proofs.Evaluation.Contents

/-! Flattening and the order of contexts.

The flat name of a property joins the name of its context and its own by a dot, and nothing is
escaped: `home.city` of `user` and `city` of `user.home` have one flat name, and so have `key` of
`user` and `user.key` of the context without a name. Where two properties meet, the one that is
visited last is seen. So what a look-up context shows is free of the order in which it lists its
contexts exactly if no two properties meet with different values; then every evaluation is free of
it too. -/
namespace LiveConfig

/-- One context, with its properties listed in two orders. -/
structure Context.Reordered (c d : Context) : Prop where
  name : c.name = d.name
  properties : c.properties.entries.Perm d.properties.entries

theorem Context.Reordered.alike {c d : Context} (same : c.Reordered d) :
    c.properties.Alike d.properties := Table.alike_iff_perm.mpr same.properties

/-- The same contexts under the same keys in two orders, and the properties of each too. -/
def ContextSet.Reordered (s t : ContextSet) : Prop :=
  ∃ es, s.contexts.entries.Perm es ∧
    List.Forall₂ (fun e f => e.1 = f.1 ∧ e.2.Reordered f.2) es t.contexts.entries

theorem ContextSet.mem_toList {s : ContextSet} {c : Context} :
    c ∈ s.toList ↔ ∃ group, s.get? group = some c := by
  constructor
  · intro listed
    obtain ⟨e, entry, rfl⟩ := List.mem_map.mp listed
    exact ⟨e.1, Table.get?_of_mem_entries entry⟩
  · rintro ⟨group, held⟩
    exact List.mem_map.mpr ⟨(group, c), Table.mem_entries_of_get? held, rfl⟩

/-- A set may be listed in any order. -/
theorem Listing.exists_of_perm {es moved : List (String × Context)} (perm : moved.Perm es) :
    ∃ l : Listing, l.order es = moved := by
  classical
  refine ⟨⟨fun fs => if fs = es then moved else fs, fun fs => ?_⟩, if_pos rfl⟩
  by_cases same : fs = es
  · rw [if_pos same, same]
    exact perm
  · rw [if_neg same]

namespace LookupContext

variable {c d : LookupContext} {name : String} {v w : ConfigValue}

structure Reordered (c d : LookupContext) : Prop where
  scope : c.scope = d.scope
  contexts : c.contexts.Reordered d.contexts

/-- A property of some context has the flat name, and the value. -/
def Supplies (c : LookupContext) (name : String) (v : ConfigValue) : Prop :=
  ∃ context ∈ c.contexts.toList, ∃ property,
    context.properties.get? property = some v ∧ flatName context.name property = name

/-- What a name stands for whatever the contexts hold: the namespace, under its own name. -/
def reserved? (c : LookupContext) (name : String) : Option ConfigValue :=
  if name = namespaceName then c.scope.map fun s => (Value.string s).plain else none

/-- No name that is not reserved is supplied with two values. -/
def Unambiguous (c : LookupContext) : Prop :=
  ∀ name v w, c.reserved? name = none → c.Supplies name v → c.Supplies name w → v = w

end LookupContext

section Supplied

variable {es : List (String × ConfigValue)} {name : String} {v : ConfigValue}

/-- The properties of contexts under their flat names, in the order in which they are visited. -/
def flatProperties (contexts : List Context) : List (String × ConfigValue) :=
  contexts.flatMap fun context =>
    context.properties.entries.map fun p => (LookupContext.flatName context.name p.1, p.2)

theorem mem_flatProperties {c : LookupContext} :
    (name, v) ∈ flatProperties c.contexts.toList ↔ c.Supplies name v := by
  simp only [flatProperties, List.mem_flatMap, List.mem_map, Prod.mk.injEq, Prod.exists]
  constructor
  · rintro ⟨context, listed, property, v, entry, flat, rfl⟩
    exact ⟨context, listed, property, Table.get?_of_mem_entries entry, flat⟩
  · rintro ⟨context, listed, property, found, flat⟩
    exact ⟨context, listed, property, v, Table.mem_entries_of_get? found, flat, rfl⟩

end Supplied

namespace LookupContext

variable {c d : LookupContext} {name : String} {v w : ConfigValue}

theorem flatName_injective {context p q : String}
    (same : flatName context p = flatName context q) : p = q := by
  unfold flatName at same
  split at same
  · exact same
  · exact (String.append_right_inj _).mp same

/-- A reserved name stands for what it is reserved for, and any other for the last property that has
it as its flat name. -/
theorem get?_eq (c : LookupContext) (name : String) : c.get? name =
    (c.reserved? name).or ((flatProperties c.contexts.toList).reverse.lookup name) := by
  have namespaces : (c.scope.toList.map fun s =>
      (namespaceName, (Value.string s).plain)).reverse.lookup name = c.reserved? name := by
    cases scope : c.scope with
    | none => simp [reserved?, scope]
    | some s =>
      by_cases same : name = namespaceName
      · simp [reserved?, scope, same]
      · have apart : (name == namespaceName) = false := by simp [same]
        simp [reserved?, same, List.lookup_cons, apart]
  have visited : c.flatEntries = flatProperties c.contexts.toList ++
    c.scope.toList.map fun s => (namespaceName, (Value.string s).plain) := rfl
  unfold get? flattened Table.ofList
  rw [Table.get?_insertAll, Table.get?_empty, Option.or_none, visited, List.reverse_append,
    List.lookup_append, namespaces]

theorem supplies_of_get? (free : c.reserved? name = none) (found : c.get? name = some v) :
    c.Supplies name v := by
  rw [get?_eq, free, Option.none_or] at found
  exact mem_flatProperties.mp (List.mem_reverse.mp (Table.mem_of_lookup found))

theorem get?_of_supplies (free : c.reserved? name = none) (supplied : c.Supplies name v) :
    ∃ w, c.get? name = some w := by
  rw [get?_eq, free, Option.none_or]
  exact Table.exists_lookup (List.mem_reverse.mpr (mem_flatProperties.mpr supplied))

/-- Where nothing is ambiguous, what a context shows is what it supplies. -/
theorem Unambiguous.get?_eq_some_iff (clear : c.Unambiguous) (free : c.reserved? name = none) :
    c.get? name = some v ↔ c.Supplies name v := by
  constructor
  · exact supplies_of_get? free
  · intro supplied
    obtain ⟨w, found⟩ := get?_of_supplies free supplied
    rw [found, clear name w v free (supplies_of_get? free found) supplied]

section Reordering

theorem exists_of_forall₂ {α β : Type} {R : α → β → Prop} {as : List α} {bs : List β}
    (related : List.Forall₂ R as bs) {a : α} (member : a ∈ as) : ∃ b ∈ bs, R a b := by
  induction related with
  | nil => cases member
  | cons head _ ih =>
    rcases List.mem_cons.mp member with rfl | later
    · exact ⟨_, List.mem_cons_self, head⟩
    · obtain ⟨b, listed, related⟩ := ih later
      exact ⟨b, List.mem_cons_of_mem _ listed, related⟩

theorem Reordered.supplies (reordered : c.Reordered d) :
    c.Supplies name v ↔ d.Supplies name v := by
  obtain ⟨es, moved, related⟩ := reordered.contexts
  constructor
  · rintro ⟨context, listed, property, found, flat⟩
    obtain ⟨e, entry, rfl⟩ := List.mem_map.mp listed
    obtain ⟨f, entry', _, same⟩ := exists_of_forall₂ related (moved.mem_iff.mp entry)
    refine ⟨f.2, List.mem_map_of_mem entry', property, ?_, ?_⟩
    · rw [← same.alike property, found]
    · rw [← same.name, flat]
  · rintro ⟨context, listed, property, found, flat⟩
    obtain ⟨f, entry', rfl⟩ := List.mem_map.mp listed
    obtain ⟨e, entry, _, same⟩ := exists_of_forall₂ related.flip entry'
    refine ⟨e.2, List.mem_map_of_mem (moved.mem_iff.mpr entry), property, ?_, ?_⟩
    · rw [same.alike property, found]
    · rw [same.name, flat]

theorem Reordered.reserved? (same : c.Reordered d) (name : String) :
    c.reserved? name = d.reserved? name := by
  unfold LookupContext.reserved?
  rw [same.scope]

theorem Reordered.unambiguous (same : c.Reordered d) (clear : c.Unambiguous) : d.Unambiguous := by
  intro name v w free first second
  rw [← same.reserved? name] at free
  exact clear name v w free (same.supplies.mpr first) (same.supplies.mpr second)

theorem Unambiguous.alike (clear : c.Unambiguous) (same : c.Reordered d) :
    d.flattened.Alike c.flattened := by
  intro name
  change d.get? name = c.get? name
  cases free : c.reserved? name with
  | some v => rw [get?_eq, get?_eq, ← same.reserved? name, free, Option.some_or, Option.some_or]
  | none =>
    have free' : d.reserved? name = none := (same.reserved? name).symm.trans free
    apply Option.ext
    intro v
    rw [(same.unambiguous clear).get?_eq_some_iff free', clear.get?_eq_some_iff free, same.supplies]

/-- Sets that hold the same list it in two orders. -/
theorem reordered_of_alike (scope : c.scope = d.scope)
    (alike : c.contexts.contexts.Alike d.contexts.contexts) : c.Reordered d := by
  refine ⟨scope, d.contexts.contexts.entries, Table.alike_iff_perm.mp alike, ?_⟩
  exact List.forall₂_same.mpr fun _ _ => ⟨rfl, rfl, List.Perm.refl _⟩

/-- The last of some contexts shows all of its properties. -/
theorem lookup_flatProperties_last {contexts : List Context} {context : Context}
    {property : String} (found : context.properties.get? property = some v) :
    (flatProperties (contexts ++ [context])).reverse.lookup (flatName context.name property) =
      some v := by
  have own : flatProperties (contexts ++ [context]) = flatProperties contexts ++
      context.properties.entries.map fun p => (flatName context.name p.1, p.2) := by
    simp [flatProperties]
  have listed : (flatName context.name property, v) ∈
      (context.properties.entries.map fun p => (flatName context.name p.1, p.2)).reverse :=
    List.mem_reverse.mpr (List.mem_map.mpr ⟨_, Table.mem_entries_of_get? found, rfl⟩)
  obtain ⟨w, last⟩ := Table.exists_lookup listed
  obtain ⟨⟨other, value⟩, entry, same⟩ :=
    List.mem_map.mp (List.mem_reverse.mp (Table.mem_of_lookup last))
  simp only [Prod.mk.injEq] at same
  obtain ⟨flat, rfl⟩ := same
  have found' := Table.get?_of_mem_entries entry
  rw [flatName_injective flat, found] at found'
  rw [own, List.reverse_append, List.lookup_append, last, Option.some_or, found']

theorem reordered_listed (c : LookupContext) (l : Listing) : c.Reordered (c.listed l) :=
  reordered_of_alike rfl (Table.alike_reorder _ (l.perm _))

/-- Whatever is supplied under a name is seen in some order. -/
theorem exists_listed (free : c.reserved? name = none) (supplied : c.Supplies name v) :
    ∃ l, (c.listed l).get? name = some v := by
  obtain ⟨context, listed, property, found, rfl⟩ := supplied
  obtain ⟨group, held⟩ := ContextSet.mem_toList.mp listed
  obtain ⟨l, order⟩ := Listing.exists_of_perm (Table.erase_append_perm held)
  refine ⟨l, ?_⟩
  have moved : (c.listed l).contexts.toList =
      (c.contexts.contexts.erase group).values ++ [context] := by
    change (l.order c.contexts.contexts.entries).map Prod.snd = _
    rw [order, List.map_append]
    rfl
  rw [get?_eq, ← (c.reordered_listed l).reserved?, free, Option.none_or, moved]
  exact lookup_flatProperties_last found

theorem Unambiguous.alike_listed (clear : c.Unambiguous) (same : c.Reordered d) (l l' : Listing) :
    (c.listed l).flattened.Alike (d.listed l').flattened := by
  intro name
  calc (c.listed l).get? name
      = c.get? name := clear.alike (c.reordered_listed l) name
    _ = d.get? name := (clear.alike same name).symm
    _ = (d.listed l').get? name :=
      ((same.unambiguous clear).alike (d.reordered_listed l') name).symm

/-- Listings of one context show the same exactly if it is unambiguous. -/
theorem listed_alike_iff (c : LookupContext) :
    (∀ l l', (c.listed l).flattened.Alike (c.listed l').flattened) ↔ c.Unambiguous := by
  constructor
  · intro same name v w free first second
    obtain ⟨l, shown⟩ := exists_listed free first
    obtain ⟨l', shown'⟩ := exists_listed free second
    have shows : (c.listed l).get? name = (c.listed l').get? name := same l l' name
    rw [shown, shown'] at shows
    exact Option.some.inj shows
  · intro clear l l'
    exact clear.alike_listed (reordered_of_alike rfl (.refl _)) l l'

end Reordering

/-- What is shown is free of the order in which contexts and properties are listed exactly if no two
properties meet under one flat name with different values. Then no evaluation depends on the
order. -/
theorem orderFree_iff_unambiguous (c : LookupContext) :
    ((∀ d, c.Reordered d → d.flattened.Alike c.flattened) ↔ c.Unambiguous) ∧
    (c.Unambiguous → ∀ d, c.Reordered d →
      ∀ (s : Snapshot) (selection : Selection) (now : Int64) (key : String),
        (s.inquiry selection now d).answer key = (s.inquiry selection now c).answer key) := by
  constructor
  · constructor
    · intro orderFree
      apply c.listed_alike_iff.mp
      intro l l' name
      exact (orderFree _ (c.reordered_listed l) name).trans
        (orderFree _ (c.reordered_listed l') name).symm
    · intro clear d same
      exact clear.alike same
  · intro clear d same s selection now key
    have alike : (s.inquiry selection now d).Alike (s.inquiry selection now c) :=
      ⟨.refl _, rfl, clear.alike same, rfl, rfl⟩
    exact alike.answer key

/-- Flat names that all differ are unambiguous. -/
theorem unambiguous_of_nodup
    (nodup : ((flatProperties c.contexts.toList).map Prod.fst).Nodup) : c.Unambiguous := by
  intro name v w _ first second
  have same := List.inj_on_of_nodup_map nodup (mem_flatProperties.mpr first)
    (mem_flatProperties.mpr second) rfl
  exact (Prod.mk.inj same).2

/-- Dots alone do no harm: these names, three of which begin alike, are shown in both orders. -/
theorem orderFree_dotted :
    let text (t : String) : ConfigValue := (Value.string t).plain
    let user : Context := ⟨"user", .ofList [("home", text "Oslo"), ("home.zip", text "0150")]⟩
    let user' : Context := ⟨"user", .ofList [("home.zip", text "0150"), ("home", text "Oslo")]⟩
    let home : Context := ⟨"user.home", .ofList [("city", text "Oslo")]⟩
    let c : LookupContext := ⟨some "team", .ofList [user, home]⟩
    let d : LookupContext := ⟨some "team", .ofList [home, user']⟩
    c.Unambiguous ∧ c.Reordered d ∧ d.flattened.Alike c.flattened ∧
      (d.get? "user.home.city").bind (·.value.string?) = some "Oslo" := by
  intro text user user' home c d
  have clear : c.Unambiguous := unambiguous_of_nodup (by decide)
  have reordered : c.Reordered d := by
    refine ⟨rfl, [("user.home", home), ("user", user)], List.Perm.swap _ _ _, ?_⟩
    exact .cons ⟨rfl, rfl, List.Perm.refl _⟩ (.cons ⟨rfl, rfl, List.Perm.swap _ _ _⟩ .nil)
  have orderFree := orderFree_iff_unambiguous c
  exact ⟨clear, reordered, orderFree.1.mpr clear d reordered, by decide⟩

/-- Two properties that meet: which of them is seen, and so which rule applies, is a matter of the
order in which their contexts are listed. -/
theorem flattened_depends_on_order : ∃ (c d : LookupContext) (s : Snapshot),
    c.contexts.Named ∧ d.contexts.Named ∧ c.Reordered d ∧
      (c.get? "user.home.city").bind (·.value.string?) = some "Rome" ∧
      (d.get? "user.home.city").bind (·.value.string?) = some "Oslo" ∧
      (s.tryEvaluate (.murmur3 (.zero false)) 0 c "flag").outcome.toOption.map (·.valueIndex) =
        some 0 ∧
      (s.tryEvaluate (.murmur3 (.zero false)) 0 d "flag").outcome.toOption.map (·.valueIndex) =
        some 1 := by
  let user : Context := ⟨"user", .ofList [("home.city", (Value.string "Oslo").plain)]⟩
  let home : Context := ⟨"user.home", .ofList [("city", (Value.string "Rome").plain)]⟩
  let romans : Criterion := ⟨"user.home.city", .isOneOf, some (Value.stringList ["Rome"]).plain⟩
  let flag : Config := ⟨"flag", 1, .featureFlag, none,
    [⟨none, .empty,
      [⟨[romans], (Value.bool true).plain⟩, .always (Value.bool false).plain]⟩], []⟩
  refine ⟨⟨none, .ofList [user, home]⟩, ⟨none, .ofList [home, user]⟩,
    ⟨Snapshot.index [⟨flag, ⟨.remote, none⟩⟩], none, .empty⟩, ContextSet.named_ofList _,
    ContextSet.named_ofList _, ⟨rfl, [("user.home", home), ("user", user)], ?_, ?_⟩, ?_⟩
  · exact List.Perm.swap _ _ _
  · exact List.forall₂_same.mpr fun _ _ => ⟨rfl, rfl, List.Perm.refl _⟩
  · decide +kernel

end LookupContext
end LiveConfig
