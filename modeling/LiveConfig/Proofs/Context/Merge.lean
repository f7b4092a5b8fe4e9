import LiveConfig.Context.Merge
import LiveConfig.Proofs.Table

/-! What merging contexts gives.

Under every name the merged set has the group of the first of the passed, the ambient and the global
contexts that have one, whole, and behind it the server's default group, property by property. This
is said by look-ups alone, so it does not matter in which order a set lists its contexts or a
context its properties. It holds where every context is held under its own name, and the merged set
is such again. -/
namespace LiveConfig

namespace Table

variable {α : Type}

/-- Inserts the entries whose keys are not there yet. -/
def addMissing (t : Table α) (es : List (String × α)) : Table α :=
  es.foldl (fun t e => if t.contains e.1 then t else t.insert e.1 e.2) t

theorem get?_addMissing (t : Table α) (es : List (String × α)) (k : String) :
    (t.addMissing es).get? k = (t.get? k).or (es.lookup k) := by
  induction es generalizing t with
  | nil => simp [addMissing]
  | cons e es ih =>
    obtain ⟨key, value⟩ := e
    have rest := ih (if t.contains key then t else t.insert key value)
    change (addMissing (if t.contains key then t else t.insert key value) es).get? k = _
    rw [rest, List.lookup_cons]
    by_cases held : t.contains key = true
    · rw [if_pos held]
      by_cases same : k = key
      · subst same
        have found : (t.get? k).isSome = true := held
        obtain ⟨v, found⟩ := Option.isSome_iff_exists.mp found
        simp [found]
      · have apart : (k == key) = false := by simp [same]
        simp [apart]
    · rw [if_neg held, get?_insert]
      by_cases same : k = key
      · subst same
        have absent : t.get? k = none := by
          simpa [contains] using held
        simp [absent]
      · have apart : (k == key) = false := by simp [same]
        simp [same, apart]

end Table

theorem Context.get?_fill (c base : Context) (property : String) :
    (c.fill base).properties.get? property =
      (c.properties.get? property).or (base.properties.get? property) :=
  Table.get?_addMissing c.properties base.properties.entries property

namespace ContextSet

variable {s t : ContextSet} {name : String}

/-- Every context is held under its own name. -/
def Named (s : ContextSet) : Prop := ∀ name c, s.get? name = some c → c.name = name

theorem named_empty : Named .empty := by
  intro name c found
  cases found

theorem Named.insert (named : s.Named) (c : Context) : (s.insert c).Named := by
  intro name d found
  change (s.contexts.insert c.name c).get? name = some d at found
  rw [Table.get?_insert] at found
  split at found
  · rename_i same
    cases found
    exact same.symm
  · exact named name d found

theorem Named.overlay (named : s.Named) (cs : List Context) : (s.overlay cs).Named := by
  induction cs generalizing s with
  | nil => exact named
  | cons c cs ih => exact ih (named.insert c)

theorem named_ofList (cs : List Context) : (ofList cs).Named := named_empty.overlay cs

theorem Named.entries (named : s.Named) :
    s.contexts.entries = s.toList.map fun c => (c.name, c) := by
  have own : ∀ e ∈ s.contexts.entries, e = (e.2.name, e.2) := by
    intro e member
    have same := named e.1 e.2 (Table.get?_of_mem_entries member)
    rw [same]
  unfold toList Table.values
  rw [List.map_map]
  calc s.contexts.entries = s.contexts.entries.map id := (List.map_id _).symm
    _ = s.contexts.entries.map fun e => (e.2.name, e.2) := List.map_congr_left own

theorem Named.find?_toList (named : s.Named) (name : String) :
    s.toList.find? (·.name = name) = s.get? name := by
  rw [← Table.lookup_keyed Context.name, ← named.entries]
  rfl

theorem Named.nodup_toList (named : s.Named) : (s.toList.map Context.name).Nodup := by
  have nodup := s.contexts.nodup
  rw [named.entries, List.map_map] at nodup
  exact nodup

theorem contexts_overlay (s : ContextSet) (cs : List Context) :
    (s.overlay cs).contexts = s.contexts.insertAll (cs.map fun c => (c.name, c)) := by
  induction cs generalizing s with
  | nil => rfl
  | cons c cs ih => exact ih (s.insert c)

/-- Contexts laid over a set replace those of the same name. -/
theorem get?_overlay (s : ContextSet) (named : t.Named) (name : String) :
    (s.overlay t.toList).get? name = (t.get? name).or (s.get? name) := by
  unfold get?
  rw [contexts_overlay, ← named.entries, Table.get?_overlay]

/-- Contexts laid beneath a set show where it has none of the name. -/
theorem get?_underlay (s : ContextSet) (named : t.Named) (name : String) :
    (s.underlay t.toList).get? name = (s.get? name).or (t.get? name) := by
  have laid (cs : List Context) (s : ContextSet) :
      (s.underlay cs).contexts = s.contexts.addMissing (cs.map fun c => (c.name, c)) := by
    induction cs generalizing s with
    | nil => rfl
    | cons c cs ih =>
      have step : ((if (s.get? c.name).isSome then s else s.insert c) : ContextSet).contexts =
          if s.contexts.contains c.name then s.contexts else s.contexts.insert c.name c := by
        unfold get? Table.contains
        split <;> rfl
      change (underlay (if (s.get? c.name).isSome then s else s.insert c) cs).contexts = _
      rw [ih, step]
      rfl
  unfold get?
  rw [laid, ← named.entries, Table.get?_addMissing]
  rfl

/-- What filling in from a default context leaves under its name. -/
def filledIn (held : Option Context) (base : Context) : Context :=
  match held with
  | some c => c.fill base
  | none => base

theorem fillFrom_eq (s : ContextSet) (base : Context) :
    s.fillFrom base = ⟨s.contexts.insert base.name (filledIn (s.get? base.name) base)⟩ := by
  unfold fillFrom
  cases s.get? base.name with
  | some c => rfl
  | none => rfl

theorem get?_fillFrom (s : ContextSet) (base : Context) (name : String) :
    (s.fillFrom base).get? name =
      if name = base.name then some (filledIn (s.get? name) base) else s.get? name := by
  rw [fillFrom_eq]
  change (s.contexts.insert base.name _).get? name = _
  rw [Table.get?_insert]
  split
  · rename_i same
    rw [same]
  · rfl

/-- Each name is filled in once, as no two default contexts have the same. -/
theorem get?_fill (s : ContextSet) (named : t.Named) (name : String) :
    (s.fill t.toList).get? name =
      match t.get? name with
      | some base => some (filledIn (s.get? name) base)
      | none => s.get? name := by
  rw [← named.find?_toList]
  have nodup := named.nodup_toList
  generalize t.toList = cs at nodup
  induction cs generalizing s with
  | nil => rfl
  | cons c cs ih =>
    rw [List.map_cons, List.nodup_cons] at nodup
    obtain ⟨once, nodup⟩ := nodup
    change (fill (s.fillFrom c) cs).get? name = _
    rw [ih (s.fillFrom c) nodup, get?_fillFrom, List.find?_cons]
    by_cases same : name = c.name
    · have others : cs.find? (·.name = name) = none := by
        rw [List.find?_eq_none]
        intro d member found
        have again : d.name = c.name := by simpa [same] using found
        exact once (again ▸ List.mem_map_of_mem member)
      simp [same ▸ others, same]
    · have apart : c.name ≠ name := Ne.symm same
      simp [apart, same]

end ContextSet

theorem get?_filledIn (held : Option Context) (base : Context) (property : String) :
    (ContextSet.filledIn held base).properties.get? property =
      (held.bind (·.properties.get? property)).or (base.properties.get? property) := by
  cases held with
  | none => simp [ContextSet.filledIn]
  | some c => exact c.get?_fill base property

namespace ContextSources

variable {s : ContextSources}

/-- The sets that are there, the one that takes precedence first. -/
def present (s : ContextSources) : List ContextSet :=
  [s.passed, s.ambient, s.global, s.serverDefault].filterMap id

/-- The group of the first of the passed, the ambient and the global contexts that has it. -/
def base? (s : ContextSources) (name : String) : Option Context :=
  (s.passed.bind (·.get? name)).or
    ((s.ambient.bind (·.get? name)).or (s.global.bind (·.get? name)))

/-- The group of the server's default contexts. -/
def default? (s : ContextSources) (name : String) : Option Context :=
  s.serverDefault.bind (·.get? name)

/-- With an empty set for every source that is absent. -/
def filled (s : ContextSources) : ContextSources :=
  ⟨some (s.global.getD .empty), some (s.serverDefault.getD .empty), some (s.ambient.getD .empty),
    some (s.passed.getD .empty)⟩

theorem sourceContexts_eq (source : Option ContextSet) :
    sourceContexts source = (source.getD .empty).toList := by
  cases source with
  | none => rfl
  | some set => rfl

theorem get?_getD (source : Option ContextSet) (name : String) :
    (source.getD .empty).get? name = source.bind (·.get? name) := by
  cases source with
  | none => rfl
  | some set => rfl

theorem merge_filled (s : ContextSources) : s.filled.merge = s.merge := by
  unfold merge
  simp only [sourceContexts_eq]
  rfl

theorem get?_merge (named : ∀ set ∈ s.present, set.Named) (name : String) :
    s.merge.get? name =
      match s.default? name with
      | some default => some (ContextSet.filledIn (s.base? name) default)
      | none => s.base? name := by
  have own (source : Option ContextSet) (listed : source ∈ [s.passed, s.ambient, s.global,
      s.serverDefault]) : (source.getD .empty).Named := by
    cases source with
    | none => exact ContextSet.named_empty
    | some set => exact named set (List.mem_filterMap.mpr ⟨some set, listed, rfl⟩)
  have passed := own s.passed (by simp)
  have global := own s.global (by simp)
  have defaults := own s.serverDefault (by simp)
  unfold merge base? default?
  simp only [sourceContexts_eq]
  rw [ContextSet.get?_fill _ defaults, ContextSet.get?_underlay _ global,
    ContextSet.get?_overlay _ passed]
  simp only [get?_getD, Option.or_assoc]

theorem exists_present (name : String) :
    (∃ set ∈ s.present, (set.get? name).isSome = true) ↔
      (s.base? name).isSome = true ∨ (s.default? name).isSome = true := by
  have has (source : Option ContextSet) : (source.bind (·.get? name)).isSome = true ↔
      ∃ set, source = some set ∧ (set.get? name).isSome = true := by
    cases source with
    | none => simp
    | some set => simp
  unfold base? default?
  simp only [Option.isSome_or, Bool.or_eq_true, has, present, List.mem_filterMap, List.mem_cons,
    List.not_mem_nil, or_false, id]
  constructor
  · rintro ⟨set, ⟨_, passed | ambient | global | default, rfl⟩, found⟩
    · exact .inl (.inl ⟨set, passed.symm, found⟩)
    · exact .inl (.inr (.inl ⟨set, ambient.symm, found⟩))
    · exact .inl (.inr (.inr ⟨set, global.symm, found⟩))
    · exact .inr ⟨set, default.symm, found⟩
  · rintro ((⟨set, passed, found⟩ | ⟨set, ambient, found⟩ | ⟨set, global, found⟩) |
      ⟨set, default, found⟩)
    · exact ⟨set, ⟨_, .inl rfl, passed⟩, found⟩
    · exact ⟨set, ⟨_, .inr (.inl rfl), ambient⟩, found⟩
    · exact ⟨set, ⟨_, .inr (.inr (.inl rfl)), global⟩, found⟩
    · exact ⟨set, ⟨_, .inr (.inr (.inr rfl)), default⟩, found⟩

theorem isSome_merge (named : ∀ set ∈ s.present, set.Named) (name : String) :
    (s.merge.get? name).isSome = true ↔ ∃ set ∈ s.present, (set.get? name).isSome = true := by
  rw [get?_merge named, exists_present]
  cases s.default? name with
  | none => simp
  | some default => simp

theorem get?_of_merge (named : ∀ set ∈ s.present, set.Named) {name : String} {c : Context}
    (merged : s.merge.get? name = some c) (property : String) : c.properties.get? property =
      ((s.base? name).bind (·.properties.get? property)).or
        ((s.default? name).bind (·.properties.get? property)) := by
  rw [get?_merge named] at merged
  cases default : s.default? name with
  | none =>
    rw [default] at merged
    have base : s.base? name = some c := merged
    simp [base]
  | some d =>
    rw [default] at merged
    cases merged
    exact get?_filledIn (s.base? name) d property

theorem named_merge (named : ∀ set ∈ s.present, set.Named) : s.merge.Named := by
  have own (source : Option ContextSet) {name : String} {c : Context}
      (listed : source ∈ [s.passed, s.ambient, s.global, s.serverDefault])
      (found : source.bind (·.get? name) = some c) : c.name = name := by
    obtain ⟨set, rfl, found⟩ := Option.bind_eq_some_iff.mp found
    exact named set (List.mem_filterMap.mpr ⟨some set, listed, rfl⟩) name c found
  have base {name : String} {c : Context} (found : s.base? name = some c) : c.name = name := by
    unfold base? at found
    rw [Option.or_eq_some_iff, Option.or_eq_some_iff] at found
    rcases found with passed | ⟨_, ambient | ⟨_, global⟩⟩
    · exact own s.passed (by simp) passed
    · exact own s.ambient (by simp) ambient
    · exact own s.global (by simp) global
  intro name c merged
  rw [get?_merge named] at merged
  cases default : s.default? name with
  | none =>
    rw [default] at merged
    exact base merged
  | some d =>
    rw [default] at merged
    cases merged
    cases found : s.base? name with
    | none => exact own s.serverDefault (by simp) default
    | some c =>
      change c.name = name
      exact base found

/-- The merged set has a group exactly if some source does. A property of it is that of the first of
the passed, the ambient and the global group, whole, and where this group lacks it or there is none,
that of the server's default group. Every group is again under its own name, and an absent source
counts as an empty one. -/
theorem merge_precedence (named : ∀ set ∈ s.present, set.Named) :
    (∀ name, (s.merge.get? name).isSome = true ↔
      ∃ set ∈ s.present, (set.get? name).isSome = true) ∧
    (∀ name c, s.merge.get? name = some c → ∀ property, c.properties.get? property =
      ((s.base? name).bind (·.properties.get? property)).or
        ((s.default? name).bind (·.properties.get? property))) ∧
    s.merge.Named ∧ s.filled.merge = s.merge := by
  refine ⟨isSome_merge named, ?_, named_merge named, s.merge_filled⟩
  intro name c merged property
  exact get?_of_merge named merged property

/-- Four groups of one name: of the ambient and the global one nothing shows through, and the
default one adds what the passed one lacks. -/
theorem merge_precedence_user :
    let text (t : String) : ConfigValue := (Value.string t).plain
    let user (properties : List (String × ConfigValue)) : Context := ⟨"user", .ofList properties⟩
    let s : ContextSources :=
      { global := some (.ofList [user [("plan", text "pro")], ⟨"host", .empty⟩])
        serverDefault := some (.ofList [user [("key", text "none"), ("tier", text "gold")]])
        ambient := some (.ofList [user [("plan", text "free")]])
        passed := some (.ofList [user [("key", text "u-1")]]) }
    (s.merge.get? "host").isSome = true ∧ ∃ c, s.merge.get? "user" = some c ∧
      c.properties.get? "key" = some (text "u-1") ∧ c.properties.get? "plan" = none ∧
      c.properties.get? "tier" = some (text "gold") := by
  intro text user s
  have named : ∀ set ∈ s.present, set.Named := by
    intro set listed
    obtain rfl | rfl | rfl | rfl : set = _ ∨ set = _ ∨ set = _ ∨ set = _ := by
      simpa [s, present] using listed
    all_goals exact ContextSet.named_ofList _
  obtain ⟨groups, properties, _⟩ := merge_precedence named
  obtain ⟨c, merged⟩ := Option.isSome_iff_exists.mp ((groups "user").mpr
    ⟨.ofList [user [("key", text "u-1")]], List.mem_cons_self, rfl⟩)
  have seen := properties "user" c merged
  refine ⟨(groups "host").mpr ?_, c, merged, (seen "key").trans rfl, (seen "plan").trans rfl,
    (seen "tier").trans rfl⟩
  exact ⟨.ofList [user [("plan", text "pro")], ⟨"host", .empty⟩],
    List.mem_cons_of_mem _ (List.mem_cons_of_mem _ List.mem_cons_self), rfl⟩

end ContextSources
end LiveConfig
