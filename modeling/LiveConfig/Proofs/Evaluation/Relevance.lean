import LiveConfig.Proofs.Evaluation.Agreement
import LiveConfig.Proofs.Evaluation.Plain

/-! What an evaluation depends on.

An evaluation of a key meets the configs that the references of applicable rows lead to, reads in
them the rows that apply, and in these rows the properties that their criteria name and the
identities of their distributions. Two inquiries that have all of this in common evaluate the key
alike, whatever else their snapshots and contexts hold. An evaluation never looks at the index of a
row: it is only recorded in the match, so the two matches may place the selected row differently. -/
namespace LiveConfig

open Relation (ReflTransGen)

/-- What a row says. In which order it lists its properties says nothing. -/
structure Row.Content where
  environment : Option Int64
  property? : View
  values : List ConditionalValue

def Row.content (row : Row) : Row.Content := ⟨row.environment, row.properties.get?, row.values⟩

/-- A match with something said about its config and row in their place. -/
structure Finding (Place : Type) where
  value : ConfigValue
  place : Place
  criteria : List EvaluatedCriterion
  valueIndex : Nat
  variantIndex : Option Nat

section Findings

variable {Place : Type} {place : Element → Nat → Place}

def Match.finding (place : Element → Nat → Place) (m : Match) : Finding Place :=
  ⟨m.value, place m.element m.rowIndex, m.criteria, m.valueIndex, m.variantIndex⟩

/-- A finding that keeps the config and the index of the row is the whole match. -/
def Finding.toMatch (found : Finding (Element × Nat)) : Match :=
  ⟨found.value, found.place.1, found.criteria, found.place.2, found.valueIndex, found.variantIndex⟩

/-- Scopes in which the same properties are visible and the same configs are being evaluated. -/
structure Scope.Alike (scope scope' : Scope) : Prop where
  visible : scope.property? = scope'.property?
  keys : scope.keys = scope'.keys

namespace Scope.Alike

variable {scope scope' : Scope}

theorem refl (scope : Scope) : scope.Alike scope := ⟨rfl, rfl⟩

theorem enter (alike : scope.Alike scope') (key : String) :
    (scope.enter key).Alike (scope'.enter key) := by
  constructor
  · exact alike.visible
  · rw [keys_enter, keys_enter, alike.keys]

theorem within (alike : scope.Alike scope') {row row' : Row} (same : row.content = row'.content) :
    (scope.within row.properties).Alike (scope'.within row'.properties) := by
  have properties : row.properties.get? = row'.properties.get? :=
    congrArg Row.Content.property? same
  constructor
  · rw [property?_within, property?_within, alike.visible]
    unfold View.within
    rw [properties]
  · rw [keys_within, keys_within, alike.keys]

end Scope.Alike

namespace Inquiry

theorem lookup?_eq (q : Inquiry) (scope : Scope) (name : String) :
    q.lookup? scope name = (scope.property? name).or (q.outside name) := rfl

/-- The finding that a search of the rows leads to, given the place of the row. -/
def report (q : Inquiry) (key : String) :
    Option (Place × Nat × ConfigValue × List EvaluatedCriterion) → Drawing (Finding Place)
  | some (place, valueIndex, v, criteria) => do
    let (value, variantIndex) ← q.conclude key v
    return ⟨value, place, criteria, valueIndex, variantIndex⟩
  | none => throw .noMatch

theorem finding_complete (q : Inquiry) (key : String) (e : Element)
    (found : Option (Nat × Nat × ConfigValue × List EvaluatedCriterion)) :
    Match.finding place <$> q.complete key e found =
      q.report key (found.map (Prod.map (place e) id)) := by
  cases found with
  | none => rfl
  | some found =>
    simp only [complete, report, map_bind, map_pure, Option.map_some, Prod.map]
    rfl

/-- An element that an inquiry evaluates like one of another inquiry: the rows that apply say the
same and have the same places, and what they read of the caller is the same. -/
structure Stands (place : Element → Nat → Place) (q q' : Inquiry) (e e' : Element) : Prop where
  keys : e.key = e'.key
  rows : List.Forall₂ (fun r r' => place e r.1 = place e' r'.1 ∧ r.2.content = r'.2.content)
    (e.config.applicableRows q.snapshot.environment)
    (e'.config.applicableRows q'.snapshot.environment)
  seen : ∀ r ∈ e.config.applicableRows q.snapshot.environment, ∀ v ∈ r.2.values,
    ∀ c ∈ v.criteria, q.outside c.property = q'.outside c.property
  concluded : ∀ r ∈ e.config.applicableRows q.snapshot.environment, ∀ v ∈ r.2.values,
    (q.conclude e.key v.value : Drawing _) = q'.conclude e.key v.value

/-- Whatever a key leads to, both inquiries lack or evaluate alike. -/
structure Near (place : Element → Nat → Place) (q q' : Inquiry) (key : String) : Prop where
  lacks : ∀ k, ReflTransGen q.snapshot.Refers key k → q.snapshot.get? k = none →
    q'.snapshot.get? k = none
  holds : ∀ k, ReflTransGen q.snapshot.Refers key k → ∀ e, q.snapshot.get? k = some e →
    ∃ e', q'.snapshot.get? k = some e' ∧ q.Stands place q' e e'

variable {q q' : Inquiry} {scope scope' : Scope} {e e' : Element}
variable {inner inner' : Scope → String → Drawing Match}

/-- The search of the rows of an element that is entered from a scope, with segments evaluated in a
given way. -/
def searchBy (q : Inquiry) (inner : Scope → String → Drawing Match) (scope : Scope) (e : Element) :
    Drawing (Option (Nat × Nat × ConfigValue × List EvaluatedCriterion)) :=
  q.firstRow inner (scope.enter e.key) e.key (e.config.applicableRows q.snapshot.environment)

theorem Stands.search (stands : q.Stands place q' e e') (alike : scope.Alike scope')
    (answers : ∀ r ∈ e.config.applicableRows q.snapshot.environment, ∀ v ∈ r.2.values,
      ∀ c ∈ v.criteria, ∀ segment, c.segment? = some segment →
      ∀ inRow inRow' : Scope, inRow.Alike inRow' →
        Match.value <$> inner inRow segment = Match.value <$> inner' inRow' segment) :
    Option.map (Prod.map (place e) id) <$> q.searchBy inner scope e =
      Option.map (Prod.map (place e') id) <$> q'.searchBy inner' scope' e' := by
  unfold searchBy
  rw [← stands.keys]
  apply firstRow_relabelled
  have applicable := (List.forall₂_and_left _ _).mpr ⟨fun r member => member, stands.rows⟩
  refine applicable.imp fun r r' ⟨member, places, same⟩ => ⟨places, ?_⟩
  have inRow := (alike.enter e.key).within same
  have values : r.2.values = r'.2.values := congrArg Row.Content.values same
  rw [← values]
  apply firstHolding_congr inRow.keys
  intro v hv c hc
  constructor
  · have caller := stands.seen r member v hv c hc
    rw [lookup?_eq, lookup?_eq, inRow.visible, caller]
  · intro segment named _
    exact answers r member v hv c hc segment named _ _ inRow

/-- Searches that end in the same place lead to the same finding. -/
theorem Stands.complete (stands : q.Stands place q' e e')
    (same : Option.map (Prod.map (place e) id) <$> q.searchBy inner scope e =
      Option.map (Prod.map (place e') id) <$> q'.searchBy inner' scope' e') :
    Match.finding place <$> (q.searchBy inner scope e >>= q.complete e.key e) =
      Match.finding place <$> (q'.searchBy inner' scope' e' >>= q'.complete e'.key e') := by
  -- a search ends with the value of a row that applies, which both conclude alike
  have reported : (q.searchBy inner scope e >>=
        fun found => q.report e.key (found.map (Prod.map (place e) id))) =
      (q.searchBy inner scope e >>=
        fun found => q'.report e.key (found.map (Prod.map (place e) id))) := by
    apply Drawing.bind_congr_of_ends (ends_firstRow _)
    intro found holds
    cases found with
    | none => rfl
    | some found =>
      obtain ⟨rowIndex, valueIndex, value, criteria⟩ := found
      obtain ⟨row, v, applicable, inRow, rfl⟩ := holds _ rfl
      have concluded := stands.concluded _ applicable v (List.mem_of_getElem? inRow)
      simp only [Option.map_some, Prod.map, id, report, concluded]
  simp only [map_bind, finding_complete, ← stands.keys]
  rw [reported, ← bind_map_left, same, bind_map_left]

/-- What two inquiries find under a key that is reached from one near which they agree. -/
theorem Near.resolve {root key : String} (near : q.Near place q' root) (budget : Nat)
    (reached : ReflTransGen q.snapshot.Refers root key) (alike : scope.Alike scope') :
    Match.finding place <$> q.resolve budget scope key =
      Match.finding place <$> q'.resolve budget scope' key := by
  -- on the way into segments the two scopes stay alike and the keys stay reached
  induction budget generalizing scope scope' key with
  | zero => rfl
  | succ budget ih =>
    cases present : q.snapshot.get? key with
    | none =>
      have present' := near.lacks key reached present
      simp only [Inquiry.resolve, present, present']
    | some e =>
      obtain ⟨e', present', stands⟩ := near.holds key reached e present
      rw [resolve_present present, resolve_present present']
      apply stands.complete
      apply stands.search alike
      intro r applicable v inRow c guards segment named inner inner' sameInner
      have refers := Snapshot.refers_of_criterion present applicable inRow guards named
      have found := ih (reached.tail refers) sameInner
      have values := congrArg (Finding.value <$> ·) found
      simp only [Functor.map_map] at values
      exact values

/-- Inquiries that hold the same elements where a key leads to, and find the same of the caller for
their criteria and distributions, are near each other. -/
theorem near_of_same {root : String}
    (environment : q.snapshot.environment = q'.snapshot.environment)
    (elements : ∀ k, ReflTransGen q.snapshot.Refers root k →
      q.snapshot.get? k = q'.snapshot.get? k)
    (seen : ∀ k, ReflTransGen q.snapshot.Refers root k → ∀ e, q.snapshot.get? k = some e →
      ∀ r ∈ e.config.applicableRows q.snapshot.environment, ∀ v ∈ r.2.values,
      ∀ c ∈ v.criteria, q.outside c.property = q'.outside c.property)
    (concluded : ∀ k, ReflTransGen q.snapshot.Refers root k → ∀ e, q.snapshot.get? k = some e →
      ∀ r ∈ e.config.applicableRows q.snapshot.environment, ∀ v ∈ r.2.values,
      (q.conclude e.key v.value : Drawing _) = q'.conclude e.key v.value) :
    q.Near Prod.mk q' root := by
  constructor
  · intro k reached absent
    rw [← elements k reached, absent]
  · intro k reached e present
    refine ⟨e, ?_, rfl, ?_, seen k reached e present, concluded k reached e present⟩
    · rw [← elements k reached, present]
    · rw [← environment]
      exact List.forall₂_same.mpr fun _ _ => ⟨rfl, rfl⟩

/-- Then they find the same matches. -/
theorem Near.resolve_eq {root : String} (near : q.Near Prod.mk q' root) (budget : Nat)
    (scope : Scope) : q.resolve budget scope root = q'.resolve budget scope root := by
  have found := congrArg (Finding.toMatch <$> ·) (near.resolve budget .refl (.refl scope))
  simp only [Functor.map_map] at found
  simpa only [Finding.toMatch, Match.finding, id_map'] using found

end Inquiry
end Findings

/-- The rows of one environment, or of none, in the order of the document. -/
def Config.rowsFor (c : Config) (environment : Option Int64) : List Row :=
  c.rows.filter fun row => row.environment == environment

theorem Config.map_indexedRows (c : Config) : c.indexedRows.map Prod.snd = c.rows := by
  unfold indexedRows
  rw [List.map_map]
  exact List.zipIdx_map_fst 0 c.rows

/-- What applies are the rows of the environment, if there is one, and then those of none. -/
theorem Config.map_applicableRows (c : Config) (environment : Option Int64) :
    (c.applicableRows environment).map Prod.snd =
      (if environment.isSome then c.rowsFor environment else []) ++ c.rowsFor none := by
  have rows (p : Row → Bool) :
      (c.indexedRows.filter fun r => p r.2).map Prod.snd = c.rows.filter p := by
    rw [← c.map_indexedRows, List.filter_map]
    rfl
  unfold applicableRows rowsFor
  rw [List.map_append, rows fun row => environment.isSome && row.environment == environment,
    rows fun row => row.environment.isNone]
  congr 1
  · cases environment with
    | none => simp
    | some id => simp
  · apply List.filter_congr
    intro row _
    cases row.environment with
    | none => rfl
    | some id => rfl

namespace Element

/-- An element with the same rules under an environment: one of the same key, with the same rows of
the environment and the same rows of none, wherever these stand among the others. -/
structure SameRows (environment : Option Int64) (e e' : Element) : Prop where
  keys : e.key = e'.key
  own : (e.config.rowsFor environment).map Row.content =
    (e'.config.rowsFor environment).map Row.content
  shared : (e.config.rowsFor none).map Row.content = (e'.config.rowsFor none).map Row.content

/-- What the row at an index says. -/
def contentAt (e : Element) (i : Nat) : Option Row.Content := e.config.rows[i]?.map Row.content

/-- The rows that apply and what stands at their indexes, together. -/
theorem map_contentAt (e : Element) (environment : Option Int64) :
    (e.config.applicableRows environment).map (fun r => (e.contentAt r.1, r.2.content)) =
      (((e.config.applicableRows environment).map Prod.snd).map Row.content).map
        fun content => (some content, content) := by
  rw [List.map_map, List.map_map]
  apply List.map_congr_left
  intro r applicable
  simp only [contentAt, Config.getElem?_of_applicable applicable, Option.map_some,
    Function.comp_apply]

theorem SameRows.applicable {environment : Option Int64} {e e' : Element}
    (same : e.SameRows environment e') :
    List.Forall₂ (fun r r' => e.contentAt r.1 = e'.contentAt r'.1 ∧ r.2.content = r'.2.content)
      (e.config.applicableRows environment) (e'.config.applicableRows environment) := by
  have contents : ((e.config.applicableRows environment).map Prod.snd).map Row.content =
      ((e'.config.applicableRows environment).map Prod.snd).map Row.content := by
    rw [Config.map_applicableRows, Config.map_applicableRows, List.map_append, List.map_append,
      same.shared]
    split
    · rw [same.own]
    · rfl
  have placed := (e.map_contentAt environment).trans
    ((congrArg _ contents).trans (e'.map_contentAt environment).symm)
  rw [← List.forall₂_eq_eq_eq, List.forall₂_map_left_iff, List.forall₂_map_right_iff] at placed
  exact placed.imp fun _ _ => Prod.mk.inj

end Element

/-- Two matches that say the same, for rows that say the same. -/
structure Match.FindsSame (m m' : Match) : Prop where
  value : m.value = m'.value
  criteria : m.criteria = m'.criteria
  valueIndex : m.valueIndex = m'.valueIndex
  variantIndex : m.variantIndex = m'.variantIndex
  rows : ∃ row row', m.element.config.rows[m.rowIndex]? = some row ∧
    m'.element.config.rows[m'.rowIndex]? = some row' ∧ row.content = row'.content

/-- Outcomes that agree but for the place of the selected row. -/
inductive SameFinding : Except EvaluationError Match → Except EvaluationError Match → Prop
  | fails (e : EvaluationError) : SameFinding (.error e) (.error e)
  | gives {m m' : Match} (same : m.FindsSame m') : SameFinding (.ok m) (.ok m')

theorem SameFinding.of_map {r r' : Except EvaluationError Match}
    (rows : ∀ m, r = .ok m → ∃ row, m.element.config.rows[m.rowIndex]? = some row)
    (same : r.map (Match.finding Element.contentAt) = r'.map (Match.finding Element.contentAt)) :
    SameFinding r r' := by
  cases r with
  | error e =>
    cases r' with
    | error e' =>
      cases same
      exact .fails e
    | ok m' => cases same
  | ok m =>
    cases r' with
    | error e' => cases same
    | ok m' =>
      obtain ⟨row, held⟩ := rows m rfl
      have found : m.finding Element.contentAt = m'.finding Element.contentAt :=
        Except.ok.inj same
      have place : m.element.contentAt m.rowIndex = m'.element.contentAt m'.rowIndex :=
        congrArg Finding.place found
      unfold Element.contentAt at place
      rw [held, Option.map_some] at place
      obtain ⟨row', held', content⟩ := Option.map_eq_some_iff.mp place.symm
      refine .gives ⟨?_, ?_, ?_, ?_, row, row', held, held', content.symm⟩
      · exact congrArg Finding.value found
      · exact congrArg Finding.criteria found
      · exact congrArg Finding.valueIndex found
      · exact congrArg Finding.variantIndex found

namespace Snapshot

/-- Two snapshots have the same rules for a key: whatever the key leads to, both lack it or hold
it with the same rules. -/
structure SameRows (s s' : Snapshot) (key : String) : Prop where
  environment : s.environment = s'.environment
  elements : ∀ k, ReflTransGen s.Refers key k →
    (s.get? k = none ∧ s'.get? k = none) ∨
    ∃ e e', s.get? k = some e ∧ s'.get? k = some e' ∧ e.SameRows s.environment e'

variable {s s' : Snapshot} {key : String}

theorem SameRows.near (same : s.SameRows s' key) (selection : Selection) (now : Int64)
    (context : LookupContext) :
    (s.inquiry selection now context).Near Element.contentAt (s'.inquiry selection now context)
      key := by
  constructor
  · intro k reached absent
    obtain ⟨_, absent'⟩ | ⟨e, _, present, _⟩ := same.elements k reached
    · exact absent'
    · rw [show s.get? k = none from absent] at present
      cases present
  · intro k reached e present
    obtain ⟨absent, _⟩ | ⟨e, e', found, present', rules⟩ := same.elements k reached
    · rw [show s.get? k = some e from present] at absent
      cases absent
    · rw [show s.get? k = some _ from present] at found
      cases found
      refine ⟨e', present', rules.keys, ?_, ?_, ?_⟩
      · change List.Forall₂ _ (e.config.applicableRows s.environment)
          (e'.config.applicableRows s'.environment)
        rw [← same.environment]
        exact rules.applicable
      · intros
        rfl
      · intros
        rfl

/-- A match of a snapshot points at a row. -/
theorem selected_row {sharder : Sharder} {draws : Draws} {now : Int64} {context : LookupContext}
    {m : Match} (given : (s.tryEvaluateDrawing sharder draws now context key).outcome = .ok m) :
    ∃ row, m.element.config.rows[m.rowIndex]? = some row := by
  obtain ⟨_, v, selects⟩ := (Inquiry.ends_selected _ _ _).outcome m given
  obtain ⟨row, held, _⟩ := Option.bind_eq_some_iff.mp selects.1
  exact ⟨row, held⟩

/-- Snapshots with the same rules for a key evaluate it alike for every caller, with the same log
and the same draws. What the key does not lead to has no influence, and neither have the rows of
other environments, whatever is in them. -/
theorem tryEvaluateDrawing_sameFinding (same : s.SameRows s' key) (sharder : Sharder)
    (draws : Draws) (now : Int64) (context : LookupContext) :
    SameFinding (s.tryEvaluateDrawing sharder draws now context key).outcome
        (s'.tryEvaluateDrawing sharder draws now context key).outcome ∧
      (s.tryEvaluateDrawing sharder draws now context key).run.events =
        (s'.tryEvaluateDrawing sharder draws now context key).run.events := by
  have resolved := (same.near (.resolve sharder draws) now context).resolve
    (maxSegmentDepth + 1) .refl (.refl .outermost)
  have evaluated := congrArg Drawing.evaluation resolved
  rw [Drawing.evaluation_map, Drawing.evaluation_map] at evaluated
  constructor
  · have outcomes := congrArg Evaluation.outcome evaluated
    rw [Evaluation.outcome_map, Evaluation.outcome_map] at outcomes
    exact .of_map (fun m given => selected_row given) outcomes
  · have logged := congrArg (fun x => (ExceptT.run x).events) evaluated
    simp only [ExceptT.run_map, Logged.events_map] at logged
    exact logged

/-- An element with a row in front that belongs to another environment and has a pattern that cannot
be read. -/
def crowd (e : Element) : Element :=
  let foreign : Row := ⟨some 7, .empty,
    [⟨[⟨"tier", .matchesPattern, some (Value.string "(").plain⟩], (Value.bool true).plain⟩]⟩
  ⟨{ e.config with rows := foreign :: e.config.rows }, e.provenance⟩

theorem sameRows_crowd (e : Element) : e.SameRows none (crowd e) := ⟨rfl, rfl, rfl⟩

/-- The flag and its segment among rows of another environment, next to a segment of itself that
nothing leads to. -/
def crowdedTiers : Snapshot :=
  let stray : Config := ⟨"stray", 3, .segment, none,
    [⟨none, .empty, [⟨[⟨"", .inSegment, some (Value.string "stray").plain⟩],
      (Value.bool true).plain⟩]⟩], []⟩
  ⟨index (⟨stray, ⟨.remote, none⟩⟩ :: tiered.elements.values.map crowd), none, .empty⟩

theorem tiered_sameRows : tiered.SameRows crowdedTiers "flag" := by
  constructor
  · rfl
  · intro k reached
    have met : k ∈ ["flag", "members", "banned"] :=
      mem_of_reached List.mem_cons_self (by decide) reached
    simp only [List.mem_cons, List.not_mem_nil, or_false] at met
    rcases met with rfl | rfl | rfl
    · exact .inr ⟨_, _, rfl, rfl, sameRows_crowd _⟩
    · exact .inr ⟨_, _, rfl, rfl, sameRows_crowd _⟩
    · exact .inl ⟨rfl, rfl⟩

/-- The flag is found in its second row there, with all else the same. -/
theorem tiered_found_in_crowd : ∃ m m',
    (tiered.tryEvaluateDrawing Murmur3.fraction (fun _ => .zero false) 0 ⟨none, .empty⟩
      "flag").outcome = .ok m ∧
    (crowdedTiers.tryEvaluateDrawing Murmur3.fraction (fun _ => .zero false) 0 ⟨none, .empty⟩
      "flag").outcome = .ok m' ∧ m.FindsSame m' ∧ m.rowIndex = 0 ∧ m'.rowIndex = 1 := by
  have found := (tryEvaluateDrawing_sameFinding tiered_sameRows Murmur3.fraction
    (fun _ => .zero false) 0 ⟨none, .empty⟩).1
  have first : (tiered.tryEvaluateDrawing Murmur3.fraction (fun _ => .zero false) 0 ⟨none, .empty⟩
      "flag").outcome.toOption.map (·.rowIndex) = some 0 := by decide +kernel
  have second : (crowdedTiers.tryEvaluateDrawing Murmur3.fraction (fun _ => .zero false) 0
      ⟨none, .empty⟩ "flag").outcome.toOption.map (·.rowIndex) = some 1 := by decide +kernel
  obtain ⟨m, given, index⟩ := Drawing.exists_ok_of_map first
  obtain ⟨m', given', index'⟩ := Drawing.exists_ok_of_map second
  rw [given, given'] at found
  cases found with
  | gives same => exact ⟨m, m', given, given', same, index, index'⟩

end Snapshot
end LiveConfig
