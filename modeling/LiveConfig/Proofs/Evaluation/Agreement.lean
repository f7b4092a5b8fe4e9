import Mathlib.Data.List.Forall2
import LiveConfig.Proofs.Evaluation.Kept
import LiveConfig.Proofs.Evaluation.Selected

/-! Evaluations that agree.

Of its scope an evaluation reads the properties that are seen there and the keys of the configs that
are being evaluated, and nothing else. Two inquiries that agree in these, each in a scope of its
own, evaluate a config alike: with the same outcome, the same draws and the same log, as long as the
segments that are entered are evaluated alike and every distribution finds the same identity. -/
namespace LiveConfig

open Relation (ReflTransGen)
open Drawing (Ends)

/-- What follows a step may depend on how the step ends. -/
theorem Drawing.bind_congr_of_ends {α β : Type} {x : Drawing α} {f g : α → Drawing β}
    {P : Except EvaluationError α → Prop} (ends : Ends x P) (same : ∀ a, P (.ok a) → f a = g a) :
    x >>= f = x >>= g := by
  funext n
  have first := ends n
  unfold DrawingT.runFrom at first
  change StateT.run (ExceptT.run x >>= ExceptT.bindCont f) n =
    StateT.run (ExceptT.run x >>= ExceptT.bindCont g) n
  rw [StateT.run_bind, StateT.run_bind]
  cases ran : x.run.run n with
  | mk result events =>
    rw [ran] at first
    obtain ⟨outcome, m⟩ := result
    cases outcome with
    | error e => rfl
    | ok a =>
      have next (h : α → Drawing β) :
          (Logged.mk (Except.ok a, m) events >>= fun p => (ExceptT.bindCont h p.1).run p.2) =
            ⟨((h a).run.run m).result, events ++ ((h a).run.run m).events⟩ := rfl
      rw [next, next, same a first]

theorem Drawing.evaluation_map {α β : Type} (f : α → β) (x : Drawing α) :
    (f <$> x).evaluation = f <$> x.evaluation := by
  unfold Drawing.evaluation
  apply ExceptT.ext
  simp only [ExceptT.run_map, ExceptT.run_mk, StateT.run_map, bind_map_left, map_bind, map_pure]

theorem Evaluation.outcome_map {α β : Type} (f : α → β) (x : Evaluation α) :
    (f <$> x).outcome = x.outcome.map f := by
  unfold Evaluation.outcome
  rw [ExceptT.run_map]
  rfl

theorem Drawing.attempt_map {α β : Type} (f : α → β) (x : Drawing α) :
    (f <$> x).attempt = Except.map f <$> x.attempt := by
  unfold DrawingT.attempt
  apply ExceptT.ext
  simp only [ExceptT.run_map, ExceptT.run_lift, Functor.map_map]
  rfl

namespace Inquiry

/-- Two inquiries see the same in a scope of each. -/
structure Agree (q q' : Inquiry) (scope scope' : Scope) : Prop where
  views : q.lookup? scope = q'.lookup? scope'
  keys : scope.keys = scope'.keys

section Congruence

variable {q q' : Inquiry} {scope scope' : Scope} {key : String}
variable {inner inner' : Scope → String → Drawing Match}

theorem Agree.refl (q : Inquiry) (scope : Scope) : q.Agree q scope scope := ⟨rfl, rfl⟩

theorem Agree.enter (agree : q.Agree q' scope scope') (key : String) :
    q.Agree q' (scope.enter key) (scope'.enter key) := by
  constructor
  · exact agree.views
  · rw [Scope.keys_enter, Scope.keys_enter, agree.keys]

theorem Agree.within (agree : q.Agree q' scope scope') (properties : Properties) :
    q.Agree q' (scope.within properties) (scope'.within properties) := by
  constructor
  · rw [lookup?_within, lookup?_within, agree.views]
  · rw [Scope.keys_within, Scope.keys_within, agree.keys]

/-- A criterion is judged from the same: from what it sees, and from the value that its segment is
evaluated to, wherever that one is found. -/
structure SameBasis (q q' : Inquiry) (inner inner' : Scope → String → Drawing Match)
    (scope scope' : Scope) (c : Criterion) : Prop where
  seen : q.lookup? scope c.property = q'.lookup? scope' c.property
  answers : ∀ segment, c.segment? = some segment → segment ∉ scope.keys →
    Match.value <$> inner scope segment = Match.value <$> inner' scope' segment

theorem Agree.basis (agree : q.Agree q' scope scope') {c : Criterion}
    (same : ∀ segment, c.segment? = some segment → segment ∉ scope.keys →
      inner scope segment = inner' scope' segment) :
    SameBasis q q' inner inner' scope scope' c := by
  constructor
  · exact congrFun agree.views c.property
  · intro segment named fresh
    rw [same segment named fresh]

/-- What a membership is told from: the value, or why there is none. -/
def told (r : Except EvaluationError ConfigValue) : Drawing (Option Bool) :=
  match r with
  | .ok v => return some (v.value == .bool true)
  | .error e => if e.isNormal then return some false else throw e

theorem membership_eq {c : Criterion} : membership inner scope key c =
    match c.segment? with
    | none => do
      Drawing.log (.noSegmentKey key)
      return none
    | some segment =>
      if scope.keys.contains segment then throw .segmentCycle
      else (Match.value <$> inner scope segment).attempt >>= told := by
  unfold membership
  cases c.segment? with
  | none => rfl
  | some segment =>
    simp only
    split
    · rfl
    · rw [Drawing.attempt_map, bind_map_left]
      congr 1
      funext outcome
      cases outcome with
      | ok m => rfl
      | error e => rfl

theorem membership_congr (keys : scope.keys = scope'.keys) {c : Criterion}
    (same : SameBasis q q' inner inner' scope scope' c) :
    membership inner scope key c = membership inner' scope' key c := by
  rw [membership_eq, membership_eq]
  cases named : c.segment? with
  | none => rfl
  | some segment =>
    simp only [← keys]
    by_cases entered : segment ∈ scope.keys
    · simp only [List.contains_iff_mem.mpr entered, if_true]
    · rw [same.answers segment named entered]

theorem judge_congr (keys : scope.keys = scope'.keys) {c : Criterion}
    (same : SameBasis q q' inner inner' scope scope' c) :
    q.judge inner scope key c = q'.judge inner' scope' key c := by
  unfold judge
  rw [membership_congr keys same, same.seen, keys]

theorem judgeAll_congr (keys : scope.keys = scope'.keys) {cs : List Criterion}
    (same : ∀ c ∈ cs, SameBasis q q' inner inner' scope scope' c) (i : Nat) :
    q.judgeAll inner scope key i cs = q'.judgeAll inner' scope' key i cs := by
  induction cs generalizing i with
  | nil => rfl
  | cons c cs ih =>
    rw [List.forall_mem_cons] at same
    unfold judgeAll
    rw [judge_congr keys same.1, ih same.2]

theorem firstHolding_congr (keys : scope.keys = scope'.keys) {vs : List ConditionalValue}
    (same : ∀ v ∈ vs, ∀ c ∈ v.criteria, SameBasis q q' inner inner' scope scope' c) (i : Nat) :
    q.firstHolding inner scope key i vs = q'.firstHolding inner' scope' key i vs := by
  induction vs generalizing i with
  | nil => rfl
  | cons v vs ih =>
    rw [List.forall_mem_cons] at same
    unfold firstHolding
    rw [judgeAll_congr keys same.1, ih same.2]

/-- Rows that are searched alike one by one are searched alike as a whole, whatever indexes they
have: where two rows stand in each other's place, so do the labels of their indexes. -/
theorem firstRow_relabelled {β : Type} (label label' : Nat → β) {rows rows' : List (Nat × Row)}
    (same : List.Forall₂ (fun r r' => label r.1 = label' r'.1 ∧
      q.firstHolding inner (scope.within r.2.properties) key 0 r.2.values =
        q'.firstHolding inner' (scope'.within r'.2.properties) key 0 r'.2.values) rows rows') :
    Option.map (Prod.map label id) <$> q.firstRow inner scope key rows =
      Option.map (Prod.map label' id) <$> q'.firstRow inner' scope' key rows' := by
  induction same with
  | nil => rfl
  | cons first _ ih =>
    obtain ⟨labels, searched⟩ := first
    unfold firstRow
    rw [searched, map_bind, map_bind]
    congr 1
    funext found
    cases found with
    | none => exact ih
    | some found =>
      simp only [map_pure, Option.map_some, Prod.map_apply, labels]

theorem firstRow_of_rows {rows : List (Nat × Row)}
    (same : ∀ r ∈ rows, q.firstHolding inner (scope.within r.2.properties) key 0 r.2.values =
      q'.firstHolding inner' (scope'.within r.2.properties) key 0 r.2.values) :
    q.firstRow inner scope key rows = q'.firstRow inner' scope' key rows := by
  have relabelled := firstRow_relabelled id id
    (List.forall₂_same.mpr fun r member => ⟨rfl, same r member⟩)
  simpa only [Prod.map_id, Option.map_id, id_map] using relabelled

theorem firstRow_congr (agree : q.Agree q' scope scope') {rows : List (Nat × Row)}
    (same : ∀ r ∈ rows, ∀ v ∈ r.2.values, ∀ c ∈ v.criteria, ∀ segment,
      c.segment? = some segment → segment ∉ scope.keys →
      inner (scope.within r.2.properties) segment = inner' (scope'.within r.2.properties) segment) :
    q.firstRow inner scope key rows = q'.firstRow inner' scope' key rows := by
  apply firstRow_of_rows
  intro r member
  have inRow := agree.within r.2.properties
  apply firstHolding_congr inRow.keys
  intro v hv c hc
  apply inRow.basis
  rw [Scope.keys_within]
  exact same r member v hv c hc

/-- The search of one row. -/
theorem firstRow_singleton (i : Nat) (row : Row) : q.firstRow inner scope key [(i, row)] =
    Option.map (Prod.mk i) <$>
      q.firstHolding inner (scope.within row.properties) key 0 row.values := by
  rw [map_eq_pure_bind]
  unfold firstRow firstRow
  congr 1
  funext found
  cases found with
  | none => rfl
  | some found => rfl

theorem conclude_congr (selections : q.selection = q'.selection) {v : ConfigValue}
    (identities : ∀ d, v.value = .weighted d →
      d.identity? q.properties = d.identity? q'.properties) :
    (q.conclude key v : Drawing _) = q'.conclude key v := by
  unfold conclude
  rw [selections]
  split
  next d sharder draws weighted _ =>
    unfold locate
    rw [identities d weighted]
  next => rfl

end Congruence

/-- The match that a search of the rows leads to, if it has found one. -/
def complete (q : Inquiry) (key : String) (e : Element) :
    Option (Nat × Nat × ConfigValue × List EvaluatedCriterion) → Drawing Match
  | some (rowIndex, valueIndex, v, criteria) => do
    let (value, variantIndex) ← q.conclude key v
    return ⟨value, e, criteria, rowIndex, valueIndex, variantIndex⟩
  | none => throw .noMatch

section Completion

variable {q q' : Inquiry} {scope scope' : Scope} {key : String} {e : Element}
variable {inner inner' : Scope → String → Drawing Match} {rows : List (Nat × Row)}

theorem tryRows_eq : q.tryRows inner scope e rows =
    q.firstRow inner scope e.key rows >>= q.complete e.key e := by
  unfold tryRows
  congr 1

/-- Segments are evaluated where as many keys are in the scope as in that of the rows. -/
theorem tryRows_congr_inner (same : ∀ inside segment, inside.keys = scope.keys →
    inner inside segment = inner' inside segment) :
    q.tryRows inner scope e rows = q.tryRows inner' scope e rows := by
  rw [tryRows_eq, tryRows_eq, firstRow_congr (.refl q scope)]
  intro r _ v _ c _ segment _ _
  exact same _ segment (Scope.keys_within _ _)

theorem resolve_present {budget : Nat} (present : q.snapshot.get? key = some e) :
    q.resolve (budget + 1) scope key =
      q.firstRow (q.resolve budget) (scope.enter e.key) e.key
        (e.config.applicableRows q.snapshot.environment) >>= q.complete e.key e := by
  rw [← tryRows_eq, resolve]
  simp only [present]

/-- The element of a match is only carried along. -/
theorem map_complete (e' : Element)
    (found : Option (Nat × Nat × ConfigValue × List EvaluatedCriterion)) :
    (fun m : Match => { m with element := e' }) <$> q.complete key e found =
      q.complete key e' found := by
  cases found with
  | none => rfl
  | some found =>
    simp only [complete, map_bind, map_pure]

/-- Distributions of the rows that find the same identity are resolved alike. -/
theorem complete_congr (selections : q.selection = q'.selection)
    (identities : ∀ r ∈ rows, ∀ d ∈ r.2.distributions,
      d.identity? q.properties = d.identity? q'.properties) :
    q.firstRow inner scope key rows >>= q.complete key e =
      q.firstRow inner scope key rows >>= q'.complete key e := by
  apply Drawing.bind_congr_of_ends (ends_firstRow rows)
  intro found holds
  cases found with
  | none => rfl
  | some found =>
    obtain ⟨rowIndex, valueIndex, value, criteria⟩ := found
    obtain ⟨row, v, applicable, inRow, rfl⟩ := holds _ rfl
    have concluded : (q.conclude key v.value : Drawing _) = q'.conclude key v.value := by
      apply conclude_congr selections
      intro d weighted
      exact identities _ applicable d (Row.mem_distributions (List.mem_of_getElem? inRow) weighted)
    simp only [complete, concluded]

end Completion

/-- Two inquiries that differ in one config at most, and in what the caller brings: the configs that
this one leads to are the same, and their distributions find the same identities. -/
structure Beyond (q q' : Inquiry) (root : String) : Prop where
  selections : q.selection = q'.selection
  environments : q'.snapshot.environment = q.snapshot.environment
  others : ∀ key, key ≠ root → q'.snapshot.get? key = q.snapshot.get? key
  identities : ∀ key, ReflTransGen q.snapshot.Refers root key →
    ∀ e, q.snapshot.get? key = some e → ∀ r ∈ e.config.applicableRows q.snapshot.environment,
      ∀ d ∈ r.2.distributions, d.identity? q.properties = d.identity? q'.properties

/-- Once the config in which two inquiries differ is being evaluated, it is not entered again, so
segments are evaluated alike in scopes that agree. -/
theorem Beyond.resolve_eq {q q' : Inquiry} {root : String} (beyond : q.Beyond q' root)
    {budget : Nat} {scope scope' : Scope} {key : String} (agree : q.Agree q' scope scope')
    (entered : root ∈ scope.keys) (other : key ≠ root)
    (reached : ReflTransGen q.snapshot.Refers root key) :
    q.resolve budget scope key = q'.resolve budget scope' key := by
  induction budget generalizing scope scope' key with
  | zero => rfl
  | succ budget ih =>
    have present' := beyond.others key other
    cases present : q.snapshot.get? key with
    | none =>
      rw [present] at present'
      simp only [resolve, present, present']
    | some e =>
      rw [present] at present'
      have searched : q.firstRow (q.resolve budget) (scope.enter e.key) e.key
            (e.config.applicableRows q.snapshot.environment) =
          q'.firstRow (q'.resolve budget) (scope'.enter e.key) e.key
            (e.config.applicableRows q.snapshot.environment) := by
        apply firstRow_congr (agree.enter e.key)
        intro r applicable v inRow c guards segment named fresh
        rw [Scope.keys_enter, List.mem_cons, not_or] at fresh
        refine ih ((agree.enter e.key).within r.2.properties) ?_ ?_ ?_
        · rw [Scope.keys_within, Scope.keys_enter]
          exact List.mem_cons_of_mem _ entered
        · rintro rfl
          exact fresh.2 entered
        · exact reached.tail (Snapshot.refers_of_criterion present applicable inRow guards named)
      rw [resolve_present present, resolve_present present', beyond.environments, ← searched]
      exact complete_congr beyond.selections (beyond.identities key reached e present)

/-- A config of which one row applies is evaluated alike with another row in its place that has the
same conditional values and from which the same properties are seen. -/
theorem Beyond.resolve_root {q q' : Inquiry} {e e' : Element} {i : Nat} {row row' : Row}
    (beyond : q.Beyond q' e.key) (present : q.snapshot.get? e.key = some e)
    (altered : q'.snapshot.get? e.key = some e') (keys : e'.key = e.key)
    (only : e.config.applicableRows q.snapshot.environment = [(i, row)])
    (only' : e'.config.applicableRows q.snapshot.environment = [(i, row')])
    (values : row'.values = row.values) {scope : Scope}
    (agree : q.Agree q' ((scope.enter e.key).within row.properties)
      ((scope.enter e.key).within row'.properties)) (budget : Nat) :
    q'.resolve (budget + 1) scope e.key =
      (fun m : Match => { m with element := e' }) <$> q.resolve (budget + 1) scope e.key := by
  have entered : e.key ∈ ((scope.enter e.key).within row.properties).keys := by
    rw [Scope.keys_within, Scope.keys_enter]
    exact List.mem_cons_self
  have applicable : (i, row) ∈ e.config.applicableRows q.snapshot.environment :=
    only ▸ List.mem_cons_self
  have inRow : q.firstHolding (q.resolve budget) ((scope.enter e.key).within row.properties)
        e.key 0 row.values =
      q'.firstHolding (q'.resolve budget) ((scope.enter e.key).within row'.properties)
        e.key 0 row.values := by
    apply firstHolding_congr agree.keys
    intro v inRow c guards
    apply agree.basis
    intro segment named fresh
    apply beyond.resolve_eq agree entered
    · rintro rfl
      exact fresh entered
    · exact .single (Snapshot.refers_of_criterion present applicable inRow guards named)
  have searched : q.firstRow (q.resolve budget) (scope.enter e.key) e.key [(i, row)] =
      q'.firstRow (q'.resolve budget) (scope.enter e.key) e.key [(i, row')] := by
    rw [firstRow_singleton, firstRow_singleton, values, inRow]
  have identities := beyond.identities e.key .refl e present
  rw [only] at identities
  calc q'.resolve (budget + 1) scope e.key
      = q'.firstRow (q'.resolve budget) (scope.enter e.key) e.key [(i, row')] >>=
          q'.complete e.key e' := by
        rw [resolve_present altered, keys, beyond.environments, only']
    _ = q.firstRow (q.resolve budget) (scope.enter e.key) e.key [(i, row)] >>=
          q.complete e.key e' := by
        rw [← searched, complete_congr beyond.selections identities]
    _ = (fun m : Match => { m with element := e' }) <$>
          (q.firstRow (q.resolve budget) (scope.enter e.key) e.key [(i, row)] >>=
            q.complete e.key e) := by
        simp only [map_bind, map_complete]
    _ = (fun m : Match => { m with element := e' }) <$> q.resolve (budget + 1) scope e.key := by
        rw [resolve_present present, only]

end Inquiry
end LiveConfig
