import LiveConfig.Evaluation.Stacks
import LiveConfig.Proofs.Evaluation.Undecided

/-! Stacks that are as they were after every call.

`Calls` says which calls a call may make, and with what on the stacks. The record of a call is
balanced when it consists of readings, which see the stacks that the call was made with, and of
further calls one after another, each of which is recorded as returning with the stacks that it was
made with. `performs_resolve` compares an evaluation that shares its stacks with `Inquiry.follow`,
where every call has a scope of its own: outcome, draws and log are the same, the record is
balanced, and in the end the stacks are those of the beginning. -/
namespace LiveConfig

namespace Scope

theorem leave_enter (s : Scope) (key : String) : (s.enter key).leave = s := rfl

theorem without_within (s : Scope) (properties : Properties) :
    (s.within properties).without properties = s := by
  unfold within without
  split <;> rfl

end Scope

namespace Inquiry

/-- The innermost of some calls, made with the stacks `s`, may make a call for `a` with `s'`. -/
inductive Calls (q : Inquiry) : List Activity → Scope → Activity → Scope → Prop
  | rows {u : List Activity} {s : Scope} {key : String} {e : Element}
      (shallow : s.keys.length ≤ maxSegmentDepth) (present : q.snapshot.get? key = some e) :
      Calls q (.key key :: u) s (.rows e) (s.enter e.key)
  | row {u : List Activity} {s : Scope} {e : Element} {r : Nat × Row}
      (applicable : r ∈ e.config.applicableRows q.snapshot.environment) :
      Calls q (.rows e :: u) s (.row e r.2) (s.within r.2.properties)
  | criterion {u : List Activity} {s : Scope} {e : Element} {row : Row} {v : ConditionalValue}
      {c : Criterion} (inRow : v ∈ row.values) (guards : c ∈ v.criteria) :
      Calls q (.row e row :: u) s (.criterion e c) s
  | membership {u : List Activity} {s : Scope} {e : Element} {c : Criterion}
      (asks : c.operator.isSegment = true) : Calls q (.criterion e c :: u) s (.membership e c) s
  | key {u : List Activity} {s : Scope} {e : Element} {c : Criterion} {segment : String}
      (named : c.segment? = some segment) (outside : segment ∉ s.keys) :
      Calls q (.membership e c :: u) s (.key segment) s

/-- What may be recorded while the innermost of some calls goes on, which was made with the stacks
`s`. -/
inductive Balanced (q : Inquiry) : List Activity → Scope → List Moment → Prop
  | done {u : List Activity} {s : Scope} : Balanced q u s []
  | reading {u : List Activity} {s : Scope} {later : List Moment} (rest : Balanced q u s later) :
      Balanced q u s (.reading u s :: later)
  | call {u : List Activity} {s s' : Scope} {a : Activity} {inside later : List Moment}
      (made : q.Calls u s a s') (within : Balanced q (a :: u) s' inside)
      (rest : Balanced q u s later) :
      Balanced q u s (.entry (a :: u) s' :: (inside ++ .exit (a :: u) s' :: later))

theorem Balanced.append {q : Inquiry} {u : List Activity} {s : Scope} {earlier later : List Moment}
    (first : q.Balanced u s earlier) (next : q.Balanced u s later) :
    q.Balanced u s (earlier ++ later) := by
  induction first with
  | done => exact next
  | reading _ ih => exact .reading (ih next)
  | call made within _ _ ih =>
    rw [List.cons_append, List.append_assoc, List.cons_append]
    exact .call made within (ih next)

end Inquiry

namespace Watching

variable {α β : Type}

/-- From the stacks `s`, `x` ends like `y`, with the same draws and the same log. It leaves the
stacks as they were, and what it adds to the record is balanced. -/
def Restores (q : Inquiry) (u : List Activity) (s : Scope) (x : DrawingT Watching α)
    (y : Drawing α) : Prop :=
  ∀ n past, ∃ moments, q.Balanced u s moments ∧
    runFrom x n u ⟨s, past⟩ = (fun r => (r, ⟨s, past ++ moments⟩)) <$> y.run.run n

/-- As a call for `a` that is made with the stacks `s`, `x` ends like `y` and leaves the stacks as
they were. It records its entry and its exit, and between them what is balanced. -/
def Performs (q : Inquiry) (u : List Activity) (s : Scope) (a : Activity)
    (x : DrawingT Watching α) (y : Drawing α) : Prop :=
  ∀ n past, ∃ inside, q.Balanced (a :: u) s inside ∧
    runFrom x n u ⟨s, past⟩ =
      (fun r => (r, ⟨s, past ++ .entry (a :: u) s :: (inside ++ [.exit (a :: u) s])⟩)) <$>
        y.run.run n

section Running

theorem runFrom_bind (x : DrawingT Watching α) (f : α → DrawingT Watching β) (n : Nat)
    (u : List Activity) (w : Watch) :
    runFrom (x >>= f) n u w = runFrom x n u w >>= fun r =>
      match r with
      | ((.ok a, m), w') => runFrom (f a) m u w'
      | ((.error e, m), w') => pure ((.error e, m), w') := by
  change (runFrom x n u w >>= fun r => ((ExceptT.bindCont f r.1.1).run r.1.2 u).run r.2) = _
  congr 1
  funext ⟨⟨outcome, m⟩, w'⟩
  cases outcome with
  | ok a => rfl
  | error e => rfl

theorem runFrom_attempt (x : DrawingT Watching α) (n : Nat) (u : List Activity) (w : Watch) :
    runFrom x.attempt n u w = (fun r => ((.ok r.1.1, r.1.2), r.2)) <$> runFrom x n u w := rfl

theorem runFrom_change (f : Scope → Scope) (n : Nat) (u : List Activity) (w : Watch) :
    runFrom (change f) n u w = pure ((.ok (), n), ⟨f w.scope, w.moments⟩) := rfl

end Running

section Closure

variable {q : Inquiry} {u : List Activity} {s : Scope} {a : Activity}
variable {x : DrawingT Watching α} {y : Drawing α}

/-- What does nothing to the stacks and the record. -/
theorem restores_of_apart (apart : ∀ n past,
    runFrom x n u ⟨s, past⟩ = (fun r => (r, ⟨s, past⟩)) <$> y.run.run n) :
    Restores q u s x y := by
  intro n past
  refine ⟨[], .done, ?_⟩
  rw [List.append_nil]
  exact apart n past

theorem restores_pure (value : α) : Restores q u s (pure value) (pure value) :=
  restores_of_apart fun _ _ => rfl

theorem restores_throw (e : EvaluationError) :
    Restores q u s (throw e : DrawingT Watching α) (throw e) :=
  restores_of_apart fun _ _ => rfl

theorem restores_log (e : LogEvent) : Restores q u s (Drawing.log e) (Drawing.log e) :=
  restores_of_apart fun _ _ => rfl

theorem restores_draw (draws : Draws) : Restores q u s (Drawing.draw draws) (Drawing.draw draws) :=
  restores_of_apart fun _ _ => rfl

theorem Restores.bind {f : α → DrawingT Watching β} {g : α → Drawing β}
    (first : Restores q u s x y) (next : ∀ a, Restores q u s (f a) (g a)) :
    Restores q u s (x >>= f) (y >>= g) := by
  intro n past
  obtain ⟨moments, balanced, ran⟩ := first n past
  have continues : (y >>= g).run.run n = y.run.run n >>= fun r =>
      (ExceptT.bindCont g r.1).run r.2 := rfl
  rw [runFrom_bind, ran, bind_map_left, continues]
  rcases ended : (y.run.run n).result with ⟨e | a, m⟩
  · refine ⟨moments, balanced, ?_⟩
    rw [map_bind]
    apply Logged.bind_congr
    rw [ended]
    rfl
  · obtain ⟨later, rest, ran'⟩ := next a m (past ++ moments)
    refine ⟨moments ++ later, balanced.append rest, ?_⟩
    rw [map_bind]
    apply Logged.bind_congr
    rw [ended]
    rw [List.append_assoc] at ran'
    exact ran'

theorem Restores.attempt (restores : Restores q u s x y) :
    Restores q u s x.attempt y.attempt := by
  intro n past
  obtain ⟨moments, balanced, ran⟩ := restores n past
  refine ⟨moments, balanced, ?_⟩
  rw [runFrom_attempt, ran]
  rfl

/-- A reading shows the stacks that the call was made with. -/
theorem restores_look {f : Scope → DrawingT Watching α} (next : Restores q u s (f s) y) :
    Restores q u s (look >>= f) y := by
  intro n past
  obtain ⟨later, rest, ran⟩ := next n (past ++ [.reading u s])
  refine ⟨.reading u s :: later, .reading rest, ?_⟩
  rw [List.append_assoc] at ran
  exact ran

theorem Restores.during (restores : Restores q (a :: u) s x y) :
    Performs q u s a (during a x) y := by
  intro n past
  obtain ⟨inside, balanced, ran⟩ := restores n (past ++ [.entry (a :: u) s])
  refine ⟨inside, balanced, ?_⟩
  change (runFrom x n (a :: u) ⟨s, past ++ [.entry (a :: u) s]⟩ >>= fun r =>
    pure (r.1, Watch.mk r.2.scope (r.2.moments ++ [Moment.exit (a :: u) r.2.scope]))) = _
  rw [ran, bind_map_left, map_eq_pure_bind]
  simp only [List.append_assoc, List.cons_append, List.nil_append]

theorem Performs.restores (performs : Performs q u s a x y) (made : q.Calls u s a s) :
    Restores q u s x y := by
  intro n past
  obtain ⟨inside, balanced, ran⟩ := performs n past
  exact ⟨_, .call made balanced .done, ran⟩

/-- What is put on for a call is off again when the call has returned, whichever way. -/
theorem Performs.holding (put take : Scope → Scope) (performs : Performs q u (put s) a x y)
    (made : q.Calls u s a (put s)) (undone : take (put s) = s) :
    Restores q u s (holding put take x) y := by
  intro n past
  obtain ⟨inside, balanced, ran⟩ := performs n past
  refine ⟨_, .call made balanced .done, ?_⟩
  unfold Watching.holding
  rw [runFrom_bind, runFrom_change, pure_bind]
  simp only
  rw [runFrom_bind, runFrom_attempt, ran, Functor.map_map, bind_map_left, map_eq_pure_bind]
  congr 1
  funext ⟨outcome, m⟩
  simp only
  rw [runFrom_bind, runFrom_change, pure_bind]
  simp only
  rw [undone]
  cases outcome with
  | ok a => rfl
  | error e => rfl

end Closure

theorem restores_conclude (q : Inquiry) (u : List Activity) (s : Scope) (key : String)
    (v : ConfigValue) : Restores q u s (q.conclude key v) (q.conclude key v) := by
  unfold Inquiry.conclude
  split
  · rename_i d sharder draws _ _
    refine Restores.bind (y := q.locate sharder draws key d) ?_ fun position => ?_
    · unfold Inquiry.locate
      split
      · exact restores_pure _
      · exact restores_draw draws
    · cases d.at? position with
      | some selected => exact restores_pure _
      | none => exact (restores_log _).bind fun _ => restores_throw _
  · exact restores_pure _

section Steps

variable {q : Inquiry} {inner : String → DrawingT Watching Match} {budget : Nat}
variable (inside : ∀ u s segment, maxSegmentDepth < s.keys.length + budget →
  Performs q u s (.key segment) (inner segment) (q.follow s segment))
variable (u : List Activity) {s : Scope} (enough : maxSegmentDepth < s.keys.length + budget)
variable (e : Element)
include inside enough

theorem performs_membership (c : Criterion) : Performs q u s (.membership e c)
    (membership inner e c) (Inquiry.membership q.follow s e.key c) := by
  refine Restores.during ?_
  unfold Inquiry.membership
  cases named : c.segment? with
  | none => exact (restores_log _).bind fun _ => restores_pure _
  | some segment =>
    refine restores_look ?_
    simp only
    split
    · exact restores_throw _
    · rename_i fresh
      have outside : segment ∉ s.keys := fun entered => fresh (List.contains_iff_mem.mpr entered)
      have asked := (inside (.membership e c :: u) s segment enough).restores (.key named outside)
      refine asked.attempt.bind fun outcome => ?_
      cases outcome with
      | ok m => exact restores_pure _
      | error failure =>
        simp only
        split
        · exact restores_pure _
        · exact restores_throw _

theorem performs_judge (c : Criterion) :
    Performs q u s (.criterion e c) (judge q inner e c) (q.judge q.follow s e.key c) := by
  refine Restores.during ?_
  unfold Inquiry.judge
  cases op : c.operator with
  | inSegment | notInSegment =>
    have asks : c.operator.isSegment = true := by rw [op]; rfl
    have asked : Restores q (.criterion e c :: u) s (membership inner e c) _ :=
      (performs_membership inside _ enough e c).restores (.membership asks)
    refine asked.attempt.bind fun outcome => ?_
    cases outcome with
    | ok member =>
      cases member with
      | some decided => exact restores_pure _
      | none => exact restores_pure _
    | error failure =>
      -- the keys are counted once more, after all that the segment has put on and taken off
      refine restores_look ?_
      simp only
      split
      · exact (restores_throw _).bind fun _ => (restores_log _).bind fun _ => restores_pure _
      · exact (restores_log _).bind fun _ => restores_pure _
  | unknown => exact (restores_log _).bind fun _ => restores_pure _
  | _ => exact restores_look (restores_pure _)

theorem restores_judgeAll {row : Row} {v : ConditionalValue} (inRow : v ∈ row.values)
    {cs : List Criterion} (guards : ∀ c ∈ cs, c ∈ v.criteria) (i : Nat) :
    Restores q (.row e row :: u) s (judgeAll q inner e i cs)
      (q.judgeAll q.follow s e.key i cs) := by
  induction cs generalizing i with
  | nil => exact restores_pure _
  | cons c cs ih =>
    simp only [List.forall_mem_cons] at guards
    unfold judgeAll Inquiry.judgeAll
    have judged : Restores q (.row e row :: u) s (judge q inner e c) _ :=
      (performs_judge inside _ enough e c).restores (.criterion inRow guards.1)
    refine judged.bind fun seen => ?_
    simp only
    split
    · exact restores_pure _
    · refine (ih guards.2 (i + 1)).bind fun rest => ?_
      cases rest with
      | some entries => exact restores_pure _
      | none => exact restores_pure _

theorem restores_firstHolding {row : Row} {vs : List ConditionalValue}
    (inRow : ∀ v ∈ vs, v ∈ row.values) (i : Nat) :
    Restores q (.row e row :: u) s (firstHolding q inner e i vs)
      (q.firstHolding q.follow s e.key i vs) := by
  induction vs generalizing i with
  | nil => exact restores_pure _
  | cons v vs ih =>
    simp only [List.forall_mem_cons] at inRow
    unfold firstHolding Inquiry.firstHolding
    refine (restores_judgeAll inside u enough e inRow.1 (fun _ guards => guards) 0).bind ?_
    intro record
    cases record with
    | some criteria => exact restores_pure _
    | none => exact ih inRow.2 (i + 1)

theorem performs_tryRow (row : Row) : Performs q u s (.row e row) (tryRow q inner e row)
    (q.firstHolding q.follow s e.key 0 row.values) :=
  (restores_firstHolding inside u enough e (fun _ inRow => inRow) 0).during

theorem restores_firstRow {rows : List (Nat × Row)}
    (applicable : ∀ r ∈ rows, r ∈ e.config.applicableRows q.snapshot.environment) :
    Restores q (.rows e :: u) s (firstRow q inner e rows) (q.firstRow q.follow s e.key rows) := by
  induction rows with
  | nil => exact restores_pure _
  | cons r rows ih =>
    simp only [List.forall_mem_cons] at applicable
    unfold firstRow Inquiry.firstRow
    have within : maxSegmentDepth < (s.within r.2.properties).keys.length + budget := by
      rwa [Scope.keys_within]
    have tried := (performs_tryRow inside (.rows e :: u) within e r.2).holding
      (·.within r.2.properties) (·.without r.2.properties)
      (.row applicable.1) (s.without_within r.2.properties)
    refine tried.bind fun found => ?_
    cases found with
    | some found => exact restores_pure _
    | none => exact ih applicable.2

theorem performs_tryRows : Performs q u s (.rows e) (tryRows q inner e)
    (q.tryRows q.follow s e (e.config.applicableRows q.snapshot.environment)) := by
  refine Restores.during ?_
  unfold Inquiry.tryRows
  refine (restores_firstRow inside u enough e fun _ applies => applies).bind fun found => ?_
  cases found with
  | none => exact restores_throw _
  | some found => exact (restores_conclude q _ s e.key _).bind fun _ => restores_pure _

end Steps

/-- With stacks that all calls share, a key is evaluated as with a scope for each call. -/
theorem performs_resolve (q : Inquiry) {budget : Nat} (u : List Activity) (s : Scope)
    (key : String) (enough : maxSegmentDepth < s.keys.length + budget) :
    Performs q u s (.key key) (resolve q budget key) (q.follow s key) := by
  induction budget generalizing u s key with
  | zero =>
    rw [Inquiry.follow_of_deep enough]
    exact (restores_throw _).during
  | succ budget ih =>
    refine Restores.during (restores_look ?_)
    by_cases deep : maxSegmentDepth < s.keys.length
    · rw [if_pos deep, Inquiry.follow_of_deep deep]
      exact restores_throw _
    · have shallow := Nat.le_of_not_lt deep
      rw [if_neg deep]
      cases present : q.snapshot.get? key with
      | none =>
        rw [Inquiry.follow_of_absent shallow present]
        exact restores_throw _
      | some e =>
        have entered : maxSegmentDepth < (s.enter e.key).keys.length + budget := by
          rw [Scope.keys_enter, List.length_cons]
          omega
        rw [Inquiry.follow_of_present shallow present]
        exact (performs_tryRows ih (.key key :: u) entered e).holding (·.enter e.key) Scope.leave
          (.rows shallow present) (s.leave_enter e.key)

end Watching
end LiveConfig
