import Mathlib.Data.List.Basic
import LiveConfig.Evaluation.Recall
import LiveConfig.Proofs.Evaluation.Choice
import LiveConfig.Proofs.Evaluation.RowOrder

/-! Evaluations that remember.

What is remembered about a place is the row order of the element in this place, for the environment
that it was asked about. This holds at the start, and asking an element keeps it: what is remembered
is given as it is, and what is not is computed first. So wherever it holds, evaluating a key against
elements in memory gives what evaluating it against the snapshot gives, with the same draws and the
same log, and it holds afterwards, for whatever comes next. -/
namespace LiveConfig

variable {owner : Nat → Option Element} {α β : Type}

namespace Memos

/-- Everything that is remembered was computed for the element in this place. -/
def Sound (owner : Nat → Option Element) (memos : Memos) : Prop :=
  ∀ place environment order, memos place environment = some order →
    ∃ e, owner place = some e ∧ order = e.config.rowOrder environment

theorem sound_empty : Sound owner empty := by
  intro place environment order remembered
  cases remembered

theorem Sound.remember {memos : Memos} (sound : memos.Sound owner) {place : Nat} {e : Element}
    (owned : owner place = some e) (environment : Option Int64) :
    (memos.remember place environment (e.config.rowOrder environment)).Sound owner := by
  intro place' environment' order remembered
  unfold Memos.remember at remembered
  split at remembered
  · rename_i same
    obtain ⟨rfl, rfl⟩ := same
    exact ⟨e, owned, (Option.some.inj remembered).symm⟩
  · exact sound place' environment' order remembered

end Memos

/-- From sound memories, `x` gives the result and the log of `y`, and it leaves sound memories. -/
def Recalling.Answers (owner : Nat → Option Element) (x : Recalling α) (y : Logged α) : Prop :=
  ∀ memos : Memos, memos.Sound owner → ∃ memos' : Memos, memos'.Sound owner ∧
    x.run memos = (fun a => (a, memos')) <$> y

namespace Recalling

theorem answers_pure (a : α) : Answers owner (pure a) (pure a) := by
  intro memos sound
  refine ⟨memos, sound, ?_⟩
  rw [StateT.run_pure, map_pure]

theorem answers_lift (y : Logged α) : Answers owner (liftM y) y := by
  intro memos sound
  refine ⟨memos, sound, ?_⟩
  change (y >>= fun a => pure (a, memos)) = _
  rw [map_eq_pure_bind]

theorem Answers.bind {x : Recalling α} {y : Logged α} {f : α → Recalling β} {g : α → Logged β}
    (first : Answers owner x y) (next : Answers owner (f y.result) (g y.result)) :
    Answers owner (x >>= f) (y >>= g) := by
  intro memos sound
  obtain ⟨between, soundBetween, ran⟩ := first memos sound
  obtain ⟨memos', sound', continued⟩ := next between soundBetween
  refine ⟨memos', sound', ?_⟩
  rw [StateT.run_bind, ran, bind_map_left, map_bind]
  exact Logged.bind_congr continued

/-- What follows an answer that is known. -/
theorem Answers.then {x : Recalling α} {a : α} {f : α → Recalling β} {z : Logged β}
    (known : Answers owner x (pure a)) (next : Answers owner (f a) z) :
    Answers owner (x >>= f) z := by
  have continued : Answers owner (x >>= f) (pure a >>= fun _ => z) := known.bind next
  rwa [pure_bind] at continued

end Recalling

theorem Cell.run_rowOrder_known {c : Cell} {environment : Option Int64} {memos : Memos}
    {order : List Nat} (known : memos c.place environment = some order) :
    (c.rowOrder environment).run memos = pure (order, memos) := by
  simp [rowOrder, known]

theorem Cell.run_rowOrder_new {c : Cell} {environment : Option Int64} {memos : Memos}
    (new : memos c.place environment = none) :
    (c.rowOrder environment).run memos = pure (c.element.config.rowOrder environment,
      memos.remember c.place environment (c.element.config.rowOrder environment)) := by
  simp [rowOrder, new]

/-- An element gives the order of its rows, whatever it has been asked before. -/
theorem Cell.answers_rowOrder {c : Cell} (placed : owner c.place = some c.element)
    (environment : Option Int64) :
    Recalling.Answers owner (c.rowOrder environment)
      (pure (c.element.config.rowOrder environment)) := by
  intro memos sound
  cases remembered : memos c.place environment with
  | some order =>
    obtain ⟨e, owned, rfl⟩ := sound c.place environment order remembered
    cases placed.symm.trans owned
    exact ⟨memos, sound, Cell.run_rowOrder_known remembered⟩
  | none => exact ⟨_, sound.remember placed environment, Cell.run_rowOrder_new remembered⟩

/-- Whatever an element has been asked before, its rows are tried in the order of the document. -/
theorem Cell.rowOrder_each {owner : Nat → Option Element} {c : Cell}
    (placed : owner c.place = some c.element) (environments : List (Option Int64)) :
    Recalling.Answers owner (environments.mapM c.rowOrder)
      (pure (environments.map c.element.config.documentOrder)) := by
  induction environments with
  | nil => exact Recalling.answers_pure _
  | cons environment rest ih =>
    rw [List.mapM_cons]
    have first := Cell.answers_rowOrder placed environment
    rw [Config.rowOrder_eq] at first
    exact first.then (ih.then (Recalling.answers_pure _))

/-- The rows at the indexes of an order are the rows that apply. -/
theorem Config.rowsAt_rowOrder (c : Config) (environment : Option Int64) :
    c.rowsAt (c.rowOrder environment) = c.applicableRows environment := by
  rw [rowOrder_eq]
  exact c.documentRows_eq environment

namespace DrawingT

/-- An evaluation that remembers answers like one that does not, from every number of draws. -/
def Mirrors (owner : Nat → Option Element) (x : DrawingT Recalling α) (y : Drawing α) : Prop :=
  ∀ n, Recalling.Answers owner (x.run.run n) (y.run.run n)

variable {x : DrawingT Recalling α} {y : Drawing α}

theorem mirrors_pure (a : α) : Mirrors owner (pure a) (pure a) :=
  fun n => Recalling.answers_pure (Except.ok a, n)

theorem mirrors_throw (e : EvaluationError) :
    Mirrors owner (throw e : DrawingT Recalling α) (throw e) :=
  fun n => Recalling.answers_pure (Except.error e, n)

theorem mirrors_draw (draws : Draws) : Mirrors owner (draw draws) (draw draws) :=
  fun n => Recalling.answers_pure (Except.ok (draws n), n + 1)

theorem Mirrors.bind {f : α → DrawingT Recalling β} {g : α → Drawing β}
    (first : Mirrors owner x y) (next : ∀ a, Mirrors owner (f a) (g a)) :
    Mirrors owner (x >>= f) (y >>= g) := by
  intro n
  change Recalling.Answers owner
    (x.run.run n >>= fun r => (ExceptT.bindCont f r.1).run r.2)
    (y.run.run n >>= fun r => (ExceptT.bindCont g r.1).run r.2)
  refine (first n).bind ?_
  obtain ⟨outcome, m⟩ := (y.run.run n).result
  cases outcome with
  | ok a => exact next a m
  | error e => exact Recalling.answers_pure _

theorem mirrors_log (e : LogEvent) : Mirrors owner (log e) (log e) := by
  intro n
  change Recalling.Answers owner
    ((liftM (Logged.log e) : Recalling Unit) >>= fun a => pure (Except.ok a, n))
    (Logged.log e >>= fun a => pure (Except.ok a, n))
  exact (Recalling.answers_lift _).bind (Recalling.answers_pure _)

theorem Mirrors.attempt (mirrors : Mirrors owner x y) :
    Mirrors owner x.attempt y.attempt := by
  intro n
  change Recalling.Answers owner
    (x.run.run n >>= fun r => pure (Except.ok r.1, r.2))
    (y.run.run n >>= fun r => pure (Except.ok r.1, r.2))
  exact (mirrors n).bind (Recalling.answers_pure _)

/-- A question that is always answered alike. -/
theorem mirrors_ask {ask : Recalling α} {a : α} {f : α → DrawingT Recalling β} {z : Drawing β}
    (answers : Recalling.Answers owner ask (pure a)) (next : Mirrors owner (f a) z) :
    Mirrors owner (liftM ask >>= f) z := by
  intro n
  change Recalling.Answers owner
    (((ask >>= fun a => pure (a, n)) >>= fun r => pure (Except.ok r.1, r.2)) >>= fun r =>
      (ExceptT.bindCont f r.1).run r.2) (z.run.run n)
  have counted : Recalling.Answers owner (ask >>= fun a => pure (a, n)) (pure (a, n)) :=
    answers.then (Recalling.answers_pure (a, n))
  have given : Recalling.Answers owner
      ((ask >>= fun a => pure (a, n)) >>= fun r => pure (Except.ok r.1, r.2))
      (pure ((Except.ok a : Except EvaluationError α), n)) :=
    counted.then (Recalling.answers_pure (Except.ok a, n))
  exact given.then (next n)

end DrawingT

open DrawingT (Mirrors)

namespace Inquiry

variable {q : Inquiry} {inner : Scope → String → DrawingT Recalling Match}
variable {inner' : Scope → String → Drawing Match} {scope : Scope} {key : String}

section Steps

variable (inside : ∀ scope key, Mirrors owner (inner scope key) (inner' scope key))
include inside

theorem mirrors_membership (c : Criterion) :
    Mirrors owner (membership inner scope key c) (membership inner' scope key c) := by
  unfold membership
  cases c.segment? with
  | none => exact (DrawingT.mirrors_log _).bind fun _ => DrawingT.mirrors_pure _
  | some segment =>
    simp only
    split
    · exact DrawingT.mirrors_throw _
    · refine (inside scope segment).attempt.bind fun outcome => ?_
      cases outcome with
      | ok m => exact DrawingT.mirrors_pure _
      | error e =>
        simp only
        split
        · exact DrawingT.mirrors_pure _
        · exact DrawingT.mirrors_throw _

theorem mirrors_judge (c : Criterion) :
    Mirrors owner (q.judge inner scope key c) (q.judge inner' scope key c) := by
  unfold judge
  split
  case h_1 | h_2 =>
    refine (mirrors_membership inside c).attempt.bind fun outcome => ?_
    cases outcome with
    | ok member =>
      cases member with
      | some decided => exact DrawingT.mirrors_pure _
      | none => exact DrawingT.mirrors_pure _
    | error e =>
      simp only
      split
      · exact (DrawingT.mirrors_throw _).bind fun _ =>
          (DrawingT.mirrors_log _).bind fun _ => DrawingT.mirrors_pure _
      · exact (DrawingT.mirrors_log _).bind fun _ => DrawingT.mirrors_pure _
  case h_3 => exact (DrawingT.mirrors_log _).bind fun _ => DrawingT.mirrors_pure _
  case h_4 => exact DrawingT.mirrors_pure _

theorem mirrors_judgeAll (cs : List Criterion) (i : Nat) :
    Mirrors owner (q.judgeAll inner scope key i cs) (q.judgeAll inner' scope key i cs) := by
  induction cs generalizing i with
  | nil => exact DrawingT.mirrors_pure _
  | cons c cs ih =>
    unfold judgeAll
    refine (mirrors_judge inside c).bind fun judged => ?_
    simp only
    split
    · exact DrawingT.mirrors_pure _
    · refine (ih (i + 1)).bind fun rest => ?_
      cases rest with
      | some entries => exact DrawingT.mirrors_pure _
      | none => exact DrawingT.mirrors_pure _

theorem mirrors_firstHolding (vs : List ConditionalValue) (i : Nat) :
    Mirrors owner (q.firstHolding inner scope key i vs) (q.firstHolding inner' scope key i vs) := by
  induction vs generalizing i with
  | nil => exact DrawingT.mirrors_pure _
  | cons v vs ih =>
    unfold firstHolding
    refine (mirrors_judgeAll inside v.criteria 0).bind fun judged => ?_
    cases judged with
    | some criteria => exact DrawingT.mirrors_pure _
    | none => exact ih (i + 1)

theorem mirrors_firstRow (rows : List (Nat × Row)) :
    Mirrors owner (q.firstRow inner scope key rows) (q.firstRow inner' scope key rows) := by
  induction rows with
  | nil => exact DrawingT.mirrors_pure _
  | cons row rows ih =>
    unfold firstRow
    refine (mirrors_firstHolding inside row.2.values 0).bind fun found => ?_
    cases found with
    | some _ => exact DrawingT.mirrors_pure _
    | none => exact ih

end Steps

theorem mirrors_conclude (q : Inquiry) (key : String) (v : ConfigValue) :
    Mirrors owner (q.conclude key v) (q.conclude key v) := by
  unfold conclude
  split
  · rename_i d sharder draws _ _
    refine Mirrors.bind (y := q.locate sharder draws key d) ?_ fun position => ?_
    · unfold locate
      split
      · exact DrawingT.mirrors_pure _
      · exact DrawingT.mirrors_draw draws
    · cases d.at? position with
      | some selected => exact DrawingT.mirrors_pure _
      | none => exact (DrawingT.mirrors_log _).bind fun _ => DrawingT.mirrors_throw _
  · exact DrawingT.mirrors_pure _

theorem mirrors_tryRows
    (inside : ∀ scope key, Mirrors owner (inner scope key) (inner' scope key)) (e : Element)
    (rows : List (Nat × Row)) :
    Mirrors owner (q.tryRows inner scope e rows) (q.tryRows inner' scope e rows) := by
  unfold tryRows
  refine (mirrors_firstRow inside rows).bind fun found => ?_
  cases found with
  | none => exact DrawingT.mirrors_throw _
  | some found => exact (q.mirrors_conclude e.key _).bind fun _ => DrawingT.mirrors_pure _

end Inquiry

/-- Every cell of a table is in the place of its element. -/
def Table.Placed (owner : Nat → Option Element) (t : Table Cell) : Prop :=
  ∀ key c, t.get? key = some c → owner c.place = some c.element

namespace Generation

variable {g : Generation}

theorem mirrors_resolve (placed : g.cells.Placed owner) (q : Inquiry)
    (same : q.snapshot = g.snapshot) (budget : Nat) (scope : Scope) (key : String) :
    Mirrors owner (g.resolve q budget scope key) (q.resolve budget scope key) := by
  induction budget generalizing scope key with
  | zero => exact DrawingT.mirrors_throw _
  | succ budget ih =>
    have held : q.snapshot.get? key = (g.cells.get? key).map Cell.element := by
      rw [same]
      exact g.cells.get?_map Cell.element key
    unfold resolve Inquiry.resolve
    rw [held]
    cases present : g.cells.get? key with
    | none => exact DrawingT.mirrors_throw _
    | some c =>
      have environment : q.snapshot.environment = g.environment := by rw [same]; rfl
      simp only [Option.map_some, environment]
      refine DrawingT.mirrors_ask (Cell.answers_rowOrder (placed key c present) g.environment) ?_
      rw [Config.rowsAt_rowOrder]
      exact Inquiry.mirrors_tryRows ih c.element _

open Recalling (Answers)

/-- A generation answers as its snapshot does. -/
theorem answers_evaluate (placed : g.cells.Placed owner) (selection : Selection) (now : Int64)
    (context : LookupContext) (key : String) :
    Answers owner (g.evaluate selection now context key)
      ((g.snapshot.inquiry selection now context).answer key).run :=
  (mirrors_resolve placed _ rfl _ _ key 0).bind (Recalling.answers_pure _)

theorem answers_configuredValue (placed : g.cells.Placed owner) (scope : Option String)
    (now : Int64) (key : String) : Answers owner (g.configuredValue scope now key)
      (g.snapshot.configuredValue scope now key) := by
  refine (answers_evaluate placed .keep now ⟨scope, g.defaultContext⟩ key).bind ?_
  cases ((g.snapshot.inquiry .keep now ⟨scope, g.defaultContext⟩).answer key).run.result with
  | ok m => exact Recalling.answers_pure _
  | error e => exact Recalling.answers_pure _

theorem answers_changes {old new : Generation} (placedOld : old.cells.Placed owner)
    (placedNew : new.cells.Placed owner) (scope : Option String) (clock : Clock)
    (keys : List String) (turn : Nat) : Answers owner (changes scope clock old new turn keys)
      (Snapshot.changes scope clock old.snapshot new.snapshot turn keys) := by
  induction keys generalizing turn with
  | nil => exact Recalling.answers_pure _
  | cons key keys ih =>
    unfold changes Snapshot.changes
    refine (answers_configuredValue placedOld scope (clock turn) key).bind ?_
    refine (answers_configuredValue placedNew scope (clock (turn + 1)) key).bind ?_
    exact (ih (turn + 2)).bind (Recalling.answers_pure _)

theorem answers_diff {old new : Generation} (placedOld : old.cells.Placed owner)
    (placedNew : new.cells.Placed owner) (scope : Option String) (clock : Clock) :
    Answers owner (diff scope clock old new)
      (Snapshot.diff scope clock old.snapshot new.snapshot) :=
  answers_changes placedOld placedNew scope clock _ 0

end Generation
end LiveConfig
