import LiveConfig.Proofs.Client.Lookup
import LiveConfig.Proofs.Client.Reachable
import LiveConfig.Proofs.Coercion
import LiveConfig.Proofs.Confidentiality

/-! Membership in a segment and the feature of its name.

A criterion that asks about a segment evaluates it inside of the config that it guards, with one
config less to enter and without reading references; a caller who asks whether the segment is on
evaluates it alone and reads what it refers to. Where the row of the criterion adds no properties,
no reference of configs runs in a cycle or too deep and every distribution finds its identity, both
evaluate the segment to the same match if they see the same. So the segment has the caller as a
member exactly if it is on and its match is no indirect reference: what a reference stands for is
read from the environment, which an evaluation never sees. The two are separate reads, so where a
name is ambiguous among the contexts that are merged for each, they need not see the same. -/
namespace LiveConfig

open Relation (ReflTransGen)
open Drawing (Gives)

def Match.Indirect (m : Match) : Prop := ∃ r, m.value.value = .reference r

theorem Value.beq_true_iff (v : Value) : (v == .bool true) = true ↔ v.bool? = some true := by
  change Value.beq v (.bool true) = true ↔ v.bool? = some true
  cases v with
  | bool b => simp [Value.beq, Value.bool?]
  | _ => simp [Value.beq, Value.bool?]

theorem Match.result_reify_of_direct {m : Match} (direct : ¬ m.Indirect) (vars : Variables) :
    (m.reify vars).result = m.value := by
  unfold reify
  split
  · rename_i r refers
    exact absurd ⟨r, refers⟩ direct
  · rfl

/-- What a caller reads who asks whether a key is on, given what the key is evaluated to. -/
def readsTrue (vars : Variables) (r : Except EvaluationError Match) : Bool :=
  (r.toOption.bind fun m => (m.reify vars).result.value.bool?).getD false

/-- An outcome gives `true` exactly if `true` is read from it and not from elsewhere. -/
theorem givesTrue_iff (r : Except EvaluationError Match) (vars : Variables) :
    givesTrue r = true ↔
      readsTrue vars r = true ∧ ∀ m, r.toOption = some m → ¬ m.Indirect := by
  cases r with
  | error e => simp [givesTrue, readsTrue, Except.toOption]
  | ok m =>
    simp only [givesTrue, readsTrue, Except.toOption, Option.bind_some, Option.some.injEq,
      forall_eq', Value.beq_true_iff]
    by_cases indirect : m.Indirect
    · obtain ⟨r, value⟩ := indirect
      have elsewhere : m.Indirect := ⟨r, value⟩
      simp [elsewhere, value, Value.bool?]
    · rw [Match.result_reify_of_direct indirect]
      cases m.value.value.bool? with
      | none => simp
      | some b => simp [indirect]

namespace Snapshot

variable {s : Snapshot} {key segment : String} {context : LookupContext}

/-- A segment gives inside of a config that adds no properties what it gives alone, and neither is
cut short. -/
theorem result_segment (keyed : s.Keyed) (acyclic : s.Acyclic key) (shallow : s.Shallow key)
    (refers : s.Refers key segment) (chance : Chance) (now : Int64) (context : LookupContext) :
    let q := s.inquiry chance.selection now context
    Settled (s.tryEvaluate chance now context segment).outcome ∧
      q.result maxSegmentDepth (Scope.outermost.enter key) segment =
        (s.tryEvaluate chance now context segment).outcome := by
  intro q
  obtain ⟨n, depth⟩ : ∃ n, maxSegmentDepth = n + 1 := ⟨15, rfl⟩
  have bounded := acyclic.bounded shallow
  rw [depth] at bounded
  have shorter : s.Bounded n segment := bounded.refers refers
  have acyclicSegment := acyclic.refers refers
  have inside : q.Agrees (n + 1) (Scope.outermost.enter key) segment := by
    apply Inquiry.agrees_of_bounded keyed acyclicSegment shorter
    intro k entered
    rw [Scope.keys_enter] at entered
    cases List.mem_singleton.mp entered
    exact .single refers
  have alone : q.Agrees (n + 1 + 1) .outermost segment := by
    apply Inquiry.agrees_of_bounded keyed acyclicSegment
    · intro ks chain
      exact (shorter ks chain).trans (Nat.le_succ n)
    · intro k entered
      exact absurd entered List.not_mem_nil
  rw [outcome_tryEvaluate, depth]
  constructor
  · exact alone.settled
  · exact inside.plain.unique alone.plain

/-- What is drawn makes no difference to it. -/
theorem gives_segment (keyed : s.Keyed) (acyclic : s.Acyclic key) (shallow : s.Shallow key)
    (refers : s.Refers key segment) (identified : s.Identified key context) (sharder : Sharder)
    (draws : Draws) (now : Int64) :
    let outcome := (s.tryEvaluateDrawing sharder draws now context segment).outcome
    Settled outcome ∧ Gives ((s.inquiry (.resolve sharder draws) now context).resolve
      maxSegmentDepth (Scope.outermost.enter key) segment) outcome := by
  intro outcome
  let chance : Chance := ⟨sharder, draws 0⟩
  have drawn : outcome = (s.tryEvaluate chance now context segment).outcome :=
    congrArg Evaluation.outcome ((identified.refers refers).tryEvaluateDrawing_eq (.refl _) sharder
      draws (fun _ => draws 0) now)
  have near := (identified.refers refers).near sharder draws (fun _ => draws 0) now
  obtain ⟨settled, same⟩ := result_segment keyed acyclic shallow refers chance now context
  rw [drawn]
  refine ⟨settled, ?_⟩
  rw [← same, near.resolve_eq]
  exact Inquiry.gives_result (s.steady_resolving chance now context) _ _ _

/-- A criterion about a segment holds according to what the segment gives alone. -/
theorem gives_judge_segment (keyed : s.Keyed) (acyclic : s.Acyclic key)
    (shallow : s.Shallow key) (refers : s.Refers key segment)
    (identified : s.Identified key context) {c : Criterion} (named : c.segment? = some segment)
    (sharder : Sharder) (draws : Draws) (now : Int64) :
    let q := s.inquiry (.resolve sharder draws) now context
    Gives (q.judge (q.resolve maxSegmentDepth) (Scope.outermost.enter key) key c)
      (.ok (none, givesTrue (s.tryEvaluateDrawing sharder draws now context segment).outcome ==
        (c.operator == .inSegment))) := by
  intro q
  have asked := Criterion.isSegment_of_named named
  obtain ⟨settled, given⟩ :=
    gives_segment keyed acyclic shallow refers identified sharder draws now
  have fresh : (Scope.outermost.enter key).keys.contains segment = false := by
    rw [Scope.keys_enter, List.contains_eq_mem, decide_eq_false_iff_not]
    intro entered
    cases List.mem_singleton.mp entered
    exact acyclic key .refl (.single refers)
  have judged : Gives (q.judge (q.resolve maxSegmentDepth) (Scope.outermost.enter key) key c)
      ((fun holds => (c.seen (q.lookup? (Scope.outermost.enter key)), holds)) <$>
        q.rules
          (fun _ _ => verdict (s.tryEvaluateDrawing sharder draws now context segment).outcome)
          (Scope.outermost.enter key) c) := by
    apply Inquiry.gives_judge
    intro other asked _
    cases named.symm.trans asked
    exact given.mono fun r same => congrArg verdict same
  have unseen : c.seen (q.lookup? (Scope.outermost.enter key)) = none := by
    unfold Criterion.seen
    rw [asked, Bool.true_or, if_pos rfl]
  rw [unseen] at judged
  unfold Inquiry.rules Criterion.ruling asks at judged
  simp only [asked, if_true, named, fresh, Bool.false_eq_true, if_false, settled.verdict] at judged
  exact judged

end Snapshot

namespace ClientM

variable (w : World) (passed : Option ContextSet) (key : String) (ambient : Ambient) (c : Client)

/-- A read of one kind of value does what the read of the value does, and views what this gives. -/
theorem run_getAs {α : Type} (view : Value → Option α) :
    (((getAs view w passed key).run ambient).run c).result =
      ((((getValue w passed key).run ambient).run c).result.1.bind fun v => view v.value,
        (((getValue w passed key).run ambient).run c).result.2) := by
  unfold getAs
  rw [ReaderT.run_bind, StateT.run_bind, Logged.result_bind]
  obtain ⟨found, c'⟩ := (((getValue w passed key).run ambient).run c).result
  cases found with
  | none => rfl
  | some v =>
    simp only [Option.bind_some]
    cases view v.value with
    | none => rfl
    | some a => rfl

theorem result_getAs {α : Type} (view : Value → Option α) :
    (((getAs view w passed key).run ambient).run c).result.1 =
      (((getValue w passed key).run ambient).run c).result.1.bind fun v => view v.value :=
  congrArg Prod.fst (run_getAs w passed key ambient c view)

theorem result_featureIsOn : (((featureIsOn w passed key).run ambient).run c).result.1 =
    readsTrue w.vars (c.evaluation w ambient passed key).outcome := by
  have read := result_getAs w passed key ambient c Value.bool?
  rw [result_getValue, Option.bind_map] at read
  exact congrArg (Option.getD · false) read

end ClientM

namespace Client

theorem Reachable.keyed {c : Client} (reachable : c.Reachable) : c.snapshot.Keyed := by
  obtain ⟨config, us, _, snapshot⟩ := reachable.of_updates
  rw [snapshot]
  exact keyed_applyEach config us

/-- A criterion about a segment, in a row that adds no properties, and callers who ask whether the
segment is on and for its match. Where the configs that the criterion's config leads to ask in no
cycle and not too deep, every distribution finds an identity in what is looked up, and this is
clear, the criterion holds the caller for a member exactly if the segment is on and its match is not
held elsewhere, whatever is drawn and in whatever orders the contexts are listed. -/
theorem member_iff_on {c : Client} (reachable : c.Reachable) {ambient : Ambient}
    {passed : Option ContextSet} {key segment : String} {e : Element} {r : Nat × Row}
    {v : ConditionalValue} {criterion : Criterion} (held : c.snapshot.get? key = some e)
    (applicable : r ∈ e.config.applicableRows c.snapshot.environment) (inRow : v ∈ r.2.values)
    (guards : criterion ∈ v.criteria) (named : criterion.segment? = some segment)
    (bare : r.2.properties.isEmpty = true) (acyclic : c.snapshot.Acyclic key)
    (shallow : c.snapshot.Shallow key) (clear : c.Clear ambient passed) {w w' w'' : World}
    (identified : c.snapshot.Identified key (c.lookupFor w.listing ambient passed))
    (time : w.clock 0 = w'.clock 0) (time' : w.clock 0 = w''.clock 0) :
    let q := c.snapshot.inquiry (.resolve Murmur3.fraction (w.draws 0)) (w.clock 0)
      (c.lookupFor w.listing ambient passed)
    let on := (((ClientM.featureIsOn w' passed segment).run ambient).run c).result.1
    let found := (((ClientM.getMatch w'' passed segment).run ambient).run c).result.1
    ∃ member : Bool, (member = true ↔ on = true ∧ ∀ m, found = some m → ¬ m.Indirect) ∧
      Gives (q.judge (q.resolve maxSegmentDepth)
          ((Scope.outermost.enter e.key).within r.2.properties) e.key criterion)
        (.ok (none, if criterion.operator = .inSegment then member else !member)) := by
  intro q on found
  have refers := Snapshot.refers_of_criterion held applicable inRow guards named
  have judged := Snapshot.gives_judge_segment reachable.keyed acyclic shallow refers identified
    named Murmur3.fraction (w.draws 0) (w.clock 0)
  have scope : (Scope.outermost.enter e.key).within r.2.properties =
      Scope.outermost.enter e.key := if_pos bare
  refine ⟨givesTrue (c.evaluation w ambient passed segment).outcome, ?_, ?_⟩
  · have asked : on = readsTrue w'.vars (c.evaluation w' ambient passed segment).outcome :=
      ClientM.result_featureIsOn w' passed segment ambient c
    have matched : found = (c.evaluation w'' ambient passed segment).outcome.toOption :=
      congrArg Prod.fst (ClientM.result_getMatch w'' passed segment ambient c)
    have inside := identified.refers refers
    rw [asked, matched, ← clear.evaluation_eq inside time, ← clear.evaluation_eq inside time']
    exact givesTrue_iff _ w'.vars
  · have settles (member : Bool) : (if criterion.operator = .inSegment then member else !member) =
        (member == (criterion.operator == .inSegment)) := by
      by_cases inside : criterion.operator = .inSegment
      · rw [if_pos inside, inside]
        cases member <;> rfl
      · rw [if_neg inside, beq_eq_false_iff_ne.mpr inside]
        cases member <;> rfl
    rw [scope, reachable.keyed key e held, settles]
    exact judged

def aboutBeta (o : Operator) : Criterion := ⟨"", o, some (Value.string "beta").plain⟩

/-- A flag that says whether the caller is in the segment. -/
def betaFlag : Element :=
  let row : Row := ⟨none, .empty, [⟨[aboutBeta .inSegment], (Value.string "in").plain⟩,
    ⟨[aboutBeta .notInSegment], (Value.string "out").plain⟩]⟩
  ⟨⟨"flag", 1, .featureFlag, none, [row], []⟩, ⟨.bundledDefault, none⟩⟩

def withBeta (values : List ConditionalValue) (type : Option ValueType) : Client :=
  let beta : Config := ⟨"beta", 2, .segment, type, [⟨none, .empty, values⟩], []⟩
  start ⟨none, .empty, [betaFlag, ⟨beta, ⟨.bundledDefault, none⟩⟩], [], defaultTimeoutMillis, false,
    fun _ => .asMerged⟩

/-- The flag of a client asks about the segment, in a row that adds no properties and without a
cycle, and every distribution finds an identity in what is looked up. -/
structure AsksBeta (c : Client) (l : Listing) (passed : Option ContextSet) : Prop where
  reachable : c.Reachable
  held : c.snapshot.get? "flag" = some betaFlag
  bare : ∀ r ∈ betaFlag.config.applicableRows c.snapshot.environment, r.2.properties.isEmpty = true
  asked : ∀ o ∈ [Operator.inSegment, .notInSegment],
    ∃ r ∈ betaFlag.config.applicableRows c.snapshot.environment, ∃ v ∈ r.2.values,
      aboutBeta o ∈ v.criteria ∧ (aboutBeta o).segment? = some "beta"
  acyclic : c.snapshot.Acyclic "flag"
  shallow : c.snapshot.Shallow "flag"
  identified : c.snapshot.Identified "flag" (c.lookupFor l none passed)

theorem asksBeta_withBeta {values : List ConditionalValue} {type : Option ValueType} {l : Listing}
    {passed : Option ContextSet}
    (alone : (withBeta values type).snapshot.references "beta" = [])
    (identified : (withBeta values type).snapshot.Identified "flag"
      ((withBeta values type).lookupFor l none passed)) :
    (withBeta values type).AsksBeta l passed := by
  have keys : (withBeta values type).snapshot.elements.keys = ["flag", "beta"] := rfl
  have flag : (withBeta values type).snapshot.references "flag" = ["beta", "beta"] := rfl
  obtain ⟨acyclic, shallow⟩ : (withBeta values type).snapshot.Acyclic "flag" ∧
      (withBeta values type).snapshot.Shallow "flag" := by
    apply Snapshot.acyclic_and_shallow_of_rank fun k => if k = "flag" then 1 else 0
    · simp [keys, flag, alone]
    · decide
  refine ⟨.start _, rfl, ?_, ?_, acyclic, shallow, identified⟩
  · intro r applicable
    obtain rfl := List.mem_singleton.mp applicable
    rfl
  · intro o asks
    simp only [List.mem_cons, List.not_mem_nil, or_false] at asks
    rcases asks with rfl | rfl
    · exact ⟨_, List.mem_cons_self, _, List.mem_cons_self, List.mem_cons_self, rfl⟩
    · exact ⟨_, List.mem_cons_self, _, List.mem_cons_of_mem _ List.mem_cons_self,
        List.mem_cons_self, rfl⟩

/-- The segment of beta users is split by user, and the user is in it: the flag holds them for a
member, whatever is drawn. -/
theorem split_member_iff_on :
    let split : Value := .weighted ⟨[⟨1, (Value.bool false).plain⟩, ⟨1, (Value.bool true).plain⟩],
      some "user.key"⟩
    let c := withBeta [.always split.plain] none
    let w (draws : Draws) : World := { still .reversed with draws := fun _ => draws }
    let w' := still .asMerged
    let passed := ContextSet.ofList [⟨"user", .ofList [("key", (Value.string "u1").plain)]⟩]
    (((ClientM.featureIsOn w' passed "beta").run none).run c).result.1 = true ∧ ∀ draws,
      let q := c.snapshot.inquiry (.resolve Murmur3.fraction draws) 0
        (c.lookupFor (w draws).listing none passed)
      Gives (q.judge (q.resolve maxSegmentDepth) (Scope.outermost.enter "flag") "flag"
        (aboutBeta .inSegment)) (.ok (none, true)) ∧
      Gives (q.judge (q.resolve maxSegmentDepth) (Scope.outermost.enter "flag") "flag"
        (aboutBeta .notInSegment)) (.ok (none, false)) := by
  intro split c w w' passed
  have on : (((ClientM.featureIsOn w' passed "beta").run none).run c).result.1 = true := by
    decide +kernel
  have read : (((ClientM.getMatch w' passed "beta").run none).run c).result.1.map
      (·.value.value.bool?) = some (some true) := by decide +kernel
  have direct : ∀ m, (((ClientM.getMatch w' passed "beta").run none).run c).result.1 = some m →
      ¬ m.Indirect := by
    rintro m found ⟨r, value⟩
    rw [found, Option.map_some, value] at read
    cases read
  have clear : c.Clear none passed :=
    .inr (LookupContext.unambiguous_of_nodup (by decide +kernel))
  have posed : c.AsksBeta .reversed passed :=
    asksBeta_withBeta rfl (Snapshot.identified_of_entries (by decide +kernel))
  have time (draws : Draws) : (w draws).clock 0 = w'.clock 0 := rfl
  refine ⟨on, fun draws => ⟨?_, ?_⟩⟩
  · obtain ⟨member, agrees, judged⟩ := member_iff_on posed.reachable (w := w draws) posed.held
      List.mem_cons_self List.mem_cons_self List.mem_cons_self rfl rfl posed.acyclic posed.shallow
      clear posed.identified (time draws) (time draws)
    rw [agrees.mpr ⟨on, direct⟩] at judged
    exact judged
  · obtain ⟨member, agrees, judged⟩ := member_iff_on posed.reachable (w := w draws) posed.held
      List.mem_cons_self (List.mem_cons_of_mem _ List.mem_cons_self) List.mem_cons_self rfl rfl
      posed.acyclic posed.shallow clear posed.identified (time draws) (time draws)
    rw [agrees.mpr ⟨on, direct⟩] at judged
    exact judged

/-- What the flag's criteria come to where the segment gives no `true`. -/
theorem AsksBeta.judged {c : Client} {l : Listing} {passed : Option ContextSet}
    (posed : c.AsksBeta l passed) {draws : Draws}
    (given : givesTrue (c.snapshot.tryEvaluateDrawing Murmur3.fraction draws 0
      (c.lookupFor l none passed) "beta").outcome = false) :
    let q := c.snapshot.inquiry (.resolve Murmur3.fraction draws) 0 (c.lookupFor l none passed)
    Gives (q.judge (q.resolve maxSegmentDepth) (Scope.outermost.enter "flag") "flag"
      (aboutBeta .inSegment)) (.ok (none, false)) ∧
    Gives (q.judge (q.resolve maxSegmentDepth) (Scope.outermost.enter "flag") "flag"
      (aboutBeta .notInSegment)) (.ok (none, true)) := by
  have refers : c.snapshot.Refers "flag" "beta" := by
    obtain ⟨r, applicable, v, inRow, guards, named⟩ := posed.asked _ List.mem_cons_self
    exact Snapshot.refers_of_criterion posed.held applicable inRow guards named
  have judged (o : Operator) (named : (aboutBeta o).segment? = some "beta") :=
    Snapshot.gives_judge_segment posed.reachable.keyed posed.acyclic posed.shallow refers
      posed.identified named Murmur3.fraction draws 0
  simp only [given] at judged
  exact ⟨judged .inSegment rfl, judged .notInSegment rfl⟩

/-- A caller finds the segment on whom the flag, in a read of its own, holds for no member. -/
def OnWithoutMember (c : Client) (w w' : World) (passed : Option ContextSet) : Prop :=
  let q := c.snapshot.inquiry (.resolve Murmur3.fraction (w.draws 0)) 0
    (c.lookupFor w.listing none passed)
  c.AsksBeta w.listing passed ∧
  (((ClientM.featureIsOn w' passed "beta").run none).run c).result.1 = true ∧
  Gives (q.judge (q.resolve maxSegmentDepth) (Scope.outermost.enter "flag") "flag"
    (aboutBeta .inSegment)) (.ok (none, false)) ∧
  Gives (q.judge (q.resolve maxSegmentDepth) (Scope.outermost.enter "flag") "flag"
    (aboutBeta .notInSegment)) (.ok (none, true))

def betaByVariable : Client :=
  withBeta [.always (Value.reference ⟨.environment, "BETA"⟩).plain] (some .bool)

/-- A segment that is read from the environment as `true` is on and has no members. -/
theorem betaByVariable_onWithoutMember :
    let w : World := { still .asMerged with
      vars := fun name => if name = "BETA" then some "true" else none }
    betaByVariable.OnWithoutMember w w none := by
  intro w
  obtain ⟨m, matched, value, type⟩ : ∃ m,
      (betaByVariable.evaluation w none none "beta").outcome = .ok m ∧
        m.value.value = .reference ⟨.environment, "BETA"⟩ ∧
        m.element.config.valueType = some .bool := ⟨_, rfl, rfl, rfl⟩
  have posed : betaByVariable.AsksBeta w.listing none :=
    asksBeta_withBeta rfl (Snapshot.identified_of_entries (by decide +kernel))
  refine ⟨posed, ?_, posed.judged ?_⟩
  · have set : w.vars "BETA" = some "true" := rfl
    have read : coerce? "true" .bool = some (.bool true) := coerce?_bool (.refl _)
    rw [ClientM.result_featureIsOn, readsTrue, matched]
    simp only [Except.toOption, Option.bind_some, Match.reify, value, Reference.read, set,
      type, read]
    rfl
  · change givesTrue (betaByVariable.evaluation w none none "beta").outcome = false
    rw [matched, givesTrue, value]
    rfl

def betaByCity : Client :=
  withBeta [⟨[romans], (Value.bool true).plain⟩, .always (Value.bool false).plain] none

/-- Where two contexts meet at their city, the segment may be on in one read and not in another. -/
theorem betaByCity_onWithoutMember :
    betaByCity.OnWithoutMember (still .reversed) (still .asMerged) twoCities := by
  have posed : betaByCity.AsksBeta .reversed twoCities :=
    asksBeta_withBeta rfl (Snapshot.identified_of_entries (by decide +kernel))
  exact ⟨posed, by decide +kernel, posed.judged (by decide +kernel)⟩

/-- So a segment can be on without the caller being a member, for each of the two reasons: its match
is a reference, or contexts under their own names meet and its match is none. -/
theorem on_without_member :
    (∃ w, betaByVariable.OnWithoutMember w w none) ∧
    twoCities.Named ∧ betaByCity.OnWithoutMember (still .reversed) (still .asMerged) twoCities ∧
    (((ClientM.getMatch (still .asMerged) twoCities "beta").run none).run betaByCity).result.1.map
      (·.value.value.bool?) = some (some true) :=
  ⟨⟨_, betaByVariable_onWithoutMember⟩, ContextSet.named_ofList _, betaByCity_onWithoutMember,
    by decide +kernel⟩

end Client
end LiveConfig
