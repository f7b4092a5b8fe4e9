import LiveConfig.Proofs.Client.Membership
import LiveConfig.Proofs.Client.Session
import LiveConfig.Proofs.Context.Flattening

/-! The ways in which contexts come to a read.

Contexts are passed to a read, held by the innermost scope, or shared by the reads that bring none.
Whichever way they come, what counts is the merged set: passing contexts inside of a scope is
passing the scope's contexts with these laid over them, and bringing none is passing the empty set,
whatever updates came before. A scope that was left has no part in later reads. This is so for every
kind of read, with what it logs and reports, and also for a thread that keeps its scopes in a slot
and the shared contexts in a cell. Since each read merges its contexts anew, no name may be
ambiguous among them. -/
namespace LiveConfig

namespace ContextSet

/-- The contexts that are passed, and under all other names those of a set. -/
def IsOverlay (joined s : ContextSet) (passed : Option ContextSet) : Prop :=
  ∀ name, joined.get? name = (passed.bind (·.get? name)).or (s.get? name)

theorem IsOverlay.named {joined s : ContextSet} {passed : Option ContextSet}
    (overlay : joined.IsOverlay s passed) (named : s.Named)
    (namedPassed : ∀ p, passed = some p → p.Named) : joined.Named := by
  intro name context held
  rw [overlay name, Option.or_eq_some_iff] at held
  rcases held with first | ⟨_, second⟩
  · obtain ⟨p, bound, found⟩ := Option.bind_eq_some_iff.mp first
    exact namedPassed p bound name context found
  · exact named name context second

/-- Laying them over the set in place is one way. -/
theorem isOverlay_overlay (s : ContextSet) {passed : Option ContextSet}
    (namedPassed : ∀ p, passed = some p → p.Named) :
    (s.overlay (sourceContexts passed)).IsOverlay s passed := by
  intro name
  have named : (passed.getD .empty).Named := by
    cases passed with
    | none => exact named_empty
    | some p => exact namedPassed p rfl
  rw [ContextSources.sourceContexts_eq, get?_overlay s named, ContextSources.get?_getD]

end ContextSet

theorem Snapshot.evaluate_congr {s : Snapshot} {key : String} {sharder : Sharder}
    {draws draws' : Draws} {now now' : Int64} {context context' : LookupContext}
    (same : s.tryEvaluateDrawing sharder draws now context key =
      s.tryEvaluateDrawing sharder draws' now' context' key) :
    s.evaluate sharder draws now context key = s.evaluate sharder draws' now' context' key := by
  unfold evaluate
  rw [same]

namespace ClientM

variable {α : Type} {key : String} {w w' : World} {passed passed' : Option ContextSet}
variable {ambient ambient' : Ambient} {c : Client}

/-- The reads of a key for which contexts may be passed. Those of one kind of value are `getAs` at
its view. -/
inductive Read (key : String) : {α : Type} → (World → Option ContextSet → ClientM α) → Prop
  | getMatch : Read key fun w passed => getMatch w passed key
  | resolve (tracked : Bool) : Read key fun w passed => resolve tracked w passed key
  | getAs {α : Type} (view : Value → Option α) : Read key fun w passed => getAs view w passed key
  | featureIsOn : Read key fun w passed => featureIsOn w passed key

variable {read : World → Option ContextSet → ClientM α}

/-- An action that does not ask for ambient contexts, and for its result not for the client. -/
structure Blind (act : ClientM α) : Prop where
  unscoped : ∀ ambient ambient' : Ambient, act.run ambient = act.run ambient'
  result : ∀ ambient c c', ((act.run ambient).run c).result.1 = ((act.run ambient).run c').result.1

theorem Blind.bind {β : Type} {x : ClientM α} {f : α → ClientM β} (first : x.Blind)
    (second : ∀ a, (f a).Blind) : (x >>= f).Blind := by
  constructor
  · intro ambient ambient'
    rw [ReaderT.run_bind, ReaderT.run_bind, first.unscoped ambient ambient']
    exact congrArg _ (funext fun a => (second a).unscoped ambient ambient')
  · intro ambient c c'
    rw [ReaderT.run_bind, StateT.run_bind, StateT.run_bind, Logged.result_bind, Logged.result_bind,
      first.result ambient c c']
    exact (second _).result ambient _ _

theorem blind_pure (a : α) : Blind (pure a) := ⟨fun _ _ => rfl, fun _ _ _ => rfl⟩

/-- A read that finds a match, after which it asks for nothing but environment variables. -/
def AfterMatch (key : String) (read : World → Option ContextSet → ClientM α) : Prop :=
  ∃ next : Variables → Option Match → ClientM α, (∀ vars found, (next vars found).Blind) ∧
    ∀ w passed, read w passed = getMatch w passed key >>= next w.vars

theorem AfterMatch.bind {β : Type} (after : AfterMatch key read) {f : α → ClientM β}
    (blind : ∀ a, (f a).Blind) : AfterMatch key fun w passed => read w passed >>= f := by
  obtain ⟨next, blindNext, same⟩ := after
  refine ⟨fun vars found => next vars found >>= f, ?_, ?_⟩
  · exact fun vars found => (blindNext vars found).bind blind
  · intro w passed
    simp only [same, bind_assoc]

theorem afterMatch_resolve (tracked : Bool) :
    AfterMatch key fun w passed => resolve tracked w passed key := by
  let read (vars : Variables) (m : Match) : ClientM (Option ConfigValue) := do
    if tracked then report m
    let v ← m.reify vars
    return some v
  refine ⟨fun vars found => found.elim (return none) (read vars), ?_, ?_⟩
  · intro vars found
    cases found with
    | none => exact blind_pure none
    | some m => cases tracked <;> exact ⟨fun _ _ => rfl, fun _ _ _ => rfl⟩
  · intro w passed
    refine congrArg (getMatch w passed key >>= ·) (funext fun found => ?_)
    cases found with
    | none => rfl
    | some m => rfl

theorem afterMatch_getAs (view : Value → Option α) :
    AfterMatch key fun w passed => getAs view w passed key := by
  refine AfterMatch.bind (afterMatch_resolve true) fun v => ?_
  cases v with
  | none => exact blind_pure none
  | some v =>
    simp only
    cases view v.value <;> exact ⟨fun _ _ => rfl, fun _ _ _ => rfl⟩

theorem Read.afterMatch (reads : Read key read) : AfterMatch key read := by
  cases reads with
  | getMatch => exact ⟨fun _ m => pure m, fun _ _ => blind_pure _, fun _ _ => (bind_pure _).symm⟩
  | resolve tracked => exact afterMatch_resolve tracked
  | getAs view => exact afterMatch_getAs view
  | featureIsOn => exact (afterMatch_getAs Value.bool?).bind fun _ => blind_pure _

/-- Reads that evaluate alike do all else alike. -/
theorem Read.run_congr (reads : Read key read) (vars : w.vars = w'.vars)
    (same : c.evaluation w ambient passed key = c.evaluation w' ambient' passed' key) :
    ((read w passed).run ambient).run c = ((read w' passed').run ambient').run c := by
  obtain ⟨next, blind, after⟩ := reads.afterMatch
  have later (found : Option Match) : (next w.vars found).run ambient =
      (next w'.vars found).run ambient' := by
    rw [vars, (blind _ found).unscoped ambient ambient']
  rw [after, after, ReaderT.run_bind, ReaderT.run_bind, StateT.run_bind, StateT.run_bind,
    run_getMatch, run_getMatch, Snapshot.evaluate_congr same]
  simp only [later]

/-- What a read gives is a matter of the published snapshot and of what it looks up in. -/
theorem Read.result_congr {c' : Client} (reads : Read key read) (vars : w.vars = w'.vars)
    (same : (c.evaluation w ambient passed key).outcome =
      (c'.evaluation w' ambient' passed' key).outcome) :
    (((read w passed).run ambient).run c).result.1 =
      (((read w' passed').run ambient').run c').result.1 := by
  obtain ⟨next, blind, after⟩ := reads.afterMatch
  unfold Client.evaluation at same
  rw [after, after, ReaderT.run_bind, ReaderT.run_bind, StateT.run_bind, StateT.run_bind,
    Logged.result_bind, Logged.result_bind, result_getMatch, result_getMatch, same, vars,
    (blind _ _).unscoped ambient ambient']
  exact (blind _ _).result ambient' c c'

end ClientM

/-- Runs an action in scopes inside of each other, the first one outermost. -/
def Ambient.nested {α : Type} (scopes : List ContextSet) (act : ClientM α) : ClientM α :=
  scopes.foldr within act

/-- Only the innermost scope is seen. -/
theorem Ambient.run_nested {α : Type} (outer : List ContextSet) (contexts : ContextSet)
    (act : ClientM α) (ambient : Ambient) :
    (nested (outer ++ [contexts]) act).run ambient = act.run (some contexts) := by
  induction outer generalizing ambient with
  | nil => rfl
  | cons first outer ih => exact ih (some first)

namespace Client

variable {c : Client} {contexts joined : ContextSet} {passed : Option ContextSet}

/-- The client's and the server's contexts are held under their own names. -/
structure Named (c : Client) : Prop where
  global : c.globalContext.Named
  defaults : c.snapshot.defaultContext.Named

/-- An update keeps this up if the server's contexts are. -/
theorem Named.apply (named : c.Named) {clock : Clock} {u : Update}
    (defaults : ∀ set, u.defaultContext = some set → set.Named) :
    (c.apply clock u).result.2.Named := by
  constructor
  · have unchanged : (c.apply clock u).result.2.globalContext = c.globalContext := by
      unfold Client.apply
      simp only [Logged.result_bind, Logged.result_pure]
      obtain ⟨_, _, same⟩ := dispatch_frame _ _
      rw [same]
      rfl
    rw [unchanged]
    exact named.global
  · rw [snapshot_apply]
    change (u.defaultContext.getD c.snapshot.defaultContext).Named
    cases sent : u.defaultContext with
    | none => exact named.defaults
    | some set => exact defaults set sent

/-- The contexts that bear on a read in a scope. -/
def sourcesFor (c : Client) (ambient passed : Option ContextSet) : ContextSources :=
  ⟨some c.globalContext, some c.snapshot.defaultContext, ambient, passed⟩

theorem Named.present (named : c.Named) {ambient : Option ContextSet}
    (own : ∀ set, ambient = some set → set.Named)
    (ownPassed : ∀ set, passed = some set → set.Named) :
    ∀ set ∈ (c.sourcesFor ambient passed).present, set.Named := by
  intro set listed
  simp only [ContextSources.present, List.mem_filterMap, List.mem_cons, List.not_mem_nil, or_false,
    id] at listed
  obtain ⟨source, is | is | is | is, held⟩ := listed
  · exact ownPassed set (is.symm.trans held)
  · exact own set (is.symm.trans held)
  · cases is.symm.trans held
    exact named.global
  · cases is.symm.trans held
    exact named.defaults

/-- However contexts are joined, the merged ones are the same but for their order. -/
theorem reordered_of_isOverlay (named : c.Named) (own : contexts.Named)
    (ownPassed : ∀ p, passed = some p → p.Named) (overlay : joined.IsOverlay contexts passed) :
    (c.mergedFor (some contexts) passed).Reordered (c.mergedFor none (some joined)) := by
  have inside : ∀ set ∈ (c.sourcesFor (some contexts) passed).present, set.Named := by
    refine named.present ?_ ownPassed
    rintro _ ⟨⟩
    exact own
  have outside : ∀ set ∈ (c.sourcesFor none (some joined)).present, set.Named := by
    refine named.present nofun ?_
    rintro _ ⟨⟩
    exact overlay.named own ownPassed
  have base (name : String) : (c.sourcesFor (some contexts) passed).base? name =
      (c.sourcesFor none (some joined)).base? name := by
    change (passed.bind (·.get? name)).or ((contexts.get? name).or (c.globalContext.get? name)) =
      (joined.get? name).or (Option.or none (c.globalContext.get? name))
    rw [overlay name, Option.none_or, Option.or_assoc]
  refine LookupContext.reordered_of_alike ?_ fun name => ?_
  · rfl
  change (c.sourcesFor (some contexts) passed).merge.get? name =
    (c.sourcesFor none (some joined)).merge.get? name
  rw [ContextSources.get?_merge inside, ContextSources.get?_merge outside, base]
  rfl

section Paths

variable {w w' : World} {key : String} {α : Type} {read : World → Option ContextSet → ClientM α}

/-- A read in scopes is the read outside of them to which the joined contexts are passed. -/
theorem read_nested (named : c.Named) (time : w.clock 0 = w'.clock 0) (vars : w.vars = w'.vars)
    (reads : ClientM.Read key read) (own : contexts.Named)
    (ownPassed : ∀ p, passed = some p → p.Named) (clear : c.Clear (some contexts) passed)
    (identified : c.snapshot.Identified key (c.lookupFor w.listing (some contexts) passed))
    (overlay : joined.IsOverlay contexts passed) (outer : List ContextSet) (ambient : Ambient) :
    ((Ambient.nested (outer ++ [contexts]) (read w passed)).run ambient).run c =
      ((read w' (some joined)).run none).run c := by
  have unambiguous : (c.mergedFor (some contexts) passed).Unambiguous :=
    clear.resolve_left (by simp)
  have joins := reordered_of_isOverlay named own ownPassed overlay
  rw [Ambient.run_nested]
  apply reads.run_congr vars
  exact evaluation_of_alike identified (unambiguous.alike_listed joins w.listing w'.listing) time

/-- A read without contexts is the read to which the empty set is passed. -/
theorem read_empty (shares : c.Shares) (time : w.clock 0 = w'.clock 0) (vars : w.vars = w'.vars)
    (reads : ClientM.Read key read) (clear : c.Clear none (some .empty))
    (identified : c.snapshot.Identified key (c.lookupFor w.listing none none)) :
    ((read w none).run none).run c = ((read w' (some .empty)).run none).run c := by
  have unambiguous : (c.mergedFor none (some .empty)).Unambiguous :=
    clear.resolve_left (by simp)
  have shared : c.lookupFor w.listing none none =
      (c.mergedFor none (some .empty)).listed (c.listings c.store.revision) := shares
  apply reads.run_congr vars
  apply evaluation_of_alike identified _ time
  rw [shared]
  exact (LookupContext.listed_alike_iff _).mpr unambiguous _ _

/-- A read after a scope is a read of what the scope leaves behind, in the contexts before it. -/
theorem read_after_scope {β : Type} {body : ClientM β} {left : Client}
    (leaves : body.after (some contexts) c = left) (time : w.clock 0 = w'.clock 0)
    (vars : w.vars = w'.vars) (reads : ClientM.Read key read) {ambient : Ambient}
    (clear : left.Clear ambient passed)
    (identified : left.snapshot.Identified key (left.lookupFor w.listing ambient passed)) :
    (((do let _ ← Ambient.within contexts body; read w passed : ClientM α).run ambient).run
      c).result = (((read w' passed).run ambient).run left).result := by
  change (((read w passed).run ambient).run (body.after (some contexts) c)).result = _
  rw [leaves]
  exact congrArg Logged.result (reads.run_congr vars (clear.evaluation_eq identified time))

/-- Where the scope only kept the client, the read gives what it gave before. -/
theorem read_of_kept {β : Type} {body : ClientM β} {left : Client}
    (leaves : body.after (some contexts) c = left) (kept : body.Keeps)
    (reads : ClientM.Read key read) (ambient : Ambient) :
    (((read w passed).run ambient).run left).result.1 =
      (((read w passed).run ambient).run c).result.1 := by
  obtain ⟨listeners, deliveries, reports, same⟩ := kept (some contexts) c
  rw [← leaves, same]
  exact reads.result_congr rfl rfl

/-- All ways in which contexts come to a read of a client agree, where no name is ambiguous among
the contexts that are merged for it. In scopes, it is the read outside of them to which the
innermost contexts are passed with the passed ones laid over them. Without contexts it is the read
to which the empty set is passed. After a scope it is a read of what the scope left in the contexts
before the scope, so it gives what it gave before unless there was an update; this takes no more
where the read shares its contexts. And a thread that puts its scopes into a slot and keeps shared
contexts in a cell finds what a client finds, with the slot as before and nothing stale in the
cell. -/
theorem paths_agree (reachable : c.Reachable) (named : c.Named) (time : w.clock 0 = w'.clock 0)
    (vars : w.vars = w'.vars) (reads : ClientM.Read key read) :
    (∀ (outer : List ContextSet) (contexts joined : ContextSet) (passed : Option ContextSet)
        (ambient : Ambient), contexts.Named → (∀ p, passed = some p → p.Named) →
      c.Clear (some contexts) passed →
      c.snapshot.Identified key (c.lookupFor w.listing (some contexts) passed) →
      joined.IsOverlay contexts passed →
      ((Ambient.nested (outer ++ [contexts]) (read w passed)).run ambient).run c =
        ((read w' (some joined)).run none).run c) ∧
    (c.Clear none (some .empty) →
      c.snapshot.Identified key (c.lookupFor w.listing none none) →
      ((read w none).run none).run c = ((read w' (some .empty)).run none).run c) ∧
    (∀ {β : Type} (contexts : ContextSet) (body : ClientM β) (passed : Option ContextSet)
        (ambient : Ambient) (left : Client), body.after (some contexts) c = left →
      left.Clear ambient passed →
      left.snapshot.Identified key (left.lookupFor w.listing ambient passed) →
      (((do let _ ← Ambient.within contexts body; read w passed : ClientM α).run ambient).run
          c).result = (((read w' passed).run ambient).run left).result ∧
        (body.Keeps → (((read w' passed).run ambient).run left).result.1 =
          (((read w' passed).run ambient).run c).result.1)) ∧
    (∀ (session : Session) (slot : Ambient) (cell : Option LookupContext),
      (∀ shared, cell = some shared → shared = c.base) →
      ∃ cell', session.play ⟨slot, cell, c⟩ = (do
          let (found, c') ← (session.act.run slot).run c
          return (found, ⟨slot, cell', c'⟩)) ∧
        ∀ shared, cell' = some shared → shared = (session.act.after slot c).base) := by
  refine ⟨?_, ?_, ?_, ?_⟩
  · intro outer contexts joined passed ambient own ownPassed clear identified overlay
    exact read_nested named time vars reads own ownPassed clear identified overlay outer ambient
  · exact read_empty reachable.shares time vars reads
  · intro β contexts body passed ambient left leaves clear identified
    exact ⟨read_after_scope leaves time vars reads clear identified,
      fun kept => read_of_kept leaves kept reads ambient⟩
  · intro session slot cell fresh
    obtain ⟨cell', played, kept⟩ := session.play_eq (t := ⟨slot, cell, c⟩) ⟨reachable.shares, fresh⟩
    exact ⟨cell', played, kept.cell⟩

end Paths

/-- A flag that splits professional users by their keys. -/
def professionals : ClientConfig :=
  let professional : Criterion := ⟨"user.plan", .isOneOf, some (Value.stringList ["pro"]).plain⟩
  let split : Value := .weighted
    ⟨[⟨1, (Value.string "a").plain⟩, ⟨1, (Value.string "b").plain⟩], some "user.key"⟩
  let flag : Config := ⟨"flag", 1, .featureFlag, none,
    [⟨none, .empty, [⟨[professional], split.plain⟩, .always (Value.string "c").plain]⟩], []⟩
  ⟨none, .empty, [⟨flag, ⟨.bundledDefault, none⟩⟩], [], defaultTimeoutMillis, false,
    fun _ => .asMerged⟩

/-- A client to which the server has sent a professional user as the default. -/
def withDefaults : Client :=
  let user : Context :=
    ⟨"user", .ofList [("plan", (Value.string "pro").plain), ("key", (Value.string "u0").plain)]⟩
  (ClientM.apply (fun _ => 0) ⟨[], none, some (.ofList [user])⟩).after none (start professionals)

/-- The default contexts of an update count for the next read, with and without contexts of its
own. -/
theorem withDefaults_paths :
    let user (key : String) : Context := ⟨"user", .ofList [("key", (Value.string key).plain)]⟩
    let w := still .asMerged
    let w' : World := { still .reversed with draws := fun _ _ => .infinity false }
    let read (w : World) (passed : Option ContextSet) := ClientM.getMatch w passed "flag"
    let request : ContextSet := .ofList [⟨"request", .empty⟩]
    (((read w none).run none).run withDefaults).result.1.map (·.valueIndex) = some 0 ∧
    ((read w none).run none).run withDefaults =
      ((read w' (some .empty)).run none).run withDefaults ∧
    ((Ambient.nested [.ofList [user "u1"], .ofList [user "u2"]] (read w (some request))).run
        none).run withDefaults =
      ((read w' (some (.ofList [user "u2", ⟨"request", .empty⟩]))).run none).run withDefaults := by
  intro user w w' read request
  have reachable : withDefaults.Reachable := .step none (.start _) (.apply _ _)
  have named : withDefaults.Named := by
    have before : (start professionals).Named := ⟨ContextSet.named_empty, ContextSet.named_empty⟩
    apply before.apply
    rintro _ ⟨⟩
    exact ContextSet.named_ofList _
  have identified : withDefaults.snapshot.Identified "flag"
      (withDefaults.lookupFor w.listing none none) :=
    Snapshot.identified_of_entries (by decide +kernel)
  have identified' : withDefaults.snapshot.Identified "flag"
      (withDefaults.lookupFor w.listing (some (.ofList [user "u2"])) (some request)) :=
    Snapshot.identified_of_entries (by decide +kernel)
  have clear : withDefaults.Clear none (some .empty) :=
    .inr (LookupContext.unambiguous_of_nodup (by decide +kernel))
  have clear' : withDefaults.Clear (some (.ofList [user "u2"])) (some request) :=
    .inr (LookupContext.unambiguous_of_nodup (by decide +kernel))
  have own : ∀ p, some request = some p → p.Named := by
    rintro _ ⟨⟩
    exact ContextSet.named_ofList _
  have time : w.clock 0 = w'.clock 0 := rfl
  have vars : w.vars = w'.vars := rfl
  have reads : ClientM.Read "flag" read := .getMatch
  obtain ⟨scopes, empty, _⟩ := paths_agree reachable named time vars reads
  exact ⟨by decide +kernel, empty clear identified, scopes [.ofList [user "u1"]] _ _ _ none
    (ContextSet.named_ofList _) own clear' identified' (ContextSet.isOverlay_overlay _ own)⟩

/-- A client with a flag that tells Romans from others. -/
def byCity (global : ContextSet) (reporting : Bool) : Client :=
  let flag : Config := ⟨"flag", 1, .featureFlag, none, [⟨none, .empty,
    [⟨[romans], (Value.string "Roman").plain⟩, .always (Value.string "other").plain]⟩], []⟩
  start ⟨none, global, [⟨flag, ⟨.bundledDefault, none⟩⟩], [], defaultTimeoutMillis, reporting,
    fun _ => .asMerged⟩

/-- Where two contexts meet at the city, no two ways agree: a read in a scope and one to which the
joined contexts are passed, a read without contexts and one to which the empty set is passed, and a
read before a scope and the same read after it. -/
theorem paths_disagree :
    let user : ContextSet :=
      .ofList [⟨"user", .ofList [("home.city", (Value.string "Oslo").plain)]⟩]
    let home : ContextSet :=
      .ofList [⟨"user.home", .ofList [("city", (Value.string "Rome").plain)]⟩]
    let read (l : Listing) (passed : Option ContextSet) := ClientM.getMatch (still l) passed "flag"
    let selects (act : ClientM (Option Match)) (c : Client) :=
      ((act.run none).run c).result.1.map (·.valueIndex)
    (∀ global ∈ [.empty, twoCities],
      (byCity global false).Reachable ∧ (byCity global false).Named) ∧
    (∀ set ∈ [user, home, twoCities], set.Named) ∧
    (selects (Ambient.nested [user] (read .asMerged (some home))) (byCity .empty false) = some 0 ∧
      selects (read .reversed (some (user.overlay home.toList))) (byCity .empty false) = some 1) ∧
    (selects (read .asMerged none) (byCity twoCities false) = some 0 ∧
      selects (read .reversed (some .empty)) (byCity twoCities false) = some 1) ∧
    (selects (read .asMerged (some twoCities)) (byCity .empty false) = some 0 ∧
      selects (do let _ ← Ambient.within user (pure ()); read .reversed (some twoCities))
        (byCity .empty false) = some 1) := by
  intro user home read selects
  refine ⟨?_, ?_, by decide +kernel, by decide +kernel, by decide +kernel⟩
  · intro global listed
    refine ⟨.start _, ?_, ContextSet.named_empty⟩
    simp only [List.mem_cons, List.not_mem_nil, or_false] at listed
    rcases listed with rfl | rfl
    · exact ContextSet.named_empty
    · exact ContextSet.named_ofList _
  · intro set listed
    simp only [List.mem_cons, List.not_mem_nil, or_false] at listed
    rcases listed with rfl | rfl | rfl
    · exact ContextSet.named_ofList _
    · exact ContextSet.named_ofList _
    · exact ContextSet.named_ofList _

end Client
end LiveConfig
