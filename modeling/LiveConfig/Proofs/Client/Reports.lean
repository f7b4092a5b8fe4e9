import LiveConfig.Proofs.Client.Paths

/-! What a client reports of a run of requests.

Every tracked read of a key reports the match that it finds, once and before the value is made from
it, and nothing else reports anything. So a run of requests reports the matches of its tracked reads
in their order, whether they are taken on the way or not, and whatever becomes of the values. Where
every distribution finds an identity and no name is ambiguous among the contexts that are merged for
the read, what it finds depends on the published snapshot, on these contexts and on the time, and
not on what is drawn and in which order contexts are listed; tracked or not, it gives what the match
is reified to. -/
namespace LiveConfig

structure Question where
  world : World
  passed : Option ContextSet
  key : String

namespace Question

variable (q : Question) (ambient : Ambient) (c : Client)

def found : Option Match :=
  (((ClientM.getMatch q.world q.passed q.key).run ambient).run c).result.1

/-- Nothing that a read of the question finds is left to chance: every distribution that it leads to
finds an identity to hash, and reads of these contexts see the same. -/
structure Determined : Prop where
  identified : c.snapshot.Identified q.key (c.lookupFor q.world.listing ambient q.passed)
  clear : c.Clear ambient q.passed

end Question

/-- What callers ask of a client. The reads of one kind of value are `typed` at its view. -/
inductive Request : Type 1
  | update (clock : Clock) (u : Update)
  | addListener (l : Listener)
  | takeDeliveries
  | takeReports
  | getMatch (q : Question)
  | value (q : Question)
  | untracked (q : Question)
  | typed {α : Type} (view : Value → Option α) (q : Question)
  | isOn (q : Question)
  | level (w : World) (logger : String)
  | wait

namespace Request

def Answer : Request → Type
  | update _ _ => List ChangeEvent
  | addListener _ => Unit
  | takeDeliveries => List Delivery
  | takeReports => List Match
  | getMatch _ => Option Match
  | value _ | untracked _ => Option ConfigValue
  | @typed α _ _ => Option α
  | isOn _ => Bool
  | level _ _ => Option LogLevel
  | wait => Except ConfigError Unit

def act : (r : Request) → ClientM r.Answer
  | update clock u => ClientM.apply clock u
  | addListener l => ClientM.addListener l
  | takeDeliveries => ClientM.takeDeliveries
  | takeReports => ClientM.takeReports
  | getMatch q => ClientM.getMatch q.world q.passed q.key
  | value q => ClientM.getValue q.world q.passed q.key
  | untracked q => ClientM.getUntracked q.world q.passed q.key
  | typed view q => ClientM.getAs view q.world q.passed q.key
  | isOn q => ClientM.featureIsOn q.world q.passed q.key
  | level w logger => ClientM.levelFor w logger
  | wait => ClientM.waitForInitialization

theorem public_act (r : Request) : ClientM.Public r.act := by
  cases r with
  | update clock u => exact .apply clock u
  | addListener l => exact .addListener l
  | takeDeliveries => exact .takeDeliveries
  | takeReports => exact .takeReports
  | getMatch q => exact .getMatch q.world q.passed q.key
  | value q => exact .resolve true q.world q.passed q.key
  | untracked q => exact .resolve false q.world q.passed q.key
  | typed view q => exact .getAs view q.world q.passed q.key
  | isOn q => exact .featureIsOn q.world q.passed q.key
  | level w logger => exact .levelFor w logger
  | wait => exact .waitForInitialization

def question? : Request → Option Question
  | getMatch q | value q | untracked q | typed _ q | isOn q => some q
  | _ => none

def tracked? : Request → Option Question
  | value q | typed _ q | isOn q => some q
  | _ => none

end Request

structure Meeting where
  client : Client
  ambient : Ambient
  request : Request

namespace Meeting

/-- The match that a meeting is to report: that of a tracked read. -/
def due (v : Meeting) : Option Match :=
  v.request.tracked?.bind fun q => q.found v.ambient v.client

def taken (v : Meeting) : List Match :=
  match v.request with
  | .takeReports => ((ClientM.takeReports.run v.ambient).run v.client).result.1
  | _ => []

def left (v : Meeting) : Client := v.request.act.after v.ambient v.client

end Meeting

namespace Client

/-- The meetings of a run of requests, each made in a scope of its own. -/
def meetings (c : Client) : List (Ambient × Request) → List Meeting
  | [] => []
  | (ambient, r) :: requests =>
    ⟨c, ambient, r⟩ :: meetings (Meeting.left ⟨c, ambient, r⟩) requests

def afterAll (c : Client) : List (Ambient × Request) → Client
  | [] => c
  | (ambient, r) :: requests => afterAll (Meeting.left ⟨c, ambient, r⟩) requests

end Client

section Step

variable {α : Type} {w : World} {passed : Option ContextSet} {key : String}
variable {ambient : Ambient} {c : Client}

namespace ClientM

theorem sink_apply (clock : Clock) (u : Update) :
    (c.apply clock u).result.2.reports = c.reports ∧
      (c.apply clock u).result.2.reporting = c.reporting := by
  unfold Client.apply
  simp only [Logged.result_bind, Logged.result_pure]
  obtain ⟨_, _, same⟩ := Client.dispatch_frame _ _
  rw [same]
  exact ⟨rfl, rfl⟩

theorem reports_resolve (tracked : Bool) (q : Question) :
    ((resolve tracked q.world q.passed q.key).after ambient c).reports =
      c.reports ++ if tracked && c.reporting then (q.found ambient c).toList else [] := by
  unfold after resolve Question.found
  rw [ReaderT.run_bind, StateT.run_bind, Logged.result_bind, result_getMatch]
  cases (c.snapshot.tryEvaluateDrawing Murmur3.fraction (q.world.draws 0) (q.world.clock 0)
      (c.lookupFor q.world.listing ambient q.passed) q.key).outcome.toOption with
  | none => simp
  | some m =>
    cases tracked with
    | false => exact (List.append_nil c.reports).symm
    | true =>
      change (if c.reporting then { c with reports := c.reports ++ [m] } else c).reports = _
      cases c.reporting <;> simp

theorem after_getAs (view : Value → Option α) :
    (getAs view w passed key).after ambient c = (getValue w passed key).after ambient c :=
  congrArg Prod.snd (run_getAs w passed key ambient c view)

theorem after_featureIsOn :
    (featureIsOn w passed key).after ambient c = (getValue w passed key).after ambient c := by
  rw [← after_getAs Value.bool?]
  unfold after featureIsOn
  rw [ReaderT.run_bind, StateT.run_bind, Logged.result_bind]
  rfl

end ClientM

namespace Meeting

theorem taken_append_reports_of_silent {v : Meeting} (silent : v.request.tracked? = none)
    (kept : v.taken ++ v.left.reports = v.client.reports) : v.taken ++ v.left.reports =
      v.client.reports ++ if v.client.reporting then v.due.toList else [] := by
  have nothing : v.due = none := by rw [due, silent, Option.bind_none]
  rw [kept, nothing, Option.toList_none, ite_self, List.append_nil]

/-- A meeting adds what is due to the reports, if there is a sink, and takes no others away than
those that it gives. -/
theorem taken_append_reports (v : Meeting) : v.taken ++ v.left.reports =
    v.client.reports ++ if v.client.reporting then v.due.toList else [] := by
  obtain ⟨c, ambient, r⟩ := v
  cases r with
  | update clock u =>
    apply taken_append_reports_of_silent rfl
    exact (ClientM.sink_apply clock u).1
  | addListener l => exact taken_append_reports_of_silent rfl rfl
  | takeDeliveries => exact taken_append_reports_of_silent rfl rfl
  | takeReports =>
    apply taken_append_reports_of_silent rfl
    exact List.append_nil c.reports
  | getMatch q => exact taken_append_reports_of_silent rfl rfl
  | value q => exact ClientM.reports_resolve true q
  | untracked q =>
    apply taken_append_reports_of_silent rfl
    exact (ClientM.reports_resolve false q).trans (List.append_nil c.reports)
  | typed view q =>
    change ((ClientM.getAs view q.world q.passed q.key).after ambient c).reports = _
    rw [ClientM.after_getAs]
    exact ClientM.reports_resolve true q
  | isOn q =>
    change ((ClientM.featureIsOn q.world q.passed q.key).after ambient c).reports = _
    rw [ClientM.after_featureIsOn]
    exact ClientM.reports_resolve true q
  | level w logger => exact taken_append_reports_of_silent rfl rfl
  | wait =>
    apply taken_append_reports_of_silent rfl
    exact congrArg Client.reports (ClientM.after_waitForInitialization ambient c)

theorem reporting_left (v : Meeting) : v.left.reporting = v.client.reporting := by
  rcases v.request.public_act.cases with ⟨clock, u, updated⟩ | kept
  · rw [left, updated]
    exact (ClientM.sink_apply clock u).2
  · obtain ⟨_, _, _, same⟩ := kept v.ambient v.client
    rw [left, same]

end Meeting

end Step

namespace Client

variable {c : Client}

/-- What a run reports, taken or not, is what was reported before and then what its meetings are to
report, each once and in their order. -/
theorem reports_afterAll (reporting : c.reporting = true) (requests : List (Ambient × Request)) :
    (c.meetings requests).flatMap Meeting.taken ++ (c.afterAll requests).reports =
      c.reports ++ (c.meetings requests).filterMap Meeting.due := by
  induction requests generalizing c with
  | nil => exact (List.append_nil c.reports).symm
  | cons asked requests ih =>
    let v : Meeting := ⟨c, asked.1, asked.2⟩
    have step : v.taken ++ v.left.reports = c.reports ++ v.due.toList := by
      rw [v.taken_append_reports, if_pos reporting]
    have rest := ih (v.reporting_left.trans reporting)
    calc (v.taken ++ (v.left.meetings requests).flatMap Meeting.taken) ++
          (v.left.afterAll requests).reports
        = v.taken ++ (v.left.reports ++ (v.left.meetings requests).filterMap Meeting.due) := by
          rw [List.append_assoc, rest]
      _ = (c.reports ++ v.due.toList) ++ (v.left.meetings requests).filterMap Meeting.due := by
          rw [← List.append_assoc, step]
      _ = c.reports ++ (v :: v.left.meetings requests).filterMap Meeting.due := by
          rw [List.append_assoc, List.filterMap_cons]
          cases v.due <;> rfl

end Client

/-- How a client answers a question, in whatever kind of read. -/
structure Question.Answered (q : Question) (ambient : Ambient) (c : Client) : Prop where
  /-- The match is that of the published snapshot, whatever is drawn and listed first. -/
  found_iff (m : Match) : q.found ambient c = some m ↔ ∀ w : World, q.world.clock 0 = w.clock 0 →
    (c.evaluation w ambient q.passed q.key).outcome = .ok m
  again (w : World) : q.world.clock 0 = w.clock 0 →
    found { q with world := w } ambient c = q.found ambient c
  value (tracked : Bool) (w : World) : q.world.clock 0 = w.clock 0 → w.vars = q.world.vars →
    (((ClientM.resolve tracked w q.passed q.key).run ambient).run c).result.1 =
      (q.found ambient c).map fun m => (m.reify q.world.vars).result
  typed {α : Type} (view : Value → Option α) (w : World) : q.world.clock 0 = w.clock 0 →
    w.vars = q.world.vars → (((ClientM.getAs view w q.passed q.key).run ambient).run c).result.1 =
      ((q.found ambient c).map fun m => (m.reify q.world.vars).result).bind fun v => view v.value

namespace Question

variable {q : Question} {ambient : Ambient} {c : Client}

theorem found_eq (q : Question) (ambient : Ambient) (c : Client) : q.found ambient c =
    (c.evaluation q.world ambient q.passed q.key).outcome.toOption :=
  congrArg Prod.fst (ClientM.result_getMatch q.world q.passed q.key ambient c)

theorem Determined.again (determined : q.Determined ambient c) {w : World}
    (time : q.world.clock 0 = w.clock 0) :
    found { q with world := w } ambient c = q.found ambient c := by
  rw [found_eq, found_eq, determined.clear.evaluation_eq determined.identified time]

theorem Determined.value (determined : q.Determined ambient c) (tracked : Bool) {w : World}
    (time : q.world.clock 0 = w.clock 0) (vars : w.vars = q.world.vars) :
    (((ClientM.resolve tracked w q.passed q.key).run ambient).run c).result.1 =
      (q.found ambient c).map fun m => (m.reify q.world.vars).result := by
  rw [ClientM.result_resolve, vars, ← determined.again time, found_eq]
  rfl

theorem Determined.answered (determined : q.Determined ambient c) : q.Answered ambient c where
  found_iff m := by
    constructor
    · intro found w time
      rw [found_eq, determined.clear.evaluation_eq determined.identified time] at found
      exact Drawing.ok_of_toOption found
    · intro given
      rw [found_eq, given q.world rfl]
      rfl
  again w time := determined.again time
  value tracked w time vars := determined.value tracked time vars
  typed view w time vars := by
    rw [ClientM.result_getAs]
    exact congrArg (Option.bind · _) (determined.value true time vars)

end Question

/-- In a run of requests to a client with a sink, the sink receives the matches of the tracked
reads, each once and in the order of the reads, and nothing else. Where nothing that a read finds is
left to chance, its match is that of the snapshot published when the read was made, and what is
found again there at the same reading of the clock; a tracked read and one that is not both give
what it is reified to. -/
theorem Client.reports_of_run {c : Client} (reporting : c.reporting = true)
    (requests : List (Ambient × Request)) :
    (c.meetings requests).flatMap Meeting.taken ++ (c.afterAll requests).reports =
        c.reports ++ (c.meetings requests).filterMap Meeting.due ∧
      ∀ v ∈ c.meetings requests, ∀ q, v.request.question? = some q →
        q.Determined v.ambient v.client → q.Answered v.ambient v.client := by
  constructor
  · exact reports_afterAll reporting requests
  · intro v _ q _ determined
    exact determined.answered

def Client.watched : Client := start { professionals with reporting := true }

/-- Requests of a professional user: reads of the flag as an integer, which it is not, and without
tracking, an update that switches the flag on for all, a read whether it is on, and one of a missing
key. -/
def Request.visit : List (Ambient × Request) :=
  let user : Context :=
    ⟨"user", .ofList [("plan", (Value.string "pro").plain), ("key", (Value.string "u1").plain)]⟩
  let asks (key : String) : Question :=
    ⟨Client.still .asMerged, some (.ofList [user]), key⟩
  let on : Config := ⟨"flag", 2, .featureFlag, none,
    [⟨none, .empty, [.always (Value.bool true).plain]⟩], []⟩
  [(none, .typed Value.int? (asks "flag")), (none, .untracked (asks "flag")),
    (none, .update (fun _ => 0) ⟨[(on, ⟨.remote, none⟩)], none, none⟩),
    (none, .isOn (asks "flag")), (none, .value (asks "absent"))]

/-- The read as an integer is reported although it is given none, and so is the read after the
update. -/
theorem Client.watched_reports :
    (watched.afterAll Request.visit).reports.map
        (fun m => (m.value.value.int?, m.value.value.bool?)) = [(none, none), (none, some true)] ∧
      ∀ v ∈ watched.meetings Request.visit, ∀ q, v.request.question? = some q →
        q.Answered v.ambient v.client := by
  have determined : ∀ v ∈ watched.meetings Request.visit, ∀ q, v.request.question? = some q →
      q.Determined v.ambient v.client := by
    have found : ∀ v ∈ watched.meetings Request.visit, ∀ q ∈ v.request.question?,
        ∀ entry ∈ v.client.snapshot.elements.entries,
          ∀ r ∈ entry.2.config.applicableRows v.client.snapshot.environment,
            ∀ d ∈ r.2.distributions, (d.identity?
              (v.client.lookupFor q.world.listing v.ambient q.passed).flattened).isSome = true := by
      decide +kernel
    have distinct : ∀ v ∈ watched.meetings Request.visit, ∀ q ∈ v.request.question?,
        ((flatProperties (v.client.mergedFor v.ambient q.passed).contexts.toList).map
          Prod.fst).Nodup := by decide +kernel
    intro v met q asked
    exact ⟨Snapshot.identified_of_entries (found v met q asked),
      .inr (LookupContext.unambiguous_of_nodup (distinct v met q asked))⟩
  have due : ((watched.meetings Request.visit).filterMap Meeting.due).map
      (fun m => (m.value.value.int?, m.value.value.bool?)) = [(none, none), (none, some true)] := by
    decide +kernel
  obtain ⟨reported, answered⟩ :=
    reports_of_run (c := watched) rfl Request.visit
  have kept : (watched.meetings Request.visit).flatMap Meeting.taken = [] := rfl
  have before : watched.reports = [] := rfl
  rw [kept, before, List.nil_append, List.nil_append] at reported
  rw [reported]
  exact ⟨due, fun v met q asked => answered v met q asked (determined v met q asked)⟩

/-- Where two contexts meet at the city, a match that is reported need not be what is found again,
and a read that is tracked need not give what one that is not gives. -/
theorem Client.reports_apart :
    let c := byCity .empty true
    let asks (l : Listing) : Question := ⟨still l, some twoCities, "flag"⟩
    let gives (r : Request) (view : r.Answer → Option ConfigValue) :=
      (view ((r.act.run none).run c).result.1).bind (·.value.string?)
    c.Reachable ∧ c.reporting = true ∧ twoCities.Named ∧
    (c.afterAll [(none, .value (asks .reversed))]).reports.map (·.valueIndex) = [1] ∧
    ((asks .asMerged).found none c).map (·.valueIndex) = some 0 ∧
    gives (.value (asks .reversed)) id = some "other" ∧
    gives (.untracked (asks .asMerged)) id = some "Roman" := by
  intro c asks gives
  exact ⟨.start _, rfl, ContextSet.named_ofList _, by decide +kernel, by decide +kernel,
    by decide +kernel, by decide +kernel⟩

end LiveConfig
