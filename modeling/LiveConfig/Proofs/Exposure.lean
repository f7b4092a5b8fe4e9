import LiveConfig.Layers
import LiveConfig.Proofs.Evaluation.Logging
import LiveConfig.Proofs.Reification
import LiveConfig.Proofs.Text.Blank

/-! What the log shows of values that are labelled confidential.

The value that an evaluation ends with is logged by its digest if it is labelled, and a text that
was read from the environment is never logged. But four kinds of records show the payload of a value
as it is, whatever its label says: a pattern that cannot be read, the segment of a criterion that
cannot be decided, the value to match of an unknown operator, and what a reference refers to when it
cannot be read. `Task.Shows` lists them, and nothing else shows a payload. -/
namespace LiveConfig

section Rendering

/-- The spellings of a payload: as text, in full, and as data with either label; a reference also by
what it looks up. -/
def Value.spellings (x : Value) : List String :=
  [x.text, x.detail, (x.plain.toJsonWith .ofBinary64).write,
    (x.secret.toJsonWith .ofBinary64).write] ++
    match x with
    | .reference r => [r.lookup, Text.quoted r.lookup]
    | _ => []

/-- A text that stands somewhere in another one. -/
def Text.Within (part whole : String) : Prop := ∃ before after, whole = before ++ part ++ after

namespace Text.Within

variable {part whole : String}

theorem refl (part : String) : Within part part := ⟨"", "", by simp⟩

theorem behind (within : Within part whole) (front : String) : Within part (front ++ whole) := by
  obtain ⟨before, after, rfl⟩ := within
  exact ⟨front ++ before, after, by simp only [String.append_assoc]⟩

theorem before (within : Within part whole) (rear : String) : Within part (whole ++ rear) := by
  obtain ⟨before, after, rfl⟩ := within
  exact ⟨before, after ++ rear, by simp only [String.append_assoc]⟩

end Text.Within

/-- A text has one of the spellings in it. -/
def Value.ShownIn (x : Value) (text : String) : Prop :=
  ∃ spelling ∈ x.spellings, Text.Within spelling text

theorem Criterion.shownIn_write {c : Criterion} {v : ConfigValue} (carries : c.toMatch = some v) :
    v.value.ShownIn ((c.toJsonWith .ofBinary64).write) := by
  have member : (v.toJsonWith .ofBinary64).write ∈ v.value.spellings := by
    obtain ⟨x, label⟩ := v
    cases label <;> simp [Value.spellings, Value.plain, Value.secret]
  refine ⟨_, member, ?_⟩
  unfold toJsonWith
  simp only [carries, Json.ofOption, Json.write, Json.writeMembers]
  exact ((((Text.Within.refl _).behind _).before _).behind _).behind _

/-- The data of a record show what they are said to. -/
theorem Datum.shownIn_text {d : Datum} {x : Value} (shown : x ∈ d.verbatim) : x.ShownIn d.text := by
  have whole {spelling : String} (member : spelling ∈ x.spellings) : x.ShownIn spelling :=
    ⟨spelling, member, .refl spelling⟩
  cases d with
  | label | number => cases shown
  | pattern p =>
    obtain rfl := List.mem_singleton.mp shown
    exact whole List.mem_cons_self
  | value v =>
    cases label : v.confidential with
    | true => simp [verbatim, label] at shown
    | false =>
      simp only [verbatim, label, Bool.false_eq_true, if_false, List.mem_singleton] at shown
      subst shown
      have text : v.redacted = v.value.text := by simp [Labelled.redacted, label]
      simp only [Datum.text, text]
      exact whole List.mem_cons_self
  | payload v =>
    obtain rfl := Option.mem_toList.mp shown
    exact ⟨x.detail, List.mem_cons_of_mem _ List.mem_cons_self,
      ((Text.Within.refl _).behind _).before _⟩
  | criterion c =>
    obtain ⟨v, carried, rfl⟩ := List.mem_map.mp shown
    exact Criterion.shownIn_write (Option.mem_toList.mp carried)
  | lookup r =>
    obtain rfl := List.mem_singleton.mp shown
    exact whole (List.mem_append_right _ List.mem_cons_self)

/-- So what a record shows is in its message or in the texts of its data. -/
theorem LogEvent.shownIn_of_verbatim {e : LogEvent} {x : Value} (shown : x ∈ e.verbatim) :
    ∃ text ∈ e.message :: e.fields.map Prod.snd, x.ShownIn text := by
  rw [verbatim, List.mem_append] at shown
  rcases shown with named | datum
  · obtain ⟨r, names, rfl⟩ := List.mem_map.mp named
    rw [Option.mem_toList] at names
    refine ⟨e.message, List.mem_cons_self, Text.quoted r.lookup, by simp [Value.spellings], ?_⟩
    unfold named? at names
    split at names
    · cases names
      exact ((Text.Within.refl _).behind _).before _
    · cases names
      exact (((Text.Within.refl _).behind _).before _).before _
    · cases names
  · obtain ⟨d, carried, shown⟩ := List.mem_flatMap.mp datum
    refine ⟨d.2.text, List.mem_cons_of_mem _ ?_, Datum.shownIn_text shown⟩
    exact List.mem_map.mpr ⟨_, List.mem_map_of_mem carried, rfl⟩

/-- Kind by kind: most records show no payload. -/
theorem LogEvent.verbatim_eq (e : LogEvent) : e.verbatim = match e with
    | invalidPattern _ pattern => [.string pattern]
    | evaluated _ v _ _ => if v.confidential then [] else [v.value]
    | undecidedSegment _ segment _ => segment.toList.map Labelled.value
    | unknownOperator _ c => c.toMatch.toList.map Labelled.value
    | unknownSource _ lookup => [.reference ⟨.unknown, lookup⟩]
    | unreadable _ (.missingVariable name) => [.reference ⟨.environment, name⟩]
    | unreadable _ (.unreadableVariable name _) => [.reference ⟨.environment, name⟩]
    | _ => [] := by
  cases e with
  | unreadable key reason => cases reason <;> rfl
  | undecidedSegment key segment reason => cases segment <;> rfl
  | unknownOperator | evaluated => simp [verbatim, named?, data, Datum.verbatim]
  | _ => rfl

end Rendering

inductive Task
  | wrap (config : Config) (provenance : Provenance)
  | deliver (l : Layers) (a : Config × Provenance)
  | evaluate (s : Snapshot) (sharder : Sharder) (draws : Draws) (now : Int64)
    (context : LookupContext) (key : String)
  | get (s : Snapshot) (w : World) (turn : Nat) (context : LookupContext) (key : String)

namespace Task

def log : Task → List LogEvent
  | wrap config provenance => (Element.wrap config provenance).events
  | deliver l a => (l.apply a.1 a.2).events
  | evaluate s sharder draws now context key =>
    (s.evaluate sharder draws now context key).events
  | get s w turn context key => (s.get w turn context key).events

/-- A record of a task shows the payload of a value as it is. -/
inductive Shows : Task → LogEvent → ConfigValue → Prop
  | pattern {config : Config} {provenance : Provenance} {c : Criterion} {v : ConfigValue}
    {p : String} (member : c ∈ config.criteria) (asks : c.operator.isPattern = true)
    (carries : c.toMatch = some v) (text : v.value = .string p)
    (unreadable : Pattern.read? p = none) :
    Shows (wrap config provenance) (.invalidPattern config.key p) v
  | delivered {l : Layers} {a : Config × Provenance} {record : LogEvent} {v : ConfigValue}
    (newest : l.newer? a.1.key a.1.id = none) (kept : a.1.isTombstone = false)
    (shown : Shows (wrap a.1 a.2) record v) : Shows (deliver l a) record v
  | segment {s : Snapshot} {sharder : Sharder} {draws : Draws} {now : Int64}
    {context : LookupContext} {key : String} {e : Element} {c : Criterion} {v : ConfigValue}
    {reason : EvaluationError}
    (poses : s.Poses e c) (asks : c.operator.isSegment = true) (carries : c.toMatch = some v)
    (logged : .undecidedSegment e.key (some v) reason ∈
      (s.tryEvaluateDrawing sharder draws now context key).run.events) :
    Shows (evaluate s sharder draws now context key) (.undecidedSegment e.key (some v) reason) v
  | operator {s : Snapshot} {sharder : Sharder} {draws : Draws} {now : Int64}
    {context : LookupContext} {key : String} {e : Element} {c : Criterion} {v : ConfigValue}
    (poses : s.Poses e c) (odd : c.operator = .unknown) (carries : c.toMatch = some v)
    (logged : .unknownOperator e.key c ∈
      (s.tryEvaluateDrawing sharder draws now context key).run.events) :
    Shows (evaluate s sharder draws now context key) (.unknownOperator e.key c) v
  | selected {s : Snapshot} {sharder : Sharder} {draws : Draws} {now : Int64}
    {context : LookupContext} {key : String} {m : Match}
    (given : (s.tryEvaluateDrawing sharder draws now context key).outcome = .ok m)
    (plain : m.value.confidential = false) :
    Shows (evaluate s sharder draws now context key)
      (.evaluated key m.value m.rowIndex m.valueIndex) m.value
  | read {s : Snapshot} {w : World} {turn : Nat} {context : LookupContext} {key : String}
    {record : LogEvent} {v : ConfigValue}
    (shown : Shows (evaluate s Murmur3.fraction (w.draws turn) (w.clock turn) context key)
      record v) : Shows (get s w turn context key) record v
  | reference {s : Snapshot} {w : World} {turn : Nat} {context : LookupContext} {key : String}
    {m : Match} {r : Reference} {record : LogEvent}
    (given : (s.tryEvaluateDrawing Murmur3.fraction (w.draws turn) (w.clock turn) context
      key).outcome = .ok m)
    (refers : m.value.value = .reference r) (logged : record ∈ (m.reify w.vars).events) :
    Shows (get s w turn context key) record m.value

end Task

section Loading

theorem Config.mem_invalidPatterns {config : Config} {p : String} : p ∈ config.invalidPatterns ↔
    ∃ c ∈ config.criteria, ∃ v, c.operator.isPattern = true ∧ c.toMatch = some v ∧
      v.value = .string p ∧ Pattern.read? p = none := by
  have asked (c : Criterion) : c.pattern? = some p ↔
      ∃ v, c.operator.isPattern = true ∧ c.toMatch = some v ∧ v.value = .string p := by
    have text (v : Value) : v.string? = some p ↔ v = .string p := by
      cases v <;> simp [Value.string?]
    unfold Criterion.pattern?
    split
    · rename_i pattern
      simp [pattern, Option.bind_eq_some_iff, text]
    · rename_i other
      simp [other]
  simp only [invalidPatterns, List.mem_filter, List.mem_filterMap, asked, Option.isNone_iff_eq_none]
  constructor
  · rintro ⟨⟨c, member, v, asks, carries, text⟩, unreadable⟩
    exact ⟨c, member, v, asks, carries, text, unreadable⟩
  · rintro ⟨c, member, v, asks, carries, text, unreadable⟩
    exact ⟨⟨c, member, v, asks, carries, text⟩, unreadable⟩

theorem Task.wrap_shows_iff {config : Config} {provenance : Provenance} {record : LogEvent}
    {x : Value} : record ∈ (Task.wrap config provenance).log ∧ x ∈ record.verbatim ↔
      ∃ v, (Task.wrap config provenance).Shows record v ∧ v.value = x := by
  change record ∈ config.invalidPatterns.map (fun p => .invalidPattern config.key p) ∧ _ ↔ _
  rw [List.mem_map]
  constructor
  · rintro ⟨⟨p, garbled, rfl⟩, shown⟩
    obtain ⟨c, member, v, asks, carries, text, unreadable⟩ := Config.mem_invalidPatterns.mp garbled
    exact ⟨v, .pattern member asks carries text unreadable,
      text.trans (List.mem_singleton.mp shown).symm⟩
  · rintro ⟨v, shows, rfl⟩
    cases shows with
    | pattern member asks carries text unreadable =>
      have garbled := Config.mem_invalidPatterns.mpr
        ⟨_, member, v, asks, carries, text, unreadable⟩
      exact ⟨⟨_, garbled, rfl⟩, List.mem_singleton.mpr text⟩

/-- A delivery logs the patterns of a config that it stores; its other records carry no value. -/
theorem Layers.events_apply (l : Layers) (a : Config × Provenance) : ∃ others : List LogEvent,
    (∀ record ∈ others, record.verbatim = []) ∧ (l.apply a.1 a.2).events = others ++
      if l.newer? a.1.key a.1.id = none ∧ a.1.isTombstone = false
      then (Element.wrap a.1 a.2).events else [] := by
  unfold apply
  cases newest : l.newer? a.1.key a.1.id with
  | some existing =>
    refine ⟨[.outOfOrder a.1.key a.1.id existing.config.id], ?_, rfl⟩
    simp [LogEvent.verbatim_eq]
  | none =>
    simp only
    split
    · rename_i removed
      refine ⟨[], nofun, ?_⟩
      simp [removed]
    · rename_i kept
      rw [Bool.not_eq_true] at kept
      rw [if_pos ⟨trivial, kept⟩]
      cases a.1.validate with
      | error fault =>
        refine ⟨[.invalidRules a.1.key a.1.id fault], ?_, ?_⟩
        · simp [LogEvent.verbatim_eq]
        · simp only [Logged.events_bind, Logged.events_pure, List.append_nil]
          rfl
      | ok =>
        refine ⟨[], nofun, ?_⟩
        simp only [Logged.events_bind, Logged.events_pure, List.append_nil, List.nil_append]

theorem Task.deliver_shows_iff {l : Layers} {a : Config × Provenance} {record : LogEvent}
    {x : Value} : record ∈ (Task.deliver l a).log ∧ x ∈ record.verbatim ↔
      ∃ v, (Task.deliver l a).Shows record v ∧ v.value = x := by
  obtain ⟨others, silent, events⟩ := l.events_apply a
  change record ∈ (l.apply a.1 a.2).events ∧ _ ↔ _
  rw [events, List.mem_append]
  constructor
  · rintro ⟨other | wrapped, shown⟩
    · rw [silent record other] at shown
      cases shown
    · split at wrapped
      · rename_i stored
        obtain ⟨v, shows, payload⟩ := wrap_shows_iff.mp ⟨wrapped, shown⟩
        exact ⟨v, .delivered stored.1 stored.2 shows, payload⟩
      · cases wrapped
  · rintro ⟨v, shows, payload⟩
    cases shows with
    | delivered newest kept shown =>
      obtain ⟨logged, verbatim⟩ := wrap_shows_iff.mpr ⟨v, shown, payload⟩
      rw [if_pos ⟨newest, kept⟩]
      exact ⟨.inr logged, verbatim⟩

end Loading

section Evaluating

variable {s : Snapshot} {sharder : Sharder} {draws : Draws} {now : Int64}
variable {context : LookupContext} {key : String}

/-- The record of how an evaluation ends comes after its remarks. -/
theorem Snapshot.mem_events_evaluate {record : LogEvent} :
    record ∈ (s.evaluate sharder draws now context key).events ↔
      record ∈ (s.tryEvaluateDrawing sharder draws now context key).run.events ∨
      match (s.tryEvaluateDrawing sharder draws now context key).outcome with
      | .ok m => record = .evaluated key m.value m.rowIndex m.valueIndex
      | .error e => record = if e.isNormal then .noValue key e else .failed key e := by
  unfold evaluate Evaluation.outcome
  rw [Logged.events_bind, List.mem_append]
  refine or_congr_right ?_
  cases (s.tryEvaluateDrawing sharder draws now context key).run.result with
  | ok m => exact List.mem_singleton
  | error e => exact List.mem_singleton

theorem Task.evaluate_shows_iff {record : LogEvent} {x : Value} :
    record ∈ (Task.evaluate s sharder draws now context key).log ∧ x ∈ record.verbatim ↔
      ∃ v, (Task.evaluate s sharder draws now context key).Shows record v ∧ v.value = x := by
  change record ∈ (s.evaluate sharder draws now context key).events ∧ _ ↔ _
  rw [Snapshot.mem_events_evaluate]
  constructor
  · rintro ⟨remark | last, shown⟩
    · rw [LogEvent.verbatim_eq] at shown
      cases Snapshot.remarks_tryEvaluateDrawing remark with
      | noSegmentKey | emptyDistribution => cases shown
      | undecided poses asks carries reason =>
        exact ⟨_, .segment poses asks carries remark, (List.mem_singleton.mp shown).symm⟩
      | @unknown e c poses odd =>
        obtain ⟨v, carried, rfl⟩ := List.mem_map.mp shown
        exact ⟨v, .operator poses odd (Option.mem_toList.mp carried) remark, rfl⟩
    · cases ended : (s.tryEvaluateDrawing sharder draws now context key).outcome with
      | error e =>
        simp only [ended] at last
        subst last
        cases normal : e.isNormal <;> simp [normal, LogEvent.verbatim_eq] at shown
      | ok m =>
        simp only [ended] at last
        subst last
        cases plain : m.value.confidential with
        | true => simp [plain, LogEvent.verbatim_eq] at shown
        | false =>
          simp only [plain, LogEvent.verbatim_eq, Bool.false_eq_true, if_false,
            List.mem_singleton] at shown
          exact ⟨m.value, .selected ended plain, shown.symm⟩
  · rintro ⟨v, shows, rfl⟩
    cases shows with
    | segment poses asks carries logged => exact ⟨.inl logged, List.mem_singleton_self _⟩
    | operator poses odd carries logged =>
      rw [LogEvent.verbatim_eq]
      exact ⟨.inl logged, List.mem_map.mpr ⟨v, Option.mem_toList.mpr carries, rfl⟩⟩
    | selected given plain =>
      rw [given]
      exact ⟨.inr rfl, by simp [plain, LogEvent.verbatim_eq]⟩

end Evaluating

section Reading

/-- Reading logs nothing but a reference that it cannot read. -/
theorem Match.verbatim_reify {m : Match} {vars : Variables} {record : LogEvent}
    (logged : record ∈ (m.reify vars).events) :
    ∃ r, m.value.value = .reference r ∧ record.verbatim = [.reference r] := by
  unfold reify at logged
  split at logged
  · rename_i r refers
    refine ⟨r, refers, ?_⟩
    obtain ⟨source, lookup⟩ := r
    rw [Logged.events_bind, Logged.events_pure, List.append_nil] at logged
    unfold Reference.read at logged
    cases source with
    | unknown =>
      obtain rfl := List.mem_singleton.mp logged
      rfl
    | environment =>
      simp only at logged
      split at logged
      · obtain rfl := List.mem_singleton.mp logged
        rfl
      · cases logged
      · split at logged
        · cases logged
        · obtain rfl := List.mem_singleton.mp logged
          rfl
  · cases logged

variable {s : Snapshot} {w : World} {turn : Nat} {context : LookupContext} {key : String}

theorem Snapshot.mem_events_get {record : LogEvent} :
    record ∈ (s.get w turn context key).events ↔
      record ∈ (s.evaluate Murmur3.fraction (w.draws turn) (w.clock turn) context key).events ∨
      ∃ m, (s.tryEvaluateDrawing Murmur3.fraction (w.draws turn) (w.clock turn) context
        key).outcome = .ok m ∧ record ∈ (m.reify w.vars).events := by
  unfold get
  rw [Logged.events_bind, List.mem_append, result_evaluate]
  refine or_congr_right ?_
  cases (s.tryEvaluateDrawing Murmur3.fraction (w.draws turn) (w.clock turn) context
    key).outcome with
  | error e => simp [Except.toOption]
  | ok m => simp [Except.toOption, Logged.events_map]

theorem Task.get_shows_iff {record : LogEvent} {x : Value} :
    record ∈ (Task.get s w turn context key).log ∧ x ∈ record.verbatim ↔
      ∃ v, (Task.get s w turn context key).Shows record v ∧ v.value = x := by
  change record ∈ (s.get w turn context key).events ∧ _ ↔ _
  rw [Snapshot.mem_events_get]
  constructor
  · rintro ⟨evaluated | ⟨m, given, logged⟩, shown⟩
    · obtain ⟨v, shows, payload⟩ := evaluate_shows_iff.mp ⟨evaluated, shown⟩
      exact ⟨v, .read shows, payload⟩
    · obtain ⟨r, refers, verbatim⟩ := Match.verbatim_reify logged
      rw [verbatim, List.mem_singleton] at shown
      exact ⟨m.value, .reference given refers logged, refers.trans shown.symm⟩
  · rintro ⟨v, shows, rfl⟩
    cases shows with
    | read shown =>
      obtain ⟨logged, verbatim⟩ := evaluate_shows_iff.mpr ⟨v, shown, rfl⟩
      exact ⟨.inl logged, verbatim⟩
    | reference given refers logged =>
      obtain ⟨r, refers', verbatim⟩ := Match.verbatim_reify logged
      exact ⟨.inr ⟨_, given, logged⟩, by rw [verbatim, refers', List.mem_singleton]⟩

/-- Two environments in which the same variables are set, to texts that convert to the same
types. -/
def Variables.Alike (vars vars' : Variables) : Prop :=
  ∀ name, (vars name).isSome = (vars' name).isSome ∧
    ∀ raw raw', vars name = some raw → vars' name = some raw' →
      ∀ type, (coerce? raw type).isSome = (coerce? raw' type).isSome

/-- What is logged of a reference depends on whether it can be read, and not on what is read. -/
theorem Reference.events_read {vars vars' : Variables} (alike : vars.Alike vars') (r : Reference)
    (key : String) (type : Option ValueType) :
    (r.read vars key type).events = (r.read vars' key type).events := by
  obtain ⟨source, lookup⟩ := r
  obtain ⟨set, converts⟩ := alike lookup
  unfold read
  cases source with
  | unknown => rfl
  | environment =>
    simp only
    cases first : vars lookup with
    | none =>
      cases second : vars' lookup with
      | none => rfl
      | some raw' => simp [first, second] at set
    | some raw =>
      cases second : vars' lookup with
      | none => simp [first, second] at set
      | some raw' =>
        cases type with
        | none => rfl
        | some type =>
          have same := converts raw raw' first second type
          simp only
          cases one : coerce? raw type <;> cases other : coerce? raw' type <;>
            simp [one, other] at same ⊢
          rfl

theorem Match.events_reify {vars vars' : Variables} (alike : vars.Alike vars') (m : Match) :
    (m.reify vars).events = (m.reify vars').events := by
  unfold reify
  split
  · rename_i r _
    rw [Logged.events_bind, Logged.events_bind, r.events_read alike]
    rfl
  · rfl

theorem Snapshot.events_get {vars : Variables} (alike : w.vars.Alike vars) :
    (s.get w turn context key).events = (s.get { w with vars } turn context key).events := by
  unfold get
  rw [Logged.events_bind, Logged.events_bind, result_evaluate]
  cases (s.tryEvaluateDrawing Murmur3.fraction (w.draws turn) (w.clock turn) context
    key).outcome with
  | error e => rfl
  | ok m =>
    have same := m.events_reify alike
    simpa [Except.toOption, Logged.events_map] using same

end Reading

/-- The value to match of a criterion may be logged as it is: as a pattern that cannot be read, as
the name of a segment, or because nothing is known of the operator. -/
def Criterion.Exposes (c : Criterion) : Prop :=
  (∃ p, c.pattern? = some p ∧ Pattern.read? p = none) ∨ c.operator.isSegment = true ∨
    c.operator = .unknown

namespace Task

def Poses : Task → Criterion → Prop
  | wrap config _, c => c ∈ config.criteria
  | deliver _ a, c => c ∈ a.1.criteria
  | evaluate s _ _ _ _ _, c | get s _ _ _ _, c => ∃ e, s.Poses e c

def within (vars : Variables) : Task → Task
  | get s w turn context key => get s { w with vars } turn context key
  | t => t

/-- A payload that a record shows is that of a value that the task shows in this record. -/
theorem shows_iff {t : Task} {record : LogEvent} {x : Value} :
    record ∈ t.log ∧ x ∈ record.verbatim ↔ ∃ v, t.Shows record v ∧ v.value = x := by
  cases t with
  | wrap => exact wrap_shows_iff
  | deliver => exact deliver_shows_iff
  | evaluate => exact evaluate_shows_iff
  | get => exact get_shows_iff

/-- A labelled value that is shown is the value to match of a criterion that exposes it, or a
reference. -/
theorem Shows.exposed {t : Task} {record : LogEvent} {v : ConfigValue} (shows : t.Shows record v)
    (secret : v.confidential = true) :
    (∃ c, t.Poses c ∧ c.toMatch = some v ∧ c.Exposes) ∨ ∃ r, v.value = .reference r := by
  induction shows with
  | @pattern _ _ c v p member asks carries text unreadable =>
    have pattern : c.pattern? = some p := by simp [Criterion.pattern?, asks, carries, text,
      Value.string?]
    exact .inl ⟨c, member, carries, .inl ⟨p, pattern, unreadable⟩⟩
  | delivered _ _ _ ih => exact ih secret
  | segment poses asks carries _ => exact .inl ⟨_, ⟨_, poses⟩, carries, .inr (.inl asks)⟩
  | operator poses odd carries _ => exact .inl ⟨_, ⟨_, poses⟩, carries, .inr (.inr odd)⟩
  | selected _ plain =>
    rw [plain] at secret
    cases secret
  | read _ ih => exact ih secret
  | reference _ refers _ => exact .inr ⟨_, refers⟩

theorem log_within {vars vars' : Variables} (alike : vars.Alike vars') (t : Task) :
    (t.within vars).log = (t.within vars').log := by
  cases t with
  | get s w turn context key => exact s.events_get (w := { w with vars }) alike
  | wrap | deliver | evaluate => rfl

/-- Conditional values whose criteria expose labelled texts, and a labelled reference in the end. -/
def exposing (r : Reference) : List ConditionalValue :=
  let guarded (property : String) (operator : Operator) (text : String) : ConditionalValue :=
    ⟨[⟨property, operator, some (Value.string text).secret⟩], (Value.string "vip").plain⟩
  [guarded "user.name" .matchesPattern "(secret", guarded "" .inSegment "k",
    guarded "user.name" .unknown "hunter2", .always (Value.reference r).secret]

def indiscreet (r : Reference) : Config :=
  ⟨"k", 1, .config, some .int, [⟨none, .empty, exposing r⟩], []⟩

def apiKey : Reference := ⟨.environment, "API_KEY"⟩

def holding (config : Config) : Snapshot :=
  ⟨Snapshot.index [⟨config, ⟨.remote, none⟩⟩], none, .empty⟩

/-- A read of that key, where one variable is set. -/
def readPin (r : Reference) (pin : String) : Task :=
  get (holding (indiscreet r))
    ⟨fun _ => 0, fun _ _ => .zero false, fun name => if name = "PIN" then some pin else none,
      .asMerged⟩ 0
    ⟨none, .empty⟩ "k"

/-- Two numbers of four digits convert to the same types. -/
theorem pins_alike : Variables.Alike (fun name => if name = "PIN" then some "1234" else none)
    fun name => if name = "PIN" then some "9876" else none := by
  intro name
  by_cases pin : name = "PIN"
  · simp only [pin, if_true, Option.isSome_some, Option.some.injEq, true_and]
    rintro _ _ rfl rfl type
    unfold coerce? Text.trim
    rw [Text.isBlank_eq]
    cases type <;> decide +kernel
  · simp [pin]

end Task
end LiveConfig
