import LiveConfig.Proofs.Coercion
import LiveConfig.Proofs.Confidentiality

/-! What callers get in place of distributions and references.

A value is concrete when it is neither a distribution nor a reference. Whatever the environment
holds, reading a reference gives a concrete value, also a reference that was a variant. Selecting
takes one distribution apart and no more: when the variant is a distribution again, the match
carries that one and reading leaves it alone. So no caller ever gets a reference, and who gets a
distribution has met one inside of another. -/
namespace LiveConfig

/-- A value that can be used as it is. -/
def Value.Concrete (v : Value) : Prop := (∀ d, v ≠ .weighted d) ∧ ∀ r, v ≠ .reference r

/-- What can be declared is concrete. -/
theorem Value.concrete_of_type? {v : Value} {type : ValueType} (typed : v.type? = some type) :
    v.Concrete := by
  constructor <;> rintro _ rfl <;> cases typed

/-- Whatever the environment holds, a reference stands for a concrete value. -/
theorem Reference.concrete_read (r : Reference) (vars : Variables) (key : String)
    (type : Option ValueType) : (r.read vars key type).result.Concrete := by
  have text (s : String) : (Value.string s).Concrete := ⟨nofun, nofun⟩
  unfold read
  cases r.source with
  | unknown => exact text ""
  | environment =>
    cases vars r.lookup with
    | none => exact text ""
    | some raw =>
      cases type with
      | none => exact text raw
      | some type =>
        cases converted : coerce? raw type with
        | none =>
          simp only [converted]
          exact text raw
        | some v =>
          simp only [converted]
          exact Value.concrete_of_type? (type?_of_coerce? converted)

namespace Match

/-- The match was resolved to a variant that is a distribution itself. -/
def Nested (m : Match) (v : ConfigValue) : Prop :=
  ∃ d i variant inner, v.value = .weighted d ∧ m.variantIndex = some i ∧
    d.variants[i]? = some variant ∧ variant.value.value = .weighted inner

theorem Takes.nested_iff {m : Match} {v : ConfigValue} (takes : m.Takes v) :
    m.Nested v ↔ ∃ inner, m.value.value = .weighted inner := by
  unfold Takes at takes
  split at takes
  · rename_i d weighted
    obtain ⟨i, variant, index, found, value⟩ := takes
    rw [value]
    constructor
    · rintro ⟨d', i', variant', inner, weighted', index', found', nested⟩
      cases weighted.symm.trans weighted'
      cases index.symm.trans index'
      cases found.symm.trans found'
      exact ⟨inner, nested⟩
    · rintro ⟨inner, nested⟩
      exact ⟨d, i, variant, inner, weighted, index, found, nested⟩
  · rename_i other
    obtain ⟨_, value⟩ := takes
    rw [value]
    constructor
    · rintro ⟨d, _, _, _, weighted, _⟩
      exact (other d weighted).elim
    · rintro ⟨inner, weighted⟩
      exact (other inner weighted).elim

/-- Reading leaves a distribution alone and makes every other value concrete. -/
theorem concrete_reify_iff (m : Match) (vars : Variables) :
    (m.reify vars).result.value.Concrete ↔ ¬ ∃ d, m.value.value = .weighted d := by
  unfold reify
  split
  · rename_i r refers
    simp only [Logged.result_bind, Logged.result_pure, refers, reduceCtorEq, exists_false,
      not_false_eq_true, iff_true]
    exact r.concrete_read vars m.key m.element.config.valueType
  · rename_i direct
    rw [not_exists]
    exact ⟨fun concrete => concrete.1, fun single => ⟨single, direct⟩⟩

theorem reify_ne_reference (m : Match) (vars : Variables) (r : Reference) :
    (m.reify vars).result.value ≠ .reference r := by
  unfold reify
  split
  · rename_i r' _
    exact (r'.concrete_read vars m.key m.element.config.valueType).2 r
  · rename_i direct
    exact direct r

/-- A value that is got from a match is no reference, and it is concrete exactly if the match is not
nested in the conditional value that it stands for. -/
def Yields (m : Match) (got : ConfigValue) : Prop :=
  ∃ v, m.conditional? = some v ∧ (∀ r, got.value ≠ .reference r) ∧
    (got.value.Concrete ↔ ¬ m.Nested v.value)

end Match

namespace Snapshot

variable (s : Snapshot) (context : LookupContext) (key : String)

theorem yields_reify {sharder : Sharder} {draws : Draws} {now : Int64} {m : Match}
    (given : (s.tryEvaluateDrawing sharder draws now context key).outcome = .ok m)
    (vars : Variables) : m.Yields (m.reify vars).result := by
  obtain ⟨_, v, selects⟩ := (Inquiry.ends_selected _ _ _).outcome m given
  refine ⟨v, selects.1, m.reify_ne_reference vars, ?_⟩
  rw [(selects.takes rfl).nested_iff]
  exact m.concrete_reify_iff vars

/-- A read of a snapshot gives what the match of the key is reified to. -/
theorem result_get (w : World) (turn : Nat) : (s.get w turn context key).result =
    (s.tryEvaluateDrawing Murmur3.fraction (w.draws turn) (w.clock turn) context
      key).outcome.toOption.map fun m => (m.reify w.vars).result := by
  unfold get
  rw [Logged.result_bind, result_evaluate]
  cases (s.tryEvaluateDrawing Murmur3.fraction (w.draws turn) (w.clock turn) context
      key).outcome.toOption with
  | none => rfl
  | some m => rfl

/-- Whatever a key is evaluated with and wherever references are read, what is got is no reference,
and it is a distribution exactly if the variant that was selected is one. This holds of a match that
is reified, of a read of a snapshot and of every read of a client. -/
theorem concrete_iff_not_nested :
    (∀ sharder draws now m, (s.tryEvaluateDrawing sharder draws now context key).outcome = .ok m →
      ∀ vars, m.Yields (m.reify vars).result) ∧
    (∀ w turn got, (s.get w turn context key).result = some got →
      ∃ m, (s.tryEvaluateDrawing Murmur3.fraction (w.draws turn) (w.clock turn) context
        key).outcome = .ok m ∧ m.Yields got) ∧
    ∀ (c : Client) (w : World) (passed : Option ContextSet) (ambient : Ambient) (tracked : Bool)
      (got : ConfigValue),
      (((ClientM.resolve tracked w passed key).run ambient).run c).result.1 = some got →
      ∃ m, (c.snapshot.tryEvaluateDrawing Murmur3.fraction (w.draws 0) (w.clock 0)
        (c.lookupFor w.listing ambient passed) key).outcome = .ok m ∧ m.Yields got := by
  refine ⟨fun sharder draws now m given vars => s.yields_reify context key given vars,
    fun w turn got read => ?_, fun c w passed ambient tracked got read => ?_⟩
  · rw [result_get] at read
    obtain ⟨m, found, rfl⟩ := Option.map_eq_some_iff.mp read
    have given := Drawing.ok_of_toOption found
    exact ⟨m, given, s.yields_reify context key given w.vars⟩
  · rw [ClientM.result_resolve] at read
    obtain ⟨m, found, rfl⟩ := Option.map_eq_some_iff.mp read
    have given := Drawing.ok_of_toOption found
    exact ⟨m, given, c.snapshot.yields_reify _ key given w.vars⟩

/-- A key with one conditional value, a distribution with one variant. -/
def soleVariant (variant : Value) : Snapshot :=
  let split : Value := .weighted ⟨[⟨1, variant.plain⟩], none⟩
  let config : Config := ⟨"url", 1, .config, none, [⟨none, .empty, [.always split.plain]⟩], []⟩
  ⟨index [⟨config, ⟨.remote, none⟩⟩], none, .empty⟩

/-- A variant that is a reference is no distribution: it is read, and its text is got. -/
theorem soleVariant_read : ∃ got m v,
    ((soleVariant (.reference ⟨.environment, "URL"⟩)).get
      ⟨fun _ => 0, fun _ _ => .zero false, fun _ => some "https://a.b", .asMerged⟩ 0
        ⟨none, .empty⟩ "url").result = some got ∧ got.value = .string "https://a.b" ∧
    ((soleVariant (.reference ⟨.environment, "URL"⟩)).tryEvaluate (.murmur3 (.zero false)) 0
      ⟨none, .empty⟩ "url").outcome = .ok m ∧
    m.conditional? = some v ∧ ¬ m.Nested v.value := by
  have read : ((soleVariant (.reference ⟨.environment, "URL"⟩)).get
      ⟨fun _ => 0, fun _ _ => .zero false, fun _ => some "https://a.b", .asMerged⟩ 0
        ⟨none, .empty⟩ "url").result.map (fun got => got.value.string?) =
          some (some "https://a.b") := by decide +kernel
  obtain ⟨got, found, text⟩ := Option.map_eq_some_iff.mp read
  have value : got.value = .string "https://a.b" := by
    unfold Value.string? at text
    split at text
    · rename_i held
      rw [held, Option.some.inj text]
    · cases text
  obtain ⟨m, given, v, stands, _, concrete⟩ := (concrete_iff_not_nested
    (soleVariant (.reference ⟨.environment, "URL"⟩)) ⟨none, .empty⟩ "url").2.1 _ _ got found
  refine ⟨got, m, v, found, value, given, stands, concrete.mp ?_⟩
  rw [value]
  exact ⟨nofun, nofun⟩

/-- A variant that is a distribution is got as it is, and nobody selects from it. -/
theorem soleVariant_nested : ∃ got,
    ((soleVariant (.weighted ⟨[⟨1, (Value.string "x").plain⟩], none⟩)).get
      ⟨fun _ => 0, fun _ _ => .zero false, fun _ => none, .asMerged⟩ 0 ⟨none, .empty⟩
        "url").result = some got ∧
    ¬ got.value.Concrete := by
  have read : ((soleVariant (.weighted ⟨[⟨1, (Value.string "x").plain⟩], none⟩)).get
      ⟨fun _ => 0, fun _ _ => .zero false, fun _ => none, .asMerged⟩ 0 ⟨none, .empty⟩
        "url").result.map (fun got => (Row.mk none .empty [.always got]).distributions.isEmpty) =
          some false := by decide +kernel
  obtain ⟨got, found, carries⟩ := Option.map_eq_some_iff.mp read
  refine ⟨got, found, fun concrete => ?_⟩
  have direct : (Row.mk none .empty [.always got]).distributions = [] := by
    refine List.filterMap_eq_nil_iff.mpr fun v only => ?_
    cases List.mem_singleton.mp only
    split
    · rename_i d weighted
      exact (concrete.1 d weighted).elim
    · rfl
  rw [direct] at carries
  cases carries

end Snapshot
end LiveConfig
