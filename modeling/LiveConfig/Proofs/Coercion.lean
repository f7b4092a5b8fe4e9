import Mathlib.Data.List.Forall2
import LiveConfig.Reification
import LiveConfig.Proofs.Text.Blank
import LiveConfig.Proofs.Text.Decimal

/-! What the text of a variable is read as.

A scalar that is written as text is read back from it as the same value, also with white space
around the text unless it is a string; a list is read back from its items joined by commas. A
reference to a variable that is set stands for a value of the declared type, or for the text itself
where this cannot be read as the type. An integer too large for a word is nothing that can be
read. -/
namespace LiveConfig

namespace Text

variable {separates : Char → Bool} {piece rest : List Char}

theorem splitAt_free (free : ∀ c ∈ piece, separates c = false) :
    splitAt separates piece = [piece] := by
  induction piece with
  | nil => rfl
  | cons c piece ih =>
    obtain ⟨first, free⟩ := List.forall_mem_cons.mp free
    have later := ih free
    unfold splitAt at later ⊢
    rw [List.foldr_cons, later, if_neg (by simp [first])]

theorem splitAt_append {c : Char} (free : ∀ c ∈ piece, separates c = false)
    (separator : separates c = true) :
    splitAt separates (piece ++ c :: rest) = piece :: splitAt separates rest := by
  induction piece with
  | nil =>
    unfold splitAt
    rw [List.nil_append, List.foldr_cons, if_pos separator]
  | cons c' piece ih =>
    obtain ⟨first, free⟩ := List.forall_mem_cons.mp free
    have later := ih free
    unfold splitAt at later ⊢
    rw [List.cons_append, List.foldr_cons, later, if_neg (by simp [first])]

/-- Texts without separators are the pieces of the text that they are joined to. -/
theorem splitAt_intercalate {c : Char} {pieces : List (List Char)} (nonempty : pieces ≠ [])
    (free : ∀ piece ∈ pieces, ∀ c ∈ piece, separates c = false) (separator : separates c = true) :
    splitAt separates ([c].intercalate pieces) = pieces := by
  induction pieces with
  | nil => exact (nonempty rfl).elim
  | cons piece pieces ih =>
    obtain ⟨first, free⟩ := List.forall_mem_cons.mp free
    cases pieces with
    | nil => rw [List.intercalate_singleton, splitAt_free first]
    | cons next pieces =>
      rw [List.intercalate_cons_cons, List.append_assoc, List.singleton_append,
        splitAt_append first separator, ih (List.cons_ne_nil _ _) free]

/-- White space around a text brings no separator into it. -/
theorem Padded.free {cs padded : List Char} (around : Padded cs padded)
    (free : ∀ c ∈ cs, separates c = false) (visible : ∀ c, isBlank c = true → separates c = false) :
    ∀ c ∈ padded, separates c = false := by
  obtain ⟨before, after, blank, blank', rfl⟩ := around
  intro c member
  rcases List.mem_append.mp member with first | last
  · rcases List.mem_append.mp first with first | inner
    · exact visible c (blank c first)
    · exact free c inner
  · exact visible c (blank' c last)

end Text

open Text (Padded Bare)

/-- The type that a value can be declared with. A distribution, a reference and a range have
none. -/
def Value.type? : Value → Option ValueType
  | .string _ => some .string
  | .int _ => some .int
  | .double _ => some .double
  | .bool _ => some .bool
  | .stringList _ => some .stringList
  | .duration _ => some .duration
  | .logLevel _ => some .logLevel
  | .bytes _ => some .bytes
  | .weighted _ | .reference _ | .range _ => none

/-- Whatever is read from a text is of the type asked for. -/
theorem type?_of_coerce? {raw : String} {type : ValueType} {v : Value}
    (read : coerce? raw type = some v) : v.type? = some type := by
  cases type with
  | string | stringList | bytes =>
    cases read
    rfl
  | int | double | bool | logLevel =>
    obtain ⟨_, _, rfl⟩ := Option.map_eq_some_iff.mp read
    rfl
  | duration => cases read

section Scalars

variable {cs : List Char} {raw : String}

theorem Decimal.Shows.bare {n : Int} (shown : Shows cs n) : Bare cs := by
  refine Text.bare_of_visible (List.all_eq_true.mpr fun c member => ?_)
  rcases shown.sign_or_digit c member with rfl | rfl | digit
  · decide
  · decide
  · simp only [Char.isDigit, Bool.and_eq_true, decide_eq_true_eq] at digit
    obtain ⟨least, greatest⟩ := digit
    have low : 48 ≤ c.toNat := UInt32.le_iff_toNat_le.mp least
    have high : c.toNat ≤ 57 := UInt32.le_iff_toNat_le.mp greatest
    simp only [Bool.and_eq_true, decide_eq_true_eq]
    omega

/-- An integer is read from the texts that show it, with white space around them or not. -/
theorem coerce?_int {n : Int64} (around : Padded cs raw.toList) (shown : Decimal.Shows cs n.toInt) :
    coerce? raw .int = some (.int n) := by
  rw [coerce?, around.trim_eq shown.bare, Decimal.readInt64?_eq_some_iff.mpr shown, Option.map_some]

theorem coerce?_bool {b : Bool} (around : Padded (Value.boolText b).toList raw.toList) :
    coerce? raw .bool = some (.bool b) := by
  have bare : Bare (Value.boolText b).toList := by
    cases b <;> exact Text.bare_of_visible rfl
  rw [coerce?, around.trim_eq bare]
  cases b <;> rfl

theorem coerce?_logLevel {l : LogLevel} (around : Padded l.name.toList raw.toList) :
    coerce? raw .logLevel = some (.logLevel l) := by
  have bare : Bare l.name.toList := by
    cases l <;> exact Text.bare_of_visible rfl
  rw [coerce?, around.trim_eq bare]
  cases l <;> rfl

end Scalars

/-- The value is written as a text, and read from it again; unless it is a string, white space may
stand around the text. -/
def Value.Restored (v : Value) (type : ValueType) : Prop :=
  ∃ t, v.scalarText? = some t ∧ coerce? t type = some v ∧
    (type ≠ .string → ∀ raw : String, Padded t.toList raw.toList → coerce? raw type = some v)

theorem Value.restored {v : Value} {type : ValueType} (typed : v.type? = some type)
    (exact : type ∈ [.string, .int, .bool, .logLevel]) : v.Restored type := by
  cases v with
  | string s =>
    cases typed
    exact ⟨s, rfl, rfl, fun other => (other rfl).elim⟩
  | int n =>
    cases typed
    have read : ∀ raw : String, Padded (Decimal.text n.toInt).toList raw.toList →
        coerce? raw .int = some (.int n) := by
      intro raw around
      rw [Decimal.text, String.toList_ofList] at around
      exact coerce?_int around (Decimal.shows_write n.toInt)
    exact ⟨_, rfl, read _ (.refl _), fun _ => read⟩
  | bool b =>
    cases typed
    exact ⟨_, rfl, coerce?_bool (.refl _), fun _ raw => coerce?_bool⟩
  | logLevel l =>
    cases typed
    exact ⟨_, rfl, coerce?_logLevel (.refl _), fun _ raw => coerce?_logLevel⟩
  | double | stringList | duration | bytes =>
    cases typed
    simp at exact
  | weighted | reference | range => cases typed

namespace Coercion

/-- The items are joined by commas, with white space around the commas and at the ends. None of
them is empty, has a comma or has white space at an end. -/
def Joins (items : List String) (raw : String) : Prop :=
  (∀ item ∈ items, item ≠ "" ∧ ',' ∉ item.toList ∧ Bare item.toList) ∧
    ∃ pieces, items.Forall₂ (fun item piece => Padded item.toList piece) pieces ∧
      raw.toList = [','].intercalate pieces

theorem comma_not_blank (c : Char) (blank : Text.isBlank c = true) : decide (c = ',') = false := by
  refine decide_eq_false fun same => ?_
  rw [same, Text.isBlank_of_visible (by decide) (by decide)] at blank
  cases blank

/-- Trimming the pieces gives the items back. -/
theorem map_trim_pieces {items : List String} {pieces : List (List Char)}
    (bare : ∀ item ∈ items, Bare item.toList)
    (padded : items.Forall₂ (fun item piece => Padded item.toList piece) pieces) :
    pieces.map Text.trim = items.map String.toList := by
  induction padded with
  | nil => rfl
  | cons around _ ih =>
    obtain ⟨first, others⟩ := List.forall_mem_cons.mp bare
    rw [List.map_cons, List.map_cons, around.trim_eq first, ih others]

theorem comma_free_pieces {items : List String} {pieces : List (List Char)}
    (free : ∀ item ∈ items, ',' ∉ item.toList)
    (padded : items.Forall₂ (fun item piece => Padded item.toList piece) pieces) :
    ∀ piece ∈ pieces, ∀ c ∈ piece, decide (c = ',') = false := by
  induction padded with
  | nil => nofun
  | cons around _ ih =>
    obtain ⟨first, others⟩ := List.forall_mem_cons.mp free
    refine List.forall_mem_cons.mpr ⟨around.free (fun c member => ?_) comma_not_blank, ih others⟩
    exact decide_eq_false fun same => first (same ▸ member)

theorem itemsOfText_of_joins {items : List String} {raw : String} (joins : Joins items raw) :
    itemsOfText raw.toList = items := by
  obtain ⟨sound, pieces, padded, joined⟩ := joins
  have bare : ∀ item ∈ items, Bare item.toList := fun item member => (sound item member).2.2
  have free : ∀ item ∈ items, ',' ∉ item.toList := fun item member => (sound item member).2.1
  have full : ∀ item ∈ items.map String.toList, (!item.isEmpty) = true := by
    intro item member
    obtain ⟨text, given, rfl⟩ := List.mem_map.mp member
    simpa using (sound text given).1
  cases padded with
  | nil =>
    rw [joined]
    rfl
  | cons around padded =>
    have split := Text.splitAt_intercalate (List.cons_ne_nil _ _)
      (comma_free_pieces free (.cons around padded)) (c := ',') rfl
    rw [itemsOfText, joined, split, map_trim_pieces bare (.cons around padded),
      List.filter_eq_self.mpr full, List.map_map]
    simp

/-- What a reference to a set variable stands for: the value that its text is read as, which is of
the declared type, or the text itself, and this only where the text cannot be read or a string is
asked for. -/
structure Stands (raw : String) (type : ValueType) (got : Value) : Prop where
  read (v : Value) : coerce? raw type = some v → got = v ∧ v.type? = some type
  kept : coerce? raw type = none → got = .string raw
  typed_or_kept : got.type? = some type ∨ got = .string raw
  exact : type ≠ .string → (got = .string raw ↔ coerce? raw type = none)

theorem stands_getD (raw : String) (type : ValueType) :
    Stands raw type ((coerce? raw type).getD (.string raw)) := by
  constructor
  case read =>
    intro v read
    rw [read]
    exact ⟨rfl, type?_of_coerce? read⟩
  case kept =>
    intro failed
    rw [failed]
    rfl
  case typed_or_kept =>
    cases read : coerce? raw type with
    | none => exact .inr rfl
    | some v => exact .inl (type?_of_coerce? read)
  case exact =>
    intro other
    cases read : coerce? raw type with
    | none => exact ⟨fun _ => rfl, fun _ => rfl⟩
    | some v =>
      refine ⟨fun kept => ?_, nofun⟩
      have typed := type?_of_coerce? read
      rw [Option.getD_some] at kept
      rw [kept] at typed
      cases typed
      exact (other rfl).elim

theorem stands_reify {m : Match} {r : Reference} {vars : Variables} {raw : String}
    {type : ValueType} (refers : m.value.value = .reference r) (source : r.source = .environment)
    (held : vars r.lookup = some raw) (declared : m.element.config.valueType = some type) :
    Stands raw type (m.reify vars).result.value := by
  have got : (m.reify vars).result.value = (coerce? raw type).getD (.string raw) := by
    unfold Match.reify
    simp only [refers, Reference.read, source, held, declared, Logged.result_bind,
      Logged.result_pure]
    cases coerce? raw type <;> rfl
  rw [got]
  exact stands_getD raw type

theorem coerce?_int_eq_some_iff {raw : String} {v : Value} : coerce? raw .int = some v ↔
    ∃ n : Int64, v = .int n ∧ Decimal.Shows (Text.trim raw.toList) n.toInt := by
  rw [coerce?, Option.map_eq_some_iff]
  constructor
  · rintro ⟨n, read, rfl⟩
    exact ⟨n, rfl, Decimal.readInt64?_eq_some_iff.mp read⟩
  · rintro ⟨n, rfl, shown⟩
    exact ⟨n, Decimal.readInt64?_eq_some_iff.mpr shown, rfl⟩

/-- Reading undoes writing: of strings, of integers, truth values and levels also with white space
around the text, and of lists. A reference to a set variable stands for a value of the declared type
or for the text. The integer that is read is the one that the text shows, and of an integer that
no word holds nothing is read. -/
theorem undoes_text :
    (∀ (v : Value) (type : ValueType), v.type? = some type →
      type ∈ [.string, .int, .bool, .logLevel] → v.Restored type) ∧
    (∀ items raw, Joins items raw → coerce? raw .stringList = some (.stringList items)) ∧
    (∀ (m : Match) (r : Reference) (vars : Variables) (raw : String) (type : ValueType),
      m.value.value = .reference r → r.source = .environment → vars r.lookup = some raw →
      m.element.config.valueType = some type → Stands raw type (m.reify vars).result.value) ∧
    (∀ raw v, coerce? raw .int = some v ↔
      ∃ n : Int64, v = .int n ∧ Decimal.Shows (Text.trim raw.toList) n.toInt) ∧
    ∀ raw n, Decimal.Shows (Text.trim raw.toList) n →
      n < Int64.minValue.toInt ∨ Int64.maxValue.toInt < n → coerce? raw .int = none := by
  refine ⟨fun v type => v.restored, fun items raw joins => ?_,
    fun m r vars raw type => stands_reify, fun raw v => coerce?_int_eq_some_iff,
    fun raw n shown beyond => ?_⟩
  · rw [coerce?, itemsOfText_of_joins joins]
  · rw [coerce?, Decimal.readInt64?_of_beyond shown beyond, Option.map_none]

/-- A match of a config for an integer, whose value is kept in a variable. -/
def limitMatch : Match :=
  ⟨(Value.reference ⟨.environment, "LIMIT"⟩).plain,
    ⟨⟨"limit", 1, .config, some .int, [], []⟩, ⟨.remote, none⟩⟩, [], 0, 0, none⟩

theorem at_the_limits :
    coerce? "\t-9223372036854775808 " .int = some (.int Int64.minValue) ∧
    coerce? "a , b c" .stringList = some (.stringList ["a", "b c"]) ∧
    Stands "9223372036854775808" .int
      (limitMatch.reify fun _ => some "9223372036854775808").result.value ∧
    coerce? "9223372036854775808" .int = none := by
  have blank : [' ', '\t'].all Text.isBlank = true := by
    rw [Text.isBlank_eq]
    rfl
  have blank := List.all_eq_true.mp blank
  have joins : Joins ["a", "b c"] "a , b c" := by
    refine ⟨?_, [['a', ' '], [' ', 'b', ' ', 'c']], .cons ?_ (.cons ?_ .nil), by decide⟩
    · refine List.forall_mem_cons.mpr ⟨⟨by decide, by decide, ?_⟩,
        List.forall_mem_singleton.mpr ⟨by decide, by decide, ?_⟩⟩
      · exact Text.bare_of_visible rfl
      · constructor <;> rintro _ ⟨⟩ <;> exact Text.isBlank_of_visible (by decide) (by decide)
    · exact ⟨[], [' '], nofun, fun c member => blank c (by simp_all), rfl⟩
    · exact ⟨[' '], [], fun c member => blank c (by simp_all), nofun, rfl⟩
  obtain ⟨scalars, lists, references, _, beyond⟩ := undoes_text
  refine ⟨?_, ?_, references limitMatch _ _ _ _ rfl rfl rfl rfl, beyond _ 9223372036854775808 ?_ ?_⟩
  · obtain ⟨t, text, _, padded⟩ := scalars (.int Int64.minValue) .int rfl (by decide)
    cases text
    refine padded (by decide) _ ⟨['\t'], [' '], ?_, ?_, by decide +kernel⟩
    · exact fun c member => blank c (by simp_all)
    · exact fun c member => blank c (by simp_all)
  · exact lists _ _ joins
  · have digits : Decimal.Shows "9223372036854775808".toList 9223372036854775808 :=
      Decimal.read?_eq_some_iff.mp (by decide +kernel)
    rwa [(Padded.refl _).trim_eq digits.bare]
  · decide

end Coercion
end LiveConfig
