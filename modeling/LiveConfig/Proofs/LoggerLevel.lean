import Mathlib.Data.List.Nodup
import Mathlib.Data.List.TakeWhile
import LiveConfig.LoggerLevel
import LiveConfig.Proofs.Evaluation.Logging

/-! Which names a logger inherits its level from.

The ancestors of a name are the name itself, what stands in it before one of its dots, and the empty
name. They are asked from the longest to the shortest, each once, until one gives a level, and no
other name is: that `app` begins like `application` does not make it an ancestor. Names may begin
or end with dots or have some in a row; the empty name has no ancestor but itself. -/
namespace LiveConfig

/-- The name itself, what stands in it before one of its dots, or the empty name. -/
def DottedAncestor (p name : List Char) : Prop := p = name ∨ p = [] ∨ p ++ ['.'] <+: name

instance (p name : List Char) : Decidable (DottedAncestor p name) :=
  inferInstanceAs (Decidable (_ ∨ _ ∨ _))

section Ancestry

variable {p rest name : List Char}

theorem DottedAncestor.length_le (above : DottedAncestor p name) : p.length ≤ name.length := by
  rcases above with rfl | rfl | before
  · exact Nat.le_refl _
  · exact Nat.zero_le _
  · have bound := before.length_le
    rw [List.length_append] at bound
    exact Nat.le_of_add_right_le bound

theorem dottedAncestor_nil : DottedAncestor p [] ↔ p = [] := by
  simp [DottedAncestor]

/-- A name ends with what stands behind its last dot. -/
theorem exists_last_dot (dotted : '.' ∈ name) :
    ∃ p rest, name = p ++ '.' :: rest ∧ '.' ∉ rest := by
  obtain ⟨rest, p, split, last⟩ := List.eq_append_cons_of_mem (List.mem_reverse.mpr dotted)
  refine ⟨p.reverse, rest.reverse, ?_, fun member => last (List.mem_reverse.mp member)⟩
  have turned := congrArg List.reverse split
  simpa using turned

theorem dottedParent_append (last : '.' ∉ rest) : Text.dottedParent (p ++ '.' :: rest) = p := by
  have passed : ∀ c ∈ rest.reverse, (c ≠ '.' : Bool) = true := fun c member =>
    decide_eq_true fun same => last (same ▸ List.mem_reverse.mp member)
  unfold Text.dottedParent
  rw [List.reverse_append, List.reverse_cons, List.append_assoc,
    List.dropWhile_append_of_pos passed]
  simp

theorem dottedParent_of_no_dot (plain : '.' ∉ name) : Text.dottedParent name = [] := by
  have passed : ∀ c ∈ name.reverse, (c ≠ '.' : Bool) = true := fun c member =>
    decide_eq_true fun same => plain (same ▸ List.mem_reverse.mp member)
  unfold Text.dottedParent
  rw [List.dropWhile_eq_nil_iff.mpr passed]
  rfl

/-- Behind the last dot there is no place for a further ancestor. -/
theorem append_dot_prefix_iff {q : List Char} (last : '.' ∉ rest) :
    q ++ ['.'] <+: p ++ '.' :: rest ↔ q = p ∨ q ++ ['.'] <+: p := by
  constructor
  · rintro ⟨tail, split⟩
    rw [List.append_assoc, List.singleton_append, List.append_eq_append_iff] at split
    rcases split with ⟨_ | ⟨c, more⟩, longer, between⟩ | ⟨_ | ⟨c, more⟩, longer, between⟩
    · exact .inl (by simpa using longer.symm)
    · cases between
      exact .inr ⟨more, by simp [longer]⟩
    · exact .inl (by simpa using longer)
    · cases between
      simp at last
  · rintro (rfl | ⟨tail, rfl⟩)
    · exact ⟨rest, by simp⟩
    · exact ⟨tail ++ '.' :: rest, by simp⟩

/-- The ancestors of a name are the name and the ancestors of its parent. -/
theorem dottedAncestor_iff_parent (named : name ≠ []) : DottedAncestor p name ↔
    p = name ∨ DottedAncestor p (Text.dottedParent name) := by
  by_cases dotted : '.' ∈ name
  · obtain ⟨parent, rest, rfl, last⟩ := exists_last_dot dotted
    rw [dottedParent_append last, DottedAncestor, append_dot_prefix_iff last, DottedAncestor]
    constructor <;> rintro (h | h | h | h) <;> simp [h]
  · have none : ¬ p ++ ['.'] <+: name := fun before =>
      dotted (before.subset (by simp))
    rw [dottedParent_of_no_dot dotted, dottedAncestor_nil, DottedAncestor]
    simp [none]

theorem length_dottedParent_lt (named : name ≠ []) :
    (Text.dottedParent name).length < name.length := by
  have shorter := Text.dottedParent_length_le name
  have := List.length_pos_iff.mpr named
  omega

theorem loggerAncestry_nil : loggerAncestry [] = [[]] := by
  rw [loggerAncestry]
  rfl

theorem loggerAncestry_of_ne_nil (named : name ≠ []) :
    loggerAncestry name = name :: loggerAncestry (Text.dottedParent name) := by
  rw [loggerAncestry, if_neg fun empty => named (List.isEmpty_iff.mp empty)]

theorem mem_loggerAncestry : p ∈ loggerAncestry name ↔ DottedAncestor p name := by
  induction name using loggerAncestry.induct with
  | case1 name empty =>
    rw [List.isEmpty_iff.mp empty, loggerAncestry_nil, List.mem_singleton, dottedAncestor_nil]
  | case2 name named ih =>
    have named : name ≠ [] := fun empty => named (List.isEmpty_iff.mpr empty)
    rw [loggerAncestry_of_ne_nil named, List.mem_cons, ih, dottedAncestor_iff_parent named]

/-- Each ancestor is shorter than the one asked before it. -/
theorem loggerAncestry_shrinks (name : List Char) :
    (loggerAncestry name).Pairwise fun p q => q.length < p.length := by
  induction name using loggerAncestry.induct with
  | case1 name empty =>
    rw [List.isEmpty_iff.mp empty, loggerAncestry_nil]
    exact List.pairwise_singleton _ _
  | case2 name named ih =>
    have named : name ≠ [] := fun empty => named (List.isEmpty_iff.mpr empty)
    rw [loggerAncestry_of_ne_nil named]
    refine List.pairwise_cons.mpr ⟨fun q above => ?_, ih⟩
    exact Nat.lt_of_le_of_lt (mem_loggerAncestry.mp above).length_le (length_dottedParent_lt named)

theorem nodup_loggerAncestry (name : List Char) : (loggerAncestry name).Nodup :=
  (loggerAncestry_shrinks name).imp fun shorter same => by
    rw [same] at shorter
    exact Nat.lt_irrefl _ shorter

/-- One name more than there are dots, and the empty one. -/
theorem length_loggerAncestry_le (name : List Char) :
    (loggerAncestry name).length ≤ name.count '.' + 2 := by
  induction name using loggerAncestry.induct with
  | case1 name empty =>
    rw [List.isEmpty_iff.mp empty, loggerAncestry_nil]
    decide
  | case2 name named ih =>
    have named : name ≠ [] := fun empty => named (List.isEmpty_iff.mpr empty)
    rw [loggerAncestry_of_ne_nil named, List.length_cons]
    by_cases dotted : '.' ∈ name
    · obtain ⟨parent, rest, rfl, last⟩ := exists_last_dot dotted
      rw [dottedParent_append last] at ih ⊢
      rw [List.count_append, List.count_cons_self]
      omega
    · rw [dottedParent_of_no_dot dotted, loggerAncestry_nil]
      simp

example : DottedAncestor "app.".toList "app..db".toList ∧
    ¬ DottedAncestor "app".toList "application".toList := by decide

end Ancestry

/-- Names have different keys. -/
theorem levelKey_injective {p q : List Char} (same : levelKey p = levelKey q) : p = q := by
  have texts : (levelKey p).toList = (levelKey q).toList := congrArg String.toList same
  have shape (name : List Char) : (levelKey name).toList =
      levelKeyStart.toList ++ if name = [] then [] else '.' :: name := by
    unfold levelKey
    cases name <;> simp
  rw [shape, shape, List.append_cancel_left_eq] at texts
  split at texts <;> split at texts <;> simp_all

/-- The key of the evaluation that a record reports the end of. -/
def LogEvent.concluded? : LogEvent → Option String
  | .evaluated key .. | .noValue key _ | .failed key _ => some key
  | _ => none

/-- The keys that have been evaluated, in order. -/
def Logged.asked {α : Type} (x : Logged α) : List String := x.events.filterMap LogEvent.concluded?

@[simp] theorem Logged.asked_pure {α : Type} (a : α) : (pure a : Logged α).asked = [] := rfl

@[simp] theorem Logged.asked_bind {α β : Type} (x : Logged α) (f : α → Logged β) :
    (x >>= f).asked = x.asked ++ (f x.result).asked := List.filterMap_append

/-- The names up to the first that gives something, this one included. -/
def upToFirst {α : Type} (give : List Char → Option α) : List (List Char) → List (List Char)
  | [] => []
  | name :: names => name :: if (give name).isSome then [] else upToFirst give names

section UpToFirst

variable {α : Type} {give : List Char → Option α} {names : List (List Char)}

/-- Of names that get shorter those are met that have no longer one that gives something. -/
theorem mem_upToFirst (shrinks : names.Pairwise fun p q => q.length < p.length) {p : List Char} :
    p ∈ upToFirst give names ↔
      p ∈ names ∧ ∀ longer ∈ names, p.length < longer.length → give longer = none := by
  induction names with
  | nil => simp [upToFirst]
  | cons name names ih =>
    obtain ⟨shorter, shrinks⟩ := List.pairwise_cons.mp shrinks
    rw [upToFirst, List.mem_cons, List.mem_cons, List.forall_mem_cons]
    constructor
    · rintro (rfl | later)
      · refine ⟨.inl rfl, fun longer => (Nat.lt_irrefl _ longer).elim, fun q member longer => ?_⟩
        exact (Nat.lt_asymm (shorter q member) longer).elim
      · split at later
        · cases later
        · rename_i silent
          obtain ⟨member, before⟩ := (ih shrinks).mp later
          exact ⟨.inr member, fun _ => Option.not_isSome_iff_eq_none.mp silent, before⟩
    · rintro ⟨rfl | member, first, before⟩
      · exact .inl rfl
      · refine .inr ?_
        rw [first (shorter p member)]
        exact (ih shrinks).mpr ⟨member, before⟩

theorem upToFirst_sublist : (upToFirst give names).Sublist names := by
  induction names with
  | nil => exact .slnil
  | cons name names ih =>
    rw [upToFirst]
    refine .cons_cons name ?_
    split
    · exact List.nil_sublist names
    · exact ih

/-- What is found is what one of the names that are met gives. -/
theorem findSome?_eq_some_iff_upToFirst {a : α} :
    names.findSome? give = some a ↔ ∃ p ∈ upToFirst give names, give p = some a := by
  induction names with
  | nil => simp [upToFirst]
  | cons name names ih =>
    rw [upToFirst, List.findSome?_cons]
    cases given : give name with
    | some b => simp [given]
    | none => simp [given, ih]

end UpToFirst

namespace Snapshot

variable {s s' : Snapshot} {w : World} {context : LookupContext} {key : String} {turn : Nat}

/-- The records on the way to a match report the end of no evaluation. -/
theorem Remarks.concludes_nothing {record : LogEvent} (remark : s.Remarks record) :
    record.concluded? = none := by
  cases remark <;> rfl

theorem asked_evaluate (sharder : Sharder) (draws : Draws) (now : Int64) :
    (s.evaluate sharder draws now context key).asked = [key] := by
  have silent : (s.tryEvaluateDrawing sharder draws now context key).run.asked = [] := by
    refine List.filterMap_eq_nil_iff.mpr fun record logged => ?_
    exact (remarks_tryEvaluateDrawing logged).concludes_nothing
  unfold evaluate
  rw [Logged.asked_bind, silent, List.nil_append]
  cases (s.tryEvaluateDrawing sharder draws now context key).run.result with
  | ok m => rfl
  | error reason => cases normal : reason.isNormal <;> simp [normal] <;> rfl

theorem asked_reify (m : Match) (vars : Variables) : (m.reify vars).asked = [] := by
  unfold Match.reify
  split
  · rename_i r _
    have silent : (r.read vars m.key m.element.config.valueType).asked = [] := by
      unfold Reference.read
      cases r.source with
      | unknown => rfl
      | environment =>
        cases vars r.lookup with
        | none => rfl
        | some raw =>
          cases m.element.config.valueType with
          | none => rfl
          | some type =>
            simp only
            split <;> rfl
    rw [Logged.asked_bind, silent]
    rfl
  · rfl

theorem asked_get : (s.get w turn context key).asked = [key] := by
  unfold get
  rw [Logged.asked_bind, asked_evaluate]
  cases (s.evaluate Murmur3.fraction (w.draws turn) (w.clock turn) context key).result with
  | none => rfl
  | some m =>
    simp only [Logged.asked_bind, asked_reify, Logged.asked_pure, List.append_nil]

def levelAt (s : Snapshot) (w : World) (context : LookupContext) (turn : Nat)
    (name : List Char) : Option LogLevel :=
  (s.get w turn context (levelKey name)).result.bind fun v => v.value.logLevel?

/-- Names are asked in their order until one gives a level. -/
theorem firstLevel_spec {give : List Char → Option LogLevel} {names : List (List Char)}
    (given : ∀ i p, names[i]? = some p → s.levelAt w context (turn + i) p = give p) :
    (s.firstLevel w context turn names).result = names.findSome? give ∧
      (s.firstLevel w context turn names).asked = (upToFirst give names).map levelKey := by
  induction names generalizing turn with
  | nil => exact ⟨rfl, rfl⟩
  | cons name names ih =>
    have own : s.levelAt w context turn name = give name := given 0 name rfl
    obtain ⟨result, asked⟩ := @ih (turn + 1) fun i p found => by
      rw [Nat.add_right_comm, Nat.add_assoc]
      exact given (i + 1) p found
    unfold levelAt at own
    unfold firstLevel
    rw [Logged.result_bind, Logged.asked_bind, asked_get, own, List.findSome?_cons, upToFirst]
    cases give name with
    | some level => exact ⟨rfl, rfl⟩
    | none => exact ⟨result, congrArg (levelKey name :: ·) asked⟩

theorem firstLevel_congr {names : List (List Char)} (alike : ∀ turn, ∀ p ∈ names,
      s'.get w turn context (levelKey p) = s.get w turn context (levelKey p)) :
    s'.firstLevel w context turn names = s.firstLevel w context turn names := by
  induction names generalizing turn with
  | nil => rfl
  | cons name names ih =>
    obtain ⟨own, others⟩ := List.forall_mem_cons.mp fun p member turn => alike turn p member
    unfold firstLevel
    rw [own turn]
    refine Logged.bind_congr ?_
    rw [ih fun turn p member => others p member turn]

/-- The level that an ancestor of a logger gives when it is asked, which is after its longer
ones. -/
def levelOf (s : Snapshot) (w : World) (context : LookupContext) (name p : List Char) :
    Option LogLevel :=
  s.levelAt w context ((loggerAncestry name).idxOf p) p

/-- An ancestor of a logger's name has no longer one that gives a level. -/
def Reaches (s : Snapshot) (w : World) (context : LookupContext) (name p : List Char) : Prop :=
  DottedAncestor p name ∧ ∀ longer, DottedAncestor longer name → p.length < longer.length →
    s.levelOf w context name longer = none

/-- How a logger comes to its level. -/
structure Inherits (s : Snapshot) (w : World) (context : LookupContext) (logger : String) :
    Prop where
  /-- It has the level of the longest ancestor that gives one. -/
  found (level : LogLevel) : (s.levelFor w context logger).result = some level ↔
    ∃ p, s.Reaches w context logger.toList p ∧ s.levelOf w context logger.toList p = some level
  /-- It has none only if no ancestor gives one. -/
  absent : (s.levelFor w context logger).result = none ↔
    ∀ p, DottedAncestor p logger.toList → s.levelOf w context logger.toList p = none
  /-- The ancestors up to this one are asked, from the longest to the shortest, each once. -/
  asked : ∃ names : List (List Char), (s.levelFor w context logger).asked = names.map levelKey ∧
    (names.Pairwise fun p q => q.length < p.length) ∧
    ∀ p, p ∈ names ↔ s.Reaches w context logger.toList p
  /-- No key of another name is asked. -/
  only (p : List Char) : levelKey p ∈ (s.levelFor w context logger).asked →
    DottedAncestor p logger.toList
  /-- At most one more name is asked than there are dots, and the empty one. -/
  few : (s.levelFor w context logger).asked.length ≤ logger.toList.count '.' + 2
  /-- It makes no difference what a snapshot gives under other keys. -/
  alike (s' : Snapshot) : (∀ turn p, DottedAncestor p logger.toList →
      s'.get w turn context (levelKey p) = s.get w turn context (levelKey p)) →
    s'.levelFor w context logger = s.levelFor w context logger

/-- An ancestor is asked in the turn that is its place among the ancestors. -/
theorem levelFor_spec (s : Snapshot) (w : World) (context : LookupContext) (logger : String) :
    (s.levelFor w context logger).result =
      (loggerAncestry logger.toList).findSome? (s.levelOf w context logger.toList) ∧
    (s.levelFor w context logger).asked = (upToFirst (s.levelOf w context logger.toList)
      (loggerAncestry logger.toList)).map levelKey := by
  refine firstLevel_spec fun i p found => ?_
  obtain ⟨inside, rfl⟩ := List.getElem?_eq_some_iff.mp found
  rw [levelOf, (nodup_loggerAncestry logger.toList).idxOf_getElem, Nat.zero_add]

theorem mem_upToFirst_levelOf {name p : List Char} :
    p ∈ upToFirst (s.levelOf w context name) (loggerAncestry name) ↔
      s.Reaches w context name p := by
  simp only [mem_upToFirst (loggerAncestry_shrinks name), mem_loggerAncestry, Reaches]

end Snapshot
end LiveConfig
