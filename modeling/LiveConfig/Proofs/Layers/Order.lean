import Mathlib.Data.List.Induction
import Mathlib.Data.List.Pairwise
import LiveConfig.Proofs.Layers.Run

/-! The order of deliveries.

A removed key keeps no id, so a config that comes after a newer tombstone is held all the same. What
a run leaves under a key is the newest of its configs that no newer tombstone follows. This is what
the newest arrival of all asks for, unless that one is a tombstone and a config has outrun it; only
then does the order matter. -/
namespace LiveConfig

variable {arrivals arrivals' : List Arrival} {a b x : Arrival} {key : String}

/-- No two arrivals for one key have the same id. -/
def Distinct (arrivals : List Arrival) : Prop :=
  arrivals.Pairwise fun a b => a.key = b.key → a.id ≠ b.id

theorem Distinct.eq (distinct : Distinct arrivals) (ha : a ∈ arrivals) (hb : b ∈ arrivals)
    (sameKey : a.key = b.key) (sameId : a.id = b.id) : a = b := by
  by_contra apart
  have symmetric : Std.Symm fun a b : Arrival => a.key = b.key → a.id ≠ b.id :=
    ⟨fun _ _ differ same => (differ same.symm).symm⟩
  exact List.Pairwise.forall distinct ha hb apart sameKey sameId

/-- A config that no newer tombstone of its key follows. -/
def Survives (arrivals : List Arrival) (a : Arrival) : Prop :=
  a.1.isTombstone = false ∧ ∃ before after, arrivals = before ++ a :: after ∧
    ∀ t ∈ after, t.key = a.key → t.1.isTombstone = true → t.id < a.id

theorem Survives.mem (survives : Survives arrivals a) : a ∈ arrivals := by
  obtain ⟨_, before, after, rfl, _⟩ := survives
  exact List.mem_append_right before List.mem_cons_self

/-- One more arrival survives unless it is a tombstone, and then removes what is older. -/
theorem survives_snoc : Survives (arrivals ++ [x]) a ↔
    (Survives arrivals a ∧ (x.key = a.key → x.1.isTombstone = true → x.id < a.id)) ∨
      (a = x ∧ x.1.isTombstone = false) := by
  constructor
  · rintro ⟨config, before, after, split, older⟩
    cases after using List.reverseRecOn with
    | nil =>
      obtain ⟨_, same⟩ := List.append_inj' split rfl
      cases same
      exact .inr ⟨rfl, config⟩
    | append_singleton after y =>
      rw [← List.cons_append, ← List.append_assoc] at split
      obtain ⟨same, last⟩ := List.append_inj' split rfl
      cases last
      refine .inl ⟨⟨config, before, after, same, fun t ht => ?_⟩, ?_⟩
      · exact older t (List.mem_append_left _ ht)
      · exact older x (List.mem_append_right _ List.mem_cons_self)
  · rintro (⟨⟨config, before, after, rfl, older⟩, last⟩ | ⟨rfl, config⟩)
    · refine ⟨config, before, after ++ [x], by simp, fun t ht => ?_⟩
      rcases List.mem_append.mp ht with ht | ht
      · exact older t ht
      · cases List.mem_singleton.mp ht
        exact last
    · exact ⟨config, arrivals, [], rfl, fun t ht => absurd ht List.not_mem_nil⟩

/-- What may be held under a key after a run: the newest of the configs that survive. -/
def IsHeld (arrivals : List Arrival) (key : String) : Option Element → Prop
  | none => ∀ a, Survives arrivals a → a.key ≠ key
  | some e => ∃ a, Survives arrivals a ∧ a.key = key ∧ e = ⟨a.1, a.2⟩ ∧
      ∀ b, Survives arrivals b → b.key = key → b.id ≤ a.id

/-- An accepted arrival is newer than all that survives. -/
theorem isHeld_wanted (newest : ∀ b, Survives arrivals b → b.key = x.key → b.id < x.id) :
    IsHeld (arrivals ++ [x]) x.key x.wanted := by
  unfold Arrival.wanted
  cases config : x.1.isTombstone with
  | true =>
    intro b survives ofKey
    rcases survives_snoc.mp survives with ⟨earlier, older⟩ | ⟨rfl, isConfig⟩
    · have first := newest b earlier ofKey
      have second := older ofKey.symm config
      rw [Int64.lt_iff_toInt_lt] at first second
      omega
    · rw [config] at isConfig
      cases isConfig
  | false =>
    refine ⟨x, survives_snoc.mpr (.inr ⟨rfl, config⟩), rfl, rfl, fun b survives ofKey => ?_⟩
    rcases survives_snoc.mp survives with ⟨earlier, _⟩ | ⟨rfl, _⟩
    · exact Int64.le_of_lt (newest b earlier ofKey)
    · exact Int64.le_refl _

theorem isHeld_leaves {held : Option Element} (distinct : Distinct (arrivals ++ [x]))
    (holds : IsHeld arrivals x.key held) : IsHeld (arrivals ++ [x]) x.key (x.leaves held) := by
  cases held with
  | none => exact isHeld_wanted fun b survives ofKey => (holds b survives ofKey).elim
  | some e =>
    obtain ⟨a, survives, ofKey, rfl, newest⟩ := holds
    by_cases stale : x.id < a.id
    · have kept : x.leaves (some ⟨a.1, a.2⟩) = some ⟨a.1, a.2⟩ := if_pos stale
      rw [kept]
      refine ⟨a, survives_snoc.mpr (.inl ⟨survives, fun _ _ => stale⟩), ofKey, rfl, ?_⟩
      intro b later keyB
      rcases survives_snoc.mp later with ⟨earlier, _⟩ | ⟨rfl, _⟩
      · exact newest b earlier keyB
      · exact Int64.le_of_lt stale
    · have replaced : x.leaves (some ⟨a.1, a.2⟩) = x.wanted := if_neg stale
      have apart : a.id ≠ x.id :=
        (List.pairwise_append.mp distinct).2.2 a survives.mem x List.mem_cons_self ofKey
      rw [replaced]
      refine isHeld_wanted fun b earlier keyB => ?_
      have bound := newest b earlier keyB
      rw [ne_eq, ← Int64.toInt_inj] at apart
      rw [Int64.lt_iff_toInt_lt] at stale ⊢
      rw [Int64.le_iff_toInt_le] at bound
      omega

theorem isHeld_other {held : Option Element} (other : key ≠ x.key)
    (holds : IsHeld arrivals key held) : IsHeld (arrivals ++ [x]) key held := by
  have same : ∀ a : Arrival, a.key = key →
      (Survives (arrivals ++ [x]) a ↔ Survives arrivals a) := by
    intro a ofKey
    rw [survives_snoc]
    constructor
    · rintro (⟨survives, _⟩ | ⟨rfl, _⟩)
      · exact survives
      · exact (other ofKey.symm).elim
    · exact fun survives => .inl ⟨survives, fun ofX => (other (ofKey.symm.trans ofX.symm)).elim⟩
  cases held with
  | none => exact fun a survives ofKey => holds a ((same a ofKey).mp survives) ofKey
  | some e =>
    obtain ⟨a, survives, ofKey, rfl, newest⟩ := holds
    exact ⟨a, (same a ofKey).mpr survives, ofKey, rfl,
      fun b ofB keyB => newest b ((same b keyB).mp ofB) keyB⟩

/-- A run over an empty delivered layer holds what its arrivals ask for. -/
theorem isHeld_applyAll (l : Layers) (absent : l.delivered.get? key = none)
    (distinct : Distinct arrivals) :
    IsHeld arrivals key ((l.applyAll arrivals).result.delivered.get? key) := by
  induction arrivals using List.reverseRecOn with
  | nil =>
    change IsHeld [] key (l.delivered.get? key)
    rw [absent]
    exact fun a survives => absurd survives.mem List.not_mem_nil
  | append_singleton arrivals x ih =>
    have before := ih (List.pairwise_append.mp distinct).1
    rw [Layers.applyAll_append, Layers.applyAll_cons]
    change IsHeld _ key (((l.applyAll arrivals).result.apply x.1 x.2).result.2.delivered.get? key)
    rw [Layers.get?_delivered_apply]
    split
    · rename_i same
      subst same
      exact isHeld_leaves distinct before
    · rename_i other
      exact isHeld_other other before

/-- The arrival with the greatest id for a key. -/
def latest? : List Arrival → String → Option Arrival
  | [], _ => none
  | a :: rest, key =>
    match latest? rest key with
    | some b => if a.key = key ∧ b.id < a.id then some a else some b
    | none => if a.key = key then some a else none

/-- What the arrival with the greatest id for a key asks to be held. -/
def newest? (arrivals : List Arrival) (key : String) : Option Element :=
  (latest? arrivals key).bind Arrival.wanted

/-- The newest arrival for a key holds nothing, yet a config of that key survives: it came after
every tombstone that is newer. -/
def Outrun (arrivals : List Arrival) (key : String) : Prop :=
  newest? arrivals key = none ∧ ∃ a, Survives arrivals a ∧ a.key = key

theorem of_not_latest? (absent : latest? arrivals key = none) : ∀ a ∈ arrivals, a.key ≠ key := by
  induction arrivals with
  | nil => exact fun a ha => absurd ha List.not_mem_nil
  | cons x rest ih =>
    cases later : latest? rest key with
    | some b =>
      simp only [latest?, later] at absent
      split at absent <;> cases absent
    | none =>
      simp only [latest?, later, ite_eq_right_iff, reduceCtorEq, imp_false] at absent
      exact List.forall_mem_cons.mpr ⟨absent, ih later⟩

theorem of_latest? (found : latest? arrivals key = some a) :
    a ∈ arrivals ∧ a.key = key ∧ ∀ b ∈ arrivals, b.key = key → b.id ≤ a.id := by
  induction arrivals generalizing a with
  | nil => cases found
  | cons x rest ih =>
    cases later : latest? rest key with
    | none =>
      have others := of_not_latest? later
      simp only [latest?, later] at found
      split at found
      · rename_i ofKey
        cases found
        refine ⟨List.mem_cons_self, ofKey, List.forall_mem_cons.mpr ⟨fun _ => Int64.le_refl _, ?_⟩⟩
        exact fun b hb keyB => (others b hb keyB).elim
      · cases found
    | some b =>
      obtain ⟨mem, keyB, newest⟩ := ih later
      simp only [latest?, later] at found
      split at found
      · rename_i newer
        obtain ⟨ofKey, greater⟩ := newer
        cases found
        refine ⟨List.mem_cons_self, ofKey, List.forall_mem_cons.mpr ⟨fun _ => Int64.le_refl _, ?_⟩⟩
        exact fun c hc keyC => Int64.le_trans (newest c hc keyC) (Int64.le_of_lt greater)
      · rename_i older
        cases found
        refine ⟨List.mem_cons_of_mem x mem, keyB, List.forall_mem_cons.mpr ⟨?_, newest⟩⟩
        exact fun ofKey => Int64.not_lt.mp fun greater => older ⟨ofKey, greater⟩

theorem Distinct.eq_latest? (distinct : Distinct arrivals) (found : latest? arrivals key = some a)
    (hb : b ∈ arrivals) (ofKey : b.key = key) (greater : a.id ≤ b.id) : b = a := by
  obtain ⟨mem, keyA, newest⟩ := of_latest? found
  exact distinct.eq hb mem (ofKey.trans keyA.symm) (Int64.le_antisymm (newest b hb ofKey) greater)

theorem Distinct.perm (distinct : Distinct arrivals) (same : arrivals.Perm arrivals') :
    Distinct arrivals' :=
  (same.pairwise_iff fun differ sameKey => (differ sameKey.symm).symm).mp distinct

theorem latest?_perm (distinct : Distinct arrivals) (same : arrivals.Perm arrivals') :
    latest? arrivals key = latest? arrivals' key := by
  cases first : latest? arrivals key with
  | none =>
    cases second : latest? arrivals' key with
    | none => rfl
    | some b =>
      obtain ⟨mem, ofKey, _⟩ := of_latest? second
      exact (of_not_latest? first b (same.mem_iff.mpr mem) ofKey).elim
  | some a =>
    obtain ⟨memA, keyA, newestA⟩ := of_latest? first
    cases second : latest? arrivals' key with
    | none => exact (of_not_latest? second a (same.mem_iff.mp memA) keyA).elim
    | some b =>
      obtain ⟨memB, keyB, newestB⟩ := of_latest? second
      have greater := newestB a (same.mem_iff.mp memA) keyA
      rw [distinct.eq_latest? first (same.mem_iff.mpr memB) keyB greater]

/-- The newest arrival survives if it is a config. -/
theorem survives_of_latest? (distinct : Distinct arrivals) (found : latest? arrivals key = some a)
    (config : a.1.isTombstone = false) : Survives arrivals a := by
  obtain ⟨mem, ofKey, newest⟩ := of_latest? found
  obtain ⟨before, after, rfl⟩ := List.append_of_mem mem
  refine ⟨config, before, after, rfl, fun t ht keyT tombstone => ?_⟩
  have memT : t ∈ before ++ a :: after := List.mem_append_right _ (List.mem_cons_of_mem _ ht)
  have bound := newest t memT (keyT.trans ofKey)
  have apart : t.id ≠ a.id := by
    intro sameId
    rw [distinct.eq memT mem keyT sameId, config] at tombstone
    cases tombstone
  rw [ne_eq, ← Int64.toInt_inj] at apart
  rw [Int64.le_iff_toInt_le] at bound
  rw [Int64.lt_iff_toInt_lt]
  omega

/-- A run holds what the newest arrival asks for unless a config has outrun it. -/
theorem held_eq_newest?_iff {held : Option Element} (distinct : Distinct arrivals)
    (holds : IsHeld arrivals key held) : held = newest? arrivals key ↔ ¬ Outrun arrivals key := by
  cases asked : newest? arrivals key with
  | none =>
    cases held with
    | none =>
      refine ⟨fun _ ⟨_, a, survives, ofKey⟩ => holds a survives ofKey, fun _ => rfl⟩
    | some e =>
      obtain ⟨a, survives, ofKey, _⟩ := holds
      exact ⟨nofun, fun notOutrun => (notOutrun ⟨asked, a, survives, ofKey⟩).elim⟩
  | some e =>
    have notOutrun : ¬ Outrun arrivals key := by
      rintro ⟨nothing, _⟩
      rw [asked] at nothing
      cases nothing
    refine ⟨fun _ => notOutrun, fun _ => ?_⟩
    obtain ⟨a, found, wanted⟩ := Option.bind_eq_some_iff.mp asked
    unfold Arrival.wanted at wanted
    cases config : a.1.isTombstone with
    | true =>
      rw [config, if_pos rfl] at wanted
      cases wanted
    | false =>
      rw [config, if_neg Bool.false_ne_true] at wanted
      cases wanted
      have survives := survives_of_latest? distinct found config
      obtain ⟨_, ofKey, _⟩ := of_latest? found
      cases held with
      | none => exact (holds a survives ofKey).elim
      | some e =>
        obtain ⟨b, survivesB, keyB, rfl, newest⟩ := holds
        rw [distinct.eq_latest? found survivesB.mem keyB (newest a survives ofKey)]

theorem not_outrun_of_newest? (held : (newest? arrivals key).isSome = true) :
    ¬ Outrun arrivals key := by
  rintro ⟨nothing, _⟩
  rw [nothing] at held
  cases held

namespace Arrival

/-- A config for one key with one value. -/
def version (id : Int64) : Arrival :=
  (⟨"k", id, .config, none, [⟨none, .empty, [.always (Value.int id).plain]⟩], []⟩, ⟨.remote, none⟩)

/-- A tombstone for the same key. -/
def deletion (id : Int64) : Arrival := (⟨"k", id, .config, none, [], []⟩, ⟨.remote, none⟩)

end Arrival

/-- A config that comes after a newer tombstone is held; had it come before, it would not be. -/
theorem late_version_revives : ∃ arrivals arrivals' : List Arrival,
    arrivals.Perm arrivals' ∧ Distinct arrivals ∧
      ((Layers.start [] []).applyAll arrivals).result.delivered.contains "k" = false ∧
      ((Layers.start [] []).applyAll arrivals).result.merged.contains "k" = false ∧
      ((Layers.start [] []).applyAll arrivals').result.delivered.contains "k" = true ∧
      ((Layers.start [] []).applyAll arrivals').result.merged.contains "k" = true := by
  refine ⟨[.version 1, .deletion 3], [.deletion 3, .version 1], .swap _ _ _, ?_, ?_⟩
  · unfold Distinct
    decide
  · decide

namespace Client

theorem isHeld_start (config : ClientConfig) {us : List (Clock × Update)}
    (distinct : Distinct (arrivalsOf us)) (key : String) :
    IsHeld (arrivalsOf us) key
      (((start config).applyEach us).result.layers.delivered.get? key) := by
  rw [layers_applyEach]
  exact isHeld_applyAll _ rfl distinct

/-- Two orders of the same arrivals, however they are divided into updates, agree on every key that
is not outrun in either: it ends with what the newest arrival asks for. A key that is outrun ends
with the newest config that survives instead. -/
theorem orders_agree (config : ClientConfig) {us us' : List (Clock × Update)}
    (same : (arrivalsOf us).Perm (arrivalsOf us')) (distinct : Distinct (arrivalsOf us))
    (key : String) :
    IsHeld (arrivalsOf us) key (((start config).applyEach us).result.layers.delivered.get? key) ∧
    (((start config).applyEach us).result.layers.delivered.get? key = newest? (arrivalsOf us) key ↔
      ¬ Outrun (arrivalsOf us) key) ∧
    (¬ Outrun (arrivalsOf us) key → ¬ Outrun (arrivalsOf us') key →
      ((start config).applyEach us).result.layers.delivered.get? key =
        ((start config).applyEach us').result.layers.delivered.get? key ∧
      ((start config).applyEach us).result.layers.merged.get? key =
        ((start config).applyEach us').result.layers.merged.get? key) := by
  have first := isHeld_start config distinct key
  have second := isHeld_start config (distinct.perm same) key
  refine ⟨first, held_eq_newest?_iff distinct first, fun inFirst inSecond => ?_⟩
  have delivered : ((start config).applyEach us).result.layers.delivered.get? key =
      ((start config).applyEach us').result.layers.delivered.get? key := by
    rw [(held_eq_newest?_iff distinct first).mpr inFirst,
      (held_eq_newest?_iff (distinct.perm same) second).mpr inSecond, newest?, newest?,
      latest?_perm distinct same]
  refine ⟨delivered, ?_⟩
  rw [layers_applyEach, layers_applyEach] at delivered ⊢
  obtain ⟨defaults, overrides⟩ := (start config).layers.fixed_applyAll (arrivalsOf us)
  obtain ⟨defaults', overrides'⟩ := (start config).layers.fixed_applyAll (arrivalsOf us')
  rw [Layers.get?_merged, Layers.get?_merged, delivered, defaults, overrides, defaults', overrides']

/-- A tombstone that an older config follows makes no difference once a newer config has come. -/
theorem orders_agree_on_newest :
    let config : ClientConfig := ⟨none, .empty, [], [], 0, false, fun _ => .asMerged⟩
    let us : List (Clock × Update) :=
      [(fun _ => 0, ⟨[Arrival.version 1, Arrival.deletion 3], none, none⟩),
        (fun _ => 0, ⟨[Arrival.version 5], none, none⟩)]
    let us' : List (Clock × Update) :=
      [(fun _ => 0, ⟨[Arrival.deletion 3, Arrival.version 5, Arrival.version 1], none, none⟩)]
    ((start config).applyEach us).result.layers.delivered.get? "k" =
      ((start config).applyEach us').result.layers.delivered.get? "k" := by
  intro config us us'
  have same : (arrivalsOf us).Perm (arrivalsOf us') :=
    (List.perm_append_singleton (Arrival.version 1)
      [Arrival.deletion 3, Arrival.version 5]).symm
  have distinct : Distinct (arrivalsOf us) := by
    unfold Distinct
    decide
  have agree := orders_agree config same distinct "k"
  exact (agree.2.2 (not_outrun_of_newest? (by decide)) (not_outrun_of_newest? (by decide))).1

end Client
end LiveConfig
