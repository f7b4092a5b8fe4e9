import LiveConfig.Value.Basic

/-! Equality of values.

The equality of values is symmetric and transitive. It is not reflexive: a value equals itself
exactly if it holds no NaN, neither itself nor in a variant at any depth. The equalities of labelled
and of optional values inherit this. -/
namespace LiveConfig

theorem Binary64.beq_trans {x y z : Binary64} (first : (x == y) = true) (second : (y == z) = true) :
    (x == z) = true := by
  simp only [beq_eq, Bool.and_eq_true, beq_iff_eq] at first second ⊢
  obtain ⟨⟨number, _⟩, same⟩ := first
  obtain ⟨⟨_, number'⟩, same'⟩ := second
  exact ⟨⟨number, number'⟩, same.trans same'⟩

namespace Value

/-- Whether a value holds NaN, itself or in a variant. -/
def hasNaN : Value → Bool
  | .double x => x.isNaN
  | .weighted ⟨vs, _⟩ => variants vs
  | _ => false
where
  variants : List (Variant (Labelled Value)) → Bool
    | [] => false
    | ⟨_, ⟨v, _⟩⟩ :: vs => v.hasNaN || variants vs

/-- Induction on values: the values of variants come before their distribution. -/
theorem induction {P : Value → Prop} (single : ∀ v, (∀ d, v ≠ .weighted d) → P v)
    (weighted : ∀ d : WeightedValues, (∀ x ∈ d.variants, P x.value.value) → P (.weighted d)) :
    ∀ v, P v
  | .weighted ⟨vs, h⟩ => weighted ⟨vs, h⟩ (variants vs)
  | .string _ | .int _ | .double _ | .bool _ | .stringList _ | .duration _ | .logLevel _
  | .reference _ | .bytes _ | .range _ => single _ (by rintro _ ⟨⟩)
where
  variants : ∀ vs : List (Variant (Labelled Value)), ∀ x ∈ vs, P x.value.value
    | [] => List.forall_mem_nil _
    | ⟨_, ⟨v, _⟩⟩ :: vs => List.forall_mem_cons.mpr ⟨induction single weighted v, variants vs⟩

/-- Equal values are the same, two doubles, or two distributions. -/
theorem beq_cases {a b : Value} (equal : a.beq b = true) : b = a ∨
    (∃ x y, a = .double x ∧ b = .double y ∧ (x == y) = true) ∨
    ∃ vs ws h, a = .weighted ⟨vs, h⟩ ∧ b = .weighted ⟨ws, h⟩ ∧ beq.variants vs ws = true := by
  fun_cases beq a b with
  | case3 x y => exact .inr (.inl ⟨x, y, rfl, rfl, equal⟩)
  | case8 vs h ws k =>
    rw [beq, Bool.and_eq_true, beq_iff_eq] at equal
    obtain ⟨rfl, variants⟩ := equal
    exact .inr (.inr ⟨vs, ws, h, rfl, rfl, variants⟩)
  | case12 =>
    rw [beq] at equal
    · cases equal
    all_goals assumption
  | _ =>
    rw [beq, beq_iff_eq] at equal
    rw [equal]
    exact .inl rfl

theorem variants_cons {x y : Variant (Labelled Value)} {vs ws : List (Variant (Labelled Value))} :
    beq.variants (x :: vs) (y :: ws) = true ↔ x.weight = y.weight ∧
      x.value.confidential = y.value.confidential ∧ x.value.value.beq y.value.value = true ∧
      beq.variants vs ws = true := by
  obtain ⟨a, v, c⟩ := x
  obtain ⟨b, w, d⟩ := y
  simp only [beq.variants, Bool.and_eq_true, beq_iff_eq, and_assoc]

theorem variants_self {vs : List (Variant (Labelled Value))}
    (each : ∀ x ∈ vs, x.value.value.beq x.value.value = !x.value.value.hasNaN) :
    beq.variants vs vs = !hasNaN.variants vs := by
  induction vs with
  | nil => rfl
  | cons x vs ih =>
    obtain ⟨first, later⟩ := List.forall_mem_cons.mp each
    rw [beq.variants, hasNaN.variants, first, ih later, BEq.rfl, BEq.rfl, Bool.not_or]
    rfl

theorem variants_symm {vs ws : List (Variant (Labelled Value))}
    (each : ∀ x ∈ vs, ∀ {b : Value}, x.value.value.beq b = true → b.beq x.value.value = true)
    (equal : beq.variants vs ws = true) : beq.variants ws vs = true := by
  induction vs generalizing ws with
  | nil =>
    cases ws with
    | nil => exact equal
    | cons => cases equal
  | cons x vs ih =>
    obtain ⟨first, later⟩ := List.forall_mem_cons.mp each
    cases ws with
    | nil => cases equal
    | cons y ws =>
      rw [variants_cons] at equal ⊢
      obtain ⟨weight, label, value, rest⟩ := equal
      exact ⟨weight.symm, label.symm, first value, ih later rest⟩

theorem variants_trans {vs ws us : List (Variant (Labelled Value))}
    (each : ∀ x ∈ vs, ∀ {b c : Value}, x.value.value.beq b = true → b.beq c = true →
      x.value.value.beq c = true)
    (equal : beq.variants vs ws = true) (equal' : beq.variants ws us = true) :
    beq.variants vs us = true := by
  induction vs generalizing ws us with
  | nil =>
    cases ws with
    | nil => exact equal'
    | cons => cases equal
  | cons x vs ih =>
    obtain ⟨first, later⟩ := List.forall_mem_cons.mp each
    cases ws with
    | nil => cases equal
    | cons y ws =>
      cases us with
      | nil => cases equal'
      | cons z us =>
        rw [variants_cons] at equal equal' ⊢
        obtain ⟨weight, label, value, rest⟩ := equal
        obtain ⟨weight', label', value', rest'⟩ := equal'
        exact ⟨weight.trans weight', label.trans label', first value value', ih later rest rest'⟩

/-- Only NaN keeps a value from being equal to itself. -/
theorem beq_self (v : Value) : v.beq v = !v.hasNaN := by
  induction v using induction with
  | single v other =>
    cases v with
    | double x => exact Binary64.beq_self x
    | weighted d => exact (other d rfl).elim
    | _ => exact BEq.rfl
  | weighted d ih =>
    obtain ⟨vs, h⟩ := d
    rw [beq, hasNaN, variants_self ih, BEq.rfl, Bool.true_and]

theorem beq_symm {a b : Value} (equal : a.beq b = true) : b.beq a = true := by
  induction a using induction generalizing b with
  | single a other =>
    rcases beq_cases equal with rfl | ⟨x, y, rfl, rfl, same⟩ | ⟨vs, ws, h, rfl, _⟩
    · exact equal
    · exact (Binary64.beq_comm y x).trans same
    · exact (other _ rfl).elim
  | weighted d ih =>
    rcases beq_cases equal with rfl | ⟨_, _, ⟨⟩, _⟩ | ⟨vs, ws, h, ⟨⟩, rfl, same⟩
    · exact equal
    · rw [beq, BEq.rfl, Bool.true_and]
      exact variants_symm ih same

theorem beq_trans {a b c : Value} (first : a.beq b = true) (second : b.beq c = true) :
    a.beq c = true := by
  induction a using induction generalizing b c with
  | single a other =>
    rcases beq_cases first with rfl | ⟨x, y, rfl, rfl, same⟩ | ⟨vs, ws, h, rfl, _⟩
    · exact second
    · rcases beq_cases second with rfl | ⟨_, z, ⟨⟩, rfl, same'⟩ | ⟨_, _, _, ⟨⟩, _⟩
      · exact first
      · exact Binary64.beq_trans same same'
    · exact (other _ rfl).elim
  | weighted d ih =>
    rcases beq_cases first with rfl | ⟨_, _, ⟨⟩, _⟩ | ⟨vs, ws, h, ⟨⟩, rfl, same⟩
    · exact second
    · rcases beq_cases second with rfl | ⟨_, _, ⟨⟩, _⟩ | ⟨_, us, _, ⟨⟩, rfl, same'⟩
      · exact first
      · rw [beq, BEq.rfl, Bool.true_and]
        exact variants_trans ih same same'

instance instPartialEquivValue : PartialEquivBEq Value := ⟨beq_symm, beq_trans⟩

end Value

instance instPartialEquivLabelled {α : Type} [BEq α] [PartialEquivBEq α] :
    PartialEquivBEq (Labelled α) where
  symm {a b} equal := by
    have both : (a.value == b.value && a.confidential == b.confidential) = true := equal
    rw [Bool.and_eq_true] at both
    exact Bool.and_eq_true_iff.mpr ⟨BEq.symm both.1, BEq.symm both.2⟩
  trans {a b c} first second := by
    have both : (a.value == b.value && a.confidential == b.confidential) = true := first
    have both' : (b.value == c.value && b.confidential == c.confidential) = true := second
    rw [Bool.and_eq_true] at both both'
    exact Bool.and_eq_true_iff.mpr ⟨BEq.trans both.1 both'.1, BEq.trans both.2 both'.2⟩

instance instPartialEquivOption {α : Type} [BEq α] [PartialEquivBEq α] :
    PartialEquivBEq (Option α) where
  symm {a b} equal := by
    match a, b with
    | none, none => exact equal
    | none, some _ => cases equal
    | some _, none => cases equal
    | some a, some b =>
      have same : (a == b) = true := equal
      have back : (b == a) = true := BEq.symm same
      exact back
  trans {a b c} first second := by
    match a, b, c with
    | none, none, _ => exact second
    | none, some _, _ => cases first
    | some _, none, _ => cases first
    | some _, some _, none => cases second
    | some a, some b, some c =>
      have same : (a == b) = true := first
      have far : (a == c) = true := BEq.trans same second
      exact far

end LiveConfig
