import LiveConfig.Text.Decimal

/-! Which texts show an integer.

A text shows an integer in decimal if it is a run of digits with at most one sign in front. Reading
accepts exactly these texts and gives the integer that they show; as a word it gives the word that
is this integer, and nothing where the integer is too large for one. Writing shows the integer. -/
namespace LiveConfig.Decimal

/-- The text shows an integer in decimal. -/
inductive Shows : List Char → Int → Prop
  | digits {cs : List Char} (nonempty : cs ≠ []) (all : ∀ c ∈ cs, c.isDigit = true) :
    Shows cs (value cs)
  | plus {cs : List Char} (nonempty : cs ≠ []) (all : ∀ c ∈ cs, c.isDigit = true) :
    Shows ('+' :: cs) (value cs)
  | minus {cs : List Char} (nonempty : cs ≠ []) (all : ∀ c ∈ cs, c.isDigit = true) :
    Shows ('-' :: cs) (-(value cs))

variable {cs : List Char}

theorem readNat?_eq_some_iff {n : Nat} : readNat? cs = some n ↔
    (cs ≠ [] ∧ ∀ c ∈ cs, c.isDigit = true) ∧ value cs = n := by
  unfold readNat?
  rw [Option.ite_none_left_eq_some, Option.some.injEq]
  simp [List.isEmpty_iff]

/-- What a run of digits is read as, with a sign in front of it or none. -/
theorem map_readNat?_eq_some_iff {sign : Nat → Int} {n : Int} : (readNat? cs).map sign = some n ↔
    cs ≠ [] ∧ (∀ c ∈ cs, c.isDigit = true) ∧ sign (value cs) = n := by
  rw [Option.map_eq_some_iff]
  constructor
  · rintro ⟨m, read, rfl⟩
    obtain ⟨⟨nonempty, all⟩, rfl⟩ := readNat?_eq_some_iff.mp read
    exact ⟨nonempty, all, rfl⟩
  · rintro ⟨nonempty, all, rfl⟩
    exact ⟨value cs, readNat?_eq_some_iff.mpr ⟨⟨nonempty, all⟩, rfl⟩, rfl⟩

theorem read?_minus (cs : List Char) :
    read? ('-' :: cs) = (readNat? cs).map fun n : Nat => -(n : Int) := by
  cases h : readNat? cs <;> simp [read?, h]

theorem read?_plus (cs : List Char) :
    read? ('+' :: cs) = (readNat? cs).map fun n : Nat => (n : Int) := by
  cases h : readNat? cs <;> simp [read?, h]

theorem read?_unsigned (minus : cs.head? ≠ some '-') (plus : cs.head? ≠ some '+') :
    read? cs = (readNat? cs).map fun n : Nat => (n : Int) := by
  unfold read?
  split
  · cases minus rfl
  · cases plus rfl
  · cases readNat? cs <;> rfl

/-- Reading accepts the texts that show an integer, and gives it. -/
theorem read?_eq_some_iff {n : Int} : read? cs = some n ↔ Shows cs n := by
  constructor
  · intro read
    by_cases minus : cs.head? = some '-'
    · obtain ⟨cs, rfl⟩ := List.head?_eq_some_iff.mp minus
      obtain ⟨nonempty, all, rfl⟩ := map_readNat?_eq_some_iff.mp ((read?_minus cs).symm.trans read)
      exact .minus nonempty all
    by_cases plus : cs.head? = some '+'
    · obtain ⟨cs, rfl⟩ := List.head?_eq_some_iff.mp plus
      obtain ⟨nonempty, all, rfl⟩ := map_readNat?_eq_some_iff.mp ((read?_plus cs).symm.trans read)
      exact .plus nonempty all
    · obtain ⟨nonempty, all, rfl⟩ :=
        map_readNat?_eq_some_iff.mp ((read?_unsigned minus plus).symm.trans read)
      exact .digits nonempty all
  · rintro (⟨nonempty, all⟩ | ⟨nonempty, all⟩ | ⟨nonempty, all⟩)
    · have unsigned (c : Char) (sign : c.isDigit = false) : cs.head? ≠ some c := fun first =>
        absurd (all c (List.mem_of_head? first)) (by simp [sign])
      rw [read?_unsigned (unsigned '-' rfl) (unsigned '+' rfl)]
      exact map_readNat?_eq_some_iff.mpr ⟨nonempty, all, rfl⟩
    · exact (read?_plus _).trans (map_readNat?_eq_some_iff.mpr ⟨nonempty, all, rfl⟩)
    · exact (read?_minus _).trans (map_readNat?_eq_some_iff.mpr ⟨nonempty, all, rfl⟩)

theorem toInt64?_eq_some_iff {n : Int} {word : Int64} :
    toInt64? n = some word ↔ word.toInt = n := by
  constructor
  · intro holds
    unfold toInt64? at holds
    split at holds
    · rename_i fits
      cases holds
      exact Int64.toInt_ofInt_of_le fits.1 (Int.lt_of_le_of_lt fits.2 (by decide))
    · cases holds
  · rintro rfl
    exact toInt64?_toInt word

/-- A word is read from the texts that show it, and from no other. -/
theorem readInt64?_eq_some_iff {word : Int64} :
    readInt64? cs = some word ↔ Shows cs word.toInt := by
  unfold readInt64?
  rw [Option.bind_eq_some_iff]
  constructor
  · rintro ⟨n, read, holds⟩
    rw [toInt64?_eq_some_iff.mp holds]
    exact read?_eq_some_iff.mp read
  · intro shown
    exact ⟨word.toInt, read?_eq_some_iff.mpr shown, toInt64?_toInt word⟩

/-- No word is read from a text that shows an integer beyond the words. -/
theorem readInt64?_of_beyond {n : Int} (shown : Shows cs n)
    (beyond : n < Int64.minValue.toInt ∨ Int64.maxValue.toInt < n) : readInt64? cs = none := by
  unfold readInt64?
  rw [read?_eq_some_iff.mpr shown, Option.bind_some, toInt64?, if_neg]
  omega

/-- What is written of an integer shows it. -/
theorem shows_write (n : Int) : Shows (write n) n := by
  obtain ⟨⟨nonempty, all⟩, same⟩ := readNat?_eq_some_iff.mp (readNat?_toDigits n.natAbs)
  unfold write
  split
  · have shown := Shows.minus nonempty all
    rw [same, Int.ofNat_natAbs_of_nonpos (by omega), Int.neg_neg] at shown
    exact shown
  · have shown := Shows.digits nonempty all
    rw [same, Int.natAbs_of_nonneg (by omega)] at shown
    exact shown

/-- An integer is shown by digits and a sign. -/
theorem Shows.sign_or_digit {n : Int} (shown : Shows cs n) :
    ∀ c ∈ cs, c = '+' ∨ c = '-' ∨ c.isDigit = true := by
  rcases shown with ⟨_, all⟩ | ⟨_, all⟩ | ⟨_, all⟩
  · exact fun c member => .inr (.inr (all c member))
  · rintro c (_ | ⟨_, member⟩)
    · exact .inl rfl
    · exact .inr (.inr (all c member))
  · rintro c (_ | ⟨_, member⟩)
    · exact .inr (.inl rfl)
    · exact .inr (.inr (all c member))

end LiveConfig.Decimal
