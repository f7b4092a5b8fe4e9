import LiveConfig.Proofs.Json.Numbers
import LiveConfig.Proofs.Json.Strings
import LiveConfig.Proofs.Json.Views

/-! Documents in JSON text.

A value spells itself: whatever follows its text, reading takes exactly this text and gives the
value. The budget that is spent on nesting is covered by the length of the text. What is read from
any text is well-formed, so reading, writing and reading again gives the same document. -/
namespace LiveConfig.Json

/-- A character that is not skipped between tokens. -/
abbrev Visible (c : Char) : Prop := c ≠ ' ' ∧ c ≠ '\t' ∧ c ≠ '\n' ∧ c ≠ '\r'

theorem skipBlanks_cons {c : Char} {cs : List Char} (visible : Visible c) :
    skipBlanks (c :: cs) = c :: cs := by
  unfold skipBlanks
  rw [List.dropWhile_cons_of_neg]
  simp [visible]

theorem ne_of_isDigit {c d : Char} (digit : c.isDigit = true) (other : d.isDigit = false) :
    c ≠ d := by
  rintro rfl
  exact Bool.false_ne_true (other.symm.trans digit)

theorem visible_of_isDigit {c : Char} (digit : c.isDigit = true) : Visible c ∧ c ≠ ']' :=
  ⟨⟨ne_of_isDigit digit (by decide), ne_of_isDigit digit (by decide),
    ne_of_isDigit digit (by decide), ne_of_isDigit digit (by decide)⟩,
    ne_of_isDigit digit (by decide)⟩

theorem readValue_digit {c : Char} (digit : c.isDigit = true) (cs : List Char) (budget : Nat) :
    readValue (budget + 1) (c :: cs) = readNumber false (c :: cs) := by
  unfold readValue
  rw [skipBlanks_cons (visible_of_isDigit digit).1]
  split
  case h_8 => rfl
  all_goals
    rename_i same
    cases same
    exact absurd digit (by decide)

/-- A text that is read as a value, whatever follows it. Its first character is not a blank and
does not close an array. -/
structure Spells (cs : List Char) (j : Json) : Prop where
  starts : ∃ c rest, cs = c :: rest ∧ Visible c ∧ c ≠ ']'
  read : ∀ budget rest, cs.length ≤ budget → Ends rest →
    readValue budget (cs ++ rest) = some (j, rest)

/-- A text with a known first character. -/
theorem spells_cons {c : Char} {cs : List Char} {j : Json} (visible : Visible c ∧ c ≠ ']')
    (read : ∀ budget rest, cs.length ≤ budget → Ends rest →
      readValue (budget + 1) (c :: (cs ++ rest)) = some (j, rest)) : Spells (c :: cs) j where
  starts := ⟨c, cs, rfl, visible⟩
  read := by
    intro budget rest enough ends
    obtain ⟨budget, rfl⟩ := Nat.exists_eq_succ_of_ne_zero (Nat.ne_of_gt (Nat.lt_of_lt_of_le
      (Nat.succ_pos cs.length) enough))
    exact read budget rest (Nat.le_of_succ_le_succ enough) ends

theorem spells_string (s : String) : Spells (writeString s).toList (.string s) := by
  obtain ⟨body, literal, _⟩ := readString_writeString s []
  rw [literal]
  refine spells_cons (by decide) fun budget rest _ _ => ?_
  obtain ⟨body', literal', read⟩ := readString_writeString s rest
  cases literal.symm.trans literal'
  simp [readValue, skipBlanks, read]

/-- A sign and a numeral. -/
theorem spells_numeral {negative : Bool} {ds : List Char} {j : Json}
    (numeral : Numeral negative ds j) : Spells ((if negative then ['-'] else []) ++ ds) j := by
  cases negative with
  | true =>
    refine spells_cons (by decide) fun budget rest _ ends => ?_
    simp [readValue, skipBlanks, numeral.read rest ends]
  | false =>
    obtain ⟨c, cs, rfl, digit⟩ := numeral.starts
    refine spells_cons (visible_of_isDigit digit) fun budget rest _ ends => ?_
    rw [readValue_digit digit]
    exact numeral.read rest ends

theorem spells_writeNumber {x : Binary64} (finite : x.isFinite = true) :
    Spells (writeNumber x).toList (.number x) := by
  obtain ⟨ds, text, numeral⟩ := numeral_writeNumber finite
  rw [text]
  exact spells_numeral numeral

theorem spells_int {n : Int} (low : Int64.minValue.toInt ≤ n) (high : n < Int.ofNat UInt64.size) :
    Spells (Decimal.write n) (.int n) := by
  have written : Decimal.write n =
      (if decide (n < 0) then ['-'] else []) ++ Nat.toDigits 10 n.natAbs := by
    unfold Decimal.write
    split
    · simp_all
    · simp_all
  have literal : integerLiteral (n < 0) n.natAbs = some (.int n) := by
    have signed : (if decide (n < 0) then -(n.natAbs : Int) else n.natAbs) = n := by
      split
      · rename_i negative
        rw [decide_eq_true_eq] at negative
        omega
      · rename_i nonneg
        rw [decide_eq_true_eq] at nonneg
        omega
    have nonzero : ¬(decide (n < 0) && n.natAbs = 0) = true := by
      simp only [Bool.and_eq_true, decide_eq_true_eq]
      omega
    unfold integerLiteral
    rw [if_neg nonzero]
    simp only [signed]
    rw [if_pos ⟨low, high⟩]
  rw [written]
  refine spells_numeral (numeral_whole (whole_toDigits n.natAbs) ?_)
  simpa [Decimal.value] using literal

theorem writeItems_cons (item : Json) (items : List Json) :
    (writeItems (item :: items)).toList =
      ',' :: ((write item).toList ++ (writeItems items).toList) := by
  simp [writeItems]

theorem readItems_write {item : Json} {items : List Json}
    (each : ∀ j ∈ item :: items, Spells (write j).toList j) {budget : Nat}
    (enough : (write item).toList.length + (writeItems items).toList.length ≤ budget)
    (done : List Json) (rest : List Char) :
    readItems budget done ((write item).toList ++ ((writeItems items).toList ++ rest)) =
      some (.array (done.reverse ++ item :: items), rest) := by
  induction items generalizing item budget done with
  | nil =>
    have closing : (writeItems []).toList = [']'] := rfl
    rw [closing] at enough ⊢
    obtain ⟨budget, rfl⟩ : ∃ b, budget = b + 1 := ⟨budget - 1, by simp at enough; omega⟩
    have first := (each item List.mem_cons_self).read budget (']' :: rest)
      (Nat.le_of_succ_le_succ enough) (ends_cons (by decide) (by decide))
    unfold readItems
    rw [List.singleton_append, first]
    simp [skipBlanks]
  | cons next items ih =>
    obtain ⟨first, others⟩ := List.forall_mem_cons.mp each
    rw [writeItems_cons] at enough ⊢
    simp only [List.length_cons, List.length_append] at enough
    obtain ⟨budget, rfl⟩ : ∃ b, budget = b + 1 := ⟨budget - 1, by omega⟩
    have read := first.read budget
      (',' :: ((write next).toList ++ ((writeItems items).toList ++ rest))) (by omega)
      (ends_cons (by decide) (by decide))
    have room : (write next).toList.length + (writeItems items).toList.length ≤ budget := by omega
    have later := ih others room (item :: done)
    unfold readItems
    simp only [List.cons_append, List.append_assoc]
    rw [read]
    simp [skipBlanks, later]

theorem writeMembers_cons (m : String × Json) (ms : List (String × Json)) :
    (writeMembers (m :: ms)).toList = ',' :: ((writeString m.1).toList ++
      ':' :: ((write m.2).toList ++ (writeMembers ms).toList)) := by
  simp [writeMembers]

theorem readMembers_write {m : String × Json} {ms : List (String × Json)}
    (each : ∀ p ∈ m :: ms, Spells (write p.2).toList p.2) {budget : Nat}
    (enough : (write m.2).toList.length + (writeMembers ms).toList.length ≤ budget)
    (done : List (String × Json)) (rest : List Char) :
    readMembers budget done ((writeString m.1).toList ++
        ':' :: ((write m.2).toList ++ ((writeMembers ms).toList ++ rest))) =
      some (.object (done.reverse ++ m :: ms), rest) := by
  induction ms generalizing m budget done with
  | nil =>
    have closing : (writeMembers []).toList = ['\x7d'] := rfl
    rw [closing] at enough ⊢
    obtain ⟨budget, rfl⟩ : ∃ b, budget = b + 1 := ⟨budget - 1, by simp at enough; omega⟩
    have value := (each m List.mem_cons_self).read budget ('\x7d' :: rest)
      (Nat.le_of_succ_le_succ enough) (ends_cons (by decide) (by decide))
    obtain ⟨body, literal, name⟩ := readString_writeString m.1
      (':' :: ((write m.2).toList ++ ('\x7d' :: rest)))
    unfold readMembers
    rw [literal, List.singleton_append]
    simp [skipBlanks, name, value]
  | cons next ms ih =>
    obtain ⟨first, others⟩ := List.forall_mem_cons.mp each
    rw [writeMembers_cons] at enough ⊢
    simp only [List.length_cons, List.length_append] at enough
    obtain ⟨budget, rfl⟩ : ∃ b, budget = b + 1 := ⟨budget - 1, by omega⟩
    have room : (write next.2).toList.length + (writeMembers ms).toList.length ≤ budget := by omega
    have more := ih others room (m :: done)
    have value := first.read budget (',' :: ((writeString next.1).toList ++
      ':' :: ((write next.2).toList ++ ((writeMembers ms).toList ++ rest)))) (by omega)
      (ends_cons (by decide) (by decide))
    obtain ⟨body, literal, name⟩ := readString_writeString m.1 (':' :: ((write m.2).toList ++
      (',' :: ((writeString next.1).toList ++
        ':' :: ((write next.2).toList ++ ((writeMembers ms).toList ++ rest))))))
    unfold readMembers
    simp only [List.cons_append, List.append_assoc]
    rw [literal]
    simp [skipBlanks, name, value, more]

theorem spells_array {items : List Json} (each : ∀ j ∈ items, Spells (write j).toList j) :
    Spells (write (.array items)).toList (.array items) := by
  cases items with
  | nil =>
    have text : (write (.array [])).toList = ['[', ']'] := by simp [write]
    rw [text]
    exact spells_cons (by decide) fun budget rest _ _ => by simp [readValue, skipBlanks]
  | cons item items =>
    have text : (write (.array (item :: items))).toList =
        '[' :: ((write item).toList ++ (writeItems items).toList) := by simp [write]
    obtain ⟨c, more, first, visible, other⟩ := (each item List.mem_cons_self).starts
    rw [text]
    refine spells_cons (by decide) fun budget rest enough _ => ?_
    rw [List.length_append] at enough
    have read := readItems_write each enough [] rest
    rw [first, List.cons_append] at read
    unfold readValue
    rw [skipBlanks_cons (by decide), List.append_assoc, first, List.cons_append]
    simp only [skipBlanks_cons visible]
    split
    · rename_i same
      cases same
      exact absurd rfl other
    · exact read

theorem spells_object {members : List (String × Json)}
    (each : ∀ m ∈ members, Spells (write m.2).toList m.2) :
    Spells (write (.object members)).toList (.object members) := by
  cases members with
  | nil =>
    have text : (write (.object [])).toList = ['\x7b', '\x7d'] := by simp [write]
    rw [text]
    exact spells_cons (by decide) fun budget rest _ _ => by simp [readValue, skipBlanks]
  | cons m ms =>
    have text : (write (.object (m :: ms))).toList = '\x7b' :: ((writeString m.1).toList ++
        ':' :: ((write m.2).toList ++ (writeMembers ms).toList)) := by simp [write]
    obtain ⟨body, literal, _⟩ := readString_writeString m.1 []
    rw [text]
    refine spells_cons (by decide) fun budget rest enough _ => ?_
    simp only [List.length_append, List.length_cons] at enough
    have room : (write m.2).toList.length + (writeMembers ms).toList.length ≤ budget := by omega
    have read := readMembers_write each room [] rest
    rw [literal] at read ⊢
    unfold readValue
    simp only [List.append_assoc, List.cons_append] at read ⊢
    simp [skipBlanks, read]

/-- A well-formed document is written as a text that is read as this document. -/
theorem spells_write {j : Json} (formed : j.WellFormed) : Spells (write j).toList j := by
  induction formed with
  | null =>
    have text : (write .null).toList = ['n', 'u', 'l', 'l'] := by simp [write]
    rw [text]
    exact spells_cons (by decide) fun budget rest _ _ => by simp [readValue, skipBlanks]
  | bool b =>
    cases b with
    | true =>
      have text : (write (.bool true)).toList = ['t', 'r', 'u', 'e'] := by simp [write]
      rw [text]
      exact spells_cons (by decide) fun budget rest _ _ => by simp [readValue, skipBlanks]
    | false =>
      have text : (write (.bool false)).toList = ['f', 'a', 'l', 's', 'e'] := by simp [write]
      rw [text]
      exact spells_cons (by decide) fun budget rest _ _ => by simp [readValue, skipBlanks]
  | int low high =>
    unfold write
    rw [String.toList_ofList]
    exact spells_int low high
  | number finite =>
    unfold write
    exact spells_writeNumber finite
  | string s =>
    unfold write
    exact spells_string s
  | array _ each => exact spells_array each
  | object _ each => exact spells_object each

theorem read?_write {j : Json} (formed : j.WellFormed) : read? (write j) = some j := by
  have read := (spells_write formed).read ((write j).toList.length + 1) []
    (Nat.le_succ _) (by rintro c ⟨⟩)
  rw [List.append_nil] at read
  simp [read?, read, skipBlanks]

theorem wellFormed_integerLiteral {negative : Bool} {n : Nat} {j : Json}
    (read : integerLiteral negative n = some j) : j.WellFormed := by
  unfold integerLiteral at read
  extract_lets signed x at read
  split at read
  · cases read
    exact .number (by decide)
  · split at read
    · rename_i inside
      cases read
      exact .int inside.1 inside.2
    · split at read
      · rename_i finite
        cases read
        exact .number finite
      · cases read

theorem wellFormed_readNumber {negative : Bool} {cs rest : List Char} {j : Json}
    (read : readNumber negative cs = some (j, rest)) : j.WellFormed := by
  unfold readNumber at read
  simp only [Option.bind_eq_bind] at read
  split at read
  · cases read
  · simp only [Option.bind_eq_some_iff] at read
    obtain ⟨⟨part, _⟩, _, ⟨exponent, _⟩, _, read⟩ := read
    simp only at read
    split at read
    · obtain ⟨_, literal, ⟨⟩⟩ := Option.map_eq_some_iff.mp read
      exact wellFormed_integerLiteral literal
    · split at read
      · rename_i finite
        cases read
        exact .number finite
      · cases read

/-- What is read within a budget is well-formed: values, items and members alike. -/
theorem wellFormed_readValue (budget : Nat) :
    (∀ cs j rest, readValue budget cs = some (j, rest) → j.WellFormed) ∧
    (∀ done cs j rest, (∀ i ∈ done, i.WellFormed) → readItems budget done cs = some (j, rest) →
      j.WellFormed) ∧
    ∀ done cs j rest, (∀ m ∈ done, m.2.WellFormed) →
      readMembers budget done cs = some (j, rest) → j.WellFormed := by
  induction budget with
  | zero =>
    refine ⟨?_, ?_, ?_⟩
    · intro cs j rest read
      cases read
    · intro done cs j rest _ read
      cases read
    · intro done cs j rest _ read
      cases read
  | succ budget ih =>
    obtain ⟨values, items, members⟩ := ih
    refine ⟨?_, ?_, ?_⟩
    · intro cs j rest read
      unfold readValue at read
      split at read
      case h_1 =>
        split at read
        · cases read
          exact .object (List.forall_mem_nil _)
        · exact members [] _ j rest (List.forall_mem_nil _) read
      case h_2 =>
        split at read
        · cases read
          exact .array (List.forall_mem_nil _)
        · exact items [] _ j rest (List.forall_mem_nil _) read
      case h_3 =>
        obtain ⟨_, _, ⟨⟩⟩ := Option.map_eq_some_iff.mp read
        exact .string _
      case h_4 | h_8 => exact wellFormed_readNumber read
      case h_5 | h_6 =>
        cases read
        exact .bool _
      case h_7 =>
        cases read
        exact .null
    · intro done cs j rest formed read
      unfold readItems at read
      split at read
      · cases read
      · rename_i item more first
        have all : ∀ i ∈ item :: done, i.WellFormed :=
          List.forall_mem_cons.mpr ⟨values _ item more first, formed⟩
        split at read
        · exact items _ _ j rest all read
        · cases read
          exact .array fun i inside => all i (List.mem_reverse.mp inside)
        · cases read
    · intro done cs j rest formed read
      unfold readMembers at read
      split at read
      · split at read
        · cases read
        · split at read
          · split at read
            · cases read
            · rename_i value more first
              have all (name : String) : ∀ m ∈ (name, value) :: done, m.2.WellFormed :=
                List.forall_mem_cons.mpr ⟨values _ value more first, formed⟩
              split at read
              · exact members _ _ j rest (all _) read
              · cases read
                exact .object fun m inside => all _ m (List.mem_reverse.mp inside)
              · cases read
          · cases read
      · cases read

theorem wellFormed_of_read? {s : String} {j : Json} (read : read? s = some j) : j.WellFormed := by
  unfold read? at read
  simp only at read
  split at read
  · rename_i value rest first
    split at read
    · cases read
      exact (wellFormed_readValue _).1 _ _ _ first
    · cases read
  · cases read

end LiveConfig.Json
