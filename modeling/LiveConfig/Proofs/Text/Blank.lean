import LiveConfig.Text.Blank

/-! White space around a text.

A text is bare when it neither begins nor ends with white space. Trimming takes away whatever white
space stands around a bare text, and nothing else. -/
namespace LiveConfig.Text

/-- White space by its code points. -/
theorem isBlank_eq : isBlank = fun c => CodeSet.containsIn c.toNat
    [(0x9, 0xD), (0x20, 0x20), (0x85, 0x85), (0xA0, 0xA0), (0x1680, 0x1680), (0x2000, 0x200A),
      (0x2028, 0x2029), (0x202F, 0x202F), (0x205F, 0x205F), (0x3000, 0x3000)] := by
  unfold isBlank Property.whiteSpace CodeSet.ofText CodeSet.ofRanges CodeSet.contains
  rw [List.mergeSort_of_pairwise (by decide +kernel)]
  rfl

/-- No visible character of ASCII is white space. -/
theorem isBlank_of_visible {c : Char} (above : 0x20 < c.toNat) (below : c.toNat < 0x7F) :
    isBlank c = false := by
  rw [isBlank_eq]
  simp only [CodeSet.containsIn]
  grind

/-- The text neither begins nor ends with white space. -/
structure Bare (cs : List Char) : Prop where
  front (c : Char) : cs.head? = some c → isBlank c = false
  back (c : Char) : cs.getLast? = some c → isBlank c = false

theorem bare_of_forall {cs : List Char} (visible : ∀ c ∈ cs, isBlank c = false) : Bare cs :=
  ⟨fun c first => visible c (List.mem_of_head? first),
    fun c last => visible c (List.mem_of_getLast? last)⟩

/-- A text of visible characters of ASCII has no white space at its ends. -/
theorem bare_of_visible {cs : List Char}
    (visible : cs.all fun c => 0x20 < c.toNat && c.toNat < 0x7F) : Bare cs := by
  refine bare_of_forall fun c member => ?_
  have both := List.all_eq_true.mp visible c member
  rw [Bool.and_eq_true, decide_eq_true_eq, decide_eq_true_eq] at both
  exact isBlank_of_visible both.1 both.2

variable {before cs after : List Char}

theorem dropWhile_padded (blank : ∀ c ∈ before, isBlank c = true)
    (front : ∀ c, cs.head? = some c → isBlank c = false) :
    (before ++ cs).dropWhile isBlank = cs := by
  rw [List.dropWhile_append_of_pos blank]
  cases cs with
  | nil => rfl
  | cons c cs => exact List.dropWhile_cons_of_neg (by simp [front c rfl])

theorem trim_padded (blank : ∀ c ∈ before, isBlank c = true) (bare : Bare cs)
    (blank' : ∀ c ∈ after, isBlank c = true) : trim (before ++ cs ++ after) = cs := by
  unfold trim
  cases cs with
  | nil =>
    have nothing : (before ++ [] ++ after).dropWhile isBlank = [] := by
      rw [List.append_nil, List.dropWhile_append_of_pos blank, ← List.append_nil after]
      exact dropWhile_padded blank' nofun
    rw [nothing]
    rfl
  | cons c cs =>
    have front : (before ++ (c :: cs ++ after)).dropWhile isBlank = c :: cs ++ after :=
      dropWhile_padded blank bare.front
    have back : (after.reverse ++ (c :: cs).reverse).dropWhile isBlank = (c :: cs).reverse :=
      dropWhile_padded (by simpa using blank')
        fun last first => bare.back last (List.head?_reverse.symm.trans first)
    rw [List.append_assoc, front, List.reverse_append, back, List.reverse_reverse]

/-- White space and nothing else stands around a text. -/
def Padded (cs padded : List Char) : Prop :=
  ∃ before after, (∀ c ∈ before, isBlank c = true) ∧ (∀ c ∈ after, isBlank c = true) ∧
    padded = before ++ cs ++ after

theorem Padded.refl (cs : List Char) : Padded cs cs :=
  ⟨[], [], nofun, nofun, (List.append_nil cs).symm⟩

theorem Padded.trim_eq {padded : List Char} (around : Padded cs padded) (bare : Bare cs) :
    trim padded = cs := by
  obtain ⟨before, after, blank, blank', rfl⟩ := around
  exact trim_padded blank bare blank'

end LiveConfig.Text
