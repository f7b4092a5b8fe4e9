import Mathlib.Algebra.Group.Nat.Defs
import Mathlib.Data.List.Lex
import LiveConfig.Table

/-! The order of texts is that of their bytes.

Tables and events are in the order of the code points of their keys. UTF-8 keeps this order. The
code of a character is a leading byte, which also tells how many bytes continue it, and six bits of
the code point in each of these, the highest ones first; the ranges of the leading bytes are in the
order of the ranges of the code points. So where the codes of two characters first differ the
smaller one has the smaller byte, and sorting by code points is sorting by bytes. -/
namespace LiveConfig.Text

/-- The UTF-8 bytes of a text. -/
def bytes (s : String) : List UInt8 := s.toUTF8.data.toList

theorem bytes_eq (s : String) : bytes s = s.toList.flatMap String.utf8EncodeChar := by
  have encoded : s.toUTF8 = (String.ofList s.toList).toByteArray := by
    rw [String.ofList_toList]
    rfl
  rw [bytes, encoded, String.toByteArray_ofList]
  exact List.toList_data_toByteArray

/-- Codes that differ in the first byte are in the order of these bytes. -/
theorem lt_of_byte {x y : Nat} (less : x < y) (small : y < 256) (rest rest' : List UInt8) :
    UInt8.ofNat x :: rest < UInt8.ofNat y :: rest' := by
  refine List.Lex.rel ?_
  rw [UInt8.lt_iff_toNat_lt, UInt8.toNat_ofNat_of_lt' (Nat.lt_trans less small),
    UInt8.toNat_ofNat_of_lt' small]
  exact less

/-- Codes that agree in the first byte are in the order of what follows it. -/
theorem lt_of_rest {x y : Nat} (same : x = y) {rest rest' : List UInt8} (less : rest < rest') :
    UInt8.ofNat x :: rest < UInt8.ofNat y :: rest' := by
  subst same
  exact List.Lex.cons less

/-- The last `6 * n` bits of a code point in `n` continuing bytes. -/
def continuation (v : Nat) : Nat → List UInt8
  | 0 => []
  | n + 1 => UInt8.ofNat (v / 64 ^ n % 64 + 128) :: continuation v n

/-- A leading byte with the bits of a code point before the last `6 * n`, and these after it. -/
def code (lead n v : Nat) : List UInt8 := UInt8.ofNat (lead + v / 64 ^ n) :: continuation v n

/-- How the code of a code point begins, and how many bytes continue it. -/
def Form (v lead n : Nat) : Prop :=
  lead = 0 ∧ n = 0 ∧ v < 128 ∨ lead = 192 ∧ n = 1 ∧ 128 ≤ v ∧ v < 2048 ∨
    lead = 224 ∧ n = 2 ∧ 2048 ≤ v ∧ v < 65536 ∨ lead = 240 ∧ n = 3 ∧ 65536 ≤ v ∧ v < 1114112

theorem exists_code (c : Char) :
    ∃ lead n, Form c.toNat lead n ∧ String.utf8EncodeChar c = code lead n c.toNat := by
  have bound : c.toNat < 1114112 := by
    rcases c.valid with low | ⟨_, high⟩
    · exact Nat.lt_trans low (by decide)
    · exact high
  simp only [String.utf8EncodeChar, Char.toNat_val]
  split
  · refine ⟨0, 0, .inl ⟨rfl, rfl, by omega⟩, ?_⟩
    simp [code, continuation]
  split
  · refine ⟨192, 1, .inr (.inl ⟨rfl, rfl, by omega, by omega⟩), ?_⟩
    have high : c.toNat / 64 % 32 + 192 = 192 + c.toNat / 64 := by omega
    simp [code, continuation, high]
  split
  · refine ⟨224, 2, .inr (.inr (.inl ⟨rfl, rfl, by omega, by omega⟩)), ?_⟩
    have high : c.toNat / 4096 % 16 + 224 = 224 + c.toNat / 4096 := by omega
    simp [code, continuation, high]
  · refine ⟨240, 3, .inr (.inr (.inr ⟨rfl, rfl, by omega, bound⟩)), ?_⟩
    have high : c.toNat / 262144 % 8 + 240 = 240 + c.toNat / 262144 := by omega
    simp [code, continuation, high]

theorem continuation_lt {v w n : Nat} (less : v % 64 ^ n < w % 64 ^ n) (rest rest' : List UInt8) :
    continuation v n ++ rest < continuation w n ++ rest' := by
  induction n with
  | zero => simp [Nat.mod_one] at less
  | succ n ih =>
    rw [Nat.mod_pow_succ, Nat.mod_pow_succ] at less
    rcases Nat.lt_trichotomy (v / 64 ^ n % 64) (w / 64 ^ n % 64) with first | same | first
    · exact lt_of_byte (by omega) (by omega) _ _
    · rw [same] at less
      exact lt_of_rest (by omega) (ih (by omega))
    · -- a larger digit outweighs whatever follows it
      have outweighed : v % 64 ^ n + 64 ^ n * (v / 64 ^ n % 64) ≥ 64 ^ n * (w / 64 ^ n % 64 + 1) :=
        Nat.le_add_left_of_le (Nat.mul_le_mul_left _ first)
      have small := Nat.mod_lt w (Nat.pow_pos (n := n) (show 0 < 64 by decide))
      rw [Nat.mul_add, Nat.mul_one] at outweighed
      omega

/-- Of two codes with one leading range, that of the smaller code point is smaller. -/
theorem code_lt {lead n v w : Nat} (less : v < w) (inByte : lead + w / 64 ^ n < 256)
    (rest rest' : List UInt8) : code lead n v ++ rest < code lead n w ++ rest' := by
  rcases Nat.lt_or_eq_of_le (Nat.div_le_div_right (c := 64 ^ n) (Nat.le_of_lt less)) with
    first | same
  · exact lt_of_byte (by omega) inByte _ _
  · refine lt_of_rest (by rw [same]) (continuation_lt ?_ rest rest')
    have v_eq := Nat.div_add_mod v (64 ^ n)
    have w_eq := Nat.div_add_mod w (64 ^ n)
    rw [same] at v_eq
    omega

theorem Form.leading_lt {v lead n : Nat} (form : Form v lead n) : lead + v / 64 ^ n < 256 := by
  rcases form with ⟨rfl, rfl, _⟩ | ⟨rfl, rfl, _⟩ | ⟨rfl, rfl, _⟩ | ⟨rfl, rfl, _⟩ <;> omega

/-- Two codes have one form, or the smaller code point has the smaller leading byte. -/
theorem Form.same_or_lt {v w lead lead' n n' : Nat} (form : Form v lead n)
    (form' : Form w lead' n') (less : v < w) :
    lead = lead' ∧ n = n' ∨ lead + v / 64 ^ n < lead' + w / 64 ^ n' := by
  rcases form with ⟨rfl, rfl, _⟩ | ⟨rfl, rfl, _⟩ | ⟨rfl, rfl, _⟩ | ⟨rfl, rfl, _⟩ <;>
    rcases form' with ⟨rfl, rfl, _⟩ | ⟨rfl, rfl, _⟩ | ⟨rfl, rfl, _⟩ | ⟨rfl, rfl, _⟩ <;> omega

theorem encoded_lt {c d : Char} (less : c < d) (rest rest' : List UInt8) :
    String.utf8EncodeChar c ++ rest < String.utf8EncodeChar d ++ rest' := by
  obtain ⟨lead, n, form, coded⟩ := exists_code c
  obtain ⟨lead', n', form', coded'⟩ := exists_code d
  rw [coded, coded']
  rcases form.same_or_lt form' less with ⟨rfl, rfl⟩ | first
  · exact code_lt less form'.leading_lt rest rest'
  · exact lt_of_byte first form'.leading_lt _ _

/-- Texts in the order of their code points are in the order of their bytes. -/
theorem bytes_lt_bytes {s t : String} (less : s < t) : bytes s < bytes t := by
  have less : List.Lex (· < ·) s.toList t.toList := less
  rw [bytes_eq, bytes_eq]
  generalize s.toList = cs at less
  generalize t.toList = ds at less
  induction less with
  | @nil c cs =>
    obtain ⟨lead, n, _, coded⟩ := exists_code c
    rw [List.flatMap_cons, coded]
    exact List.Lex.nil
  | rel less => exact encoded_lt less _ _
  | @cons c _ _ _ ih => exact List.Lex.append_left _ ih (String.utf8EncodeChar c)

end LiveConfig.Text
