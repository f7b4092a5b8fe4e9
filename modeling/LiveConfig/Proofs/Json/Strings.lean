import LiveConfig.Json.Reader
import LiveConfig.Json.Writer

/-! Strings in JSON text.

A string is read from its literal: each character is written as one piece that the reader takes for
this character, whether it stands as it is or is escaped. -/
namespace LiveConfig.Json

/-- The piece that a character is written as. -/
def pieceOf (c : Char) : Piece :=
  if c.toNat < 0x20 ∧ c ≠ '\n' ∧ c ≠ '\r' ∧ c ≠ '\t' then .unit c.toNat else .plain c

/-- A control character is written with four hexadecimal digits. -/
theorem escapeUnit_control : ∀ n < 0x20,
    escapeUnit n = ['\\', 'u', '0', '0', Nat.digitChar (n / 16), Nat.digitChar (n % 16)] ∧
      hexUnit? ['0', '0', Nat.digitChar (n / 16), Nat.digitChar (n % 16)] = some n := by
  decide

theorem readPieces_writeChar (c : Char) (done : List Piece) (rest : List Char) :
    readPieces done (writeChar c ++ rest) = readPieces (pieceOf c :: done) rest := by
  unfold writeChar
  split
  · rfl
  · rfl
  · rfl
  · rfl
  · rfl
  · rename_i quote backslash newline carriage tab
    split
    · rename_i control
      obtain ⟨escaped, unit⟩ := escapeUnit_control c.toNat control
      have piece : pieceOf c = .unit c.toNat := if_pos ⟨control, newline, carriage, tab⟩
      rw [escaped, piece]
      simp [readPieces, unit]
    · rename_i printable
      have piece : pieceOf c = .plain c := if_neg fun both => printable both.1
      rw [piece, List.singleton_append, readPieces]
      · rw [if_neg printable]
      · exact quote
      · exact fun _ _ _ _ _ same => (backslash same).elim
      · exact fun _ _ same => (backslash same).elim

theorem readPieces_chars (cs : List Char) (done : List Piece) (rest : List Char) :
    readPieces done (cs.flatMap writeChar ++ '"' :: rest) =
      some (done.reverse ++ cs.map pieceOf, rest) := by
  induction cs generalizing done with
  | nil => simp [readPieces]
  | cons c cs ih =>
    rw [List.flatMap_cons, List.append_assoc, readPieces_writeChar, ih]
    simp

/-- A control character is no surrogate. -/
theorem joinPieces_unit {n : Nat} (control : n < 0x20) (done : List Char) (rest : List Piece) :
    joinPieces done (.unit n :: rest) = joinPieces (Char.ofNat n :: done) rest := by
  have high : isHighSurrogate n = false := by simp [isHighSurrogate]; omega
  have low : isLowSurrogate n = false := by simp [isLowSurrogate]; omega
  cases rest with
  | nil => simp [joinPieces, high, low]
  | cons piece rest =>
    cases piece with
    | plain c => simp [joinPieces, high, low]
    | unit l => simp [joinPieces, high, low]

theorem joinPieces_pieceOf (cs done : List Char) :
    joinPieces done (cs.map pieceOf) = some (done.reverse ++ cs) := by
  induction cs generalizing done with
  | nil => simp [joinPieces]
  | cons c cs ih =>
    have step : joinPieces done (pieceOf c :: cs.map pieceOf) =
        joinPieces (c :: done) (cs.map pieceOf) := by
      unfold pieceOf
      split
      · rename_i control
        rw [joinPieces_unit control.1, Char.ofNat_toNat]
      · rw [joinPieces]
    rw [List.map_cons, step, ih]
    simp

/-- A string is read from its literal. -/
theorem readString_writeString (s : String) (rest : List Char) :
    ∃ body, (writeString s).toList = '"' :: body ∧
      readString (body ++ rest) = some (s, rest) := by
  refine ⟨s.toList.flatMap writeChar ++ ['"'], String.toList_ofList, ?_⟩
  unfold readString
  rw [List.append_assoc, List.singleton_append, readPieces_chars]
  simp [joinPieces_pieceOf]

end LiveConfig.Json
