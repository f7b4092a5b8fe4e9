/-! Splitting a text at separators. -/
namespace LiveConfig.Text

/-- The pieces of a text between separators; there is always at least one. -/
def splitAt (separates : Char → Bool) (cs : List Char) : List (List Char) :=
  cs.foldr (fun c pieces =>
    if separates c then [] :: pieces
    else match pieces with
      | p :: rest => (c :: p) :: rest
      | [] => [[c]]) [[]]

/-- Words of a text, separated by blanks and line ends. -/
def words (cs : List Char) : List (List Char) :=
  (splitAt (fun c => c = ' ' || c = '\n') cs).filter fun w => !w.isEmpty

end LiveConfig.Text
