import LiveConfig.Pattern.Class
import LiveConfig.Pattern.Size
import LiveConfig.Text.Blank
import LiveConfig.Text.Current
import LiveConfig.Text.Decimal

/-! Reading the notation of search patterns.

The notation is that of linear-time search: it has no look-around and no back-references, and texts
that use them are no patterns. Flags change how the rest of their group is read, so the reader
carries them along and gives each piece its final meaning at once. A group ends with a parenthesis
and restores the flags. The budget of the recursive readers counts characters and always suffices,
since each step takes at least one. `height` is the nesting depth of what has been read, which is
limited as the size is. -/
namespace LiveConfig.Pattern

structure Flags where
  ignoreCase : Bool
  multiLine : Bool
  dotAll : Bool
  unicode : Bool
  crlf : Bool
  verbose : Bool
  swapGreed : Bool
deriving DecidableEq, Inhabited

def Flags.start : Flags := ⟨false, false, false, true, false, false, false⟩

def Flags.set? (f : Flags) (c : Char) (on : Bool) : Option Flags :=
  match c with
  | 'i' => some { f with ignoreCase := on }
  | 'm' => some { f with multiLine := on }
  | 's' => some { f with dotAll := on }
  | 'u' => some { f with unicode := on }
  | 'R' => some { f with crlf := on }
  | 'x' => some { f with verbose := on }
  | 'U' => some { f with swapGreed := on }
  | _ => none

/-- Skips white space and comments, which run from a number sign to the end of the line. -/
def skipVerbose (comment : Bool) : List Char → List Char
  | [] => []
  | c :: rest =>
    if comment then skipVerbose (c ≠ '\n') rest
    else if Text.isBlank c then skipVerbose false rest
    else if c = '#' then skipVerbose true rest
    else c :: rest

/-- What follows insignificant space. -/
def skipSpace (verbose : Bool) (cs : List Char) : List Char :=
  if verbose then skipVerbose false cs else cs

/-- Digits of a count, between which insignificant space may stand. -/
def countDigits (verbose : Bool) (done : List Char) : Nat → List Char → List Char × List Char
  | 0, cs => (done.reverse, cs)
  | budget + 1, cs =>
    match cs with
    | c :: rest =>
      if c.isDigit then countDigits verbose (c :: done) budget (skipSpace verbose rest)
      else (done.reverse, cs)
    | [] => (done.reverse, [])

/-- A count, with any white space around it. -/
def readCount? (verbose : Bool) (cs : List Char) : Option (Nat × List Char) :=
  let (ds, rest) := countDigits verbose [] cs.length (cs.dropWhile Text.isBlank)
  let n := Decimal.value ds
  if ds.isEmpty || UInt32.size ≤ n then none
  else some (n, skipSpace verbose (rest.dropWhile Text.isBlank))

/-- Bounds of a counted repetition after the opening brace. -/
def readBounds? (verbose : Bool) (cs : List Char) : Option ((Nat × Option Nat) × List Char) := do
  let (least, rest) ← readCount? verbose (skipSpace verbose cs)
  match rest with
  | '\x7d' :: rest => some ((least, some least), rest)
  | ',' :: rest =>
    match skipSpace verbose rest with
    | '\x7d' :: rest => some ((least, none), rest)
    | rest =>
      let (most, rest) ← readCount? verbose rest
      match rest with
      | '\x7d' :: rest => if least ≤ most then some ((least, some most), rest) else none
      | _ => none
  | _ => none

/-- A primitive as it is written, before flags decide what it means. -/
inductive Primitive
  /-- `raw` if it was written as two hexadecimal digits. -/
  | literal (c : Char) (raw : Bool)
  | letterClass (unicode ascii : CodeSet) (negated : Bool)
  | property (s : CodeSet) (negated : Bool)
  | startAnchor
  | endAnchor
  | anyChar
  | look (unicode : Bool → Look)

/-- Hexadecimal digits between braces, after the opening one. -/
def readBracedHex? (verbose : Bool) (done : List Char) : Nat → List Char →
    Option (List Char × List Char)
  | 0, _ => none
  | budget + 1, cs =>
    match skipSpace verbose cs with
    | '\x7d' :: rest => some (done.reverse, rest)
    | c :: rest =>
      if (CodeSet.hexDigit? c).isSome then readBracedHex? verbose (c :: done) budget rest else none
    | [] => none

def readFixedHex? (verbose : Bool) (done : List Char) : Nat → List Char →
    Option (List Char × List Char)
  | 0, cs => some (done.reverse, cs)
  | count + 1, cs =>
    match skipSpace verbose cs with
    | c :: rest =>
      if (CodeSet.hexDigit? c).isSome then readFixedHex? verbose (c :: done) count rest else none
    | [] => none

/-- The character of a code point, if there is one. -/
def charOf? (n : Nat) : Option Char :=
  if h : n.isValidChar then some (Char.ofNatAux n h) else none

/-- A character by its code point, after the letter that announces it. -/
def readHex? (verbose : Bool) (letter : Char) (cs : List Char) :
    Option (Primitive × List Char) := do
  let count := if letter = 'x' then 2 else if letter = 'u' then 4 else 8
  match skipSpace verbose cs with
  | '\x7b' :: rest =>
    let (ds, rest) ← readBracedHex? verbose [] (rest.length + 1) rest
    if ds.isEmpty then none
    else
      let c ← charOf? (CodeSet.hexValue ds)
      some (.literal c false, skipSpace verbose rest)
  | rest =>
    let (ds, rest) ← readFixedHex? verbose [] count rest
    let c ← charOf? (CodeSet.hexValue ds)
    some (.literal c (letter = 'x'), skipSpace verbose rest)

def readBraced? (verbose : Bool) (done : List Char) : Nat → List Char →
    Option (List Char × List Char)
  | 0, _ => none
  | budget + 1, cs =>
    match skipSpace verbose cs with
    | '\x7d' :: rest => some (done.reverse, rest)
    | c :: rest => readBraced? verbose (c :: done) budget rest
    | [] => none

/-- A property after the letter that announces it. -/
def readProperty? (verbose negated : Bool) (cs : List Char) : Option (Primitive × List Char) := do
  match skipSpace verbose cs with
  | '\x7b' :: rest =>
    let (name, rest) ← readBraced? verbose [] (rest.length + 1) rest
    let (s, unequal) ← propertySet? name
    some (.property s (negated != unequal), rest)
  | '\\' :: _ => none
  | c :: rest =>
    let s ← namedSet? (plainName [c])
    some (.property s negated, skipSpace verbose rest)
  | [] => none

/-- A word boundary, which may be narrowed by a name in braces; braces that hold something else are
a repetition and are left alone. -/
def readBoundary? (verbose : Bool) (cs : List Char) : Option (Primitive × List Char) :=
  let isNameChar (c : Char) : Bool := c.isAlpha || c = '-'
  match cs with
  | '\x7b' :: rest =>
    match skipSpace verbose rest with
    | [] => none
    | c :: more =>
      if !isNameChar c then some (.look .wordBoundary, cs)
      else
        match readBraced? verbose [] (more.length + 2) (c :: more) with
        | none => none
        | some (name, rest) =>
          match String.ofList name with
          | "start" => some (.look .wordStart, rest)
          | "end" => some (.look .wordEnd, rest)
          | "start-half" => some (.look .wordStartHalf, rest)
          | "end-half" => some (.look .wordEndHalf, rest)
          | _ => none
  | _ => some (.look .wordBoundary, cs)

/-- An escape after its backslash. -/
def readEscape? (verbose : Bool) : List Char → Option (Primitive × List Char)
  | [] => none
  | c :: rest =>
    if c = 'x' || c = 'u' || c = 'U' then readHex? verbose c rest
    else if c = 'p' || c = 'P' then readProperty? verbose (c = 'P') rest
    else
      match letterClass? c.toLower with
      | some (unicode, ascii) => some (.letterClass unicode ascii c.isUpper, rest)
      | none =>
        match c with
        | 'a' => some (.literal '\x07' false, rest)
        | 'f' => some (.literal '\x0c' false, rest)
        | 't' => some (.literal '\t' false, rest)
        | 'n' => some (.literal '\n' false, rest)
        | 'r' => some (.literal '\r' false, rest)
        | 'v' => some (.literal '\x0b' false, rest)
        | 'A' => some (.look fun _ => .textStart, rest)
        | 'z' => some (.look fun _ => .textEnd, rest)
        | 'b' => readBoundary? verbose rest
        | 'B' => some (.look .notWordBoundary, rest)
        | '<' => some (.look .wordStart, rest)
        | '>' => some (.look .wordEnd, rest)
        | c => if c.toNat < 128 && !c.isAlphanum then some (.literal c false, rest) else none

/-- A set that has been read, and its nesting depth. -/
structure ReadSet where
  set : CodeSet
  height : Nat

def Flags.fold (f : Flags) (s : CodeSet) : CodeSet :=
  if !f.ignoreCase then s else if f.unicode then Fold.close s else Fold.closeAscii s

/-- Negation, which leaves ASCII and so needs Unicode. -/
def Flags.negate? (f : Flags) (negated : Bool) (s : CodeSet) : Option CodeSet :=
  if !negated then some s else if f.unicode then some s.complement else none

/-- Members that a primitive contributes to a class. -/
def Flags.members? (f : Flags) : Primitive → Option CodeSet
  | .literal c _ => if f.unicode || c.toNat < 128 then some (.ofChar c) else none
  | .letterClass unicode ascii negated => f.negate? negated (if f.unicode then unicode else ascii)
  | .property s negated => if f.unicode then f.negate? negated (f.fold s) else none
  | _ => none

def readMember? (f : Flags) : List Char → Option (Primitive × List Char)
  | '\\' :: rest => readEscape? f.verbose rest
  | c :: rest => some (.literal c false, rest)
  | [] => none

/-- The character that decides whether a hyphen makes a range. The look ahead passes over blanks and
one number sign, but not over the comment that it opens. -/
def peekPast (verbose : Bool) (cs : List Char) : Option Char :=
  if !verbose then cs.head?
  else
    match cs.dropWhile Text.isBlank with
    | '#' :: rest => (rest.dropWhile Text.isBlank).head?
    | rest => rest.head?

/-- One member of a class or a range of members. -/
def readRange? (f : Flags) (cs : List Char) : Option (CodeSet × List Char) := do
  let (first, rest) ← readMember? f cs
  match skipSpace f.verbose rest with
  | [] => none
  | '-' :: more =>
    let next := peekPast f.verbose more
    if next = some ']' || next = some '-' then do
      let s ← f.members? first
      some (s, '-' :: more)
    else do
      let (last, rest) ← readMember? f (skipSpace f.verbose more)
      match first, last with
      | .literal a _, .literal b _ =>
        if a.toNat ≤ b.toNat && (f.unicode || b.toNat < 128) then
          some (.ofRange a.toNat b.toNat, rest)
        else none
      | _, _ => none
  | rest => do
    let s ← f.members? first
    some (s, rest)

/-- A class named between colons, after the opening bracket; nothing if it is none. -/
def readBracketed? (f : Flags) : List Char → Option (Option CodeSet × List Char)
  | ':' :: rest =>
    let (negated, rest) := match rest with
      | '^' :: more => (true, more)
      | _ => (false, rest)
    match rest.dropWhile (· ≠ ':') with
    | ':' :: ']' :: after =>
      (bracketedClass? (String.ofList (rest.takeWhile (· ≠ ':')))).map fun s =>
        (f.negate? negated (f.fold s), after)
    | _ => none
  | _ => none

/-- How two operands of a class are combined. -/
inductive SetOp
  | inter | diff | symmDiff

def SetOp.apply : SetOp → CodeSet → CodeSet → CodeSet
  | .inter, a, b => a.inter b
  | .diff, a, b => a.diff b
  | .symmDiff, a, b => a.symmDiff b

/-- Union of members read so far, with their number and greatest nesting depth. -/
structure Members where
  set : CodeSet
  count : Nat
  height : Nat

def Members.none : Members := ⟨.empty, 0, 0⟩

def Members.add (m : Members) (s : ReadSet) : Members :=
  ⟨m.set.union s.set, m.count + 1, max m.height s.height⟩

def Members.close (m : Members) : ReadSet := ⟨m.set, if 1 < m.count then m.height + 1 else m.height⟩

/-- Applies a pending operation. Operands are closed under case before they are combined. -/
def combine (f : Flags) (pending : Option (SetOp × ReadSet)) (m : Members) : ReadSet :=
  let right := m.close
  match pending with
  | none => right
  | some (op, left) =>
    ⟨op.apply (f.fold left.set) (f.fold right.set), max left.height right.height + 1⟩

/-- Hyphens at the start of a class stand for themselves. -/
def readHyphens (verbose : Bool) (m : Members) : Nat → List Char → Members × List Char
  | 0, cs => (m, cs)
  | budget + 1, cs =>
    match cs with
    | '-' :: rest => readHyphens verbose (m.add ⟨.ofChar '-', 0⟩) budget (skipSpace verbose rest)
    | _ => (m, cs)

/-- Negation and the members that are taken literally at the start of a class. -/
def readClassStart (f : Flags) (cs : List Char) : Bool × Members × List Char :=
  let cs := skipSpace f.verbose cs
  let (negated, cs) := match cs with
    | '^' :: rest => (true, skipSpace f.verbose rest)
    | _ => (false, cs)
  let (m, cs) := readHyphens f.verbose .none cs.length cs
  match cs with
  | ']' :: rest =>
    if m.count = 0 then (negated, m.add ⟨.ofChar ']', 0⟩, skipSpace f.verbose rest)
    else (negated, m, cs)
  | _ => (negated, m, cs)

/-- The rest of a class up to its closing bracket. -/
def readClass? (f : Flags) : Nat → Bool → Option (SetOp × ReadSet) → Members → List Char →
    Option (ReadSet × List Char)
  | 0, _, _, _, _ => none
  | budget + 1, negated, pending, m, cs =>
    match skipSpace f.verbose cs with
    | [] => none
    | ']' :: rest =>
      let s := combine f pending m
      (f.negate? negated (f.fold s.set)).map fun set => (⟨set, s.height + 1⟩, rest)
    | '[' :: rest =>
      match readBracketed? f rest with
      | some (some s, rest) => readClass? f budget negated pending (m.add ⟨s, 0⟩) rest
      | some (none, _) => none
      | none =>
        let (innerNegated, inner, rest) := readClassStart f rest
        match readClass? f budget innerNegated none inner rest with
        | some (s, rest) => readClass? f budget negated pending (m.add s) rest
        | none => none
    | '&' :: '&' :: rest =>
      readClass? f budget negated (some (.inter, combine f pending m)) .none rest
    | '-' :: '-' :: rest =>
      readClass? f budget negated (some (.diff, combine f pending m)) .none rest
    | '~' :: '~' :: rest =>
      readClass? f budget negated (some (.symmDiff, combine f pending m)) .none rest
    | rest =>
      match readRange? f rest with
      | some (s, rest) => readClass? f budget negated pending (m.add ⟨s, 0⟩) rest
      | none => none

/-- A class after its opening bracket. -/
def readWholeClass? (f : Flags) (cs : List Char) : Option (ReadSet × List Char) :=
  let (negated, m, rest) := readClassStart f cs
  readClass? f (rest.length + 1) negated none m rest

def Flags.pattern? (f : Flags) : Primitive → Option Pattern
  | .literal c raw =>
    if !f.unicode && raw && 127 < c.toNat then none
    else if f.unicode || c.toNat < 128 then some (.ofSet (f.fold (.ofChar c)))
    else some (.text [c])
  | .letterClass unicode ascii negated =>
    (f.negate? negated (if f.unicode then unicode else ascii)).map .ofSet
  | .property s negated => if f.unicode then (f.negate? negated (f.fold s)).map .ofSet else none
  | .startAnchor =>
    some (.look (if !f.multiLine then .textStart
      else if f.crlf then .lineStartCrlf else .lineStart))
  | .endAnchor =>
    some (.look (if !f.multiLine then .textEnd else if f.crlf then .lineEndCrlf else .lineEnd))
  | .anyChar =>
    if !f.unicode then none
    else if f.dotAll then some (.one .all)
    else if f.crlf then some (.one (CodeSet.ofText "A D").complement)
    else some (.one (CodeSet.single 10).complement)
  | .look l => some (.look (l f.unicode))

/-- What has been read of a group: a piece of a pattern, or nothing for a change of flags. -/
structure Read where
  pattern : Pattern
  height : Nat
  repeatable : Bool

def Read.ofSeq (items : List Read) : Read :=
  ⟨.sequence (items.map Read.pattern),
    (items.map Read.height).foldl max 0 + (if 1 < items.length then 1 else 0), true⟩

def Read.ofAlt (items : List Read) : Read :=
  ⟨.choice (items.map Read.pattern),
    (items.map Read.height).foldl max 0 + (if 1 < items.length then 1 else 0), true⟩

/-- A group from its complete alternatives and the pieces of the last one, both last first. -/
def Read.ofGroup (done items : List Read) : Read :=
  .ofAlt (Read.ofSeq items.reverse :: done).reverse

/-- Text that is still to be read, the flags in force and the names given to groups. -/
structure Cursor where
  rest : List Char
  flags : Flags
  names : List (List Char)

/-- Flag letters up to a colon or a parenthesis: the flags they leave, the closing character, and
the rest. Each letter and the hyphen stand at most once, and the hyphen is not last. -/
def readFlags? (f : Flags) (on : Bool) (used : List Char) : List Char →
    Option (Flags × Char × List Char)
  | [] => none
  | c :: rest =>
    if c = ':' || c = ')' then
      if used.head? = some '-' || (c = ')' && used.isEmpty) then none else some (f, c, rest)
    else if used.contains c then none
    else if c = '-' then readFlags? f false (c :: used) rest
    else
      match f.set? c on with
      | some f => readFlags? f on (c :: used) rest
      | none => none

def isNameStart (c : Char) : Bool := c = '_' || Current.alphabetic.contains c

def isNameChar (c : Char) : Bool :=
  c = '_' || c = '.' || c = '[' || c = ']' || Current.alphanumeric.contains c

def readName? (cs : List Char) : Option (List Char × List Char) :=
  let name := cs.takeWhile (· ≠ '>')
  match name, cs.dropWhile (· ≠ '>') with
  | c :: more, '>' :: rest =>
    if isNameStart c && more.all isNameChar then some (name, rest) else none
  | _, _ => none

/-- What stands next in a group: its end, a bar between alternatives, a piece, a repetition of the
piece before, or a group of its own. Each comes with the cursor after it. -/
inductive Next
  | finish (cursor : Cursor)
  | bar (cursor : Cursor)
  | piece (r : Read) (cursor : Cursor)
  | repeated (least : Nat) (most : Option Nat) (greedy : Bool) (cursor : Cursor)
  | group (remembered : Bool) (cursor : Cursor)

def readNamed? (cursor : Cursor) (cs : List Char) : Option Next := do
  let (name, rest) ← readName? cs
  if cursor.names.contains name then none
  else some (.group true { cursor with rest := rest, names := name :: cursor.names })

/-- What follows an opening parenthesis. A change of flags is a piece that matches nothing. -/
def readOpening? (cursor : Cursor) : Option Next :=
  match skipSpace cursor.flags.verbose cursor.rest with
  | '?' :: '=' :: _ => none
  | '?' :: '!' :: _ => none
  | '?' :: '<' :: '=' :: _ => none
  | '?' :: '<' :: '!' :: _ => none
  | '?' :: 'P' :: '<' :: rest => readNamed? cursor rest
  | '?' :: '<' :: rest => readNamed? cursor rest
  | '?' :: rest =>
    match readFlags? cursor.flags true [] rest with
    | some (flags, closing, rest) =>
      if closing = ')' then
        some (.piece ⟨.empty, 0, false⟩ { cursor with rest := rest, flags := flags })
      else some (.group false { cursor with rest := rest, flags := flags })
    | none => none
  | rest => some (.group true { cursor with rest := rest })

def readPrimitive? (f : Flags) : List Char → Option (Primitive × List Char)
  | [] => none
  | '\\' :: rest => readEscape? f.verbose rest
  | '.' :: rest => some (.anyChar, rest)
  | '^' :: rest => some (.startAnchor, rest)
  | '$' :: rest => some (.endAnchor, rest)
  | c :: rest => some (.literal c false, rest)

/-- Replaces the last piece by its repetition. -/
def repeatLast? (least : Nat) (most : Option Nat) (greedy : Bool) : List Read → Option (List Read)
  | r :: items =>
    if r.repeatable then
      some (⟨.repeated r.pattern least most greedy, r.height + 1, true⟩ :: items)
    else none
  | [] => none

/-- A repetition and the cursor after it. A question mark changes which match is preferred. -/
def Cursor.repeated (cursor : Cursor) (least : Nat) (most : Option Nat) (rest : List Char) : Next :=
  match rest with
  | '?' :: rest => .repeated least most cursor.flags.swapGreed { cursor with rest := rest }
  | rest => .repeated least most (!cursor.flags.swapGreed) { cursor with rest := rest }

/-- A group may end at the end of the text only if it is the whole text. -/
def readNext? (inner : Bool) (cursor : Cursor) : Option Next :=
  let cs := skipSpace cursor.flags.verbose cursor.rest
  match cs with
  | [] => if inner then none else some (.finish { cursor with rest := [] })
  | ')' :: rest => if inner then some (.finish { cursor with rest := rest }) else none
  | '|' :: rest => some (.bar { cursor with rest := rest })
  | '(' :: rest => readOpening? { cursor with rest := rest }
  | '[' :: rest =>
    (readWholeClass? cursor.flags rest).map fun r =>
      .piece ⟨.ofSet r.1.set, r.1.height, true⟩ { cursor with rest := r.2 }
  | '?' :: rest => some (cursor.repeated 0 (some 1) rest)
  | '*' :: rest => some (cursor.repeated 0 none rest)
  | '+' :: rest => some (cursor.repeated 1 none rest)
  | '\x7b' :: rest =>
    (readBounds? cursor.flags.verbose rest).map fun r =>
      cursor.repeated r.1.1 r.1.2 (skipSpace cursor.flags.verbose r.2)
  | _ => do
    let (p, rest) ← readPrimitive? cursor.flags cs
    let p ← cursor.flags.pattern? p
    some (.piece ⟨p, 0, true⟩ { cursor with rest := rest })

/-- The rest of a group, or of the whole text. `done` holds the alternatives that are complete and
`items` the pieces of the current one, both last first. -/
def readGroup? : Nat → Bool → List Read → List Read → Cursor → Option (Read × Cursor)
  | 0, _, _, _, _ => none
  | budget + 1, inner, done, items, cursor =>
    match readNext? inner cursor with
    | none => none
    | some (.finish cursor) => some (Read.ofGroup done items, cursor)
    | some (.bar cursor) => readGroup? budget inner (Read.ofSeq items.reverse :: done) [] cursor
    | some (.piece r cursor) => readGroup? budget inner done (r :: items) cursor
    | some (.repeated least most greedy cursor) =>
      match repeatLast? least most greedy items with
      | some items => readGroup? budget inner done items cursor
      | none => none
    | some (.group remembered opened) =>
      match readGroup? budget true [] [] opened with
      | some (r, closed) =>
        let p := if remembered then .group r.pattern else r.pattern
        readGroup? budget inner done (⟨p, r.height + 1, true⟩ :: items)
          { closed with flags := cursor.flags }
      | none => none

def heightLimit : Nat := 250

/-- The pattern that a whole text denotes. -/
def read? (s : String) : Option Pattern :=
  let cs := s.toList
  match readGroup? (cs.length + 1) false [] [] ⟨cs, .start, []⟩ with
  | some (r, _) =>
    if r.height ≤ heightLimit && r.pattern.fits then some r.pattern else none
  | none => none

end LiveConfig.Pattern
