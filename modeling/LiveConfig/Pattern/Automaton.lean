import LiveConfig.Pattern.Basic

/-! Searching for a pattern in a text.

A pattern becomes a program of instructions that refer to each other by position. A search walks
the text once and keeps the set of instructions that wait for the next character; before each
character, and once at the end, the set is closed under the instructions that consume nothing, each
being entered at most once. So the time is bounded by the product of the sizes of text and program,
whatever the pattern. -/
namespace LiveConfig.Pattern

inductive Instruction
  | take (s : CodeSet) (next : Nat)
  | check (l : Look) (next : Nat)
  | fork (a b : Nat)
  | accept
deriving Inhabited

abbrev Program := Array Instruction

/-- Repeats a compilation step, each repetition entering what the one before it produced. -/
def compileCopies (step : Nat → Program → Nat × Program) : Nat → Nat → Program → Nat × Program
  | 0, next, program => (next, program)
  | n + 1, next, program =>
    let (entry, program) := step next program
    compileCopies step n entry program

/-- Appends an instruction; gives its position. -/
def emit (program : Program) (i : Instruction) : Nat × Program := (program.size, program.push i)

/-- Appends the instructions of a pattern that is followed by `next`; gives its entry. -/
def compile : Pattern → Nat → Program → Nat × Program
  | .empty, next, program => (next, program)
  | .text cs, next, program =>
    cs.foldr (fun c (next, program) => emit program (.take (.ofChar c) next)) (next, program)
  | .one s, next, program => emit program (.take s next)
  | .look l, next, program => emit program (.check l next)
  | .group p, next, program => compile p next program
  | .times p least most _, next, program =>
    let (tail, program) := match most with
      | none =>
        let loop := program.size
        let (entry, program) := compile p loop (program.push (.fork next next))
        (loop, program.setIfInBounds loop (.fork entry next))
      | some m =>
        compileCopies (fun after program =>
          let (entry, program) := compile p after program
          emit program (.fork entry next)) (m - least) next program
    compileCopies (compile p) least tail program
  | .seq ps, next, program => row ps next program
  | .alt ps, next, program => alternatives ps next program
where
  row : List Pattern → Nat → Program → Nat × Program
    | [], next, program => (next, program)
    | p :: ps, next, program =>
      let (entry, program) := row ps next program
      compile p entry program
  alternatives : List Pattern → Nat → Program → Nat × Program
    | [], next, program => emit program (.take .empty next)
    | [p], next, program => compile p next program
    | p :: ps, next, program =>
      let (right, program) := alternatives ps next program
      let (left, program) := compile p next program
      emit program (.fork left right)

structure Automaton where
  program : Program
  entry : Nat

def automaton (p : Pattern) : Automaton :=
  let (entry, program) := compile p 0 #[.accept]
  ⟨program, entry⟩

/-- What has been reached at one position. -/
structure Front where
  seen : Array Bool
  waiting : List Nat
  accepted : Bool

/-- Enters an instruction at a position between two characters. -/
def visit (program : Program) (before next : Option Char) : Nat → Nat → Front → Front
  | 0, _, front => front
  | fuel + 1, pc, front =>
    if front.seen.getD pc true then front
    else
      let front := { front with seen := front.seen.setIfInBounds pc true }
      match program[pc]? with
      | some (.take _ _) => { front with waiting := pc :: front.waiting }
      | some (.check l target) =>
        if l.holds before next then visit program before next fuel target front else front
      | some (.fork a b) =>
        visit program before next fuel b (visit program before next fuel a front)
      | some .accept => { front with accepted := true }
      | none => front

/-- The front at a position whose given instructions are entered. -/
def Automaton.close (m : Automaton) (before next : Option Char) (entries : List Nat) : Front :=
  entries.foldl (fun front pc => visit m.program before next (m.program.size + 1) pc front)
    ⟨Array.replicate m.program.size false, [], false⟩

/-- Instructions entered after a character. -/
def Automaton.advance (m : Automaton) (c : Char) (front : Front) : List Nat :=
  front.waiting.filterMap fun pc =>
    match (m.program[pc]? : Option Instruction) with
    | some (.take s next) => if s.contains c then some next else none
    | _ => none

/-- Whether a match ends in the rest of a text, the entries being those left over from before. -/
def Automaton.search (m : Automaton) (before : Option Char) (entries : List Nat) :
    List Char → Bool
  | [] => (m.close before none (m.entry :: entries)).accepted
  | c :: rest =>
    let front := m.close before (some c) (m.entry :: entries)
    front.accepted || m.search (some c) (m.advance c front) rest

/-- Whether the pattern matches somewhere in a text. -/
def occursIn (p : Pattern) (text : String) : Bool := p.automaton.search none [] text.toList

end LiveConfig.Pattern
