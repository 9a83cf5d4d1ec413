import PythonStyle.Grammar.Table

/-!
# The canonical automaton

A state is a set of items, each with the terminals that may follow it.  States
are built when a parse first reaches them and kept from then on, so an automaton
is a growing memory; what it answers does not depend on what it already holds.

In a state a terminal has *actions*: completed items to reduce, or a shift.  Where
both are possible, levels and sides decide; where they do not, all actions stay
and the parse follows each.

Main definitions:

- `State.actions`: the actions of a terminal in a state.
- `State.accepted`: the terminals that have an action there.
- `Automaton.target`: the state reached by reading a symbol.
-/

namespace PythonStyle.Grammar

/-- The items that make up a state, in item order, with their lookaheads. -/
abbrev Kernel := List (Nat × TerminalSet)

/-- A state of the automaton. -/
structure State where
  kernel : Kernel
  /-- For each nonterminal that may start here, what may follow it; empty for the others. -/
  follow : Array TerminalSet
  /-- The terminals that may come next. -/
  accepted : TerminalSet
  deriving Inhabited

/-- A completed item to reduce. -/
structure Reduction where
  item : Nat
  production : Nat
  parent : Nat
  length : Nat
  level : Int
  side : Option Side
  deriving Inhabited

/-- What to do on a terminal: reductions in order, then possibly a shift. -/
structure Actions where
  reductions : List Reduction
  shift : Bool
  deriving Inhabited

namespace Actions

/-- Whether there is nothing to do. -/
def isEmpty (a : Actions) : Bool := a.reductions.isEmpty && !a.shift

end Actions

variable {τ : Type}

namespace State

/-- Adds to what may follow each nonterminal what a kernel item contributes. -/
def addFollowers (t : Table τ) (follow : Array TerminalSet) (entry : Nat × TerminalSet) :
    Array TerminalSet :=
  let item := t.item entry.1
  match item.next with
  | some (.nonterminal n) =>
    let after := match item.second with
      | some symbol => t.first symbol
      | none => entry.2
    (t.corners.getD n #[]).foldl (fun acc c =>
      acc.modify c.nonterminal fun old =>
        TerminalSet.union old
          (TerminalSet.union c.followers (if c.inherits then after else 0))) follow
  | _ => follow

/-- The terminals that a kernel item waits for, or that complete it. -/
def acceptedBy (t : Table τ) (entry : Nat × TerminalSet) : TerminalSet :=
  match (t.item entry.1).next with
  | none => entry.2
  | some (.terminal n) => .single n
  | some (.nonterminal _) => 0

/-- The state of a kernel. -/
def ofKernel (t : Table τ) (kernel : Kernel) : State :=
  let follow := kernel.foldl (addFollowers t) (Array.replicate t.nonterminals.size 0)
  let waiting := kernel.foldl (fun acc entry => TerminalSet.union acc (acceptedBy t entry)) 0
  let opening := follow.toList.zipIdx.foldl (fun acc (after, n) =>
    if after == 0 then acc else TerminalSet.union acc (t.openers.getD n 0)) waiting
  let closing := t.empties.foldl (fun acc (n, _) =>
    TerminalSet.union acc (follow.getD n 0)) opening
  { kernel, follow, accepted := closing }

/-- Whether a terminal may come next. -/
def accepts (s : State) (terminal : Nat) : Bool := s.accepted.contains terminal

/-- The reduction of a completed item. -/
def reductionOf (t : Table τ) (n : Nat) : Reduction :=
  let item := t.item n
  ⟨n, item.production, item.parent, item.length, item.level, item.side⟩

/-- The completed items that a terminal may follow, in item order. -/
def completed (t : Table τ) (s : State) (terminal : Nat) : List Reduction :=
  let empties := t.empties.toList.filterMap fun (n, item) =>
    if (s.follow.getD n 0).contains terminal then some (reductionOf t item) else none
  let kernel := s.kernel.filterMap fun (n, after) =>
    if (t.item n).next.isNone && after.contains terminal then some (reductionOf t n) else none
  empties ++ kernel

/-- Of several reductions those of the highest level. -/
def highest (reductions : List Reduction) : List Reduction :=
  match (reductions.map (·.level)).max? with
  | none => []
  | some top => reductions.filter (·.level == top)

/-- Whether reading a terminal goes on with some item. -/
def shifts (t : Table τ) (s : State) (terminal : Nat) : Bool :=
  s.kernel.any (fun (n, _) => (t.item n).next == some (.terminal terminal)) ||
  s.follow.toList.zipIdx.any fun (after, n) =>
    after != 0 && (t.openers.getD n 0).contains terminal

/-- The started items that can go on with a terminal. -/
def rivals (t : Table τ) (s : State) (terminal : Nat) : List Item :=
  s.kernel.filterMap fun (n, _) =>
    let item := t.item n
    match item.next with
    | some symbol =>
      if 0 < item.dot && (t.first symbol).contains terminal then some item else none
    | none => none

/-- Settles a choice between reducing and shifting.  A repetition reduces first.
Otherwise the higher level wins; between equal levels a left side reduces, a right
side shifts, and anything else keeps both. -/
def decide (t : Table τ) (rivals : List Item) (reductions : List Reduction) : Actions :=
  let parents := rivals.map (·.parent) ++ reductions.map (·.parent)
  let sameRepetition := match parents with
    | [] => false
    | p :: rest => (t.nonterminal p).repetition && rest.all (· == p)
  if sameRepetition then ⟨reductions, false⟩
  else
    let level := match reductions with
      | [] => 0
      | r :: _ => r.level
    let higher := rivals.any fun i => level < i.level
    let lower := rivals.any fun i => i.level < level
    if higher && !lower then ⟨[], true⟩
    else if lower && !higher then ⟨reductions, false⟩
    else if higher then ⟨reductions, true⟩
    else if reductions.all (·.side == some .left) then ⟨reductions, false⟩
    else if reductions.all (·.side == some .right) then ⟨[], true⟩
    else ⟨reductions, true⟩

/-- The actions of a terminal. -/
def actions (t : Table τ) (s : State) (terminal : Nat) : Actions :=
  let reductions := highest (completed t s terminal)
  let shift := shifts t s terminal
  match reductions, shift with
  | [], shift => ⟨[], shift⟩
  | reductions, false => ⟨reductions, false⟩
  | reductions, true => decide t (rivals t s terminal) reductions

/-- Adds an item to a kernel, in item order; lookaheads of one item are joined. -/
def insertItem (entry : Nat × TerminalSet) : Kernel → Kernel
  | [] => [entry]
  | head :: rest =>
    if entry.1 < head.1 then entry :: head :: rest
    else if entry.1 == head.1 then (head.1, TerminalSet.union head.2 entry.2) :: rest
    else head :: insertItem entry rest

/-- The kernel reached by reading a symbol. -/
def successor (t : Table τ) (s : State) (symbol : Code) : Kernel :=
  let going := s.kernel.foldl (fun acc (n, after) =>
    let item := t.item n
    if item.next == some symbol then insertItem (item.advanced, after) acc else acc) []
  (t.starts.getD symbol #[]).foldl (fun acc (n, item) =>
    let after := s.follow.getD n 0
    if after == 0 then acc else insertItem (item, after) acc) going

end State

/-- The states met so far, and the moves between them. -/
structure Automaton where
  states : Array State
  known : Std.HashMap Kernel Nat
  moves : Std.HashMap (Nat × Code) Nat

namespace Automaton

/-- The number of the initial state. -/
def start : Nat := 0

/-- The automaton that has met its initial state only. -/
def initial (t : Table τ) : Automaton :=
  let kernel : Kernel := t.initial.toList.foldl (fun acc n =>
    State.insertItem (n, TerminalSet.single endOfInput) acc) []
  { states := #[State.ofKernel t kernel]
    known := ({} : Std.HashMap Kernel Nat).insert kernel 0
    moves := {} }

/-- The state of a number. -/
def state (a : Automaton) (n : Nat) : State := a.states.getD n default

/-- The number of the state of a kernel, which is built if it is new. -/
def intern (t : Table τ) (a : Automaton) (kernel : Kernel) : Nat × Automaton :=
  match a.known[kernel]? with
  | some n => (n, a)
  | none =>
    let n := a.states.size
    (n, { a with
      states := a.states.push (State.ofKernel t kernel)
      known := a.known.insert kernel n })

/-- The state reached from a state by reading a symbol. -/
def target (t : Table τ) (a : Automaton) (state : Nat) (symbol : Code) : Nat × Automaton :=
  match a.moves[(state, symbol)]? with
  | some n => (n, a)
  | none =>
    let (n, a) := intern t a ((a.state state).successor t symbol)
    (n, { a with moves := a.moves.insert (state, symbol) n })

end Automaton

end PythonStyle.Grammar
