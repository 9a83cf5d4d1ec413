import PythonStyle.Grammar.Automaton
import PythonStyle.Grammar.Derivation

/-!
# Parsing with several readings

A parse follows every reading that the actions leave open.  A reading is a stack
of derivations with the automaton's states between them, a position in the source
and the memory of the lexer there.  The lexer sees which terminals the reading
accepts, so the same text may be read as different terminals by different readings.

Readings are kept in order.  Reducing may add readings at the end; a shift keeps a
reading in its place.  Two readings that agree on position, memory and states are
joined, and `Derivation.preferred` chooses between what they hold.  A reading
without actions is dropped; the text parses if some reading accepts it whole.

Main definitions:

- `Lexer`: how the text is cut, given what may come next.
- `Parse.run`: the preferred derivation of a whole source.
-/

namespace PythonStyle.Grammar

/-- A terminal read from the source. -/
structure Lexeme (σ : Type) where
  terminal : Nat
  /-- What the same text is where this terminal has no action. -/
  otherwise : Option Nat
  start : Nat
  stop : Nat
  /-- What the lexer remembers afterwards. -/
  memory : σ

/-- Cuts the text: given the terminals that may come next, a position and a memory,
reads one terminal, if any can be read. -/
structure Lexer (σ : Type) where
  initial : σ
  next : TerminalSet → Nat → σ → Option (Lexeme σ)

/-- A derivation on the stack, with the state it leads to. -/
structure Frame where
  state : Nat
  derivation : Derivation
  deriving Inhabited

/-- One way to read the source up to some position. -/
structure Reading (σ : Type) where
  stack : List Frame
  position : Nat
  memory : σ

namespace Reading

variable {σ : Type}

/-- The state on top of a stack. -/
def topState : List Frame → Nat
  | [] => Automaton.start
  | f :: _ => f.state

/-- The weight of all choices in a reading. -/
def weight (r : Reading σ) : Int :=
  r.stack.foldl (fun sum f => sum + f.derivation.weight) 0

/-- Whether two readings agree on position, memory and states. -/
def agrees [BEq σ] (a b : Reading σ) : Bool :=
  a.position == b.position && a.memory == b.memory &&
    a.stack.map (·.state) == b.stack.map (·.state)

/-- Joins a reading with a later one that agrees with it. -/
def join (a b : Reading σ) : Reading σ :=
  let choose := fun (f g : Frame) =>
    { f with derivation := f.derivation.preferred g.derivation }
  { a with stack := List.zipWith choose a.stack b.stack }

/-- Takes parts from a stack until a number of them are not extra. -/
def takeParts : Nat → List Frame → List Derivation → List Derivation × List Frame
  | 0, stack, parts => (parts, stack)
  | _ + 1, [], parts => (parts, [])
  | n + 1, f :: stack, parts =>
    if f.derivation.isExtra then takeParts (n + 1) stack (f.derivation :: parts)
    else takeParts n stack (f.derivation :: parts)

/-- Pushes derivations that all lead to one state. -/
def pushAll (state : Nat) (derivations : List Derivation) (stack : List Frame) : List Frame :=
  derivations.foldl (fun stack d => ⟨state, d⟩ :: stack) stack

end Reading

/-- The state of a parse: the automaton so far, the readings in order, and the
derivation of the whole source, once there is one. -/
structure Parse (σ : Type) where
  automaton : Automaton
  readings : Array (Reading σ)
  finished : Option Derivation

namespace Parse

variable {τ σ : Type} [BEq σ]

/-- Adds a reading at the end, or joins it to an earlier one, other than the `i`th,
that agrees with it. -/
def add (p : Parse σ) (i : Nat) (r : Reading σ) : Parse σ :=
  let found := (List.range p.readings.size).find? fun j =>
    j != i && (p.readings[j]?).any (·.agrees r)
  match found with
  | some j => { p with readings := p.readings.modify j (·.join r) }
  | none => { p with readings := p.readings.push r }

/-- Keeps the preferred derivation of the whole source. -/
def finish (p : Parse σ) (d : Derivation) : Parse σ :=
  { p with finished := some ((p.finished.map (·.preferred d)).getD d) }

/-- Reduces an item on a reading. -/
def reduce (t : Table τ) (i : Nat) (r : Reading σ) (p : Parse σ) (action : Reduction) :
    Parse σ :=
  let (parts, rest) := Reading.takeParts action.length r.stack []
  let trailing := (parts.reverse.takeWhile (·.isExtra)).reverse
  let inner := parts.take (parts.length - trailing.length)
  let weight := (t.production action.production).weight
  let build := Derivation.ofChildren action.production action.parent weight r.position
  if action.parent == 0 && rest.all (·.derivation.isExtra) then
    p.finish (build (rest.reverse.map (·.derivation) ++ inner ++ trailing))
  else
    let (state, automaton) :=
      p.automaton.target t (Reading.topState rest) (.nonterminal action.parent)
    let stack := Reading.pushAll state trailing (⟨state, build inner⟩ :: rest)
    { p with automaton }.add i { r with stack }

/-- Replaces the `i`th reading by one that has shifted a terminal. -/
def shift (i : Nat) (r : Reading σ) (state : Nat) (extra : Bool) (x : Lexeme σ) (p : Parse σ) :
    Parse σ :=
  let leaf := Derivation.leaf x.terminal x.start x.stop extra
  let moved : Reading σ := ⟨⟨state, leaf⟩ :: r.stack, x.stop, x.memory⟩
  { p with readings := p.readings.setIfInBounds i moved }

/-- Drops the `i`th reading. -/
def drop (i : Nat) (p : Parse σ) : Parse σ :=
  { p with readings := p.readings.eraseIdxIfInBounds i }

/-- Carries the `i`th reading over a terminal, reducing as far as needed; the flag
says whether the reading is still there. -/
def consume (t : Table τ) (i : Nat) : Nat → Lexeme σ → Parse σ → Parse σ × Bool
  | 0, _, p => (p.drop i, false)
  | fuel + 1, x, p =>
    match p.readings[i]? with
    | none => (p, false)
    | some r =>
      let top := Reading.topState r.stack
      if t.extras.contains x.terminal then (p.shift i r top true x, true)
      else
        let state := p.automaton.state top
        let actions := state.actions t x.terminal
        if actions.isEmpty then
          match x.otherwise with
          | none => (p.drop i, false)
          | some word => consume t i fuel { x with terminal := word, otherwise := none } p
        else
          let before := p.readings.size
          let p := actions.reductions.foldl (reduce t i r) p
          if actions.shift then
            let (target, automaton) := p.automaton.target t top (.terminal x.terminal)
            ({ p with automaton }.shift i r target false x, true)
          else
            match p.readings.back? with
            | some last =>
              if before < p.readings.size then
                consume t i fuel x { p with readings := p.readings.pop.setIfInBounds i last }
              else (p.drop i, false)
            | none => (p, false)

/-- Joins readings that agree and puts weightier ones first. -/
def condense (p : Parse σ) : Parse σ :=
  let joined := p.readings.foldl (fun (acc : Array (Reading σ)) r =>
    match acc.findIdx? (·.agrees r) with
    | some j => acc.modify j (·.join r)
    | none => acc.push r) #[]
  { p with readings :=
      (joined.toList.mergeSort fun a b => b.weight ≤ a.weight).toArray }

/-- Follows the readings in rounds.  In a round each reading in turn is carried on
until it is past the furthest position reached, or, after the first, up to it. -/
def rounds (t : Table τ) (lexer : Lexer σ) (reductions : Nat) :
    Nat → Nat → Nat → Parse σ → Option Derivation
  | 0, _, _, p => p.finished
  | fuel + 1, i, reached, p =>
    match p.readings[i]? with
    | none =>
      if p.readings.isEmpty then p.finished
      else rounds t lexer reductions fuel 0 reached p.condense
    | some r =>
      let accepted :=
        TerminalSet.union t.extras (p.automaton.state (Reading.topState r.stack)).accepted
      match lexer.next accepted r.position r.memory with
      | none => rounds t lexer reductions fuel i reached (p.drop i)
      | some x =>
        match consume t i reductions x p with
        | (p, false) => rounds t lexer reductions fuel i reached p
        | (p, true) =>
          let position := x.stop
          if reached < position || (0 < i && position == reached) then
            rounds t lexer reductions fuel (i + 1) position p
          else rounds t lexer reductions fuel i reached p

/-- The preferred derivation of a source of a given size, if there is one.  Every
glyph is read a bounded number of times, so the bound on steps is never met. -/
def run (t : Table τ) (lexer : Lexer σ) (size : Nat) : Option Derivation :=
  let start : Reading σ := ⟨[], 0, lexer.initial⟩
  rounds t lexer (1000 + 100 * size) (1000 + 100 * size) 0 0
    ⟨Automaton.initial t, #[start], none⟩

end Parse

end PythonStyle.Grammar
