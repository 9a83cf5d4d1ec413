import PythonStyle.Grammar.Rule
import Std.Data.HashMap

/-!
# Numbered grammars

Prepares a grammar for the automaton: terminals and nonterminals get numbers,
rule bodies become productions, and a production read up to some point becomes an
*item*.  Two places of two productions are the same item when nothing that is
still to come tells them apart: the symbols already read do not count, their
labels and fields do, for these decide the shape of the node.

The table also holds what the automaton asks for again and again: the terminals
that a nonterminal can start with, and the nonterminals that may start where
another one starts, each with the terminals that may follow it there.

Main definitions:

- `RuleSet`: rules, in order, the start rule first.
- `Table.ofGrammar`: the numbered form of a grammar.
-/

namespace PythonStyle.Grammar

/-! ## Sets of terminals -/

/-- A set of terminal numbers, one bit each. -/
abbrev TerminalSet := Nat

namespace TerminalSet

/-- The set of one terminal. -/
def single (n : Nat) : TerminalSet := 1 <<< n

/-- All members of either set. -/
def union (a b : TerminalSet) : TerminalSet := a ||| b

/-- Whether a terminal is a member. -/
def contains (s : TerminalSet) (n : Nat) : Bool := Nat.testBit s n

@[simp] theorem contains_union (a b : TerminalSet) (n : Nat) :
    (union a b).contains n = (a.contains n || b.contains n) := by
  simp [union, contains]

end TerminalSet

/-! ## Symbols, productions and items -/

/-- The number of the end of the input among the terminals. -/
def endOfInput : Nat := 0

/-- A numbered symbol. -/
inductive Code where
  | terminal (n : Nat)
  | nonterminal (n : Nat)
  deriving DecidableEq, Hashable, Inhabited

/-- A numbered step. -/
structure CodedStep where
  symbol : Code
  remarks : Remarks
  deriving DecidableEq, Hashable, Inhabited

/-- A way to build a nonterminal. -/
structure Production where
  parent : Nat
  steps : List CodedStep
  weight : Int
  deriving Inhabited

/-- What tells one item from another. -/
structure ItemKey where
  dot : Nat
  parent : Nat
  weight : Int
  length : Nat
  last : Option CodedStep
  past : List (Option Label × Option String)
  rest : List CodedStep
  deriving DecidableEq, Hashable, Inhabited

/-- Items are kept in this order: by dot, by parent, by weight, by length. -/
def ItemKey.le (a b : ItemKey) : Bool :=
  if a.dot ≠ b.dot then a.dot < b.dot
  else if a.parent ≠ b.parent then a.parent < b.parent
  else if a.weight ≠ b.weight then a.weight < b.weight
  else a.length ≤ b.length

/-- A production read up to some point. -/
structure Item where
  production : Nat
  parent : Nat
  dot : Nat
  weight : Int
  length : Nat
  /-- The symbol to read next, unless the production is complete. -/
  next : Option Code
  /-- The symbol after that one. -/
  second : Option Code
  /-- The item reached by reading the next symbol. -/
  advanced : Nat
  /-- Level and side of the step read last. -/
  level : Int
  side : Option Side
  deriving Inhabited

/-- A nonterminal: the name of its nodes, whether it shows in the tree, and
whether it stands for a repetition. -/
structure Nonterminal where
  name : String
  shown : Bool
  repetition : Bool
  deriving Inhabited

/-- A nonterminal that may start where another one starts: the terminals that may
follow it there, and whether what follows the other one may follow it too. -/
structure LeftCorner where
  nonterminal : Nat
  followers : TerminalSet
  inherits : Bool
  deriving Inhabited

/-- A grammar over terminals `τ`: its rules, the start rule first, and by name the
rules that are spelled out where they are used and those whose nodes do not show. -/
structure RuleSet (τ : Type) where
  rules : List (Rule τ)
  /-- Rules spelled out where they are used, each before those it uses itself. -/
  inlined : List String
  /-- Rules whose children take the place of their nodes. -/
  hidden : List String
  /-- Terminals that may stand anywhere. -/
  extras : List τ

/-- A numbered grammar. -/
structure Table (τ : Type) where
  /-- The terminals; the number of each is one more than its place here. -/
  terminals : Array τ
  nonterminals : Array Nonterminal
  productions : Array Production
  items : Array Item
  /-- The terminals that each nonterminal can start with. -/
  firsts : Array TerminalSet
  /-- The terminals that stand first in a production of each nonterminal. -/
  openers : Array TerminalSet
  /-- The nonterminals that may start where each nonterminal starts, itself included. -/
  corners : Array (Array LeftCorner)
  /-- For each symbol, the items reached by reading it first in a production. -/
  starts : Std.HashMap Code (Array (Nat × Nat))
  /-- The completed items of empty productions, by nonterminal. -/
  empties : Array (Nat × Nat)
  /-- The initial items of the start rule. -/
  initial : Array Nat
  extras : TerminalSet

namespace Table

variable {τ : Type}

/-! ## Numbering -/

/-- The distinct members of a list, each at its first place. -/
def distinct [BEq τ] [Hashable τ] (xs : List τ) : Array τ :=
  (xs.foldl (fun (seen : Std.HashMap τ Unit × Array τ) x =>
    if seen.1.contains x then seen else (seen.1.insert x (), seen.2.push x)) ({}, #[])).2

/-- Numbers the members of an array in order from a first number on. -/
def numbering [BEq τ] [Hashable τ] (first : Nat) (xs : Array τ) : Std.HashMap τ Nat :=
  (xs.foldl (fun (seen : Std.HashMap τ Nat × Nat) x =>
    (seen.1.insert x seen.2, seen.2 + 1)) ({}, first)).1

/-- The alternatives of the rules that are spelled out in place. -/
def inlinedAlternatives (g : RuleSet τ) : Std.HashMap String (List (Alternative τ)) :=
  g.inlined.foldr (fun name known =>
    match g.rules.find? (·.name == name) with
    | some r => known.insert name (r.body.spelledOut.flatMap (·.inlined (known[·]?)))
    | none => known) {}

/-- A nonterminal together with its alternatives. -/
structure Family (τ : Type) where
  info : Nonterminal
  symbol : Symbol τ
  alternatives : List (Alternative τ)

/-- The nonterminals of a grammar: its rules in order, then its repetitions. -/
def families [DecidableEq τ] [Hashable τ] (g : RuleSet τ) : List (Family τ) :=
  let inlined := inlinedAlternatives g
  let spell := fun (xs : List (Alternative τ)) => xs.flatMap (·.inlined (inlined[·]?))
  let rules := g.rules.filter fun r => !g.inlined.contains r.name
  let repetitions := distinct (g.rules.flatMap (·.body.repetitions))
  rules.map (fun r =>
    { info := ⟨r.name, !g.hidden.contains r.name, false⟩
      symbol := .rule r.name
      alternatives := spell r.body.spelledOut }) ++
  repetitions.toList.map (fun b =>
    { info := ⟨"", false, true⟩
      symbol := .repetition b
      alternatives := spell b.repetitionAlternatives })

/-- The numbers of a grammar's symbols. -/
structure Numbers (τ : Type) [DecidableEq τ] [Hashable τ] where
  terminals : Std.HashMap τ Nat
  rules : Std.HashMap String Nat
  repetitions : Std.HashMap (Body τ) Nat

/-- The number of a symbol. -/
def Numbers.code [DecidableEq τ] [Hashable τ] (numbers : Numbers τ) : Symbol τ → Code
  | .terminal t => .terminal (numbers.terminals.getD t 0)
  | .rule name => .nonterminal (numbers.rules.getD name 0)
  | .repetition body => .nonterminal (numbers.repetitions.getD body 0)

/-- Numbers terminals and nonterminals. -/
def numbers [DecidableEq τ] [Hashable τ] (terminals : Array τ)
    (families : List (Family τ)) : Numbers τ :=
  families.foldl (fun (acc : Numbers τ × Nat) f =>
      (match f.symbol with
        | .rule name => { acc.1 with rules := acc.1.rules.insert name acc.2 }
        | .repetition body => { acc.1 with repetitions := acc.1.repetitions.insert body acc.2 }
        | .terminal _ => acc.1, acc.2 + 1))
    (⟨numbering 1 terminals, {}, {}⟩, 0) |>.1

/-- The productions of the nonterminals, in order. -/
def productionsOf [DecidableEq τ] [Hashable τ] (numbers : Numbers τ)
    (families : List (Family τ)) : Array Production :=
  (families.zipIdx.flatMap fun (f, parent) =>
    f.alternatives.map fun a =>
      { parent
        steps := a.steps.map fun s => ⟨numbers.code s.symbol, s.remarks⟩
        weight := a.weight }).toArray

/-! ## Items -/

/-- The item key of a production read up to a dot. -/
def itemKey (p : Production) (dot : Nat) : ItemKey :=
  { dot
    parent := p.parent
    weight := p.weight
    length := p.steps.length
    last := ((p.steps.take dot).getLast?).map fun s =>
      { symbol := .terminal 0
        remarks := { s.remarks with label := none, field := none } }
    past := (p.steps.take dot).map fun s => (s.remarks.label, s.remarks.field)
    rest := p.steps.drop dot }

/-- All places of all productions, in item order. -/
def places (productions : Array Production) : List (ItemKey × Nat) :=
  (productions.toList.zipIdx.flatMap fun (p, i) =>
    (List.range (p.steps.length + 1)).map fun dot => (itemKey p dot, i)).mergeSort
      fun a b => a.1.le b.1

/-- The number of each item. -/
def itemNumbers (places : List (ItemKey × Nat)) : Std.HashMap ItemKey Nat :=
  numbering 0 (distinct (places.map Prod.fst))

/-- The items of a grammar, each with one production that it belongs to. -/
def itemsOf (productions : Array Production) (numbers : Std.HashMap ItemKey Nat)
    (places : List (ItemKey × Nat)) : Array Item :=
  (places.foldl (fun (acc : Std.HashMap ItemKey Unit × Array Item) (key, i) =>
    if acc.1.contains key then acc
    else
      let production := productions.getD i default
      let advanced := numbers.getD (itemKey production (key.dot + 1)) 0
      (acc.1.insert key (), acc.2.push
        { production := i
          parent := key.parent
          dot := key.dot
          weight := key.weight
          length := key.length
          next := key.rest.head?.map (·.symbol)
          second := key.rest.tail.head?.map (·.symbol)
          advanced
          level := (key.last.bind (·.remarks.level)).getD 0
          side := key.last.bind (·.remarks.side) })) ({}, #[])).2

/-! ## First sets and left corners -/

/-- The terminals that a symbol can start with. -/
def firstOf (firsts : Array TerminalSet) : Code → TerminalSet
  | .terminal n => .single n
  | .nonterminal n => firsts.getD n 0

/-- One round of adding to each nonterminal what its productions start with. -/
def firstsRound (productions : Array Production) (firsts : Array TerminalSet) :
    Array TerminalSet :=
  productions.foldl (fun acc p =>
    match p.steps with
    | [] => acc
    | s :: _ => acc.modify p.parent (TerminalSet.union (firstOf acc s.symbol))) firsts

/-- Repeats a step until nothing changes, at most a given number of times. -/
def settle {α : Type} [BEq α] (f : α → α) : Nat → α → α
  | 0, x => x
  | fuel + 1, x =>
    let y := f x
    if y == x then x else settle f fuel y

/-- The terminals that each nonterminal can start with. -/
def firstsOf (count : Nat) (productions : Array Production) : Array TerminalSet :=
  settle (firstsRound productions) count (Array.replicate count 0)

/-- The nonterminals that stand first in a production of each nonterminal. -/
def edges (count : Nat) (productions : Array Production) (firsts : Array TerminalSet) :
    Array (Array LeftCorner) :=
  productions.foldl (fun acc p =>
    match p.steps with
    | ⟨.nonterminal n, _⟩ :: rest =>
      let new : LeftCorner := match rest with
        | [] => ⟨n, 0, true⟩
        | s :: _ => ⟨n, firstOf firsts s.symbol, false⟩
      acc.modify p.parent fun corners =>
        match corners.findIdx? (·.nonterminal == n) with
        | none => corners.push new
        | some i => corners.modify i fun old =>
          { old with
            followers := TerminalSet.union old.followers new.followers
            inherits := old.inherits || new.inherits }
    | _ => acc) (Array.replicate count #[])

/-- What is known of a nonterminal at the left edge of another: the terminals that
may follow it and whether it inherits; unknown if it does not occur there. -/
abbrev Reached := Array (Option (TerminalSet × Bool))

/-- One round of carrying left corners one edge further. -/
def reachRound (edges : Array (Array LeftCorner)) (reached : Reached) : Reached :=
  (Array.range reached.size).foldl (fun acc n =>
    match acc.getD n none with
    | none => acc
    | some (followers, inherits) =>
      (edges.getD n #[]).foldl (fun acc e =>
        let new := (TerminalSet.union e.followers (if e.inherits then followers else 0),
          e.inherits && inherits)
        acc.modify e.nonterminal fun
          | none => some new
          | some old => some (TerminalSet.union old.1 new.1, old.2 || new.2)) acc) reached

/-- The nonterminals that may start where a given one starts. -/
def cornersOf (count : Nat) (edges : Array (Array LeftCorner)) (n : Nat) : Array LeftCorner :=
  let reached := settle (reachRound edges) (count * 2)
    ((Array.replicate count none).setIfInBounds n (some (0, true)))
  reached.toList.zipIdx.filterMap (fun (found, i) =>
    found.map fun (followers, inherits) => LeftCorner.mk i followers inherits) |>.toArray

/-! ## The table -/

/-- The numbered form of a grammar. -/
def ofGrammar [DecidableEq τ] [Hashable τ] (g : RuleSet τ) : Table τ :=
  let terminals := distinct (g.extras ++ g.rules.flatMap (·.body.terminals))
  let families := families g
  let count := families.length
  let numbers := numbers terminals families
  let productions := productionsOf numbers families
  let places := places productions
  let itemNumbers := itemNumbers places
  let items := itemsOf productions itemNumbers places
  let firsts := firstsOf count productions
  let edges := edges count productions firsts
  let numberedItems := items.toList.zipIdx
  { terminals
    nonterminals := (families.map (·.info)).toArray
    productions
    items
    firsts
    openers := productions.foldl (fun acc p =>
      match p.steps with
      | ⟨.terminal n, _⟩ :: _ => acc.modify p.parent (TerminalSet.union (.single n))
      | _ => acc) (Array.replicate count 0)
    corners := (Array.range count).map (cornersOf count edges)
    starts := numberedItems.foldl (fun acc (item, _) =>
      match item.dot, item.next with
      | 0, some symbol =>
        acc.alter symbol fun found =>
          let found := found.getD #[]
          let entry := (item.parent, item.advanced)
          if found.contains entry then found else some (found.push entry)
      | _, _ => acc) {}
    empties := (numberedItems.filterMap fun (item, i) =>
      if item.length == 0 then some (item.parent, i) else none).toArray
    initial := (numberedItems.filterMap fun (item, i) =>
      if item.dot == 0 && item.parent == 0 then some i else none).toArray
    extras := g.extras.foldl (fun acc t =>
      TerminalSet.union acc (.single (numbers.terminals.getD t 0))) 0 }

/-- The item of a number. -/
def item (t : Table τ) (n : Nat) : Item := t.items.getD n default

/-- The production of a number. -/
def production (t : Table τ) (n : Nat) : Production := t.productions.getD n default

/-- The nonterminal of a number. -/
def nonterminal (t : Table τ) (n : Nat) : Nonterminal := t.nonterminals.getD n default

/-- The terminal of a number, unless it is the end of the input. -/
def terminal? (t : Table τ) : Nat → Option τ
  | 0 => none
  | n + 1 => t.terminals[n]?

/-- The terminals that a symbol can start with. -/
def first (t : Table τ) (symbol : Code) : TerminalSet := firstOf t.firsts symbol

end Table

end PythonStyle.Grammar
