import PythonStyle.Grammar.Table
import PythonStyle.Tree.Basic

/-!
# Derivations

A derivation records which productions a parse used.  It keeps every node; the
parse tree shows only some.  `Derivation.trees` drops the nodes of hidden rules,
whose children take their place, and applies labels and fields.

Of two derivations of the same text from the same symbol, `Derivation.preferred`
keeps one: the weightier, and between equal weights the one whose first difference
from the other has the smaller symbol or the fewer children.

Main definitions:

- `Derivation.trees`: the part of the parse tree that a derivation stands for.
- `Derivation.preferred`: the choice between two readings.
-/

namespace PythonStyle.Grammar

/-- How a text derives from a symbol.  Extra leaves belong to no step of the
production around them. -/
inductive Derivation where
  | leaf (terminal start stop : Nat) (extra : Bool)
  | node (production parent : Nat) (weight : Int) (start stop : Nat)
      (children : List Derivation)
  deriving Inhabited

namespace Derivation

/-- Whether a derivation is an extra leaf. -/
def isExtra : Derivation → Bool
  | leaf _ _ _ extra => extra
  | node .. => false

/-- The offset at which a derivation starts. -/
def start : Derivation → Nat
  | leaf _ start _ _ => start
  | node _ _ _ start _ _ => start

/-- The offset at which a derivation ends. -/
def stop : Derivation → Nat
  | leaf _ _ stop _ => stop
  | node _ _ _ _ stop _ => stop

/-- The weight of all choices in a derivation. -/
def weight : Derivation → Int
  | leaf .. => 0
  | node _ _ weight _ _ _ => weight

/-- The direct parts of a derivation. -/
def children : Derivation → List Derivation
  | leaf .. => []
  | node _ _ _ _ _ children => children

/-- The rank of a derivation's symbol: terminals before nonterminals. -/
def rank : Derivation → Nat × Nat
  | leaf terminal _ _ _ => (0, terminal)
  | node _ parent _ _ _ _ => (1, parent)

/-- Builds a node from its parts, which lie from its start to its stop. -/
def ofChildren (production parent : Nat) (weight : Int) (position : Nat)
    (children : List Derivation) : Derivation :=
  node production parent (children.foldl (fun sum c => sum + c.weight) weight)
    ((children.head?.map start).getD position) ((children.getLast?.map stop).getD position)
    children

/-! ## Choosing between readings -/

mutual

/-- Compares two derivations: by symbol, by number of parts, then part by part. -/
def compare (a b : Derivation) : Ordering :=
  match a, b with
  | leaf s _ _ _, leaf t _ _ _ => Ord.compare s t
  | leaf .., node .. => .lt
  | node .., leaf .. => .gt
  | node _ p _ _ _ xs, node _ q _ _ _ ys =>
    (Ord.compare p q).then ((Ord.compare xs.length ys.length).then (compareAll xs ys))

/-- Compares two lists of derivations up to the first difference. -/
def compareAll : List Derivation → List Derivation → Ordering
  | x :: xs, y :: ys => (compare x y).then (compareAll xs ys)
  | _, _ => .eq

end

/-- The better of two readings, the first unless there is reason to change. -/
def preferred (a b : Derivation) : Derivation :=
  if a.weight < b.weight then b
  else if b.weight < a.weight then a
  else if a.children.length == b.children.length then a
  else if (a.compare b).isGT then b else a

/-! ## The tree of a derivation -/

/-- Names a terminal's nodes, or says that they do not show. -/
abbrev TerminalLabel := Nat → Option Label

/-- Sets the field of a node that has none yet. -/
def withField (field : Option String) : Tree → Tree
  | .node kind named own start stop children =>
    .node kind named (own <|> field) start stop children

mutual

/-- The trees that a derivation contributes to its parent, under given remarks. -/
def trees {τ : Type} (t : Table τ) (terminals : TerminalLabel) (remarks : Remarks) :
    Derivation → List Tree
  | leaf terminal start stop _ =>
    match remarks.label <|> terminals terminal with
    | some label => [.node label.name label.named remarks.field start stop []]
    | none => []
  | node production parent _ start stop children =>
    let below := treesOfParts t terminals (t.production production).steps children
    let rule := t.nonterminal parent
    let own : Option Label := if rule.shown then some ⟨rule.name, true⟩ else none
    match remarks.label <|> own with
    | some label => [.node label.name label.named remarks.field start stop below]
    | none => below.map (withField remarks.field)

/-- The trees of the parts of a node, each under the remarks of its step. -/
def treesOfParts {τ : Type} (t : Table τ) (terminals : TerminalLabel) :
    List CodedStep → List Derivation → List Tree
  | _, [] => []
  | steps, part :: parts =>
    if part.isExtra then
      trees t terminals {} part ++ treesOfParts t terminals steps parts
    else
      match steps with
      | [] => treesOfParts t terminals [] parts
      | s :: rest => trees t terminals s.remarks part ++ treesOfParts t terminals rest parts

end

end Derivation

end PythonStyle.Grammar
