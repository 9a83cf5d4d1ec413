/-!
# Parse trees

A node has a kind, a span of the source and children in order.  Named nodes stand
for constructs, the others for punctuation and keywords.  A node may bear the name
of the field under which its parent finds it.
-/

namespace PythonStyle

/-- A node of a parse tree with everything below it. -/
inductive Tree where
  | node (kind : String) (named : Bool) (field : Option String) (start stop : Nat)
      (children : List Tree)
  deriving Inhabited

namespace Tree

/-- The kind of a node. -/
def kind : Tree → String
  | node kind _ _ _ _ _ => kind

/-- Whether a node stands for a construct. -/
def isNamed : Tree → Bool
  | node _ named _ _ _ _ => named

/-- The field that a node bears in its parent. -/
def field : Tree → Option String
  | node _ _ field _ _ _ => field

/-- The offset at which a node starts. -/
def start : Tree → Nat
  | node _ _ _ start _ _ => start

/-- The offset at which a node ends. -/
def stop : Tree → Nat
  | node _ _ _ _ stop _ => stop

/-- The nodes directly below a node, in order. -/
def children : Tree → List Tree
  | node _ _ _ _ _ children => children

@[simp] theorem kind_node (k : String) (n : Bool) (f : Option String) (a b : Nat)
    (cs : List Tree) : (node k n f a b cs).kind = k := rfl

@[simp] theorem isNamed_node (k : String) (n : Bool) (f : Option String) (a b : Nat)
    (cs : List Tree) : (node k n f a b cs).isNamed = n := rfl

@[simp] theorem field_node (k : String) (n : Bool) (f : Option String) (a b : Nat)
    (cs : List Tree) : (node k n f a b cs).field = f := rfl

@[simp] theorem start_node (k : String) (n : Bool) (f : Option String) (a b : Nat)
    (cs : List Tree) : (node k n f a b cs).start = a := rfl

@[simp] theorem stop_node (k : String) (n : Bool) (f : Option String) (a b : Nat)
    (cs : List Tree) : (node k n f a b cs).stop = b := rfl

@[simp] theorem children_node (k : String) (n : Bool) (f : Option String) (a b : Nat)
    (cs : List Tree) : (node k n f a b cs).children = cs := rfl

/-- The named children of a node, in order. -/
def namedChildren (t : Tree) : List Tree :=
  t.children.filter (·.isNamed)

/-- The first child that bears a field. -/
def child? (t : Tree) (field : String) : Option Tree :=
  t.children.find? fun c => c.field == some field

/-- A child is smaller than its parent. -/
theorem sizeOf_lt_of_mem_children {c t : Tree} (h : c ∈ t.children) :
    sizeOf c < sizeOf t := by
  cases t with
  | node k n f a b cs =>
    have := List.sizeOf_lt_of_mem (by simpa using h : c ∈ cs)
    simp only [node.sizeOf_spec]
    omega

/-- A named child is a child. -/
theorem mem_children_of_mem_namedChildren {c t : Tree} (h : c ∈ t.namedChildren) :
    c ∈ t.children :=
  (List.mem_filter.1 h).1

/-- The child that bears a field is a child. -/
theorem mem_children_of_child? {c t : Tree} {field : String} (h : t.child? field = some c) :
    c ∈ t.children :=
  List.mem_of_find?_eq_some h

end Tree

end PythonStyle
