/-!
# Grammar rules

A grammar gives each named rule a body over terminals and other rules.  Bodies
carry four kinds of remarks that do not change the language:

- a *level* and a *side*, which settle a choice between going on and reducing;
- a *weight*, which settles a choice between two readings of the same text;
- a *label*, which renames a node of the tree;
- a *field*, under which a parent finds a child.

`Body.alternatives` spells a body out as the finite list of its step sequences.
A repetition stays one step, whose symbol is the repeated body itself, so equal
repetitions anywhere in a grammar are one symbol.

Main definitions:

- `Body` and `Rule`: the grammar as it is written down.
- `Step` and `Alternative`: a body spelled out.
- `Alternative.inlined`: replaces the steps that name certain rules by what those
  rules stand for.
-/

namespace PythonStyle.Grammar

/-- The side to which an operator groups. -/
inductive Side where
  | left
  | right
  deriving DecidableEq, Hashable, Inhabited

/-- A name under which a node shows itself, and whether it counts as a named node. -/
structure Label where
  name : String
  named : Bool
  deriving DecidableEq, Hashable, Inhabited

/-- The body of a rule over terminals `τ`. -/
inductive Body (τ : Type) where
  | blank
  | terminal (t : τ)
  | rule (name : String)
  | seq (first rest : Body τ)
  | choice (this that : Body τ)
  | repeated (body : Body τ)
  | level (value : Int) (side : Option Side) (body : Body τ)
  | weight (value : Int) (body : Body τ)
  | label (value : Label) (body : Body τ)
  | field (name : String) (body : Body τ)
  deriving DecidableEq, Hashable, Inhabited

/-- A named rule. -/
structure Rule (τ : Type) where
  name : String
  body : Body τ
  deriving Inhabited

namespace Body

variable {τ : Type}

/-- One body after another. -/
def seqs : List (Body τ) → Body τ
  | [] => .blank
  | [b] => b
  | b :: rest => .seq b (seqs rest)

/-- Any one of several bodies. -/
def oneOf : List (Body τ) → Body τ
  | [] => .blank
  | [b] => b
  | b :: rest => .choice b (oneOf rest)

/-- A body or nothing. -/
def optional (b : Body τ) : Body τ := .choice b .blank

/-- Any number of copies of a body. -/
def many (b : Body τ) : Body τ := .optional (.repeated b)

/-- Copies of a body, at least one, with a separator between them. -/
def separated (separator b : Body τ) : Body τ := .seq b (.many (.seq separator b))

/-- The repeated bodies that occur in a body, an inner one before an outer one. -/
def repetitions : Body τ → List (Body τ)
  | blank | terminal _ | rule _ => []
  | seq a b | choice a b => repetitions a ++ repetitions b
  | repeated b => repetitions b ++ [b]
  | level _ _ b | weight _ b | label _ b | field _ b => repetitions b

/-- The terminals that occur in a body, in order. -/
def terminals : Body τ → List τ
  | blank | rule _ => []
  | terminal t => [t]
  | seq a b | choice a b => terminals a ++ terminals b
  | repeated b | level _ _ b | weight _ b | label _ b | field _ b => terminals b

end Body

/-! ## Bodies spelled out -/

/-- What a step waits for: a terminal, a rule, or a repetition of a body. -/
inductive Symbol (τ : Type) where
  | terminal (t : τ)
  | rule (name : String)
  | repetition (body : Body τ)
  deriving DecidableEq, Inhabited

/-- The remarks in force at a place of a body. -/
structure Remarks where
  level : Option Int := none
  side : Option Side := none
  label : Option Label := none
  field : Option String := none
  deriving DecidableEq, Hashable, Inhabited

/-- A symbol to be read, with the remarks on it. -/
structure Step (τ : Type) where
  symbol : Symbol τ
  remarks : Remarks
  deriving Inhabited

/-- A sequence of steps, with the weight of choosing it. -/
structure Alternative (τ : Type) where
  steps : List (Step τ)
  weight : Int := 0
  deriving Inhabited

/-- Of two weights the one further from zero, the first if neither is. -/
def dominantWeight (a b : Int) : Int :=
  if a.natAbs < b.natAbs then b else a

namespace Alternative

variable {τ : Type}

/-- One alternative after another. -/
def append (a b : Alternative τ) : Alternative τ :=
  ⟨a.steps ++ b.steps, dominantWeight a.weight b.weight⟩

/-- Changes the remarks of the last step. -/
def mapLast (f : Remarks → Remarks) (a : Alternative τ) : Alternative τ :=
  match a.steps.reverse with
  | [] => a
  | s :: rest => { a with steps := (({ s with remarks := f s.remarks } :: rest).reverse) }

end Alternative

namespace Body

variable {τ : Type}

/-- The alternatives of a body under given remarks.  The flag says whether the
body closes its rule: the last step of a graded body keeps its level only there,
and elsewhere falls back to the surrounding one. -/
def alternatives : Body τ → Remarks → Bool → List (Alternative τ)
  | blank, _, _ => [⟨[], 0⟩]
  | terminal t, now, _ => [⟨[⟨.terminal t, now⟩], 0⟩]
  | rule name, now, _ => [⟨[⟨.rule name, now⟩], 0⟩]
  | repeated b, now, _ => [⟨[⟨.repetition b, now⟩], 0⟩]
  | seq a b, now, closing =>
    (alternatives a now false).flatMap fun x =>
      (alternatives b now closing).map fun y => x.append y
  | choice a b, now, closing => alternatives a now closing ++ alternatives b now closing
  | level value side b, now, closing =>
    let inside := { now with level := some value, side := side <|> now.side }
    let found := alternatives b inside closing
    if closing then found
    else found.map (·.mapLast fun r => { r with
      level := now.level
      side := if side.isSome then now.side else r.side })
  | weight value b, now, closing =>
    (alternatives b now closing).map fun x =>
      { x with weight := dominantWeight value x.weight }
  | label value b, now, closing => alternatives b { now with label := some value } closing
  | field name b, now, closing => alternatives b { now with field := some name } closing

/-- The alternatives of a whole rule body. -/
def spelledOut (b : Body τ) : List (Alternative τ) :=
  b.alternatives {} true

/-- The alternatives of a repetition: the body, alone or after earlier copies. -/
def repetitionAlternatives (b : Body τ) : List (Alternative τ) :=
  b.spelledOut ++ b.spelledOut.map fun x =>
    { x with steps := ⟨.repetition b, {}⟩ :: x.steps }

end Body

/-! ## Inlining -/

namespace Alternative

variable {τ : Type}

/-- The steps that stand for an inlined step: they take over its label and field,
and the last of them its level and side where it has none of its own. -/
def adopt (outer : Remarks) (inner : Alternative τ) : Alternative τ :=
  let relabelled := inner.steps.map fun s => { s with remarks := { s.remarks with
    label := outer.label <|> s.remarks.label
    field := outer.field <|> s.remarks.field } }
  mapLast (fun r => { r with level := r.level <|> outer.level, side := r.side <|> outer.side })
    { inner with steps := relabelled }

/-- The alternatives that a step stands for: those of its rule if these are
known, otherwise the step itself. -/
def ofStep (known : String → Option (List (Alternative τ))) (s : Step τ) :
    List (Alternative τ) :=
  match s.symbol with
  | .rule name =>
    match known name with
    | some choices => choices.map (adopt s.remarks)
    | none => [⟨[s], 0⟩]
  | _ => [⟨[s], 0⟩]

/-- The alternatives that a list of steps stands for. -/
def ofSteps (known : String → Option (List (Alternative τ))) :
    List (Step τ) → List (Alternative τ)
  | [] => [⟨[], 0⟩]
  | s :: rest =>
    (ofStep known s).flatMap fun x => (ofSteps known rest).map fun y => x.append y

/-- Spells out every step that names a rule with known alternatives. -/
def inlined (known : String → Option (List (Alternative τ))) (a : Alternative τ) :
    List (Alternative τ) :=
  (ofSteps known a.steps).map fun x => { x with weight := dominantWeight a.weight x.weight }

end Alternative

end PythonStyle.Grammar
