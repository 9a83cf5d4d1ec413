import PythonStyle.Proofs.Contributions

/-!
# Files that share their findings

Several files and texts may be checked one after another with the same findings.  Each
check then adds a block of its own behind what is there: it neither reads nor changes what
the others left.

Main definitions:

- `Call`: a check of a file or of a text.
- `Call.runAll`: checks one after another, on the same findings.

Main results:

- Theorem `Call.diagnostics_runAll`: each call adds its block, in the order of the calls.
- Theorem `Call.blockOf_outcome`: the result of a call tells what its block is.
- Theorem `Call.runAll_isolated`: blocks and results are those of the calls on their own.
-/

namespace PythonStyle

/-- A check of a file, or of a text that is at hand.  Files may change between two checks,
so that each check of a file has a reader of its own. -/
inductive Call where
  | file (read : Reader) (path : Path)
  | source (path text : String)

namespace Call

/-- The label that the diagnostics of a call bear. -/
def path : Call → String
  | file _ path => path.label
  | source path _ => path

/-- The text that a call checks, or why there is none. -/
def text : Call → Except CheckError String
  | file read path => readText read path
  | source _ text => .ok text

/-- Makes a call on the findings so far. -/
def run (parser : Parser) (now : Findings) : Call → Findings × Except CheckError Unit
  | file read path => checkFile parser read path now
  | source path text => checkSource parser path text now

/-- Makes calls one after another.  Gives the findings and how each of the calls ended. -/
def runAll (parser : Parser) (now : Findings) :
    List Call → Findings × List (Except CheckError Unit)
  | [] => (now, [])
  | call :: calls =>
    let (now, result) := call.run parser now
    let (after, results) := runAll parser now calls
    (after, result :: results)

variable (parser : Parser)

/-- A call adds to the diagnostics what its path and text contribute. -/
theorem diagnostics_run (now : Findings) (call : Call) :
    (call.run parser now).1.diagnostics.toList =
      now.diagnostics.toList ++ contribution parser call.path call.text := by
  cases call with
  | file read path => exact diagnostics_checkFile parser read path now
  | source path text => exact diagnostics_checkSource parser path text now

/-- A call ends as it would on its own. -/
theorem run_snd (now : Findings) (call : Call) :
    (call.run parser now).2 = outcome parser call.path call.text := by
  cases call with
  | file read path => exact checkFile_snd parser read path now
  | source path text => exact checkSource_snd parser path text now

/-- Calls add their blocks in order. -/
theorem diagnostics_runAll (now : Findings) (calls : List Call) :
    (runAll parser now calls).1.diagnostics.toList =
      now.diagnostics.toList ++
        calls.flatMap fun call => contribution parser call.path call.text := by
  induction calls generalizing now with
  | nil => simp [runAll]
  | cons call calls ih =>
      simp only [runAll]
      rw [ih, diagnostics_run, List.flatMap_cons, List.append_assoc]

/-- Each of several calls ends as it would on its own. -/
theorem runAll_snd (now : Findings) (calls : List Call) :
    (runAll parser now calls).2 =
      calls.map fun call => outcome parser call.path call.text := by
  induction calls generalizing now with
  | nil => rfl
  | cons call calls ih =>
      simp only [runAll]
      rw [ih, run_snd, List.map_cons]

/-! ## Blocks and results -/

/-- What the result of a call says about the block that the call adds: all rules judge a
program, the rules for lines judge any other text, and nothing comes of a file that cannot
be read. -/
def BlockOf (call : Call) : Except CheckError Unit → List Diagnostic → Prop
  | .ok (), block =>
    ∃ text tree, call.text = .ok text ∧
      accepted? parser (normalizedSource text) = some tree ∧
      block = lineFindings call.path text ++ functionFindings call.path text tree
  | .error (.unparsable path), block =>
    path = call.path ∧ ∃ text, call.text = .ok text ∧
      accepted? parser (normalizedSource text) = none ∧
      block = lineFindings call.path text
  | .error (.unreadable path cause), block =>
    call.text = .error (.unreadable path cause) ∧ block = []
  | .error (.undecodable path), block => call.text = .error (.undecodable path) ∧ block = []

/-- A text is never missing because it is no program. -/
theorem text_ne_unparsable (call : Call) (path : String) :
    call.text ≠ .error (.unparsable path) := by
  cases call with
  | source _ known => simp [Call.text]
  | file read place =>
      simp only [Call.text, readText]
      cases read place with
      | error cause => simp
      | ok bytes =>
          simp only
          split <;> simp

/-- The block of a call is what its result says. -/
theorem blockOf_outcome (call : Call) :
    BlockOf parser call (outcome parser call.path call.text)
      (contribution parser call.path call.text) := by
  cases htext : call.text with
  | error error =>
      cases error with
      | unparsable path => exact absurd htext (text_ne_unparsable call path)
      | unreadable path cause => exact ⟨htext, rfl⟩
      | undecodable path => exact ⟨htext, rfl⟩
  | ok text =>
      simp only [outcome, contribution]
      cases hparse : accepted? parser (normalizedSource text) with
      | none => exact ⟨rfl, text, htext, hparse, rfl⟩
      | some tree => exact ⟨text, tree, htext, hparse, rfl⟩

/-- Calls on shared findings leave what is there and add, in their order, one block each.
Block and result depend on the path and the text of the call alone, and the result tells
which rules the block comes from. -/
theorem runAll_isolated (now : Findings) (calls : List Call) :
    (runAll parser now calls).1.diagnostics.toList =
        now.diagnostics.toList ++
          calls.flatMap (fun call => contribution parser call.path call.text) ∧
      (runAll parser now calls).2 =
        calls.map (fun call => outcome parser call.path call.text) ∧
      ∀ call : Call, BlockOf parser call (outcome parser call.path call.text)
        (contribution parser call.path call.text) := by
  refine ⟨?_, ?_, ?_⟩
  · exact diagnostics_runAll parser now calls
  · exact runAll_snd parser now calls
  · exact blockOf_outcome parser

end Call

end PythonStyle
