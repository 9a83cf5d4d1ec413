import PythonStyle.Checking.Event
import PythonStyle.Diagnostic

/-!
# Findings

The diagnostics and events of a check so far, each in the order in which they came up.
A check only ever adds to them.

Main definitions:

- `Findings.report`, `Findings.reportAll` and `Findings.note` add to the findings.

Main results:

- One equation for each of them and each of the two lists.
-/

namespace PythonStyle

/-- The diagnostics and events of a check so far. -/
structure Findings where
  diagnostics : Array Diagnostic
  events : Array Event
  deriving Inhabited

namespace Findings

/-- The findings before a check. -/
def empty : Findings := ⟨#[], #[]⟩

/-- Adds a diagnostic. -/
def report (f : Findings) (d : Diagnostic) : Findings :=
  { f with diagnostics := f.diagnostics.push d }

/-- Adds diagnostics in order. -/
def reportAll (f : Findings) (ds : List Diagnostic) : Findings :=
  { f with diagnostics := f.diagnostics ++ ds }

/-- Adds an event. -/
def note (f : Findings) (e : Event) : Findings :=
  { f with events := f.events.push e }

@[simp] theorem diagnostics_empty : empty.diagnostics.toList = [] := rfl

@[simp] theorem events_empty : empty.events.toList = [] := rfl

@[simp] theorem diagnostics_report (f : Findings) (d : Diagnostic) :
    (f.report d).diagnostics.toList = f.diagnostics.toList ++ [d] := by
  simp [report]

@[simp] theorem events_report (f : Findings) (d : Diagnostic) :
    (f.report d).events = f.events := rfl

@[simp] theorem diagnostics_reportAll (f : Findings) (ds : List Diagnostic) :
    (f.reportAll ds).diagnostics.toList = f.diagnostics.toList ++ ds := by
  simp [reportAll]

@[simp] theorem events_reportAll (f : Findings) (ds : List Diagnostic) :
    (f.reportAll ds).events = f.events := rfl

@[simp] theorem diagnostics_note (f : Findings) (e : Event) :
    (f.note e).diagnostics = f.diagnostics := rfl

@[simp] theorem events_note (f : Findings) (e : Event) :
    (f.note e).events.toList = f.events.toList ++ [e] := by
  simp [note]

end Findings

end PythonStyle
