import PythonStyle.Proofs.JsonReader
import PythonStyle.Report.Output
import Mathlib.Data.List.TakeWhile
import Mathlib.Tactic.SplitIfs

/-!
# Reading reports back

A report that is written as JSON is read back without loss.  The proof follows the reader
through what the writer writes: each lemma says in which state the reader leaves a piece,
given the state in which it reached it.

Main definitions:

- `JsonReader.valueOf`: a value of a report as a value that is read.
- `Value.report?`: the report that was read, with the path that was checked.
- `Value.lines?`: the lines that the diagnostics of a report that was read are shown as.

Main results:

- `Reader.run_encode`: the reader understands every text that is written.
- `Reader.run_renderAt` and `read?_asLine_render`: it understands every value that is written.
- `CheckReport.toJson_lossless`: a report is read back as it was.
-/

namespace PythonStyle

namespace JsonReader

open Json (encodeChar encodeControl encode newline renderAt renderItems renderMembers)

mutual

/-- A value of a report as a value that is read. -/
def valueOf : Json → Value
  | .number n => .number n 0
  | .text s => .text s
  | .array items => .array (valuesOf items)
  | .object members => .object (membersOf members)

/-- The items of an array as they are read. -/
def valuesOf : List Json → List Value
  | [] => []
  | item :: items => valueOf item :: valuesOf items

/-- The members of an object as they are read. -/
def membersOf : List (String × Json) → List (String × Value)
  | [] => []
  | (name, value) :: members => (name, valueOf value) :: membersOf members

end

namespace Reader

variable {state state' : State} {before rest : List Char}

@[simp]
theorem run_nil (r : Reader) : r.run [] = some r := rfl

theorem run_cons (r : Reader) (c : Char) (cs : List Char) :
    r.run (c :: cs) = (r.advance c).bind fun r' => r'.run cs := rfl

/-- A reader goes on where it stands after a first piece. -/
theorem run_append {r r' : Reader} {first : List Char} (h : r.run first = some r') :
    r.run (first ++ rest) = r'.run rest := by
  unfold run at h ⊢
  rw [List.foldlM_append, h]
  rfl

theorem run_cons_of_advance {r r' : Reader} {c : Char} (h : r.advance c = some r') :
    r.run (c :: rest) = r'.run rest := by
  rw [run_cons, h]
  rfl

/-! ## Blanks -/

/-- The reader passes over the start of a line between two tokens. -/
theorem run_newline (level : Nat) :
    (Reader.mk .between state).run (newline level ++ rest) =
      (Reader.mk .between state).run rest := by
  have spaces (n : Nat) :
      (Reader.mk .between state).run (List.replicate n ' ' ++ rest) =
        (Reader.mk .between state).run rest := by
    induction n with
    | zero => rfl
    | succ n ih => rw [List.replicate_succ, List.cons_append, run_cons_of_advance rfl, ih]
  rw [newline, List.cons_append, run_cons_of_advance rfl, spaces]

/-! ## Texts -/

theorem encodeControl_ofNat : ∀ n < 32, encodeControl (Char.ofNat n) =
    ['\\', 'u', '0', '0', Nat.digitChar (n / 16), Nat.digitChar (n % 16)] := by
  decide

theorem hexValue?_digitChar : ∀ d < 16, hexValue? (Nat.digitChar d) = some d := by
  decide

theorem run_encodeControl {c : Char} (h : c.toNat < 32) :
    (Reader.mk (.text before) state).run (encodeControl c) =
      some (Reader.mk (.text (before ++ [c])) state) := by
  have hc : Char.ofNat c.toNat = c := Char.ofNat_toNat c
  have hhigh := hexValue?_digitChar (c.toNat / 16) (by omega)
  have hlow := hexValue?_digitChar (c.toNat % 16) (by omega)
  have hzero : hexValue? '0' = some 0 := by decide
  have hvalue : c.toNat / 16 * 16 + c.toNat % 16 = c.toNat := by omega
  have hfirst : isFirstHalf c.toNat = false := by simp [isFirstHalf]; omega
  have hsecond : isSecondHalf c.toNat = false := by simp [isSecondHalf]; omega
  have hescape : (Reader.mk (.text before) state).advance '\\' =
      some ⟨.escape before, state⟩ := rfl
  have hunit : (Reader.mk (.escape before) state).advance 'u' =
      some ⟨.unit before none [], state⟩ := rfl
  rw [← hc, encodeControl_ofNat _ h, hc, run_cons_of_advance hescape, run_cons_of_advance hunit]
  simp [run_cons, advance, hzero, hhigh, hlow, hvalue, Mode.afterUnit, hfirst, hsecond]

/-- The reader takes a character that is written in a text for that character. -/
theorem run_encodeChar (c : Char) :
    (Reader.mk (.text before) state).run (encodeChar c) =
      some (Reader.mk (.text (before ++ [c])) state) := by
  unfold encodeChar
  split_ifs with quoted backspace tab newline formFeed carriageReturn control
  · obtain rfl | rfl := quoted <;> rfl
  · subst backspace; rfl
  · subst tab; rfl
  · subst newline; rfl
  · subst formFeed; rfl
  · subst carriageReturn; rfl
  · exact run_encodeControl control
  · obtain ⟨hquote, hslash⟩ := not_or.mp quoted
    simp [run_cons, advance, hquote, hslash, control]

/-- The reader takes a text that is written between quotes for that text. -/
theorem run_encode {s : String} (h : state.step (.scalar (.text s)) = some state') :
    (Reader.mk .between state).run (encode s ++ rest) = (Reader.mk .between state').run rest := by
  have inside (cs before : List Char) :
      (Reader.mk (.text before) state).run (cs.flatMap encodeChar) =
        some (Reader.mk (.text (before ++ cs)) state) := by
    induction cs generalizing before with
    | nil => simp
    | cons c cs ih =>
        rw [List.flatMap_cons, run_append (run_encodeChar c), ih, List.append_assoc,
          List.singleton_append]
  have hclose : (Reader.mk (.text s.toList) state).advance '"' = some ⟨.between, state'⟩ := by
    simp [advance, h]
  rw [encode, List.append_assoc, List.cons_append, run_cons_of_advance rfl,
    run_append (inside s.toList []), List.nil_append, List.singleton_append,
    run_cons_of_advance hclose]

/-! ## Numbers -/

theorem isDigit_toDigits (n : Nat) : (Nat.toDigits 10 n).all Char.isDigit := by
  rw [List.all_eq_true]
  exact fun c hc => Nat.isDigit_of_mem_toDigits (by decide) (by decide) hc

theorem digitChar_ne_zero : ∀ d < 10, d ≠ 0 → Nat.digitChar d ≠ '0' := by
  decide

/-- A number but zero has no zero in front. -/
theorem head?_toDigits_ne {n : Nat} (hn : n ≠ 0) : (Nat.toDigits 10 n).head? ≠ some '0' := by
  induction n using Nat.strongRecOn with
  | ind n ih =>
      by_cases hsmall : n < 10
      · rw [Nat.toDigits_of_lt_base hsmall]
        simpa using digitChar_ne_zero n hsmall hn
      · rw [Nat.toDigits_of_base_le (by decide) (by omega),
          List.head?_append_of_ne_nil _ Nat.toDigits_ne_nil]
        exact ih (n / 10) (by omega) (by omega)

/-- The reader takes the digits of a number for that number. -/
theorem bareValue?_toDigits (n : Nat) : bareValue? (Nat.toDigits 10 n) = some (.number n 0) := by
  have hdigits := isDigit_toDigits n
  have hword (word : List Char) (h : word.all Char.isDigit = false) :
      Nat.toDigits 10 n ≠ word := by
    rintro rfl
    simp [hdigits] at h
  have hzero : ¬ ((Nat.toDigits 10 n).head? = some '0' ∧ Nat.toDigits 10 n ≠ ['0']) := by
    rintro ⟨hhead, hne⟩
    obtain rfl : n = 0 := by_contra fun hn => head?_toDigits_ne hn hhead
    exact hne rfl
  have hwhole : (Nat.toDigits 10 n).takeWhile Char.isDigit = Nat.toDigits 10 n :=
    List.takeWhile_eq_self_iff.mpr (List.all_eq_true.mp hdigits)
  have hrest : (Nat.toDigits 10 n).dropWhile Char.isDigit = [] :=
    List.dropWhile_eq_nil_iff.mpr (List.all_eq_true.mp hdigits)
  have hunsigned : unsigned? false (Nat.toDigits 10 n) = some (.number n 0) := by
    simp [unsigned?, hwhole, hrest, hzero, fraction?, exponent?, signed,
      Nat.ofDigitChars_toDigits, Nat.toDigits_ne_nil]
  rw [bareValue?, if_neg (hword _ rfl), if_neg (hword _ rfl), if_neg (hword _ rfl)]
  · exact hunsigned
  · exact fun rest => hword ('-' :: rest) rfl

/-- A text that no number and no word goes on in. -/
def EndsBare : List Char → Prop
  | [] => False
  | c :: _ => isBare c = false

theorem endsBare_newline (level : Nat) (rest : List Char) : EndsBare (newline level ++ rest) := rfl

theorem isBare_of_isDigit {c : Char} (h : c.isDigit) : isBare c := by
  simp [isBare, Char.isAlphanum, h]

theorem advance_between_of_isDigit {c : Char} (h : c.isDigit) :
    (Reader.mk .between state).advance c = some ⟨.bare [c], state⟩ := by
  have hblank : isBlank c = false := by
    simp only [isBlank, Bool.or_eq_false_iff, beq_eq_false_iff_ne]
    refine ⟨⟨⟨?_, ?_⟩, ?_⟩, ?_⟩ <;> rintro rfl <;> simp at h
  have hquote : c ≠ '"' := by rintro rfl; simp at h
  simp [advance, begin, hblank, hquote, isBare_of_isDigit h]

theorem run_digits {digits : List Char} (h : digits.all Char.isDigit) :
    (Reader.mk (.bare before) state).run digits =
      some (Reader.mk (.bare (before ++ digits)) state) := by
  induction digits generalizing before with
  | nil => simp
  | cons c cs ih =>
      obtain ⟨hc, hcs⟩ : c.isDigit ∧ cs.all Char.isDigit := by simpa using h
      have hstep : (Reader.mk (.bare before) state).advance c =
          some ⟨.bare (before ++ [c]), state⟩ := by
        simp [advance, isBare_of_isDigit hc]
      rw [run_cons_of_advance hstep, ih hcs, List.append_assoc, List.singleton_append]

/-- The reader takes a number that is written for that number, once it sees that the number
is over. -/
theorem run_toDigits {n : Nat} (hrest : EndsBare rest)
    (h : state.step (.scalar (.number n 0)) = some state') :
    (Reader.mk .between state).run (Nat.toDigits 10 n ++ rest) =
      (Reader.mk .between state').run rest := by
  have hall : (Nat.toDigits 10 n).all Char.isDigit := isDigit_toDigits n
  have hread : (Reader.mk .between state).run (Nat.toDigits 10 n) =
      some ⟨.bare (Nat.toDigits 10 n), state⟩ := by
    match hdigits : Nat.toDigits 10 n with
    | [] => exact absurd hdigits Nat.toDigits_ne_nil
    | c :: cs =>
        obtain ⟨hc, hcs⟩ : c.isDigit ∧ cs.all Char.isDigit := by simpa [hdigits] using hall
        rw [run_cons_of_advance (advance_between_of_isDigit hc), run_digits hcs,
          List.singleton_append]
  match rest, hrest with
  | c :: cs, hc =>
      have hend : (Reader.mk (.bare (Nat.toDigits 10 n)) state).advance c =
          (Reader.mk .between state').advance c := by
        simp [advance, endBare, bareValue?_toDigits, h, show isBare c = false from hc]
      rw [run_append hread, run_cons, run_cons, hend]

/-! ## Values -/

theorem endsBare_renderItems (level : Nat) (items : List Json) (h : EndsBare rest) :
    EndsBare (renderItems level items ++ rest) := by
  cases items with
  | nil => exact h
  | cons item items => rfl

theorem endsBare_renderMembers (level : Nat) (members : List (String × Json))
    (h : EndsBare rest) : EndsBare (renderMembers level members ++ rest) := by
  cases members with
  | nil => exact h
  | cons member members => rfl

/-- Behind the name of a member the reader waits for its value. -/
theorem run_name (members : List (String × Value)) (outer : List Frame) (name : String)
    (rest : List Char) :
    (Reader.mk .between (.key members outer)).run (encode name ++ ':' :: ' ' :: rest) =
      (Reader.mk .between (.value (.object members name :: outer))).run rest := by
  rw [run_encode rfl, run_cons_of_advance rfl, run_cons_of_advance rfl]

mutual

/-- The reader takes a value that is written for that value. -/
theorem run_renderAt (level : Nat) (value : Json) (outer : List Frame) (rest : List Char)
    (hrest : EndsBare rest) :
    (Reader.mk .between (.value outer)).run (renderAt level value ++ rest) =
      (Reader.mk .between (.give (valueOf value) outer)).run rest := by
  match value with
  | .number n => rw [renderAt, run_toDigits hrest rfl, valueOf]
  | .text s => rw [renderAt, run_encode rfl, valueOf]
  | .array [] =>
      rw [renderAt, List.cons_append, run_cons_of_advance rfl, List.singleton_append,
        run_cons_of_advance rfl, valueOf, valuesOf]
  | .array (item :: items) =>
      have hclose := endsBare_newline level (']' :: rest)
      simp only [renderAt, List.cons_append, List.append_assoc, List.nil_append]
      rw [run_cons_of_advance rfl, run_newline,
        run_renderAt (level + 1) item _ _ (endsBare_renderItems _ _ hclose), State.give,
        run_renderItems (level + 1) items _ _ _ hclose, run_newline, run_cons_of_advance rfl,
        valueOf, valuesOf, List.nil_append, List.singleton_append]
  | .object [] =>
      rw [renderAt, List.cons_append, run_cons_of_advance rfl, List.singleton_append,
        run_cons_of_advance rfl, valueOf, membersOf]
  | .object ((name, value) :: members) =>
      have hclose := endsBare_newline level ('\x7d' :: rest)
      simp only [renderAt, List.cons_append, List.append_assoc, List.nil_append]
      rw [run_cons_of_advance rfl, run_newline, run_name,
        run_renderAt (level + 1) value _ _ (endsBare_renderMembers _ _ hclose), State.give,
        run_renderMembers (level + 1) members _ _ _ hclose, run_newline, run_cons_of_advance rfl,
        valueOf, membersOf, List.nil_append, List.singleton_append]

/-- The reader puts the items that are written behind those it has. -/
theorem run_renderItems (level : Nat) (items : List Json) (before : List Value)
    (outer : List Frame) (rest : List Char) (hrest : EndsBare rest) :
    (Reader.mk .between (.afterItem before outer)).run (renderItems level items ++ rest) =
      (Reader.mk .between (.afterItem (before ++ valuesOf items) outer)).run rest := by
  match items with
  | [] => rw [renderItems, valuesOf, List.append_nil, List.nil_append]
  | item :: items =>
      simp only [renderItems, List.cons_append, List.append_assoc]
      rw [run_cons_of_advance rfl, run_newline,
        run_renderAt level item _ _ (endsBare_renderItems _ _ hrest), State.give,
        run_renderItems level items _ _ _ hrest, valuesOf, List.append_assoc,
        List.singleton_append]

/-- The reader puts the members that are written behind those it has. -/
theorem run_renderMembers (level : Nat) (members : List (String × Json))
    (before : List (String × Value)) (outer : List Frame) (rest : List Char)
    (hrest : EndsBare rest) :
    (Reader.mk .between (.afterMember before outer)).run (renderMembers level members ++ rest) =
      (Reader.mk .between (.afterMember (before ++ membersOf members) outer)).run rest := by
  match members with
  | [] => rw [renderMembers, membersOf, List.append_nil, List.nil_append]
  | (name, value) :: members =>
      simp only [renderMembers, List.cons_append, List.append_assoc, List.nil_append]
      rw [run_cons_of_advance rfl, run_newline, run_name,
        run_renderAt level value _ _ (endsBare_renderMembers _ _ hrest), State.give,
        run_renderMembers level members _ _ _ hrest, membersOf, List.append_assoc,
        List.singleton_append]

end

end Reader

/-- What is written for a value, on lines of its own, says that value. -/
theorem read?_asLine_render (value : Json) :
    read? (asLine value.render).toList = some (valueOf value) := by
  have htext : (asLine value.render).toList = renderAt 0 value ++ ['\n'] := by
    simp [asLine, Json.render]
  rw [read?, htext, Reader.start, Reader.run_renderAt 0 value [] ['\n'] rfl]
  rfl

example : read? "[-1.50e2, \"\\u00e9\\n\"]".toList =
    some (.array [.number (-150) 0, .text "é\n"]) := rfl

example : read? "[1,]".toList = none := rfl

/-! ## Reports -/

namespace Value

/-- The member of an object that has a name. -/
def member? (name : String) : Value → Option Value
  | object members => members.lookup name
  | _ => none

/-- The text that a value is. -/
def text? : Value → Option String
  | text s => some s
  | _ => none

/-- The count that a value is. -/
def count? : Value → Option Nat
  | number n 0 => n.toNat?
  | _ => none

@[simp]
theorem count?_natCast (n : Nat) : (number n 0).count? = some n := rfl

/-- The items of an array. -/
def items? : Value → Option (List Value)
  | array items => some items
  | _ => none

/-- The diagnostic that a value says. -/
def diagnostic? (v : Value) : Option Diagnostic := do
  return {
    file := ← (← v.member? "file").text?
    line := ← (← v.member? "line").count?
    code := ← Code.ofText? (← (← v.member? "code").text?)
    message := ← (← v.member? "message").text? }

/-- The file that a value says could not be read. -/
def fileFailure? (v : Value) : Option FileFailure := do
  return {
    file := ← (← v.member? "file").text?
    message := ← (← v.member? "message").text? }

/-- The path and the report that a value says. -/
def report? (v : Value) : Option (String × CheckReport) := do
  let path ← (← v.member? "path").text?
  return (path, {
    diagnostics := ← (← (← v.member? "diagnostics").items?).mapM diagnostic?
    failures := ← (← (← v.member? "errors").items?).mapM fileFailure?
    scanned := ← (← v.member? "files_scanned").count?
    parseFailures := ← (← v.member? "parse_failures").count? })

/-- The line that shows the diagnostic that a value says, put together from its members. -/
def line? (v : Value) : Option String := do
  let file ← (← v.member? "file").text?
  let line ← (← v.member? "line").count?
  let code ← (← v.member? "code").text?
  let message ← (← v.member? "message").text?
  return file ++ ": Line " ++ toString line ++ ": " ++ code ++ " " ++ message ++ "\n"

/-- The lines that show the diagnostics of the report that a value says. -/
def lines? (v : Value) : Option (List String) := do
  (← (← v.member? "diagnostics").items?).mapM line?

end Value

end JsonReader

open JsonReader (Value read? read?_asLine_render valueOf valuesOf membersOf)

/-- What is read from each item is read from the whole array. -/
theorem mapM_valuesOf {α β : Type} {f : α → Json} {g : Value → Option β} {h : α → β}
    (hg : ∀ a, g (valueOf (f a)) = some (h a)) (as : List α) :
    (valuesOf (as.map f)).mapM g = some (as.map h) := by
  induction as with
  | nil => rfl
  | cons a as ih => simp [valuesOf, hg, ih]

namespace CheckReport

theorem diagnostic?_diagnosticValue (d : Diagnostic) :
    (valueOf (diagnosticValue d)).diagnostic? = some d := by
  simp [diagnosticValue, valueOf, membersOf, Value.diagnostic?, Value.member?, Value.text?,
    List.lookup_cons]

theorem line?_diagnosticValue (d : Diagnostic) :
    (valueOf (diagnosticValue d)).line? = some (asLine d.render) := by
  simp [diagnosticValue, valueOf, membersOf, Value.line?, Value.member?, Value.text?,
    List.lookup_cons, Diagnostic.render, asLine]

theorem fileFailure?_failureValue (f : FileFailure) :
    (valueOf (failureValue f)).fileFailure? = some f := by
  simp [failureValue, valueOf, membersOf, Value.fileFailure?, Value.member?, Value.text?,
    List.lookup_cons]

theorem report?_toValue (r : CheckReport) (path : String) :
    (valueOf (r.toValue path)).report? = some (path, r) := by
  have hdiagnostics := mapM_valuesOf diagnostic?_diagnosticValue r.diagnostics
  have hfailures := mapM_valuesOf fileFailure?_failureValue r.failures
  simp [toValue, valueOf, membersOf, Value.report?, Value.member?, Value.text?, Value.items?,
    List.lookup_cons, hdiagnostics, hfailures]

theorem lines?_toValue (r : CheckReport) (path : String) :
    (valueOf (r.toValue path)).lines? = some (r.lines.map asLine) := by
  have hlines := mapM_valuesOf line?_diagnosticValue r.diagnostics
  simp [toValue, valueOf, membersOf, Value.lines?, Value.member?, Value.items?, List.lookup_cons,
    hlines, lines]

/-- A report that is written as JSON is read back as it was, with the path that was checked,
and the lines that its diagnostics make when they are read back are the report as text. -/
theorem toJson_lossless (r : CheckReport) (path : String) :
    ∃ value, read? (r.toJson path).toList = some value ∧
      value.report? = some (path, r) ∧
      value.lines?.map String.join = some r.toText := by
  refine ⟨valueOf (r.toValue path), read?_asLine_render _, report?_toValue r path, ?_⟩
  rw [lines?_toValue]
  rfl

end CheckReport

end PythonStyle
