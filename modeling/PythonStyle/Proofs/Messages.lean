import Mathlib.Data.List.Count
import PythonStyle.Proofs.FunctionNames
import PythonStyle.Proofs.LineSearches

/-!
# What messages show

A message is made by two replacements, one after the other, so that a subject may bring along a
place for a name that the second replacement takes.  This module says for which rules and subjects
this happens.  It does not happen in a scan: a keyword has no such place in it, and a name is never
searched for places.

Main definitions:

- `Code.IsPlace`: the places for a subject in a template.
- `LineRules.classDiagnostic`: the diagnostic of a class, with its name as it is.

Main results:

- Theorem `Code.not_mem_of_template`: a template has one place at most.
- Theorem `Code.message_eq_iff`: when a message shows its subject as it is.
- Theorem `Code.message_of_no_place`: a message without a place is the template.
- Theorem `LineRules.filter_checkLines`: what a rule reports of lines, line by line.
- Theorem `LineRules.messages_show_subjects`: messages of any kind, and those of a scan.
-/

namespace PythonStyle
namespace Code

/-! ## Places -/

/-- Whether a text is the place for a keyword or the place for a name. -/
def IsPlace (place : List Char) : Prop := place = keywordPlace ∨ place = namePlace

/-- A template has one brace of each kind at most. -/
theorem count_braces_le (c : Code) :
    c.template.toList.count '\x7b' ≤ 1 ∧ c.template.toList.count '\x7d' ≤ 1 := by
  cases c
  all_goals
    rw [template, String.toList_ofList]
    decide

theorem IsPlace.count_braces {place : List Char} (h : IsPlace place) :
    place.count '\x7b' = 1 ∧ place.count '\x7d' = 1 := by
  rcases h with rfl | rfl <;> decide

/-- Around a place, a template has no braces. -/
theorem not_mem_of_template {c : Code} {before place behind : List Char} (hplace : IsPlace place)
    (htemplate : c.template.toList = before ++ (place ++ behind)) :
    '\x7b' ∉ before ∧ '\x7b' ∉ behind ∧ '\x7d' ∉ behind := by
  have hopening := (count_braces_le c).1
  have hclosing := (count_braces_le c).2
  rw [htemplate, List.count_append, List.count_append, hplace.count_braces.1] at hopening
  rw [htemplate, List.count_append, List.count_append, hplace.count_braces.2] at hclosing
  refine ⟨List.count_eq_zero.mp ?_, List.count_eq_zero.mp ?_, List.count_eq_zero.mp ?_⟩ <;> omega

/-- The place for a keyword is in one template only, which has no place for a name. -/
theorem eq_keywordSpacing_iff {c : Code} {before place behind : List Char}
    (hplace : IsPlace place) (htemplate : c.template.toList = before ++ (place ++ behind)) :
    c = keywordSpacing ↔ place = keywordPlace := by
  have hbefore := (not_mem_of_template hplace htemplate).1
  -- The letter behind the brace tells the two places apart.
  have hletter : c = keywordSpacing ↔
      (Text.after '\x7b' c.template.toList).head? = some 'k' := by
    cases c
    all_goals
      rw [template, String.toList_ofList]
      decide
  rw [hletter, htemplate]
  rcases hplace with rfl | rfl
  · have hplace : keywordPlace ++ behind = '\x7b' :: ("keyword\x7d".toList ++ behind) := rfl
    rw [hplace, Text.after_append hbefore]
    exact iff_of_true rfl rfl
  · have hplace : namePlace ++ behind = '\x7b' :: ("name\x7d".toList ++ behind) := rfl
    rw [hplace, Text.after_append hbefore]
    exact iff_of_false (by simp) (by decide)

/-! ## Messages -/

/-- A message shows its subject as it is, unless it is about a keyword and the subject has a place
for a name in it without being one. -/
theorem message_eq_iff {c : Code} {before place behind : List Char} (hplace : IsPlace place)
    (htemplate : c.template.toList = before ++ (place ++ behind)) (subject : String) :
    c.message (some subject) = String.ofList (before ++ (subject.toList ++ behind)) ↔
      ¬ (c = keywordSpacing ∧ namePlace <:+: subject.toList ∧ subject.toList ≠ namePlace) := by
  have hbraces := not_mem_of_template hplace htemplate
  have hkeyword := eq_keywordSpacing_iff hplace htemplate
  rw [message, String.ofList_inj]
  rcases hplace with rfl | rfl
  · rw [messageAbout_eq_iff htemplate hbraces.1 hbraces.2.1 hbraces.2.2, hkeyword.mpr rfl]
    tauto
  · have hname : c ≠ keywordSpacing := by
      rw [ne_eq, hkeyword]
      decide
    have hshown := messageAbout_of_template htemplate hbraces.1 hbraces.2.1 subject.toList
    exact iff_of_true hshown fun h => hname h.1

/-- A template without a place is the message, whatever the subject. -/
theorem message_of_no_place {c : Code} (h : ∀ place, IsPlace place → ¬ place <:+: c.template.toList)
    (subject : String) : c.message (some subject) = c.template := by
  have hkeyword := h keywordPlace (Or.inl rfl)
  have hname := h namePlace (Or.inr rfl)
  rw [message, messageAbout, (Text.replaceAll_eq_self_iff (by decide) _ _).mpr (Or.inl hkeyword),
    (Text.replaceAll_eq_self_iff (by decide) _ _).mpr (Or.inl hname), String.ofList_toList]

end Code

namespace LineRules

open Text

/-! ## Scans -/

/-- The diagnostic of a class with a given name. -/
def classDiagnostic (file : String) (number : Nat) (name : List Char) : Diagnostic where
  file := file
  line := number
  code := .className
  message := "Class name '" ++ (String.ofList name ++ "' should be written in CamelCase")

theorem filter_checkLine_className (file : String) (blank number : Nat) (text : List Char) :
    (checkLine file blank ⟨number, text⟩).1.filter (fun d => d.code == .className) =
      (badClassName? text).toList.map (classDiagnostic file number) := by
  have hflag : flagName file number .className ((badClassName? text).map String.ofList) =
      (badClassName? text).toList.map (classDiagnostic file number) := by
    cases badClassName? text with
    | none => rfl
    | some name => simp [flagName, Diagnostic.of, Code.message_className, classDiagnostic]
  rw [← hflag]
  exact filter_checkLine file blank ⟨number, text⟩ .className

/-- What a rule reports of lines is what it reports of each of them, if it reports the same after
any number of blank lines. -/
theorem filter_checkLines {file : String} {code : Code} {found : List Char → Nat → List Diagnostic}
    (h : ∀ blank number text,
      (checkLine file blank ⟨number, text⟩).1.filter (fun d => d.code == code) = found text number)
    (first blank : Nat) (texts : List (List Char)) :
    (checkLines file first blank texts).filter (fun d => d.code == code) =
      (texts.zipIdx first).flatMap fun x => found x.1 x.2 := by
  induction texts generalizing first blank with
  | nil => rfl
  | cons text more ih =>
      rw [List.zipIdx_cons, List.flatMap_cons, ← ih, ← h blank first text]
      exact List.filter_append _ _

/-- A message shows its subject as it is where the template has a place, with one exception: a
message about a keyword does not if the subject has a place for a name in it and is more than that.
A template without a place is the message.  In a scan the exception does not come up: keywords,
class names and function names are reported as they are found. -/
theorem messages_show_subjects (c : Code) (subject : String) (file : String) (text : List Char) :
    (∀ before place behind, Code.IsPlace place → c.template.toList = before ++ (place ++ behind) →
        (c.message (some subject) = String.ofList (before ++ (subject.toList ++ behind)) ↔
          ¬ (c = .keywordSpacing ∧ Code.namePlace <:+: subject.toList ∧
            subject.toList ≠ Code.namePlace))) ∧
      ((∀ place, Code.IsPlace place → ¬ place <:+: c.template.toList) →
        c.message (some subject) = c.template) ∧
      (checkText file text).filter (fun d => d.code == .keywordSpacing) =
        ((lines text).zipIdx 1).flatMap (fun x =>
          (spacedKeyword? (firstLine x.1)).toList.map (keywordDiagnostic file x.2)) ∧
      (checkText file text).filter (fun d => d.code == .className) =
        ((lines text).zipIdx 1).flatMap (fun x =>
          (badClassName? x.1).toList.map (classDiagnostic file x.2)) ∧
      (checkText file text).filter (fun d => d.code == .functionName) =
        ((lines text).zipIdx 1).flatMap (fun x =>
          (badFunctionName? x.1).toList.map (nameDiagnostic file x.2)) := by
  refine ⟨?_, ?_, ?_, ?_, ?_⟩
  · intro before place behind hplace htemplate
    exact Code.message_eq_iff hplace htemplate subject
  · intro hplaces
    exact Code.message_of_no_place hplaces subject
  · exact filter_checkLines (filter_checkLine_keywordSpacing file) 1 0 (lines text)
  · exact filter_checkLines (filter_checkLine_className file) 1 0 (lines text)
  · exact filter_checkLines (filter_checkLine_functionName file) 1 0 (lines text)

/-- The place for a name is taken in a keyword that has more to it, and so the keyword comes
twice. -/
theorem messages_show_subjects_twice :
    Code.keywordSpacing.template.toList =
        "Too many spaces after '".toList ++ (Code.keywordPlace ++ "'".toList) ∧
      Code.keywordSpacing.message (some "\x7bname\x7ds") ≠
        "Too many spaces after '\x7bname\x7ds'" := by
  have htemplate : Code.keywordSpacing.template.toList =
      "Too many spaces after '".toList ++ (Code.keywordPlace ++ "'".toList) := rfl
  refine ⟨htemplate, fun hshown => ?_⟩
  have hexact := (messages_show_subjects .keywordSpacing "\x7bname\x7ds" "a.py" []).1
    _ _ _ (Or.inl rfl) htemplate
  exact hexact.mp hshown ⟨rfl, ⟨[], ['s'], rfl⟩, by decide⟩

/-- A name with a place in it is shown as it is. -/
example : Code.functionName.message (some "A\x7bname\x7d") =
    "Function name A\x7bname\x7d should be written in snake_case" := by cbv

end LineRules
end PythonStyle
