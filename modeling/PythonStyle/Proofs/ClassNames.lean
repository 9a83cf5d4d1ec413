import PythonStyle.Proofs.Matching
import PythonStyle.Proofs.Messages

/-!
# Class names in a line

The rule for class names looks at lines that start with the keyword and takes what follows for the
beginning of a name.  It reports small letters, with one capital letter among them at most.  The
pattern that it searches for has two runs of small letters next to each other, so that there is more
than one way to cut a text; this module says that no way gets further than the name that is
reported, and that a search comes upon it first.

Main definitions:

- `Naming.MixedCaseWord` and `Naming.LongestMixedCase`: what is reported as the name of a class.
- `Naming.classNameTries`: what a search for the pattern comes upon, in its order.

Main results:

- Theorem `Naming.lowercaseClassName?_eq_some_iff`: the name that is found is the longest.
- Theorem `Naming.lowercaseClassName?_eq_head?`: a search comes upon it first.
- Theorem `Naming.lowercaseClassName?_append`: a name is found again if no letter follows it.
- Theorem `LineRules.className_reports`: what is reported of a line.
-/

namespace PythonStyle

namespace Naming

open Text Text.Shape

variable {c : Char} {text word name : List Char}

/-! ## Small letters with a capital letter among them -/

/-- Whether a word is made of small letters, of one at least, and perhaps of a capital letter behind
them with small letters behind that. -/
def MixedCaseWord (word : List Char) : Prop :=
  ∃ small hump, word = small ++ hump ∧ small ≠ [] ∧ (∀ c ∈ small, isSmall c = true) ∧
    (hump = [] ∨ ∃ c rest, hump = c :: rest ∧ isCapital c = true ∧ ∀ d ∈ rest, isSmall d = true)

/-- Whether a name is the longest such word that a text starts with. -/
def LongestMixedCase (text name : List Char) : Prop :=
  (name <+: text ∧ MixedCaseWord name) ∧
    ∀ word, word <+: text → MixedCaseWord word → word.length ≤ name.length

/-- Whether a text starts with a small letter. -/
def startsSmall (text : List Char) : Bool := text.head?.any isSmall

theorem startsSmall_of_start (h : startsSmall word = true) (hfront : word <+: text) :
    startsSmall text = true := by
  obtain ⟨tail, rfl⟩ := hfront
  cases word with
  | nil => cases h
  | cons c word => exact h

theorem isSmall_iff : isSmall c = true ↔ 'a' ≤ c ∧ c ≤ 'z' := by
  rw [isSmall, Bool.and_eq_true, decide_eq_true_iff, decide_eq_true_iff]

/-- The letters of ASCII are the small ones and the capitals. -/
theorem isAlpha_eq (c : Char) : c.isAlpha = (isCapital c || isSmall c) := by
  have hcapital : c.isUpper = isCapital c := Bool.decide_and ('A' ≤ c) (c ≤ 'Z')
  have hsmall : c.isLower = isSmall c := rfl
  rw [← hcapital, ← hsmall]
  rfl

/-- No letter is both small and a capital. -/
theorem not_isSmall_of_isCapital (h : isCapital c = true) : ¬ isSmall c = true := by
  intro hsmall
  rw [isCapital, Bool.and_eq_true, decide_eq_true_iff, decide_eq_true_iff] at h
  have hbetween : 'a' ≤ 'Z' := Char.le_trans (isSmall_iff.mp hsmall).1 h.2
  revert hbetween
  decide

/-- As a pattern the shape allows a capital letter in front; a word that is reported has none
there. -/
theorem mixedCaseWord_iff :
    MixedCaseWord word ↔ startsSmall word = true ∧ Matches mixedCase word := by
  constructor
  · rintro ⟨small, hump, rfl, hsmall, hletters, hhump⟩
    have hmatches : Matches [.optional isCapital, .many isSmall] hump := by
      rcases hhump with rfl | ⟨c, rest, rfl, hc, hrest⟩
      · exact matches_nil _
      · exact matches_optional_cons_iff.mpr (.inl ⟨hc, matches_many_iff.mpr hrest⟩)
    refine ⟨?_, small, hump, rfl, hletters, hmatches⟩
    cases small with
    | nil => exact absurd rfl hsmall
    | cons c small => exact hletters c List.mem_cons_self
  · rintro ⟨hstart, small, hump, rfl, hletters, hhump⟩
    cases hump with
    | nil =>
        refine ⟨small, [], rfl, ?_, hletters, .inl rfl⟩
        rintro rfl
        cases hstart
    | cons c rest =>
        rcases matches_optional_cons_iff.mp hhump with ⟨hc, hrest⟩ | hrest
        · refine ⟨small, c :: rest, rfl, ?_, hletters, .inr ⟨c, rest, rfl, hc, ?_⟩⟩
          · rintro rfl
            exact not_isSmall_of_isCapital hc hstart
          · exact matches_many_iff.mp hrest
        · refine ⟨small ++ c :: rest, [], (List.append_nil _).symm, by simp, ?_, .inl rfl⟩
          intro d hd
          rcases List.mem_append.mp hd with hd | hd
          · exact hletters d hd
          · exact matches_many_iff.mp hrest d hd

/-! ## The longest word -/

theorem lowercaseClassName?_eq (text : List Char) :
    lowercaseClassName? text = if startsSmall text then some (take mixedCase text) else none := rfl

/-- The first small letter is taken by the first slot. -/
theorem take_mixedCase_cons (hc : isSmall c = true) (text : List Char) :
    take mixedCase (c :: text) = c :: take mixedCase text := by
  rw [mixedCase, take, if_pos hc]

theorem mixedCaseWord_take (h : startsSmall text = true) :
    MixedCaseWord (take mixedCase text) := by
  refine mixedCaseWord_iff.mpr ⟨?_, matches_take mixedCase text⟩
  cases text with
  | nil => cases h
  | cons c text =>
      have hc : isSmall c = true := h
      rw [take_mixedCase_cons hc]
      exact hc

/-- Something is found if the text starts with a small letter. -/
theorem exists_lowercaseClassName?_iff :
    (∃ name, lowercaseClassName? text = some name) ↔
      ∃ c rest, text = c :: rest ∧ 'a' ≤ c ∧ c ≤ 'z' := by
  rw [lowercaseClassName?_eq]
  cases text with
  | nil => simp [startsSmall]
  | cons c rest =>
      by_cases hc : isSmall c = true
      · exact iff_of_true ⟨_, if_pos hc⟩ ⟨c, rest, rfl, isSmall_iff.mp hc⟩
      · refine iff_of_false ?_ ?_
        · rintro ⟨name, hname⟩
          cases (if_neg hc).symm.trans hname
        · rintro ⟨d, more, h, hd⟩
          obtain ⟨rfl, -⟩ := List.cons.inj h
          exact hc (isSmall_iff.mpr hd)

/-- What is found is the longest word of the kind that the text starts with. -/
theorem lowercaseClassName?_eq_some_iff :
    lowercaseClassName? text = some name ↔ LongestMixedCase text name := by
  have hlongest {word : List Char} (hfront : word <+: text) (hword : MixedCaseWord word) :
      word <+: take mixedCase text := prefix_take (mixedCaseWord_iff.mp hword).2 hfront
  constructor
  · intro h
    rw [lowercaseClassName?_eq] at h
    split at h
    · next hstart =>
        obtain rfl := Option.some.inj h
        have hcut : take mixedCase text <+: text := take_prefix mixedCase text
        refine ⟨⟨hcut, mixedCaseWord_take hstart⟩, ?_⟩
        intro word hfront hword
        exact (hlongest hfront hword).length_le
    · cases h
  · rintro ⟨⟨hfront, hname⟩, hmost⟩
    have hstart : startsSmall text = true :=
      startsSmall_of_start (mixedCaseWord_iff.mp hname).1 hfront
    have hcut : take mixedCase text <+: text := take_prefix mixedCase text
    have hlength := hmost _ hcut (mixedCaseWord_take hstart)
    rw [lowercaseClassName?_eq, if_pos hstart, (hlongest hfront hname).eq_of_length_le hlength]

/-- If no letter follows a name, it is found again. -/
theorem lowercaseClassName?_append (h : lowercaseClassName? text = some name) {behind : List Char}
    (hbehind : ∀ c ∈ behind.head?, c.isAlpha = false) :
    lowercaseClassName? (name ++ behind) = some name := by
  obtain ⟨⟨-, hname⟩, -⟩ := lowercaseClassName?_eq_some_iff.mp h
  obtain ⟨hstart, hmatches⟩ := mixedCaseWord_iff.mp hname
  have hend : ∀ c ∈ behind.head?, ∀ slot ∈ mixedCase, slot.takes c = false := by
    intro c hc
    have hletter := hbehind c hc
    rw [isAlpha_eq, Bool.or_eq_false_iff] at hletter
    simp [mixedCase, Slot.takes, hletter]
  rw [lowercaseClassName?_eq, take_append_of_matches hmatches hend,
    if_pos (startsSmall_of_start hstart (List.prefix_append name behind))]

/-! ## The search for it -/

/-- What a search with backtracking comes upon that looks for one small letter or more, for more
small letters, perhaps for a capital letter, and for small letters behind it. -/
def classNameTries : List Char → List (List Char)
  | [] => []
  | c :: text =>
      if isSmall c then (tries (.many isSmall :: mixedCase) text).map (c :: ·) else []

/-- A search comes upon all words of the kind that the text starts with. -/
theorem mem_classNameTries :
    word ∈ classNameTries text ↔ word <+: text ∧ MixedCaseWord word := by
  rw [mixedCaseWord_iff]
  cases text with
  | nil =>
      refine iff_of_false List.not_mem_nil ?_
      rintro ⟨hfront, hstart, -⟩
      cases startsSmall_of_start hstart hfront
  | cons c text =>
      rw [classNameTries]
      split
      · next hc =>
          simp only [List.mem_map, mem_tries, mixedCase, matches_many_many_iff]
          constructor
          · rintro ⟨rest, ⟨hfront, hrest⟩, rfl⟩
            refine ⟨List.cons_prefix_cons.mpr ⟨rfl, hfront⟩, hc, ?_⟩
            exact matches_many_cons_iff.mpr (.inl ⟨hc, hrest⟩)
          · rintro ⟨hfront, hstart, hword⟩
            cases word with
            | nil => cases hstart
            | cons d rest =>
                obtain ⟨rfl, hrest⟩ := List.cons_prefix_cons.mp hfront
                exact ⟨rest, ⟨hrest, hword.of_cons⟩, rfl⟩
      · next hc =>
          refine iff_of_false List.not_mem_nil ?_
          rintro ⟨hfront, hstart, -⟩
          exact hc (startsSmall_of_start hstart hfront)

/-- What it comes upon first is what is found. -/
theorem lowercaseClassName?_eq_head? (text : List Char) :
    lowercaseClassName? text = (classNameTries text).head? := by
  cases text with
  | nil => rfl
  | cons c text =>
      by_cases hc : isSmall c = true
      · have hstart : startsSmall (c :: text) = true := hc
        rw [lowercaseClassName?_eq, if_pos hstart, take_mixedCase_cons hc, classNameTries,
          if_pos hc, List.head?_map, head?_tries, mixedCase, take_many_many]
        rfl
      · have hstart : ¬ startsSmall (c :: text) = true := hc
        rw [lowercaseClassName?_eq, if_neg hstart, classNameTries, if_neg hc]
        rfl

theorem isCamelCaseClassName_eq_false_iff :
    isCamelCaseClassName text = false ↔ ∃ name, lowercaseClassName? text = some name := by
  rw [isCamelCaseClassName, Option.isNone_eq_false_iff, Option.isSome_iff_exists]

end Naming

namespace LineRules

open Naming

/-! ## The rule -/

theorem badClassName?_eq_some_iff {text name : List Char} :
    badClassName? text = some name ↔
      ∃ candidate, text = classKeyword ++ candidate ∧ LongestMixedCase candidate name := by
  rw [badClassName?]
  split
  · next h =>
      obtain ⟨candidate, rfl⟩ := List.isPrefixOf_iff_prefix.mp h
      rw [List.drop_left, lowercaseClassName?_eq_some_iff]
      constructor
      · intro hname
        exact ⟨candidate, rfl, hname⟩
      · rintro ⟨other, hother, hname⟩
        rwa [List.append_cancel_left hother]
  · next h =>
      refine iff_of_false (by simp) ?_
      rintro ⟨candidate, rfl, -⟩
      exact h (List.isPrefixOf_iff_prefix.mpr (List.prefix_append _ _))

/-- There is a name to report exactly if a small letter follows the keyword. -/
theorem exists_badClassName?_iff {text : List Char} :
    (∃ name, badClassName? text = some name) ↔
      ∃ c rest, text = classKeyword ++ c :: rest ∧ 'a' ≤ c ∧ c ≤ 'z' := by
  simp only [badClassName?_eq_some_iff, ← lowercaseClassName?_eq_some_iff]
  constructor
  · rintro ⟨name, candidate, rfl, hname⟩
    obtain ⟨c, rest, rfl, hc⟩ := exists_lowercaseClassName?_iff.mp ⟨name, hname⟩
    exact ⟨c, rest, rfl, hc⟩
  · rintro ⟨c, rest, rfl, hc⟩
    obtain ⟨name, hname⟩ := exists_lowercaseClassName?_iff.mpr ⟨c, rest, rfl, hc⟩
    exact ⟨name, c :: rest, rfl, hname⟩

theorem classDiagnostic_injective (file : String) (number : Nat) :
    Function.Injective (classDiagnostic file number) := by
  intro name other h
  have htexts : String.ofList name = String.ofList other := by simpa [classDiagnostic] using h
  exact String.ofList_inj.mp htexts

/-- A line is reported, once, if it starts with the keyword for classes and a small letter follows
at once.  What is reported is the longest beginning of what follows that is made of small letters,
and perhaps of a capital letter behind them with small letters behind that.  A text is no CamelCase
if it has such a beginning: a search with backtracking comes upon all of them, and upon the longest
first.  That one is found again if anything but a letter is put behind it. -/
theorem className_reports :
    (∀ text file blank number,
      ((checkLine file blank ⟨number, text⟩).1.filter (fun d => d.code == .className) ≠ [] ↔
          ∃ c rest, text = "class ".toList ++ c :: rest ∧ 'a' ≤ c ∧ c ≤ 'z') ∧
        ∀ name, (checkLine file blank ⟨number, text⟩).1.filter (fun d => d.code == .className) =
            [classDiagnostic file number name] ↔
          ∃ candidate, text = "class ".toList ++ candidate ∧ LongestMixedCase candidate name) ∧
      ∀ candidate,
        (isCamelCaseClassName candidate = false ↔
          ∃ name, lowercaseClassName? candidate = some name) ∧
        (∀ word, word ∈ classNameTries candidate ↔ word <+: candidate ∧ MixedCaseWord word) ∧
        lowercaseClassName? candidate = (classNameTries candidate).head? ∧
        (∀ name, lowercaseClassName? candidate = some name ↔ LongestMixedCase candidate name) ∧
        ∀ name, lowercaseClassName? candidate = some name →
          name ≠ [] ∧ name <+: candidate ∧
            ∀ behind : List Char, (∀ c ∈ behind.head?, c.isAlpha = false) →
              lowercaseClassName? (name ++ behind) = some name := by
  refine ⟨fun text file blank number => ⟨?_, fun name => ?_⟩, fun candidate =>
    ⟨isCamelCaseClassName_eq_false_iff, fun word => mem_classNameTries,
      lowercaseClassName?_eq_head? candidate, fun name => lowercaseClassName?_eq_some_iff, ?_⟩⟩
  · rw [filter_checkLine_className, ne_eq, List.map_eq_nil_iff, Option.toList_eq_nil_iff,
      ← ne_eq, Option.ne_none_iff_exists']
    exact exists_badClassName?_iff
  · rw [filter_checkLine_className,
      toList_map_eq_singleton_iff (classDiagnostic_injective file number)]
    exact badClassName?_eq_some_iff
  · intro name hname
    obtain ⟨⟨hfront, hword⟩, -⟩ := lowercaseClassName?_eq_some_iff.mp hname
    refine ⟨?_, hfront, fun behind hbehind => lowercaseClassName?_append hname hbehind⟩
    rintro rfl
    cases (mixedCaseWord_iff.mp hword).1

/-- The second capital letter ends a name, and so does an underscore. -/
theorem className_reports_humps :
    lowercaseClassName? "myClassName:".toList = some "myClass".toList ∧
      lowercaseClassName? ("myClass".toList ++ "_name:".toList) = some "myClass".toList := by
  have hname : lowercaseClassName? "myClassName:".toList = some "myClass".toList := by cbv
  have hagain := (className_reports.2 "myClassName:".toList).2.2.2.2 _ hname
  exact ⟨hname, hagain.2.2 "_name:".toList (by simp)⟩

end LineRules

end PythonStyle
