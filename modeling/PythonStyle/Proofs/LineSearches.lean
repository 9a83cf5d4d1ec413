import Mathlib.Data.List.Forall2
import PythonStyle.Proofs.CapitalNames
import PythonStyle.LineRules

/-!
# What lines are searched for

Four of the rules search a line for a pattern: a semicolon behind a call or a word, a comment close
to code, a task in a comment, and a keyword with too many spaces behind it.  A search goes through
the characters of the line one by one; this module says what it finds by how the line can be cut
into pieces.  All four searches end at the first newline.

Main definitions:

- `CallThenSemicolon`, `WordThenSemicolon`, `CrowdedComment` and `TaskInComment`: lines that a
  pattern is found in.
- `SpacedKeywordAt` and `LastSpacedKeyword`: the places of keywords with too many spaces, and the
  keyword at the last of them.
- `ReportedExactly`: a rule reports a line under a condition and not otherwise.

Main results:

- Theorems `hasSemicolon_iff`, `hasCrowdedComment_iff` and `hasTask_iff`: lines in which a pattern
  is found.
- Theorem `spacedKeyword?_eq_some_iff`: the keyword that is found.
- Theorem `searches_report`: what is reported of a line.
-/

namespace PythonStyle
namespace LineRules

open Text

/-! ## Semicolons -/

/-- Whether a parenthesis opens in a line and one closes behind it, with a semicolon next to it. -/
def CallThenSemicolon (line : List Char) : Prop :=
  ∃ before inside behind, line = before ++ '(' :: (inside ++ ')' :: ';' :: behind)

/-- Whether a line starts with spaces, letters of ASCII and a semicolon, of which the spaces and the
letters may be missing. -/
def WordThenSemicolon (line : List Char) : Prop :=
  ∃ spaces word behind, line = spaces ++ (word ++ ';' :: behind) ∧
    (∀ c ∈ spaces, c = ' ') ∧ ∀ c ∈ word, c.isAlpha = true

theorem endsCall_iff {line : List Char} : endsCall line = true ↔ CallThenSemicolon line := by
  have hsearch : endsCall line = true ↔ ∃ behind, ')' :: ';' :: behind <:+ after '(' line := by
    rw [endsCall, occurs_iff]
    constructor
    · rintro ⟨inside, behind, h⟩
      exact ⟨behind, inside, by rw [← h, List.append_assoc]; rfl⟩
    · rintro ⟨behind, inside, h⟩
      exact ⟨inside, behind, by rw [← h, List.append_assoc]; rfl⟩
  rw [hsearch]
  constructor
  · rintro ⟨behind, h⟩
    obtain ⟨before, inside, hline⟩ := (suffix_after_iff (List.cons_ne_nil _ _)).mp h
    exact ⟨before, inside, behind, hline⟩
  · rintro ⟨before, inside, behind, hline⟩
    exact ⟨behind, (suffix_after_iff (List.cons_ne_nil _ _)).mpr ⟨before, inside, hline⟩⟩

theorem endsWord_iff {line : List Char} : endsWord line = true ↔ WordThenSemicolon line := by
  constructor
  · intro h
    obtain ⟨behind, hbehind⟩ := List.head?_eq_some_iff.mp (beq_iff_eq.mp h)
    refine ⟨line.takeWhile (· == ' '), (line.dropWhile (· == ' ')).takeWhile Char.isAlpha, behind,
      ?_, fun c hc => ?_, fun c hc => ?_⟩
    · rw [← hbehind, List.takeWhile_append_dropWhile, List.takeWhile_append_dropWhile]
    · exact beq_iff_eq.mp (List.all_eq_true.mp List.all_takeWhile c hc)
    · exact List.all_eq_true.mp List.all_takeWhile c hc
  · rintro ⟨spaces, word, behind, rfl, hspaces, hword⟩
    have hfirst : (word ++ ';' :: behind).dropWhile (· == ' ') = word ++ ';' :: behind := by
      cases word with
      | nil => rfl
      | cons c word =>
          have hc : c ≠ ' ' := by
            rintro rfl
            exact absurd (hword ' ' List.mem_cons_self) (by decide)
          exact List.dropWhile_cons_of_neg (by simpa using hc)
    rw [endsWord, List.dropWhile_append_of_pos (by simpa using hspaces), hfirst,
      List.dropWhile_append_of_pos hword]
    rfl

/-- A semicolon behind a word stands in the first line. -/
theorem wordThenSemicolon_firstLine {text : List Char} :
    WordThenSemicolon (firstLine text) ↔ WordThenSemicolon text := by
  constructor
  · rintro ⟨spaces, word, behind, hline, hspaces, hword⟩
    obtain ⟨rest, hrest⟩ := prefix_firstLine text
    exact ⟨spaces, word, behind ++ rest, by rw [← hrest, hline]; simp, hspaces, hword⟩
  · rintro ⟨spaces, word, behind, rfl, hspaces, hword⟩
    have hnewline : '\n' ∉ spaces ++ (word ++ [';']) := by
      intro h
      rcases List.mem_append.mp h with h | h
      · exact absurd (hspaces _ h) (by decide)
      rcases List.mem_append.mp h with h | h
      · exact absurd (hword _ h) (by decide)
      · exact absurd (List.mem_singleton.mp h) (by decide)
    have hline : spaces ++ (word ++ ';' :: behind) = spaces ++ (word ++ [';']) ++ behind := by simp
    refine ⟨spaces, word, firstLine behind, ?_, hspaces, hword⟩
    rw [hline, firstLine_append hnewline]
    simp

theorem hasSemicolon_iff {text : List Char} :
    hasSemicolon text = true ↔
      CallThenSemicolon (firstLine text) ∨ WordThenSemicolon (firstLine text) := by
  rw [hasSemicolon, Bool.or_eq_true, endsCall_iff, endsWord_iff, wordThenSemicolon_firstLine]

/-! ## Comments -/

/-- Whether a comment sign stands in a line between two spaces, with a character in front of them
that is not blank. -/
def CrowdedComment (line : List Char) : Prop :=
  ∃ before c behind, line = before ++ c :: (" # ".toList ++ behind) ∧ isBlank c = false

theorem crowdsComment_iff {line : List Char} :
    crowdsComment line = true ↔ CrowdedComment line := by
  induction line with
  | nil =>
      refine iff_of_false (by simp [crowdsComment]) ?_
      rintro ⟨before, c, behind, h, -⟩
      simp at h
  | cons d line ih =>
      rw [crowdsComment, Bool.or_eq_true, ih, Bool.and_eq_true, Bool.not_eq_true',
        List.isPrefixOf_iff_prefix]
      constructor
      · rintro (⟨hd, behind, hbehind⟩ | ⟨before, c, behind, rfl, hc⟩)
        · exact ⟨[], d, behind, by rw [hbehind]; rfl, hd⟩
        · exact ⟨d :: before, c, behind, rfl, hc⟩
      · rintro ⟨before, c, behind, h, hc⟩
        cases before with
        | nil =>
            obtain ⟨rfl, rfl⟩ := List.cons.inj h
            exact .inl ⟨hc, behind, rfl⟩
        | cons e before =>
            obtain ⟨rfl, rfl⟩ := List.cons.inj h
            exact .inr ⟨before, c, behind, rfl, hc⟩

theorem hasCrowdedComment_iff {text : List Char} :
    hasCrowdedComment text = true ↔ CrowdedComment (firstLine text) :=
  crowdsComment_iff

/-! ## Tasks -/

/-- Whether a word is made of given small letters, each of which may be a capital letter instead. -/
def InAnyCase (small word : List Char) : Prop :=
  List.Forall₂ (fun s c => c = s ∨ c = s.toUpper) small word

/-- Whether a line has a task behind a comment sign. -/
def TaskInComment (line : List Char) : Prop :=
  ∃ before inside word behind, line = before ++ '#' :: (inside ++ (word ++ behind)) ∧
    InAnyCase "todo".toList word

theorem toNat_toLower (c : Char) :
    c.toLower.toNat = if 65 ≤ c.toNat ∧ c.toNat ≤ 90 then c.toNat + 32 else c.toNat := by
  have hval : c.val.toNat = c.toNat := rfl
  have hstep : ('a'.val - 'A'.val).toNat = 32 := rfl
  unfold Char.toLower
  simp only [UInt32.le_iff_toNat_le, hval]
  split
  · next h =>
      have hcapital : 65 ≤ c.toNat ∧ c.toNat ≤ 90 := h
      rw [if_pos hcapital, Char.toNat, UInt32.toNat_add, hval, hstep]
      omega
  · next h =>
      have hother : ¬ (65 ≤ c.toNat ∧ c.toNat ≤ 90) := h
      rw [if_neg hother]

theorem toNat_toUpper (c : Char) :
    c.toUpper.toNat = if 97 ≤ c.toNat ∧ c.toNat ≤ 122 then c.toNat - 32 else c.toNat := by
  have hval : c.val.toNat = c.toNat := rfl
  have hstep : ('A'.val - 'a'.val).toNat = 2 ^ 32 - 32 := rfl
  unfold Char.toUpper
  simp only [UInt32.le_iff_toNat_le, hval]
  split
  · next h =>
      have hsmall : 97 ≤ c.toNat ∧ c.toNat ≤ 122 := h
      rw [if_pos hsmall, Char.toNat, UInt32.toNat_add, hval, hstep]
      omega
  · next h =>
      have hother : ¬ (97 ≤ c.toNat ∧ c.toNat ≤ 122) := h
      rw [if_neg hother]

/-- A small letter comes of itself and of its capital letter. -/
theorem toLower_eq_iff {s c : Char} (hs : s.isLower = true) :
    c.toLower = s ↔ c = s ∨ c = s.toUpper := by
  obtain ⟨hleast, hgreatest⟩ := (Bool.and_eq_true _ _).mp hs
  have hsmall : 97 ≤ s.toNat ∧ s.toNat ≤ 122 :=
    ⟨of_decide_eq_true hleast, of_decide_eq_true hgreatest⟩
  rw [← Char.toNat_inj, ← Char.toNat_inj, ← Char.toNat_inj, toNat_toLower, toNat_toUpper,
    if_pos hsmall]
  split <;> omega

theorem map_toLower_eq_iff {small word : List Char} (hsmall : ∀ s ∈ small, s.isLower = true) :
    word.map Char.toLower = small ↔ InAnyCase small word := by
  induction small generalizing word with
  | nil => simp [InAnyCase]
  | cons s small ih =>
      obtain ⟨hs, hsmall⟩ := List.forall_mem_cons.mp hsmall
      cases word with
      | nil => simp [InAnyCase]
      | cons c word =>
          rw [InAnyCase, List.forall₂_cons, List.map_cons, List.cons.injEq, toLower_eq_iff hs,
            ih hsmall]
          rfl

theorem hasTask_iff {text : List Char} :
    hasTask text = true ↔ TaskInComment (firstLine text) := by
  have hsmall : ∀ s ∈ "todo".toList, s.isLower = true := List.all_eq_true.mp rfl
  have hsearch : hasTask text = true ↔ ∃ word behind,
      word ++ behind <:+ after '#' (firstLine text) ∧ InAnyCase "todo".toList word := by
    rw [hasTask, occurs_iff]
    constructor
    · rintro ⟨inside, behind, h⟩
      obtain ⟨start, behind, hsplit, hstart, -⟩ := List.append_eq_map_iff.mp h
      obtain ⟨inside, word, rfl, -, hword⟩ := List.append_eq_map_iff.mp hstart.symm
      refine ⟨word, behind, ⟨inside, by rw [hsplit, List.append_assoc]⟩, ?_⟩
      exact (map_toLower_eq_iff hsmall).mp hword
    · rintro ⟨word, behind, ⟨inside, hinside⟩, hword⟩
      refine ⟨inside.map Char.toLower, behind.map Char.toLower, ?_⟩
      rw [← hinside, ← (map_toLower_eq_iff hsmall).mpr hword, List.map_append, List.map_append,
        List.append_assoc]
  have hne {word behind : List Char} (hword : InAnyCase "todo".toList word) :
      word ++ behind ≠ [] := by
    rintro h
    obtain ⟨rfl, -⟩ := List.append_eq_nil_iff.mp h
    cases hword
  rw [hsearch]
  constructor
  · rintro ⟨word, behind, h, hword⟩
    obtain ⟨before, inside, hline⟩ := (suffix_after_iff (hne hword)).mp h
    exact ⟨before, inside, word, behind, hline, hword⟩
  · rintro ⟨before, inside, word, behind, hline, hword⟩
    exact ⟨word, behind, (suffix_after_iff (hne hword)).mpr ⟨before, inside, hline⟩, hword⟩

/-! ## Keywords -/

/-- Whether a keyword stands at a place of a line, with two spaces behind it. -/
def SpacedKeywordAt (line : List Char) (p : Nat) (keyword : String) : Prop :=
  (keyword = "class" ∨ keyword = "def") ∧
    ∃ behind, line.drop p = keyword.toList ++ ' ' :: ' ' :: behind

/-- Whether a keyword stands at the last place of a line at which there is one with two spaces
behind it. -/
def LastSpacedKeyword (line : List Char) (keyword : String) : Prop :=
  ∃ p, SpacedKeywordAt line p keyword ∧ ∀ q other, SpacedKeywordAt line q other → q ≤ p

/-- There is one keyword at a place: they start with different letters. -/
theorem SpacedKeywordAt.unique {line : List Char} {p : Nat} {keyword other : String}
    (h : SpacedKeywordAt line p keyword) (hother : SpacedKeywordAt line p other) :
    keyword = other := by
  obtain ⟨hkeyword, behind, hline⟩ := h
  obtain ⟨hother, rest, hrest⟩ := hother
  rw [hline] at hrest
  rcases hkeyword with rfl | rfl <;> rcases hother with rfl | rfl
  · rfl
  · exact absurd (congrArg List.head? hrest) (by simp)
  · exact absurd (congrArg List.head? hrest) (by simp)
  · rfl

theorem not_spacedKeywordAt_nil (p : Nat) (keyword : String) : ¬ SpacedKeywordAt [] p keyword := by
  rintro ⟨-, behind, h⟩
  simp at h

theorem find?_keywords_eq_some_iff {line : List Char} {keyword : String} :
    (keywords.find? fun k => (k.toList ++ [' ', ' ']).isPrefixOf line) = some keyword ↔
      SpacedKeywordAt line 0 keyword := by
  have hstart (k : String) : (k.toList ++ [' ', ' ']).isPrefixOf line = true ↔
      ∃ behind, line = k.toList ++ ' ' :: ' ' :: behind := by
    rw [List.isPrefixOf_iff_prefix]
    simp [List.IsPrefix, eq_comm]
  have hfound {k : String}
      (h : (keywords.find? fun k => (k.toList ++ [' ', ' ']).isPrefixOf line) = some k) :
      SpacedKeywordAt line 0 k := by
    have hk : k ∈ keywords := List.mem_of_find?_eq_some h
    exact ⟨by simpa [keywords] using hk, (hstart k).mp (List.find?_eq_some_iff_append.mp h).1⟩
  constructor
  · exact hfound
  · intro h
    cases hsearch : keywords.find? fun k => (k.toList ++ [' ', ' ']).isPrefixOf line with
    | none =>
        have hk : keyword ∈ keywords := by simpa [keywords] using h.1
        exact absurd ((hstart keyword).mpr h.2) (List.find?_eq_none.mp hsearch keyword hk)
    | some other => rw [(hfound hsearch).unique h]

theorem spacedKeyword?_eq_none_iff {line : List Char} :
    spacedKeyword? line = none ↔ ∀ p keyword, ¬ SpacedKeywordAt line p keyword := by
  induction line with
  | nil => exact iff_of_true rfl not_spacedKeywordAt_nil
  | cons c line ih =>
      rw [spacedKeyword?, Option.or_eq_none_iff, ih, Option.eq_none_iff_forall_ne_some]
      simp only [ne_eq, find?_keywords_eq_some_iff]
      constructor
      · rintro ⟨hrest, hfirst⟩ p keyword
        cases p with
        | zero => exact hfirst keyword
        | succ p => exact hrest p keyword
      · intro h
        exact ⟨fun p => h (p + 1), h 0⟩

/-- The last keyword of a line stands behind the first character, or there is none and it stands in
front. -/
theorem lastSpacedKeyword_cons_iff {c : Char} {line : List Char} {keyword : String} :
    LastSpacedKeyword (c :: line) keyword ↔
      LastSpacedKeyword line keyword ∨
        (∀ p other, ¬ SpacedKeywordAt line p other) ∧ SpacedKeywordAt (c :: line) 0 keyword := by
  constructor
  · rintro ⟨p, hp, hlast⟩
    cases p with
    | zero =>
        right
        refine ⟨fun q other h => ?_, hp⟩
        exact absurd (hlast (q + 1) other h) (Nat.not_succ_le_zero q)
    | succ p =>
        left
        exact ⟨p, hp, fun q other h => Nat.le_of_succ_le_succ (hlast (q + 1) other h)⟩
  · rintro (⟨p, hp, hlast⟩ | ⟨hnone, hfirst⟩)
    · refine ⟨p + 1, hp, fun q other h => ?_⟩
      cases q with
      | zero => exact Nat.zero_le _
      | succ q => exact Nat.succ_le_succ (hlast q other h)
    · refine ⟨0, hfirst, fun q other h => ?_⟩
      cases q with
      | zero => exact Nat.le_refl 0
      | succ q => exact absurd h (hnone q other)

/-- The keyword that is found is the last one with two spaces behind it. -/
theorem spacedKeyword?_eq_some_iff {line : List Char} {keyword : String} :
    spacedKeyword? line = some keyword ↔ LastSpacedKeyword line keyword := by
  induction line with
  | nil =>
      refine iff_of_false (by simp [spacedKeyword?]) ?_
      rintro ⟨p, hp, -⟩
      exact not_spacedKeywordAt_nil p keyword hp
  | cons c line ih =>
      rw [spacedKeyword?, Option.or_eq_some_iff, ih, spacedKeyword?_eq_none_iff,
        find?_keywords_eq_some_iff, lastSpacedKeyword_cons_iff]

/-- Of two keywords the second counts, and it need not be a word of its own. -/
example : spacedKeyword? "class  A: undef  x".toList = some "def" := by decide

/-! ## The rules -/

/-- Whether a rule reports a line under a condition, once and for its own number, and does not
report it otherwise. -/
structure ReportedExactly (file : String) (blank : Nat) (l : Line) (code : Code) (p : Prop) :
    Prop where
  reported : (checkLine file blank l).1.filter (fun d => d.code == code) =
    [.of file l.number code none] ↔ p
  silent : (checkLine file blank l).1.filter (fun d => d.code == code) = [] ↔ ¬ p

/-- A rule without a subject reports a line if it is broken there. -/
theorem reportedExactly_of_flag {file : String} {blank : Nat} {l : Line} {code : Code}
    {broken : Bool} {p : Prop}
    (hfound : (checkLine file blank l).1.filter (fun d => d.code == code) =
      flag file l.number code broken) (hp : broken = true ↔ p) :
    ReportedExactly file blank l code p := by
  constructor
  · rw [hfound, ← hp]
    cases broken <;> simp [flag]
  · rw [hfound, ← hp]
    cases broken <;> simp [flag]

/-- The diagnostic of a keyword with too many spaces behind it. -/
def keywordDiagnostic (file : String) (number : Nat) (keyword : String) : Diagnostic where
  file := file
  line := number
  code := .keywordSpacing
  message := "Too many spaces after '" ++ (keyword ++ "'")

theorem keywordDiagnostic_injective (file : String) (number : Nat) :
    Function.Injective (keywordDiagnostic file number) := by
  intro keyword other h
  simpa [keywordDiagnostic] using h

/-- One thing is reported if it is what was found. -/
theorem toList_map_eq_singleton_iff {α β : Type} {f : α → β} (hf : Function.Injective f)
    {found : Option α} {a : α} : found.toList.map f = [f a] ↔ found = some a := by
  cases found with
  | none => simp
  | some other => simp [hf.eq_iff]

theorem filter_checkLine_keywordSpacing (file : String) (blank number : Nat) (text : List Char) :
    (checkLine file blank ⟨number, text⟩).1.filter (fun d => d.code == .keywordSpacing) =
      (spacedKeyword? (firstLine text)).toList.map (keywordDiagnostic file number) := by
  rw [filter_checkLine, ofRule]
  cases hfound : spacedKeyword? (firstLine text) with
  | none => rfl
  | some keyword =>
      obtain ⟨p, ⟨hkeyword, -⟩, -⟩ := spacedKeyword?_eq_some_iff.mp hfound
      have hplain : '\x7b' ∉ keyword.toList := by
        rcases hkeyword with rfl | rfl <;> decide
      simp [flagName, Diagnostic.of, Code.message_keywordSpacing hplain, keywordDiagnostic]

/-- The rules that search the first line of a text. -/
def searches : List Code := [.semicolon, .commentSpacing, .openTask, .keywordSpacing]

/-- What is found in a line does not hang on what stands behind its first newline. -/
theorem filter_searches_firstLine (file : String) (blank number : Nat) (text : List Char) :
    (checkLine file blank ⟨number, text⟩).1.filter (fun d => searches.contains d.code) =
      (checkLine file blank ⟨number, firstLine text⟩).1.filter
        (fun d => searches.contains d.code) := by
  have hline : firstLine (firstLine text) = firstLine text :=
    firstLine_of_not_mem (newline_not_mem_firstLine text)
  have hsemicolon : hasSemicolon (firstLine text) = hasSemicolon text := by
    rw [Bool.eq_iff_iff, hasSemicolon_iff, hasSemicolon_iff, hline]
  have hcomment : hasCrowdedComment (firstLine text) = hasCrowdedComment text := by
    rw [hasCrowdedComment, hline]
    rfl
  have htask : hasTask (firstLine text) = hasTask text := by
    rw [hasTask, hline]
    rfl
  have hflag := filter_flag searches.contains file
  have hflagName := filter_flagName searches.contains file
  simp only [checkLine, List.filter_append, hflag, hflagName, hline, hsemicolon, hcomment, htask]
  -- What is left of the other rules is empty on both sides.
  simp [searches]

/-- What four of the rules find in a line, up to its first newline.  A semicolon is reported behind
a call and behind a word at the start of the line, a comment if one space stands between it and the
code, a task if it stands behind a comment sign in small or capital letters, and a keyword if two
spaces stand behind it; of several keywords, the last one is named.  Nothing behind the first
newline makes a difference. -/
theorem searches_report (file : String) (blank number : Nat) (text : List Char) :
    ReportedExactly file blank ⟨number, text⟩ .semicolon
        (CallThenSemicolon (firstLine text) ∨ WordThenSemicolon (firstLine text)) ∧
      ReportedExactly file blank ⟨number, text⟩ .commentSpacing
        (CrowdedComment (firstLine text)) ∧
      ReportedExactly file blank ⟨number, text⟩ .openTask (TaskInComment (firstLine text)) ∧
      (∀ keyword,
        (checkLine file blank ⟨number, text⟩).1.filter (fun d => d.code == .keywordSpacing) =
            [keywordDiagnostic file number keyword] ↔
          LastSpacedKeyword (firstLine text) keyword) ∧
      ((checkLine file blank ⟨number, text⟩).1.filter (fun d => d.code == .keywordSpacing) = [] ↔
        ∀ p keyword, ¬ SpacedKeywordAt (firstLine text) p keyword) ∧
      (checkLine file blank ⟨number, text⟩).1.filter (fun d => searches.contains d.code) =
        (checkLine file blank ⟨number, firstLine text⟩).1.filter
          (fun d => searches.contains d.code) := by
  refine ⟨?_, ?_, ?_, fun keyword => ?_, ?_, filter_searches_firstLine file blank number text⟩
  · exact reportedExactly_of_flag (by simp [checkLine, filter_code_flag, filter_code_flagName])
      hasSemicolon_iff
  · exact reportedExactly_of_flag (by simp [checkLine, filter_code_flag, filter_code_flagName])
      hasCrowdedComment_iff
  · exact reportedExactly_of_flag (by simp [checkLine, filter_code_flag, filter_code_flagName])
      hasTask_iff
  · rw [filter_checkLine_keywordSpacing,
      toList_map_eq_singleton_iff (keywordDiagnostic_injective file number),
      spacedKeyword?_eq_some_iff]
  · rw [filter_checkLine_keywordSpacing, List.map_eq_nil_iff, Option.toList_eq_nil_iff,
      spacedKeyword?_eq_none_iff]

end LineRules
end PythonStyle
