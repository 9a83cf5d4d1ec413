import Mathlib.Data.List.Basic
import PythonStyle.Naming
import PythonStyle.Proofs.Cuts

/-!
# Function names that start with a capital letter

The rule for function names searches a line for a name that starts with a capital letter.  Several
keywords and several parentheses may compete for its beginning and its end.  This module says by
places in the line where the name starts and ends, and that a search with backtracking for the
pattern comes upon this name first.

Main definitions:

- `Naming.LastOpening`, `Naming.DefinesAt` and `Naming.Candidate`: the place where the signature
  starts, the places where a name may start before it, and the name that is found.
- `Naming.functionNameTries`: what a search for the pattern comes upon, in its order.
- `Naming.HasDefinition`: the pattern.

Main results:

- Theorem `Naming.uppercaseFunctionName?_eq_some_iff`: the name that is found.
- Theorem `Naming.mem_functionNameTries`: a search comes upon all names of the pattern.
- Theorem `Naming.uppercaseFunctionName?_eq_head?`: it comes first upon the name that is found.
-/

namespace PythonStyle

/-! ## Last elements and last occurrences -/

/-- In a list whose elements get smaller, the last one is the least. -/
theorem getLast?_eq_some_iff_of_pairwise {α : Type} {size : α → Nat} {xs : List α}
    (h : xs.Pairwise fun a b => size b < size a) {x : α} :
    xs.getLast? = some x ↔ x ∈ xs ∧ ∀ y ∈ xs, size x ≤ size y := by
  rcases List.eq_nil_or_concat xs with rfl | ⟨start, last, rfl⟩
  · simp
  · rw [List.concat_eq_append] at h ⊢
    have hlast : ∀ y ∈ start, size last < size y :=
      fun y hy => (List.pairwise_append.mp h).2.2 y hy last List.mem_cons_self
    rw [List.getLast?_concat, Option.some.injEq]
    constructor
    · rintro rfl
      refine ⟨List.mem_append_right _ List.mem_cons_self, fun y hy => ?_⟩
      rcases List.mem_append.mp hy with hy | hy
      · exact Nat.le_of_lt (hlast y hy)
      · exact Nat.le_of_eq (congrArg size (List.mem_singleton.mp hy).symm)
    · rintro ⟨hmem, hleast⟩
      rcases List.mem_append.mp hmem with hmem | hmem
      · have hle := hleast last (List.mem_append_right _ List.mem_cons_self)
        exact absurd (hlast x hmem) (Nat.not_lt.mpr hle)
      · exact (List.mem_singleton.mp hmem).symm

namespace Text

/-- Occurrences are found from left to right, so that less and less is left behind them. -/
theorem pairwise_afterEach (pattern text : List Char) :
    (afterEach pattern text).Pairwise fun a b => b.length < a.length := by
  induction text with
  | nil =>
      rw [afterEach]
      split <;> simp
  | cons c rest ih =>
      rw [afterEach, List.pairwise_append]
      refine ⟨?_, ih, fun a ha b hb => ?_⟩
      · split <;> simp
      · split at ha
        · next hpattern =>
            obtain rfl := List.mem_singleton.mp ha
            obtain ⟨start, hrest⟩ := mem_afterEach.mp hb
            have hlength := (List.isPrefixOf_iff_prefix.mp hpattern).length_le
            rw [hrest] at hlength ⊢
            simp only [List.length_cons, List.length_append, List.length_drop] at hlength ⊢
            omega
        · cases ha

/-- What follows the last occurrence that something is true of. -/
theorem getLast?_filter_afterEach {pattern text tail : List Char} {p : List Char → Bool} :
    ((afterEach pattern text).filter p).getLast? = some tail ↔
      (tail ∈ afterEach pattern text ∧ p tail = true) ∧
        ∀ other ∈ afterEach pattern text, p other = true → tail.length ≤ other.length := by
  rw [getLast?_eq_some_iff_of_pairwise ((pairwise_afterEach pattern text).filter p)]
  simp [List.mem_filter]

/-- What follows an occurrence stands behind a pattern at some place. -/
theorem mem_afterEach_iff_drop {pattern text tail : List Char} :
    tail ∈ afterEach pattern text ↔ ∃ k, text.drop k = pattern ++ tail := by
  rw [mem_afterEach]
  constructor
  · rintro ⟨start, rfl⟩
    exact ⟨start.length, List.drop_left⟩
  · rintro ⟨k, hk⟩
    exact ⟨text.take k, by rw [← hk, List.take_append_drop]⟩

end Text

namespace Naming

open Text

/-! ## The signature -/

/-- Whether a parenthesis opens at a place of a line, and one closes behind it. -/
def OpensAt (line : List Char) (q : Nat) : Prop :=
  ∃ signature, line.drop q = '(' :: signature ∧ ')' ∈ signature

/-- Whether a place is the last at which a parenthesis opens that is closed later. -/
def LastOpening (line : List Char) (q : Nat) : Prop :=
  OpensAt line q ∧ ∀ other, OpensAt line other → other ≤ q

theorem LastOpening.unique {line : List Char} {q other : Nat} (h : LastOpening line q)
    (hother : LastOpening line other) : q = other :=
  Nat.le_antisymm (hother.2 q h.1) (h.2 other hother.1)

section Signature

variable {before inside behind : List Char}

/-- No parenthesis is closed that opens between an opening and the last closing one, or behind. -/
theorem not_mem_signature (hinside : '(' ∉ inside) (hbehind : ')' ∉ behind)
    {start signature : List Char} (h : inside ++ ')' :: behind = start ++ '(' :: signature) :
    ')' ∉ signature := by
  rcases List.append_eq_append_iff.mp h with ⟨between, rfl, hrest⟩ | ⟨between, rfl, hrest⟩
  · cases between with
    | nil => simp at hrest
    | cons c between =>
        obtain ⟨-, rfl⟩ := List.cons.inj hrest
        exact fun hmem => hbehind (by simp [hmem])
  · cases between with
    | nil => simp at hrest
    | cons c between =>
        obtain ⟨rfl, -⟩ := List.cons.inj hrest
        exact absurd (by simp) hinside

/-- The last parenthesis that is closed later is the last in front of the last that closes. -/
theorem beforeSignature_append (hinside : '(' ∉ inside) (hbehind : ')' ∉ behind) :
    beforeSignature (before ++ '(' :: (inside ++ ')' :: behind)) = before := by
  have hline : (before ++ '(' :: (inside ++ ')' :: behind)).reverse =
      behind.reverse ++ ')' :: (inside.reverse ++ '(' :: before.reverse) := by simp
  rw [beforeSignature, hline, after_append (by simpa using hbehind),
    after_append (by simpa using hinside), List.reverse_reverse]

theorem lastOpening_append (hinside : '(' ∉ inside) (hbehind : ')' ∉ behind) :
    LastOpening (before ++ '(' :: (inside ++ ')' :: behind)) before.length := by
  refine ⟨⟨_, List.drop_left, by simp⟩, ?_⟩
  rintro other ⟨signature, hother, hcloses⟩
  by_contra hlater
  obtain ⟨k, rfl⟩ := Nat.exists_eq_add_of_lt (Nat.lt_of_not_le hlater)
  rw [Nat.add_assoc, List.drop_length_add_append, List.drop_succ_cons] at hother
  have hrest : inside ++ ')' :: behind =
      (inside ++ ')' :: behind).take k ++ '(' :: signature := by
    rw [← hother, List.take_append_drop]
  exact not_mem_signature hinside hbehind hrest hcloses

/-- A line has a signature, or none opens and nothing stands before it. -/
theorem signature_cases (line : List Char) :
    (∃ before inside behind, line = before ++ '(' :: (inside ++ ')' :: behind) ∧
        '(' ∉ inside ∧ ')' ∉ behind) ∨
      (beforeSignature line = [] ∧ ∀ q, ¬ OpensAt line q) := by
  have hsplit (q : Nat) {signature : List Char} (h : line.drop q = '(' :: signature) :
      line = line.take q ++ '(' :: signature := by rw [← h, List.take_append_drop]
  by_cases hcloses : ')' ∈ line
  · obtain ⟨upto, behind, hline, hbehind⟩ := exists_append_of_mem hcloses
    by_cases hopens : '(' ∈ upto
    · obtain ⟨before, inside, rfl, hinside⟩ := exists_append_of_mem hopens
      exact .inl ⟨before, inside, behind, by simp [hline], hinside, hbehind⟩
    · refine .inr ⟨?_, ?_⟩
      · have hreverse : line.reverse = behind.reverse ++ ')' :: upto.reverse := by simp [hline]
        rw [beforeSignature, hreverse, after_append (by simpa using hbehind),
          after_of_not_mem (by simpa using hopens), List.reverse_nil]
      · rintro q ⟨signature, hq, hmem⟩
        exact not_mem_signature hopens hbehind (hline.symm.trans (hsplit q hq)) hmem
  · refine .inr ⟨?_, ?_⟩
    · have hnone : after ')' line.reverse = [] := after_of_not_mem (by simpa using hcloses)
      rw [beforeSignature, hnone]
      rfl
    · rintro q ⟨signature, hq, hmem⟩
      rw [hsplit q hq] at hcloses
      exact hcloses (by simp [hmem])

end Signature

/-! ## Names that start with a capital letter -/

/-- Whether a text starts with a capital letter. -/
def startsCapital (text : List Char) : Bool := text.head?.any isCapital

/-- Whether the keyword for functions stands at a place of a line, with a capital letter behind it
that comes before another place. -/
def DefinesAt (line : List Char) (q p : Nat) : Prop :=
  ∃ c rest, line.drop p = definitionKeyword ++ c :: rest ∧ isCapital c = true ∧ p + 5 ≤ q

/-- Whether a name goes from the last place where one may start up to the last parenthesis that is
closed later. -/
def Candidate (line name : List Char) : Prop :=
  ∃ q p, LastOpening line q ∧ DefinesAt line q p ∧
    (∀ other, DefinesAt line q other → other ≤ p) ∧ name = (line.take q).drop (p + 4)

theorem length_definitionKeyword : definitionKeyword.length = 4 := by decide

/-- A name may start where the part before the signature has the keyword and a capital letter. -/
theorem definesAt_append_iff {before signature : List Char} {p : Nat} :
    DefinesAt (before ++ signature) before.length p ↔
      ∃ name, before.drop p = definitionKeyword ++ name ∧ startsCapital name = true := by
  constructor
  · rintro ⟨c, rest, hdrop, hcapital, hplace⟩
    have hkeyword : definitionKeyword ++ [c] <+: before.drop p ++ signature := by
      rw [← List.drop_append_of_le_length (by omega), hdrop]
      exact ⟨rest, by simp⟩
    have hlength : (definitionKeyword ++ [c]).length ≤ (before.drop p).length := by
      simp only [List.length_append, List.length_drop, length_definitionKeyword,
        List.length_singleton]
      omega
    obtain ⟨more, hmore⟩ :=
      List.prefix_of_prefix_length_le hkeyword (List.prefix_append _ _) hlength
    exact ⟨c :: more, by rw [← hmore]; simp, hcapital⟩
  · rintro ⟨name, hname, hcapital⟩
    cases name with
    | nil => cases hcapital
    | cons c rest =>
        have hlength := congrArg List.length hname
        simp only [List.length_drop, List.length_append, List.length_cons,
          length_definitionKeyword] at hlength
        refine ⟨c, rest ++ signature, ?_, hcapital, by omega⟩
        rw [List.drop_append_of_le_length (by omega), hname]
        simp

/-- What may be a name, in terms of the part before the signature. -/
theorem mem_names_iff {before tail : List Char} :
    (tail ∈ afterEach definitionKeyword before ∧ startsCapital tail = true) ↔
      ∃ p, before.drop p = definitionKeyword ++ tail ∧ startsCapital tail = true := by
  rw [mem_afterEach_iff_drop, exists_and_right]

/-- A later place has less behind it. -/
theorem length_le_iff {before name other : List Char} {p k : Nat}
    (hname : before.drop p = definitionKeyword ++ name)
    (hother : before.drop k = definitionKeyword ++ other) :
    name.length ≤ other.length ↔ k ≤ p := by
  have hp := congrArg List.length hname
  have hk := congrArg List.length hother
  simp only [List.length_drop, List.length_append, length_definitionKeyword] at hp hk
  omega

theorem uppercaseFunctionName?_eq (line : List Char) :
    uppercaseFunctionName? line =
      ((afterEach definitionKeyword (beforeSignature (firstLine line))).filter
        startsCapital).getLast? := rfl

/-- The name that is found starts at the last place where one may start, and goes up to the last
parenthesis that is closed later. -/
theorem uppercaseFunctionName?_eq_some_iff {line name : List Char} :
    uppercaseFunctionName? line = some name ↔ Candidate (firstLine line) name := by
  rw [uppercaseFunctionName?_eq, getLast?_filter_afterEach, mem_names_iff]
  rcases signature_cases (firstLine line) with
    ⟨before, inside, behind, hline, hinside, hbehind⟩ | ⟨hnothing, hnone⟩
  · have hlast : LastOpening (before ++ '(' :: (inside ++ ')' :: behind)) before.length :=
      lastOpening_append hinside hbehind
    rw [hline, beforeSignature_append hinside hbehind]
    constructor
    · rintro ⟨⟨p, hname, hcapital⟩, hleast⟩
      refine ⟨before.length, p, hlast, definesAt_append_iff.mpr ⟨name, hname, hcapital⟩, ?_, ?_⟩
      · intro k hk
        obtain ⟨other, hother, hcapital⟩ := definesAt_append_iff.mp hk
        exact (length_le_iff hname hother).mp
          (hleast other (mem_afterEach_iff_drop.mpr ⟨k, hother⟩) hcapital)
      · rw [List.take_left, ← List.drop_drop, hname, ← length_definitionKeyword, List.drop_left]
    · rintro ⟨q, p, hq, hp, hlatest, rfl⟩
      obtain rfl := hq.unique hlast
      obtain ⟨name, hname, hcapital⟩ := definesAt_append_iff.mp hp
      have hdrop : before.drop (p + 4) = name := by
        rw [← List.drop_drop, hname, ← length_definitionKeyword, List.drop_left]
      rw [List.take_left, hdrop]
      refine ⟨⟨p, hname, hcapital⟩, fun other hmem hcapital => ?_⟩
      obtain ⟨k, hother⟩ := mem_afterEach_iff_drop.mp hmem
      exact (length_le_iff hname hother).mpr
        (hlatest k (definesAt_append_iff.mpr ⟨other, hother, hcapital⟩))
  · rw [hnothing]
    constructor
    · rintro ⟨⟨p, hname, -⟩, -⟩
      have hlength := congrArg List.length hname
      rw [List.drop_nil, List.length_nil, List.length_append, length_definitionKeyword] at hlength
      omega
    · rintro ⟨q, p, hq, -⟩
      exact absurd hq.1 (hnone q)

/-- The parenthesis of a default is the last that is closed later, so that the name goes up to
there. -/
example : uppercaseFunctionName? "def Foo(x=(1, 2)):".toList = some "Foo(x=".toList := by decide

/-- A name is found if there is a place where one may start. -/
theorem isSome_uppercaseFunctionName?_iff {line : List Char} :
    (uppercaseFunctionName? line).isSome = true ↔
      ∃ q p, LastOpening (firstLine line) q ∧ DefinesAt (firstLine line) q p := by
  constructor
  · intro h
    obtain ⟨name, hname⟩ := Option.isSome_iff_exists.mp h
    obtain ⟨q, p, hq, hp, -⟩ := uppercaseFunctionName?_eq_some_iff.mp hname
    exact ⟨q, p, hq, hp⟩
  · rintro ⟨q, p, hq, hp⟩
    rcases signature_cases (firstLine line) with
      ⟨before, inside, behind, hline, hinside, hbehind⟩ | ⟨-, hnone⟩
    · rw [hline] at hq hp
      obtain rfl := hq.unique (lastOpening_append hinside hbehind)
      obtain ⟨name, hname, hcapital⟩ := definesAt_append_iff.mp hp
      rw [uppercaseFunctionName?_eq, hline, beforeSignature_append hinside hbehind,
        List.getLast?_isSome]
      refine List.ne_nil_of_mem (List.mem_filter.mpr ⟨?_, hcapital⟩)
      exact mem_afterEach_iff_drop.mpr ⟨p, hname⟩
    · exact absurd hq.1 (hnone q)

/-! ## The search for them -/

section Search

variable {line text name behind signature : List Char} {c : Char}

/-- What a search comes upon that looks for any characters and a closing parenthesis: a name that it
has already. -/
def closingTries (name signature : List Char) : List (List Char) :=
  (cuts signature).flatMap fun cut => if cut.2.head? = some ')' then [name] else []

/-- What it comes upon that looks for an opening parenthesis before. -/
def openingTries (name behind : List Char) : List (List Char) :=
  match behind with
  | '(' :: signature => closingTries name signature
  | _ => []

/-- What it comes upon that looks for a capital letter before, and any characters behind it; these
are the name. -/
def nameTries : List Char → List (List Char)
  | [] => []
  | c :: text =>
      if isCapital c then (cuts text).flatMap fun cut => openingTries (c :: cut.1) cut.2 else []

/-- What it comes upon that looks for the keyword before. -/
def keywordTries (behind : List Char) : List (List Char) :=
  if definitionKeyword.isPrefixOf behind then nameTries (behind.drop definitionKeyword.length)
  else []

/-- What a search with backtracking comes upon that looks for any characters, the keyword, a name
that starts with a capital letter and goes on with any characters, and any characters in
parentheses. -/
def functionNameTries (line : List Char) : List (List Char) :=
  (cuts line).flatMap fun cut => keywordTries cut.2

/-! ### Everything it comes upon -/

theorem mem_closingTries {word : List Char} :
    word ∈ closingTries name signature ↔ word = name ∧ ')' ∈ firstLine signature := by
  rw [closingTries, List.mem_flatMap, mem_firstLine_iff (by decide)]
  constructor
  · rintro ⟨⟨start, tail⟩, hcut, hword⟩
    obtain ⟨rfl, hstart⟩ := mem_cuts.mp hcut
    split at hword
    · next hclose =>
        obtain ⟨behind, rfl⟩ := List.head?_eq_some_iff.mp hclose
        exact ⟨List.mem_singleton.mp hword, start, behind, rfl, hstart⟩
    · cases hword
  · rintro ⟨rfl, start, behind, rfl, hstart⟩
    refine ⟨(start, ')' :: behind), mem_cuts.mpr ⟨rfl, hstart⟩, ?_⟩
    exact List.mem_singleton_self _

theorem mem_openingTries {word : List Char} :
    word ∈ openingTries name behind ↔
      word = name ∧ ∃ signature, behind = '(' :: signature ∧ ')' ∈ firstLine signature := by
  unfold openingTries
  split
  · next signature =>
      rw [mem_closingTries]
      simp
  · next hother =>
      refine iff_of_false List.not_mem_nil ?_
      rintro ⟨-, signature, rfl, -⟩
      exact hother signature rfl

theorem mem_nameTries :
    name ∈ nameTries text ↔ ∃ c more signature, text = c :: (more ++ '(' :: signature) ∧
      isCapital c = true ∧ name = c :: more ∧ '\n' ∉ more ∧ ')' ∈ firstLine signature := by
  cases text with
  | nil => simp [nameTries]
  | cons c text =>
      rw [nameTries]
      split
      · next hc =>
          rw [List.mem_flatMap]
          constructor
          · rintro ⟨⟨more, tail⟩, hcut, hname⟩
            obtain ⟨rfl, hmore⟩ := mem_cuts.mp hcut
            obtain ⟨rfl, signature, rfl, hclose⟩ := mem_openingTries.mp hname
            exact ⟨c, more, signature, rfl, hc, rfl, hmore, hclose⟩
          · rintro ⟨d, more, signature, htext, -, rfl, hmore, hclose⟩
            obtain ⟨rfl, rfl⟩ := List.cons.inj htext
            refine ⟨(more, '(' :: signature), mem_cuts.mpr ⟨rfl, hmore⟩, ?_⟩
            exact mem_openingTries.mpr ⟨rfl, signature, rfl, hclose⟩
      · next hc =>
          refine iff_of_false List.not_mem_nil ?_
          rintro ⟨d, more, signature, htext, hd, -⟩
          exact hc ((List.cons.inj htext).1 ▸ hd)

theorem keywordTries_append (tail : List Char) :
    keywordTries (definitionKeyword ++ tail) = nameTries tail := by
  rw [keywordTries, if_pos (List.isPrefixOf_iff_prefix.mpr (List.prefix_append _ tail)),
    List.drop_left]

theorem keywordTries_eq_nil (h : ¬ definitionKeyword <+: behind) :
    keywordTries behind = [] := by
  rw [keywordTries, if_neg (fun hfront => h (List.isPrefixOf_iff_prefix.mp hfront))]

/-- Whether a line has, behind any characters, the keyword and a name that starts with a capital
letter and goes on with any characters, and behind it any characters in parentheses. -/
def HasDefinition (line name : List Char) : Prop :=
  ∃ start c more inside behind,
    line = start ++ (definitionKeyword ++ c :: (more ++ '(' :: (inside ++ ')' :: behind))) ∧
      isCapital c = true ∧ name = c :: more ∧ '\n' ∉ start ++ more ++ inside

/-- The search comes upon a name wherever a line has the pattern. -/
theorem mem_functionNameTries : name ∈ functionNameTries line ↔ HasDefinition line name := by
  unfold HasDefinition
  simp only [List.mem_append, not_or]
  rw [functionNameTries, List.mem_flatMap]
  constructor
  · rintro ⟨⟨start, tail⟩, hcut, hname⟩
    obtain ⟨rfl, hstart⟩ := mem_cuts.mp hcut
    by_cases hkeyword : definitionKeyword <+: tail
    · obtain ⟨text, rfl⟩ := hkeyword
      rw [keywordTries_append] at hname
      obtain ⟨c, more, signature, rfl, hc, rfl, hmore, hclose⟩ := mem_nameTries.mp hname
      obtain ⟨inside, behind, rfl, hinside⟩ := (mem_firstLine_iff (by decide)).mp hclose
      exact ⟨start, c, more, inside, behind, rfl, hc, rfl, ⟨hstart, hmore⟩, hinside⟩
    · rw [keywordTries_eq_nil hkeyword] at hname
      cases hname
  · rintro ⟨start, c, more, inside, behind, rfl, hc, rfl, ⟨hstart, hmore⟩, hinside⟩
    refine ⟨(start, _), mem_cuts.mpr ⟨rfl, hstart⟩, ?_⟩
    rw [keywordTries_append, mem_nameTries]
    refine ⟨c, more, _, rfl, hc, rfl, hmore, ?_⟩
    exact (mem_firstLine_iff (by decide)).mpr ⟨inside, behind, rfl, hinside⟩

/-! ### What it comes upon first -/

theorem OpensAt.lt_length {q : Nat} (h : OpensAt line q) : q < line.length := by
  obtain ⟨signature, hdrop, -⟩ := h
  by_contra hlong
  rw [List.drop_eq_nil_of_le (Nat.le_of_not_lt hlong)] at hdrop
  cases hdrop

/-- A parenthesis opens at a place behind a cut. -/
theorem opensAt_drop {m k : Nat} : OpensAt (line.drop m) k ↔ OpensAt line (m + k) := by
  rw [OpensAt, OpensAt, List.drop_drop]

/-- The last one behind a cut is the last of all. -/
theorem lastOpening_drop {m k : Nat} : LastOpening (line.drop m) k ↔ LastOpening line (m + k) := by
  rw [LastOpening, LastOpening, opensAt_drop]
  refine and_congr_right fun _ => ?_
  constructor
  · intro h other hother
    by_cases hm : m ≤ other
    · obtain ⟨j, rfl⟩ := Nat.exists_eq_add_of_le hm
      exact Nat.add_le_add_left (h j (opensAt_drop.mpr hother)) m
    · omega
  · intro h j hj
    exact Nat.le_of_add_le_add_left (h (m + j) (opensAt_drop.mp hj))

theorem opensAt_firstLine_iff {k : Nat} (hk : k ≤ (firstLine text).length) :
    OpensAt (firstLine text) k ↔
      ∃ signature, text.drop k = '(' :: signature ∧ ')' ∈ firstLine signature := by
  have hplain : '\n' ∉ ['('] := by decide
  rw [OpensAt, ← firstLine_drop hk]
  constructor
  · rintro ⟨rest, hrest, hclose⟩
    obtain ⟨signature, hsignature, rfl⟩ := (firstLine_eq_append_iff hplain).mp hrest
    exact ⟨signature, hsignature, hclose⟩
  · rintro ⟨signature, hsignature, hclose⟩
    exact ⟨_, (firstLine_eq_append_iff hplain).mpr ⟨signature, hsignature, rfl⟩, hclose⟩

/-- From a place behind the capital letter, the search comes upon one name, if upon any. -/
theorem head?_openingTries_drop {k : Nat} (hk : k ≤ (firstLine text).length) {word : List Char} :
    (openingTries name (text.drop k)).head? = some word ↔
      word = name ∧ OpensAt (firstLine text) k := by
  rw [opensAt_firstLine_iff hk, ← mem_openingTries]
  constructor
  · exact List.mem_of_head?
  · intro hword
    cases htries : openingTries name (text.drop k) with
    | nil =>
        rw [htries] at hword
        cases hword
    | cons other more =>
        have hother : other ∈ openingTries name (text.drop k) := by simp [htries]
        rw [List.head?_cons, (mem_openingTries.mp hword).1, (mem_openingTries.mp hother).1]

theorem openingTries_drop_eq_nil_iff {k : Nat} (hk : k ≤ (firstLine text).length) :
    openingTries name (text.drop k) = [] ↔ ¬ OpensAt (firstLine text) k := by
  rw [← List.head?_eq_none_iff, Option.eq_none_iff_forall_ne_some]
  simp only [ne_eq, head?_openingTries_drop hk]
  simp

/-- The name goes up to the last parenthesis that is closed later. -/
theorem head?_nameTries :
    (nameTries (c :: text)).head? = some name ↔
      isCapital c = true ∧ ∃ k, LastOpening (firstLine text) k ∧ name = c :: text.take k := by
  rw [nameTries]
  split
  · next hc =>
      rw [head?_flatMap_cuts]
      constructor
      · rintro ⟨k, hk, hname, hnone⟩
        obtain ⟨rfl, hopens⟩ := (head?_openingTries_drop hk).mp hname
        refine ⟨hc, k, ⟨hopens, fun other hother => ?_⟩, rfl⟩
        by_contra hlt
        have hle := Nat.le_of_lt hother.lt_length
        exact (openingTries_drop_eq_nil_iff hle).mp (hnone other hle (Nat.lt_of_not_le hlt)) hother
      · rintro ⟨-, k, hlast, rfl⟩
        have hk := Nat.le_of_lt hlast.1.lt_length
        refine ⟨k, hk, (head?_openingTries_drop hk).mpr ⟨rfl, hlast.1⟩, fun other hle hlt => ?_⟩
        rw [openingTries_drop_eq_nil_iff hle]
        exact fun hother => absurd (hlast.2 other hother) (Nat.not_le_of_lt hlt)
  · next hc => simp [hc]

/-- The part of a line behind a keyword and a letter, and the name that starts with the letter. -/
theorem exists_lastOpening_iff {p : Nat}
    (h : (firstLine line).drop p = definitionKeyword ++ c :: firstLine text) :
    (∃ k, LastOpening (firstLine text) k ∧ name = c :: text.take k) ↔
      ∃ q, LastOpening (firstLine line) q ∧ p + 5 ≤ q ∧
        name = ((firstLine line).take q).drop (p + 4) := by
  have hletter : (firstLine line).drop (p + 4) = c :: firstLine text := by
    rw [← List.drop_drop, h, ← length_definitionKeyword, List.drop_left]
  have hrest : firstLine text = (firstLine line).drop (p + 5) := by
    rw [← List.drop_drop (i := 1) (j := p + 4), hletter, List.drop_one, List.tail_cons]
  have hname {k : Nat} (hk : k ≤ (firstLine text).length) :
      ((firstLine line).take (p + 5 + k)).drop (p + 4) = c :: text.take k := by
    rw [List.drop_take, hletter, show p + 5 + k - (p + 4) = k + 1 by omega, List.take_succ_cons,
      take_firstLine hk]
  constructor
  · rintro ⟨k, hlast, rfl⟩
    refine ⟨p + 5 + k, ?_, Nat.le_add_right _ k, (hname (Nat.le_of_lt hlast.1.lt_length)).symm⟩
    rwa [← lastOpening_drop, ← hrest]
  · rintro ⟨q, hlast, hq, rfl⟩
    obtain ⟨k, rfl⟩ := Nat.exists_eq_add_of_le hq
    rw [← lastOpening_drop, ← hrest] at hlast
    exact ⟨k, hlast, hname (Nat.le_of_lt hlast.1.lt_length)⟩

/-- From a place of the first line, the search comes first upon the name that goes from there to the
last parenthesis that is closed later. -/
theorem head?_keywordTries_drop {p : Nat} (hp : p ≤ (firstLine line).length) :
    (keywordTries (line.drop p)).head? = some name ↔
      ∃ q, LastOpening (firstLine line) q ∧ DefinesAt (firstLine line) q p ∧
        name = ((firstLine line).take q).drop (p + 4) := by
  have hplain {c : Char} (hc : isCapital c = true) : '\n' ∉ definitionKeyword ++ [c] := by
    rintro hmem
    rcases List.mem_append.mp hmem with hmem | hmem
    · exact absurd hmem (by decide)
    · rw [← List.mem_singleton.mp hmem] at hc
      exact absurd hc (by decide)
  constructor
  · intro h
    by_cases hkeyword : definitionKeyword <+: line.drop p
    · obtain ⟨tail, htail⟩ := hkeyword
      rw [← htail, keywordTries_append] at h
      cases tail with
      | nil => cases h
      | cons c text =>
          obtain ⟨hc, hname⟩ := head?_nameTries.mp h
          have hline : (firstLine line).drop p = definitionKeyword ++ c :: firstLine text := by
            rw [← firstLine_drop hp, ← htail, List.append_cons, firstLine_append (hplain hc),
              ← List.append_cons]
          obtain ⟨q, hlast, hq, rfl⟩ := (exists_lastOpening_iff hline).mp hname
          exact ⟨q, hlast, ⟨c, _, hline, hc, hq⟩, rfl⟩
    · rw [keywordTries_eq_nil hkeyword] at h
      cases h
  · rintro ⟨q, hlast, ⟨c, rest, hline, hc, hq⟩, rfl⟩
    have hfirst := hline
    rw [← firstLine_drop hp, List.append_cons, firstLine_eq_append_iff (hplain hc)] at hfirst
    obtain ⟨text, htext, rfl⟩ := hfirst
    rw [htext, ← List.append_cons, keywordTries_append, head?_nameTries]
    exact ⟨hc, (exists_lastOpening_iff hline).mpr ⟨q, hlast, hq, rfl⟩⟩

theorem DefinesAt.le_length {q p : Nat} (h : DefinesAt line q p) : p ≤ line.length := by
  obtain ⟨c, rest, hdrop, -⟩ := h
  have hlength := congrArg List.length hdrop
  rw [List.length_drop, List.length_append, length_definitionKeyword] at hlength
  omega

/-- What the search comes upon first is what is found. -/
theorem uppercaseFunctionName?_eq_head? (line : List Char) :
    uppercaseFunctionName? line = (functionNameTries line).head? := by
  ext name
  rw [uppercaseFunctionName?_eq_some_iff, functionNameTries, head?_flatMap_cuts]
  constructor
  · rintro ⟨q, p, hq, hp, hlatest, rfl⟩
    refine ⟨p, hp.le_length, (head?_keywordTries_drop hp.le_length).mpr ⟨q, hq, hp, rfl⟩, ?_⟩
    intro other hother hlt
    rw [← List.head?_eq_none_iff, Option.eq_none_iff_forall_ne_some]
    intro word hword
    obtain ⟨r, hr, hdefines, -⟩ := (head?_keywordTries_drop hother).mp hword
    obtain rfl := hr.unique hq
    exact absurd (hlatest other hdefines) (Nat.not_le_of_lt hlt)
  · rintro ⟨p, hp, hname, hnone⟩
    obtain ⟨q, hq, hdefines, rfl⟩ := (head?_keywordTries_drop hp).mp hname
    refine ⟨q, p, hq, hdefines, fun other hother => ?_, rfl⟩
    by_contra hlt
    have hempty := hnone other hother.le_length (Nat.lt_of_not_le hlt)
    have hfirst := (head?_keywordTries_drop hother.le_length).mpr ⟨q, hq, hother, rfl⟩
    rw [hempty] at hfirst
    cases hfirst

end Search

end Naming

end PythonStyle
