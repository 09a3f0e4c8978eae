import CounterMachine.Listing.Line
import CounterMachine.Proofs.Numeral

/-!
# The language of lines

What the lines of a listing look like, said by how they are put together and not by how they are
taken apart. A line is blanks, a content, blanks and a comment. A content may be a header or a rule;
the body of a rule is made of pieces with separators around them.

The functions that take lines apart decide this language: each of them gives a part exactly if the
text is put together from it.
-/

namespace CounterMachine.Text

section Runs

variable {inside : Char → Bool} {run rest : List Char}

/-- A run that cannot be continued is what `takeWhile` takes. -/
theorem takeWhile_run (all : ∀ char ∈ run, inside char = true)
    (boundary : ∀ char ∈ rest.head?, inside char = false) :
    (run ++ rest).takeWhile inside = run := by
  rw [List.takeWhile_append_of_pos all]
  cases rest with
  | nil => simp
  | cons char rest => simp [boundary char rfl]

/-- What follows such a run is what `dropWhile` leaves. -/
theorem dropWhile_run (all : ∀ char ∈ run, inside char = true)
    (boundary : ∀ char ∈ rest.head?, inside char = false) :
    (run ++ rest).dropWhile inside = rest := by
  rw [List.dropWhile_append_of_pos all]
  cases rest with
  | nil => rfl
  | cons char rest => simp [boundary char rfl]

theorem all_takeWhile (inside : Char → Bool) (text : List Char) :
    ∀ char ∈ text.takeWhile inside, inside char = true :=
  fun _ member => List.mem_takeWhile_imp member

theorem head?_dropWhile (inside : Char → Bool) (text : List Char) :
    ∀ char ∈ (text.dropWhile inside).head?, inside char = false := by
  intro char first
  have kept := List.head?_dropWhile_not inside text
  rw [Option.mem_def.1 first] at kept
  exact kept

end Runs

section Trim

variable {text left core right : List Char}

theorem trim_eq (leftBlank : ∀ char ∈ left, isBlank char = true)
    (rightBlank : ∀ char ∈ right, isBlank char = true)
    (tightLeft : ∀ char ∈ core.head?, isBlank char = false)
    (tightRight : ∀ char ∈ core.getLast?, isBlank char = false) :
    trim (left ++ core ++ right) = core := by
  cases core with
  | nil =>
      have all : ∀ char ∈ left ++ [] ++ right, isBlank char = true := by
        intro char member
        rw [List.append_nil, List.mem_append] at member
        cases member with
        | inl inLeft => exact leftBlank char inLeft
        | inr inRight => exact rightBlank char inRight
      rw [trim, trimBy, List.dropWhile_eq_nil_iff.2 all]
      rfl
  | cons first others =>
      have front : (left ++ (first :: others ++ right)).dropWhile isBlank =
          first :: others ++ right := by
        apply dropWhile_run leftBlank
        simpa using tightLeft
      have back : (right.reverse ++ (first :: others).reverse).dropWhile isBlank =
          (first :: others).reverse := by
        apply dropWhile_run
        · simpa using rightBlank
        · rw [List.head?_reverse]
          exact tightRight
      rw [trim, trimBy, List.append_assoc, front, List.reverse_append, back, List.reverse_reverse]

/-- What trimming removes, and what it leaves. -/
theorem exists_trim (text : List Char) :
    ∃ left right, text = left ++ trim text ++ right ∧
      (∀ char ∈ left, isBlank char = true) ∧ (∀ char ∈ right, isBlank char = true) ∧
      (∀ char ∈ (trim text).head?, isBlank char = false) ∧
      ∀ char ∈ (trim text).getLast?, isBlank char = false := by
  have front : text = text.takeWhile isBlank ++ text.dropWhile isBlank :=
    List.takeWhile_append_dropWhile.symm
  have back : text.dropWhile isBlank =
      trim text ++ ((text.dropWhile isBlank).reverse.takeWhile isBlank).reverse := by
    rw [trim, trimBy, ← List.reverse_append, List.takeWhile_append_dropWhile, List.reverse_reverse]
  refine ⟨text.takeWhile isBlank, ((text.dropWhile isBlank).reverse.takeWhile isBlank).reverse,
    ?_, ?_, ?_, ?_, ?_⟩
  · rw [List.append_assoc, ← back]
    exact front
  · exact all_takeWhile isBlank text
  · intro char member
    rw [List.mem_reverse] at member
    exact all_takeWhile isBlank _ char member
  · intro char first
    apply head?_dropWhile isBlank text
    rw [back]
    exact List.mem_head?_append_of_mem_head? first
  · intro char last
    rw [trim, trimBy, List.getLast?_reverse] at last
    exact head?_dropWhile isBlank _ char last

end Trim

/-- A text and its pieces: the longest runs without separators, in order. -/
inductive Separated (separator : Char → Bool) : List Char → List (List Char) → Prop where
  | blank {gap : List Char} (separates : ∀ char ∈ gap, separator char = true) :
      Separated separator gap []
  | piece {gap piece rest : List Char} {pieces : List (List Char)}
      (separates : ∀ char ∈ gap, separator char = true) (present : piece ≠ [])
      (whole : ∀ char ∈ piece, separator char = false)
      (ends : ∀ char ∈ rest.head?, separator char = true)
      (others : Separated separator rest pieces) :
      Separated separator (gap ++ piece ++ rest) (piece :: pieces)

section Pieces

variable {separator : Char → Bool} {text gap piece : List Char} {found : List (List Char)}

theorem pieces_append_cons {char : Char} (left right : List Char)
    (separates : separator char = true) :
    pieces separator (left ++ char :: right) = pieces separator left ++ pieces separator right := by
  rw [pieces, List.splitOnP_append_cons left right separates, List.filter_append]
  rfl

theorem pieces_nil : pieces separator [] = [] := by
  simp [pieces, List.splitOnP_nil]

theorem pieces_cons {char : Char} (separates : separator char = true) (rest : List Char) :
    pieces separator (char :: rest) = pieces separator rest := by
  have first := pieces_append_cons [] rest separates
  rwa [List.nil_append, pieces_nil, List.nil_append] at first

theorem pieces_gap (separates : ∀ char ∈ gap, separator char = true) (rest : List Char) :
    pieces separator (gap ++ rest) = pieces separator rest := by
  induction gap with
  | nil => rfl
  | cons char gap ih =>
      rw [List.forall_mem_cons] at separates
      rw [List.cons_append, pieces_cons separates.1, ih separates.2]

theorem pieces_whole (present : piece ≠ []) (whole : ∀ char ∈ piece, separator char = false) :
    pieces separator piece = [piece] := by
  rw [pieces, List.splitOnP_eq_singleton whole]
  simp [present]

theorem Separated.pieces_eq (separated : Separated separator text found) :
    pieces separator text = found := by
  induction separated with
  | blank separates =>
      have rest := pieces_gap separates []
      rwa [List.append_nil, pieces_nil] at rest
  | @piece gap piece rest others separates present whole ends _ ih =>
      rw [List.append_assoc, pieces_gap separates]
      cases rest with
      | nil => rw [List.append_nil, pieces_whole present whole, ← ih, pieces_nil]
      | cons char rest =>
          have first := ends char rfl
          rw [pieces_append_cons piece rest first, pieces_whole present whole, ← ih,
            pieces_cons first]
          rfl

theorem Separated.whole (separated : Separated separator text found) :
    ∀ piece ∈ found, ∀ char ∈ piece, separator char = false := by
  induction separated with
  | blank separates => simp
  | piece separates present whole ends others ih =>
      rw [List.forall_mem_cons]
      exact ⟨whole, ih⟩

/-- More separators in front change no piece. -/
theorem Separated.prepend (separated : Separated separator text found)
    (more : ∀ char ∈ gap, separator char = true) : Separated separator (gap ++ text) found := by
  cases separated with
  | blank separates =>
      apply Separated.blank
      rw [List.forall_mem_append]
      exact ⟨more, separates⟩
  | piece separates present whole ends others =>
      rw [← List.append_assoc, ← List.append_assoc]
      apply Separated.piece _ present whole ends others
      rw [List.forall_mem_append]
      exact ⟨more, separates⟩

/-- A text may begin with a piece. -/
theorem Separated.start {rest : List Char} (others : Separated separator rest found)
    (present : piece ≠ []) (whole : ∀ char ∈ piece, separator char = false)
    (ends : ∀ char ∈ rest.head?, separator char = true) :
    Separated separator (piece ++ rest) (piece :: found) :=
  @Separated.piece separator [] piece rest found (by simp) present whole ends others

/-- One character that is no separator continues the first piece or is a piece of its own. -/
theorem Separated.exists_cons {char : Char} (separated : Separated separator text found)
    (inside : separator char = false) : ∃ found, Separated separator (char :: text) found := by
  have alone : ∀ other ∈ [char], separator other = false := by simpa using inside
  cases separated with
  | blank separates =>
      refine ⟨_, (Separated.blank separates).start (List.cons_ne_nil char []) alone ?_⟩
      intro other first
      exact separates other (List.mem_of_mem_head? first)
  | @piece gap piece rest pieces separates present whole ends others =>
      cases gap with
      | nil =>
          refine ⟨_, others.start (List.cons_ne_nil char piece) ?_ ends⟩
          rw [List.forall_mem_cons]
          exact ⟨inside, whole⟩
      | cons first gap =>
          have rest := Separated.piece separates present whole ends others
          refine ⟨_, rest.start (List.cons_ne_nil char []) alone ?_⟩
          simpa using separates first List.mem_cons_self

theorem exists_separated (separator : Char → Bool) (text : List Char) :
    ∃ found, Separated separator text found := by
  induction text with
  | nil => exact ⟨[], .blank (by simp)⟩
  | cons char rest ih =>
      rcases ih with ⟨found, separated⟩
      cases kind : separator char with
      | true =>
          have gap : ∀ other ∈ [char], separator other = true := by simpa using kind
          exact ⟨found, separated.prepend gap⟩
      | false => exact separated.exists_cons kind

/-- Cutting a text gives exactly its pieces. -/
theorem pieces_eq_iff : pieces separator text = found ↔ Separated separator text found := by
  constructor
  · rintro rfl
    rcases exists_separated separator text with ⟨found, separated⟩
    rw [separated.pieces_eq]
    exact separated
  · exact Separated.pieces_eq

end Pieces

end CounterMachine.Text

namespace CounterMachine.Listing

open Text (isBlank isDigit trim)

/-- A line and its content: what stands before the first comment mark, without the white space
around it. -/
inductive Says : List Char → List Char → Prop where
  | intro {left content right comment : List Char}
      (leftBlank : ∀ char ∈ left, isBlank char = true)
      (rightBlank : ∀ char ∈ right, isBlank char = true)
      (tightLeft : ∀ char ∈ content.head?, isBlank char = false)
      (tightRight : ∀ char ∈ content.getLast?, isBlank char = false)
      (unmarked : ∀ char ∈ left ++ content ++ right, isCommentMark char = false)
      (marked : ∀ char ∈ comment.head?, isCommentMark char = true) :
      Says (left ++ content ++ right ++ comment) content

theorem content_eq_iff {line text : List Char} : content line = text ↔ Says line text := by
  constructor
  · rintro rfl
    have split : line = (line.takeWhile fun char => !isCommentMark char) ++
        line.dropWhile fun char => !isCommentMark char :=
      List.takeWhile_append_dropWhile.symm
    have unmarked : ∀ char ∈ line.takeWhile fun char => !isCommentMark char,
        isCommentMark char = false := by
      intro char member
      simpa using List.mem_takeWhile_imp member
    have marked : ∀ char ∈ (line.dropWhile fun char => !isCommentMark char).head?,
        isCommentMark char = true := by
      intro char first
      simpa using Text.head?_dropWhile _ line char first
    rw [content]
    generalize (line.takeWhile fun char => !isCommentMark char) = text,
      (line.dropWhile fun char => !isCommentMark char) = comment at *
    subst split
    rcases Text.exists_trim text with
      ⟨left, right, parts, leftBlank, rightBlank, tightLeft, tightRight⟩
    generalize trim text = core at *
    subst parts
    exact .intro leftBlank rightBlank tightLeft tightRight unmarked marked
  · intro parts
    cases parts with
    | intro leftBlank rightBlank tightLeft tightRight unmarked marked =>
        rw [content, Text.takeWhile_run, Text.trim_eq leftBlank rightBlank tightLeft tightRight]
        · intro char member
          simp [unmarked char member]
        · intro char first
          simp [marked char first]

theorem says_content (line : List Char) : Says line (content line) :=
  content_eq_iff.1 rfl

theorem isCommentMark_of_isBlank {char : Char} (blank : isBlank char = true) :
    isCommentMark char = false := by
  by_contra mark
  simp only [Bool.not_eq_false, isCommentMark, Bool.or_eq_true, beq_iff_eq] at mark
  rcases mark with rfl | rfl
  · exact absurd blank (by decide)
  · exact absurd blank (by decide)

namespace Says

variable {line text padding : List Char}

/-- White space before a line is outside its content. -/
theorem padding_append (spelled : Says line text) (blank : ∀ char ∈ padding, isBlank char = true) :
    Says (padding ++ line) text := by
  cases spelled with
  | @intro left _ right comment leftBlank rightBlank tightLeft tightRight unmarked marked =>
      have allBlank : ∀ char ∈ padding ++ left, isBlank char = true := by
        rw [List.forall_mem_append]
        exact ⟨blank, leftBlank⟩
      have plain : ∀ char ∈ padding ++ left ++ text ++ right, isCommentMark char = false := by
        rw [List.append_assoc, List.append_assoc, ← List.append_assoc left, List.forall_mem_append]
        exact ⟨fun char member => isCommentMark_of_isBlank (blank char member), unmarked⟩
      have longer := Says.intro allBlank rightBlank tightLeft tightRight plain marked
      simpa only [List.append_assoc] using longer

/-- White space after a line is outside its content, or it belongs to a comment. -/
theorem append_padding (spelled : Says line text) (blank : ∀ char ∈ padding, isBlank char = true) :
    Says (line ++ padding) text := by
  cases spelled with
  | @intro left _ right comment leftBlank rightBlank tightLeft tightRight unmarked marked =>
      cases comment with
      | nil =>
          have allBlank : ∀ char ∈ right ++ padding, isBlank char = true := by
            rw [List.forall_mem_append]
            exact ⟨rightBlank, blank⟩
          have plain : ∀ char ∈ left ++ text ++ (right ++ padding), isCommentMark char = false := by
            rw [← List.append_assoc, List.forall_mem_append]
            exact ⟨unmarked, fun char member => isCommentMark_of_isBlank (blank char member)⟩
          have longer := Says.intro leftBlank allBlank tightLeft tightRight plain marked
          simpa only [List.append_assoc, List.append_nil] using longer
      | cons mark comment =>
          have longer := @Says.intro left text right (mark :: (comment ++ padding)) leftBlank
            rightBlank tightLeft tightRight unmarked (by simpa using marked)
          simpa only [List.append_assoc, List.cons_append] using longer

/-- A comment after a line is outside its content. -/
theorem append_comment {remark : List Char} (spelled : Says line text)
    (begins : ∀ char ∈ remark.head?, isCommentMark char = true) : Says (line ++ remark) text := by
  cases spelled with
  | @intro left _ right comment leftBlank rightBlank tightLeft tightRight unmarked marked =>
      rw [List.append_assoc]
      apply Says.intro leftBlank rightBlank tightLeft tightRight unmarked
      cases comment with
      | nil => exact begins
      | cons mark comment => simpa using marked

end Says

/-! ## Headers -/

/-- The ways to write a letter of the header's keyword: small, capital, and the long s for an s. -/
def Writes (letter char : Char) : Prop :=
  char = letter ∨ char = letter.toUpper ∨ letter = 's' ∧ char = 'ſ'

/-- A header and its digits. -/
inductive HeaderForm : List Char → List Char → Prop where
  | intro {word before after digits : List Char}
      (keyword : List.Forall₂ Writes ['t', 'a', 'p', 'e', 's'] word)
      (beforeBlank : ∀ char ∈ before, isBlank char = true)
      (afterBlank : ∀ char ∈ after, isBlank char = true)
      (present : digits ≠ []) (number : ∀ char ∈ digits, isDigit char = true) :
      HeaderForm (word ++ before ++ ':' :: (after ++ digits)) digits

theorem isDigits_eq_true_iff {text : List Char} :
    isDigits text = true ↔ text ≠ [] ∧ ∀ char ∈ text, isDigit char = true := by
  simp [isDigits]

theorem isBlank_of_isDigit {char : Char} (digit : isDigit char = true) : isBlank char = false := by
  rcases Text.isDigit_eq_true_iff.1 digit with ⟨value, found⟩
  exact Text.isBlank_of_digitValue? found

theorem isDigit_of_isBlank {char : Char} (blank : isBlank char = true) : isDigit char = false := by
  cases digit : isDigit char with
  | false => rfl
  | true =>
      rw [isBlank_of_isDigit digit] at blank
      cases blank

theorem dropWord?_eq_some_iff {letters : List (List Char)} {text rest : List Char} :
    dropWord? letters text = some rest ↔
      ∃ word, text = word ++ rest ∧
        List.Forall₂ (fun spellings char => char ∈ spellings) letters word := by
  induction letters generalizing text with
  | nil =>
      simp only [dropWord?, Option.some.injEq, List.forall₂_nil_left_iff, exists_eq_right]
      simp
  | cons spellings letters ih =>
      cases text with
      | nil => simp [dropWord?, List.forall₂_cons_left_iff]
      | cons char text =>
          rw [dropWord?]
          split
          next member =>
            rw [ih]
            constructor
            · rintro ⟨word, rfl, spelled⟩
              exact ⟨char :: word, rfl, .cons (List.contains_iff_mem.1 member) spelled⟩
            · rintro ⟨word, parts, spelled⟩
              cases spelled with
              | cons first others =>
                  cases parts
                  exact ⟨_, rfl, others⟩
          next absent =>
            constructor
            · simp
            · rintro ⟨word, parts, spelled⟩
              cases spelled with
              | cons first others =>
                  cases parts
                  exact absurd (List.contains_iff_mem.2 first) absent

theorem forall₂_writes_iff {word : List Char} :
    List.Forall₂ Writes ['t', 'a', 'p', 'e', 's'] word ↔
      List.Forall₂ (fun spellings char => char ∈ spellings) keywordLetters word := by
  simp [keywordLetters, List.forall₂_cons_left_iff, Writes]

theorem headerForm_of_headerDigits? {content digits : List Char}
    (found : headerDigits? content = some digits) : HeaderForm content digits := by
  rw [headerDigits?] at found
  split at found
  next rest parts =>
    rw [Option.map_eq_some_iff] at parts
    rcases parts with ⟨afterWord, dropped, colon⟩
    rcases dropWord?_eq_some_iff.1 dropped with ⟨word, rfl, spelled⟩
    dsimp only at found
    split at found
    next number =>
      cases found
      rw [isDigits_eq_true_iff] at number
      have parts : afterWord = afterWord.takeWhile isBlank ++
          ':' :: (rest.takeWhile isBlank ++ rest.dropWhile isBlank) := by
        rw [List.takeWhile_append_dropWhile, ← colon, List.takeWhile_append_dropWhile]
      rw [parts, ← List.append_assoc]
      exact .intro (forall₂_writes_iff.2 spelled) (Text.all_takeWhile isBlank afterWord)
        (Text.all_takeWhile isBlank rest) number.1 number.2
    next => cases found
  next => cases found

theorem HeaderForm.headerDigits?_eq {content digits : List Char}
    (form : HeaderForm content digits) : headerDigits? content = some digits := by
  cases form with
  | @intro word before after _ keyword beforeBlank afterBlank present number =>
      have dropped : dropWord? keywordLetters (word ++ before ++ ':' :: (after ++ digits)) =
          some (before ++ ':' :: (after ++ digits)) :=
        dropWord?_eq_some_iff.2 ⟨word, List.append_assoc _ _ _, forall₂_writes_iff.1 keyword⟩
      have colon : (before ++ ':' :: (after ++ digits)).dropWhile isBlank =
          ':' :: (after ++ digits) := by
        apply Text.dropWhile_run beforeBlank
        simp only [List.head?_cons, Option.mem_def, Option.some.injEq, forall_eq']
        decide
      have rest : (after ++ digits).dropWhile isBlank = digits := by
        apply Text.dropWhile_run afterBlank
        intro char first
        exact isBlank_of_isDigit (number char (List.mem_of_mem_head? first))
      simp only [headerDigits?, dropped, Option.map_some, colon, rest,
        isDigits_eq_true_iff.2 ⟨present, number⟩, ↓reduceIte]

theorem headerDigits?_eq_some_iff {content digits : List Char} :
    headerDigits? content = some digits ↔ HeaderForm content digits :=
  ⟨headerForm_of_headerDigits?, HeaderForm.headerDigits?_eq⟩

/-! ## Rules -/

/-- A rule and its parts. -/
inductive RuleForm : List Char → RuleText → Prop where
  | intro {source before body after target : List Char}
      (sourcePresent : source ≠ []) (sourceNumber : ∀ char ∈ source, isDigit char = true)
      (beforeBlank : ∀ char ∈ before, isBlank char = true) (enclosed : ']' ∉ body)
      (afterBlank : ∀ char ∈ after, isBlank char = true)
      (targetPresent : target ≠ []) (targetNumber : ∀ char ∈ target, isDigit char = true) :
      RuleForm (source ++ before ++ '[' :: (body ++ ']' :: (after ++ target)))
        { source, body, target }

theorem ruleForm_of_ruleText? {content : List Char} {text : RuleText}
    (found : ruleText? content = some text) : RuleForm content text := by
  rw [ruleText?] at found
  dsimp only at found
  split at found
  next => cases found
  next sourcePresent =>
    split at found
    next inside opening =>
      split at found
      next rest closing =>
        split at found
        next number =>
          cases found
          rw [isDigits_eq_true_iff] at number
          have enclosed : ']' ∉ inside.takeWhile fun char => char != ']' := by
            intro member
            simpa using List.mem_takeWhile_imp member
          have parts : content = content.takeWhile isDigit ++
              (content.dropWhile isDigit).takeWhile isBlank ++
              '[' :: ((inside.takeWhile fun char => char != ']') ++
                ']' :: (rest.takeWhile isBlank ++ rest.dropWhile isBlank)) := by
            rw [List.takeWhile_append_dropWhile, ← closing, List.takeWhile_append_dropWhile,
              ← opening, List.append_assoc, List.takeWhile_append_dropWhile,
              List.takeWhile_append_dropWhile]
          have form := RuleForm.intro (by simpa using sourcePresent)
            (Text.all_takeWhile isDigit content)
            (Text.all_takeWhile isBlank (content.dropWhile isDigit)) enclosed
            (Text.all_takeWhile isBlank rest) number.1 number.2
          rwa [← parts] at form
        next => cases found
      next => cases found
    next => cases found

theorem RuleForm.ruleText?_eq {content : List Char} {text : RuleText}
    (form : RuleForm content text) : ruleText? content = some text := by
  cases form with
  | @intro source before body after target sourcePresent sourceNumber beforeBlank enclosed
      afterBlank targetPresent targetNumber =>
      -- every run stops where it should, for the next part begins with a character of another kind
      have sourceEnds : ∀ char ∈ (before ++ '[' :: (body ++ ']' :: (after ++ target))).head?,
          isDigit char = false := by
        intro char first
        cases before with
        | nil =>
            cases first
            decide
        | cons blank before =>
            cases first
            exact isDigit_of_isBlank (beforeBlank char List.mem_cons_self)
      have opening : (before ++ '[' :: (body ++ ']' :: (after ++ target))).dropWhile isBlank =
          '[' :: (body ++ ']' :: (after ++ target)) := by
        apply Text.dropWhile_run beforeBlank
        simp only [List.head?_cons, Option.mem_def, Option.some.injEq, forall_eq']
        decide
      have inside : ∀ char ∈ body, (char != ']') = true := by
        intro char member
        rw [bne_iff_ne]
        rintro rfl
        exact enclosed member
      have bodyEnds : ∀ char ∈ (']' :: (after ++ target)).head?, (char != ']') = false := by
        simp
      have targetStarts : (after ++ target).dropWhile isBlank = target := by
        apply Text.dropWhile_run afterBlank
        intro char first
        exact isBlank_of_isDigit (targetNumber char (List.mem_of_mem_head? first))
      simp only [ruleText?, List.append_assoc, Text.takeWhile_run sourceNumber sourceEnds,
        Text.dropWhile_run sourceNumber sourceEnds, opening, Text.takeWhile_run inside bodyEnds,
        Text.dropWhile_run inside bodyEnds, targetStarts,
        List.isEmpty_eq_false_iff.2 sourcePresent,
        isDigits_eq_true_iff.2 ⟨targetPresent, targetNumber⟩, ↓reduceIte, Bool.false_eq_true]

theorem ruleText?_eq_some_iff {content : List Char} {text : RuleText} :
    ruleText? content = some text ↔ RuleForm content text :=
  ⟨ruleForm_of_ruleText?, RuleForm.ruleText?_eq⟩

theorem HeaderForm.isDigits {content digits : List Char} (form : HeaderForm content digits) :
    digits ≠ [] ∧ ∀ char ∈ digits, isDigit char = true := by
  cases form with
  | intro keyword beforeBlank afterBlank present number => exact ⟨present, number⟩

theorem HeaderForm.exists_head {content digits : List Char} (form : HeaderForm content digits) :
    ∃ char rest, content = char :: rest ∧ isDigit char = false := by
  cases form with
  | intro keyword beforeBlank afterBlank present number =>
      cases keyword with
      | @cons _ char _ word first others =>
          refine ⟨char, _, rfl, ?_⟩
          rcases first with rfl | rfl | ⟨other, -⟩
          · decide
          · decide
          · simp at other

theorem RuleForm.exists_head {content : List Char} {text : RuleText}
    (form : RuleForm content text) : ∃ char rest, content = char :: rest ∧ isDigit char = true := by
  cases form with
  | @intro source before body after target sourcePresent sourceNumber beforeBlank enclosed
      afterBlank targetPresent targetNumber =>
      cases source with
      | nil => exact absurd rfl sourcePresent
      | cons char source => exact ⟨char, _, rfl, sourceNumber char List.mem_cons_self⟩

/-- No content is a header and a rule, for a rule begins with a digit. -/
theorem HeaderForm.not_ruleForm {content digits : List Char} {text : RuleText}
    (header : HeaderForm content digits) : ¬ RuleForm content text := by
  intro rule
  rcases header.exists_head with ⟨char, rest, rfl, notDigit⟩
  rcases rule.exists_head with ⟨other, others, same, digit⟩
  rw [← (List.cons.inj same).1, notDigit] at digit
  cases digit

namespace Line

variable {line digits : List Char} {text : RuleText}

theorem ofText_eq_blank_iff : ofText line = .blank ↔ content line = [] := by
  rw [ofText]
  split
  next empty => simpa using empty
  next present =>
    constructor
    · intro same
      split at same
      next => cases same
      next =>
        split at same
        next => cases same
        next => cases same
    · intro empty
      simp [empty] at present

theorem ofText_eq_header_iff : ofText line = .header digits ↔ HeaderForm (content line) digits := by
  rw [← headerDigits?_eq_some_iff, ofText]
  split
  next empty =>
    rw [List.isEmpty_iff.1 empty]
    simp [headerDigits?, dropWord?, keywordLetters]
  next present =>
    cases headerDigits? (content line) with
    | some found => simp
    | none =>
        cases ruleText? (content line) with
        | some found => simp
        | none => simp

theorem ofText_eq_rule_iff : ofText line = .rule text ↔ RuleForm (content line) text := by
  rw [← ruleText?_eq_some_iff, ofText]
  split
  next empty =>
    rw [List.isEmpty_iff.1 empty]
    simp [ruleText?]
  next present =>
    cases header : headerDigits? (content line) with
    | some found =>
        have noRule : ruleText? (content line) ≠ some text := by
          intro rule
          exact (headerDigits?_eq_some_iff.1 header).not_ruleForm (ruleText?_eq_some_iff.1 rule)
        simp [noRule]
    | none =>
        cases ruleText? (content line) with
        | some found => simp
        | none => simp

theorem ofText_eq_other_iff {found : List Char} :
    ofText line = .other found ↔
      content line = found ∧ found ≠ [] ∧ (∀ digits, ¬ HeaderForm found digits) ∧
        ∀ text, ¬ RuleForm found text := by
  constructor
  · intro other
    have same : content line = found := by
      rw [ofText] at other
      split at other
      next => cases other
      next =>
        split at other
        next => cases other
        next =>
          split at other
          next => cases other
          next => exact Line.other.inj other
    subst same
    refine ⟨rfl, ?_, ?_, ?_⟩
    · intro empty
      rw [ofText_eq_blank_iff.2 empty] at other
      cases other
    · intro digits form
      rw [ofText_eq_header_iff.2 form] at other
      cases other
    · intro text form
      rw [ofText_eq_rule_iff.2 form] at other
      cases other
  · rintro ⟨rfl, present, noHeader, noRule⟩
    have noDigits : headerDigits? (content line) = none := by
      rw [Option.eq_none_iff_forall_ne_some]
      exact fun digits found => noHeader digits (headerDigits?_eq_some_iff.1 found)
    have noText : ruleText? (content line) = none := by
      rw [Option.eq_none_iff_forall_ne_some]
      exact fun text found => noRule text (ruleText?_eq_some_iff.1 found)
    simp [ofText, present, noDigits, noText]

end Line

end CounterMachine.Listing
