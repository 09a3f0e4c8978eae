import CounterMachine.Proofs.FirstFault

/-!
# Remarks

What does not count in a listing: comments, white space around a line, and lines that hold nothing
else. Around a line they change nothing at all, be the outcome a program or an error. A line of
remarks between the others moves the later lines down by one, so an error that names one of them
names the next number; every other outcome stays.
-/

namespace CounterMachine.Listing

open Text (isBlank)
open Text.Numeral (text)

/-- A line, and the same line with a comment after it or with white space on one side. -/
inductive Annotated : List Char → List Char → Prop where
  | comment (line : List Char) {remark : List Char} {mark : Char}
      (marks : isCommentMark mark = true) (oneLine : '\n' ∉ remark) :
      Annotated line (line ++ mark :: remark)
  | indented (line : List Char) {padding : List Char}
      (blank : ∀ char ∈ padding, isBlank char = true) (oneLine : '\n' ∉ padding) :
      Annotated line (padding ++ line)
  | trailed (line : List Char) {padding : List Char}
      (blank : ∀ char ∈ padding, isBlank char = true) (oneLine : '\n' ∉ padding) :
      Annotated line (line ++ padding)

namespace Annotated

variable {line other : List Char}

theorem content_eq (annotated : Annotated line other) : content other = content line := by
  rw [content_eq_iff]
  cases annotated with
  | comment marks =>
      apply (says_content line).append_comment
      simpa using marks
  | indented blank => exact (says_content line).padding_append blank
  | trailed blank => exact (says_content line).append_padding blank

theorem newline_not_mem (annotated : Annotated line other) (whole : '\n' ∉ line) :
    '\n' ∉ other := by
  cases annotated with
  | comment marks oneLine =>
      rw [List.mem_append, List.mem_cons]
      rintro (inLine | rfl | inRemark)
      · exact whole inLine
      · exact absurd marks (by decide)
      · exact oneLine inRemark
  | indented _ oneLine | trailed _ oneLine =>
      rw [List.mem_append]
      rintro (left | right)
      · contradiction
      · contradiction

end Annotated

/-- The number of a line after another has been inserted below the first `count`. -/
def renumber (count number : Nat) : Nat :=
  if count < number then number + 1 else number

/-- The error with its line, if it names one, counted after such an insertion. -/
def ParseError.renumber (count : Nat) : ParseError → ParseError
  | .line number fault => .line (Listing.renumber count number) fault
  | .missingHeader => .missingHeader
  | .unreadable error => .unreadable error
  | .malformed refusal => .malformed refusal

section Insertion

variable {count number : Nat} {gap : List Char} {before after : List (List Char)}

theorem renumber_of_lt (below : count < number) : renumber count number = number + 1 :=
  if_pos below

theorem renumber_of_le (above : number ≤ count) : renumber count number = number :=
  if_neg (Nat.not_lt.2 above)

theorem readNumber_renumber (count : Nat) (digits : List Char) :
    (readNumber digits).mapError (.renumber count) = readNumber digits := by
  rw [readNumber]
  cases Text.Numeral.read digits with
  | error error => rfl
  | ok value => rfl

theorem readAdjustments_renumber (count number : Nat) (body : List Char) :
    (readAdjustments number body).mapError (.renumber count) =
      readAdjustments (renumber count number) body := by
  rw [readAdjustments, readAdjustments]
  cases Text.Numeral.readList body with
  | error error => rfl
  | ok amounts => rfl

/-- Of what a rule says only its faults depend on the line that it stands on. -/
theorem readRule_renumber (count number : Nat) (text : RuleText) :
    (readRule number text).mapError (.renumber count) =
      readRule (renumber count number) text := by
  simp only [readRule, mapError_bind, readNumber_renumber, readAdjustments_renumber]
  rfl

/-- Lines below the insertion move down by one. -/
theorem readRules_succ (below : count < number) (lines : List (List Char)) :
    readRules (number + 1) lines = (readRules number lines).mapError (.renumber count) := by
  induction lines generalizing number with
  | nil => rfl
  | cons line rest ih =>
      rw [readRules, readRules]
      cases Line.ofText line with
      | blank => exact ih (Nat.lt_succ_of_lt below)
      | header digits | other content =>
          simp only [Except.mapError, ParseError.renumber, renumber_of_lt below]
      | rule text =>
          simp only [mapError_bind, readRule_renumber, renumber_of_lt below,
            ih (Nat.lt_succ_of_lt below)]
          rfl

theorem readLines_succ (below : count < number) (lines : List (List Char)) :
    readLines (number + 1) lines = (readLines number lines).mapError (.renumber count) := by
  induction lines generalizing number with
  | nil => rfl
  | cons line rest ih =>
      rw [readLines, readLines]
      cases Line.ofText line with
      | blank => exact ih (Nat.lt_succ_of_lt below)
      | header digits =>
          simp only [mapError_bind, readNumber_renumber,
            readRules_succ (Nat.lt_succ_of_lt below)]
          rfl
      | rule text | other content =>
          simp only [Except.mapError, ParseError.renumber, renumber_of_lt below]

/-- Lines above the insertion keep their numbers. -/
theorem readRules_insert (silent : Line.ofText gap = .blank)
    (place : number + before.length = count + 1) :
    readRules number (before ++ gap :: after) =
      (readRules number (before ++ after)).mapError (.renumber count) := by
  induction before generalizing number with
  | nil =>
      rw [List.nil_append, List.nil_append, readRules, silent]
      rw [List.length_nil] at place
      exact readRules_succ (by omega) after
  | cons line before ih =>
      rw [List.length_cons] at place
      have above : number ≤ count := by omega
      have next : number + 1 + before.length = count + 1 := by omega
      rw [List.cons_append, List.cons_append, readRules, readRules]
      cases Line.ofText line with
      | blank => exact ih next
      | header digits | other content =>
          simp only [Except.mapError, ParseError.renumber, renumber_of_le above]
      | rule text =>
          simp only [mapError_bind, readRule_renumber, renumber_of_le above, ih next]
          rfl

theorem readLines_insert (silent : Line.ofText gap = .blank)
    (place : number + before.length = count + 1) :
    readLines number (before ++ gap :: after) =
      (readLines number (before ++ after)).mapError (.renumber count) := by
  induction before generalizing number with
  | nil =>
      rw [List.nil_append, List.nil_append, readLines, silent]
      rw [List.length_nil] at place
      exact readLines_succ (by omega) after
  | cons line before ih =>
      rw [List.length_cons] at place
      have above : number ≤ count := by omega
      have next : number + 1 + before.length = count + 1 := by omega
      rw [List.cons_append, List.cons_append, readLines, readLines]
      cases Line.ofText line with
      | blank => exact ih next
      | header digits =>
          simp only [mapError_bind, readNumber_renumber, readRules_insert silent next]
          rfl
      | rule text | other content =>
          simp only [Except.mapError, ParseError.renumber, renumber_of_le above]

end Insertion

/-- The text that consists of lines. -/
def ofLines (lines : List (List Char)) : String :=
  String.ofList (List.intercalate ['\n'] lines)

section Texts

variable {source : String} {before after : List (List Char)} {line other gap : List Char}

/-- A line put between others stays one. -/
theorem lines_ofLines (above : ∀ text ∈ before, '\n' ∉ text) (oneLine : '\n' ∉ line)
    (below : ∀ text ∈ after, '\n' ∉ text) :
    lines (ofLines (before ++ line :: after)).toList = before ++ line :: after := by
  rw [ofLines, String.toList_ofList]
  apply List.splitOn_intercalate
  · rw [List.forall_mem_append, List.forall_mem_cons]
    exact ⟨above, oneLine, below⟩
  · exact List.append_ne_nil_of_right_ne_nil before (List.cons_ne_nil line after)

/-- A text is read by its lines, and its rules are checked where no line has numbers. -/
theorem parse_renumber {left right : List Char} {count : Nat}
    (read : readLines 1 (lines left) =
      (readLines 1 (lines right)).mapError (.renumber count)) :
    parse left = (parse right).mapError (.renumber count) := by
  rw [parse, parse, read]
  cases readLines 1 (lines right) with
  | error error => rfl
  | ok program =>
      cases accepted : program.toDraft.accept with
      | error refusal => simp only [accepted, Except.mapError, ParseError.renumber]
      | ok checked => simp only [accepted, Except.mapError]

/-- Remarks around a line keep its content, and the content is all that is read. -/
theorem parseText_annotate (parts : lines source.toList = before ++ line :: after)
    (annotated : Annotated line other) :
    parseText (ofLines (before ++ other :: after)) = parseText source := by
  have whole := newline_not_mem_lines source.toList
  rw [parts, List.forall_mem_append, List.forall_mem_cons] at whole
  have changed := lines_ofLines whole.1 (annotated.newline_not_mem whole.2.1) whole.2.2
  have alike : List.Forall₂ (content · = content ·) (before ++ other :: after)
      (before ++ line :: after) := by
    apply List.rel_append
    · exact List.forall₂_same.2 fun _ _ => rfl
    · exact .cons annotated.content_eq (List.forall₂_same.2 fun _ _ => rfl)
  rw [parseText, parseText, parse, parse, changed, parts, readLines_congr alike]

theorem parseText_insert (parts : lines source.toList = before ++ after)
    (oneLine : '\n' ∉ gap) (silent : Says gap []) :
    parseText (ofLines (before ++ gap :: after)) =
      (parseText source).mapError (.renumber before.length) := by
  have whole := newline_not_mem_lines source.toList
  rw [parts, List.forall_mem_append] at whole
  have changed := lines_ofLines whole.1 oneLine whole.2
  apply parse_renumber
  rw [changed, parts]
  apply readLines_insert
  · rw [Line.ofText_eq_blank_iff, content_eq_iff]
    exact silent
  · exact Nat.add_comm 1 before.length

end Texts

/-- A comment or white space added to any line of a text changes nothing in what is read from it,
be it a program or an error. A line of white space and perhaps a comment that is inserted anywhere
changes nothing either, except that an error which names a later line names the next one, and its
message with it. -/
theorem parseText_ignores_remarks (source : String) :
    (∀ before line after, lines source.toList = before ++ line :: after →
      ∀ other, Annotated line other →
        parseText (ofLines (before ++ other :: after)) = parseText source) ∧
    (∀ before after, lines source.toList = before ++ after →
      ∀ gap, '\n' ∉ gap → Says gap [] →
        parseText (ofLines (before ++ gap :: after)) =
          (parseText source).mapError (.renumber before.length)) ∧
    ∀ count number fault, ((ParseError.line number fault).renumber count).message =
      "Line " ++ text (if count < number then number + 1 else number : Nat) ++ ": " ++
        fault.message := by
  refine ⟨?_, ?_, fun count number fault => rfl⟩
  · intro before line after parts other annotated
    exact parseText_annotate parts annotated
  · intro before after parts gap oneLine silent
    exact parseText_insert parts oneLine silent

/-- A comment after the header, a tab before a misspelt rule, and a line of remarks between them. -/
theorem parseText_ignores_remarks_misspelt :
    parseText "tapes: 1\n0 [x] 0" = .error (.line 2 (.invalidAdjustment ['x'])) ∧
    parseText "tapes: 1;#\n0 [x] 0" = .error (.line 2 (.invalidAdjustment ['x'])) ∧
    parseText "tapes: 1\n\t0 [x] 0" = .error (.line 2 (.invalidAdjustment ['x'])) ∧
    parseText "tapes: 1\n ;[\n0 [x] 0" = .error (.line 3 (.invalidAdjustment ['x'])) := by
  have failed : parseText "tapes: 1\n0 [x] 0" = .error (.line 2 (.invalidAdjustment ['x'])) := by
    decide +kernel
  have facts := parseText_ignores_remarks "tapes: 1\n0 [x] 0"
  rw [failed] at facts
  have commented := facts.1 [] "tapes: 1".toList ["0 [x] 0".toList] (by decide +kernel) _
    (@Annotated.comment _ ['#'] ';' (by decide) (by decide))
  have indented := facts.1 ["tapes: 1".toList] "0 [x] 0".toList [] (by decide +kernel) _
    (@Annotated.indented _ ['\t'] (List.forall_mem_singleton.2 rfl) (by decide))
  have inserted := facts.2.1 ["tapes: 1".toList] ["0 [x] 0".toList] (by decide +kernel)
    " ;[".toList (by decide) (content_eq_iff.1 (by decide +kernel))
  refine ⟨failed, ?_, ?_, ?_⟩
  · rw [← commented]
    congr 1
  · rw [← indented]
    congr 1
  · refine Eq.trans ?_ inserted
    congr 1

end CounterMachine.Listing
