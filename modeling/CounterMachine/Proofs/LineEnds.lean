import CounterMachine.Listing.File
import CounterMachine.Proofs.Grammar

/-!
# Line ends

A line may end in a line feed alone or in a carriage return and a line feed. Reading a file turns
the pair into a line feed before the text is cut into lines; a text that does not come from a file
keeps the carriage return, at the end of its line and thus outside its content. Both readings come
to the same, since of every line its content alone matters.
-/

namespace CounterMachine.Text

variable {text : List Char}

/-- Every carriage return has a line feed right after it. -/
def ReturnsPaired (text : List Char) : Prop :=
  ∀ before after, text = before ++ '\r' :: after → after.head? = some '\n'

/-- The text with a carriage return before every line feed. -/
def dosLineEnds : List Char → List Char
  | [] => []
  | '\n' :: rest => '\r' :: '\n' :: dosLineEnds rest
  | char :: rest => char :: dosLineEnds rest

@[simp] theorem returnsPaired_nil : ReturnsPaired [] := by
  intro before after parts
  simp at parts

@[simp] theorem returnsPaired_cons {char : Char} :
    ReturnsPaired (char :: text) ↔ (char = '\r' → text.head? = some '\n') ∧ ReturnsPaired text := by
  constructor
  · intro paired
    constructor
    · rintro rfl
      exact paired [] text rfl
    · intro before after parts
      exact paired (char :: before) after (by rw [parts]; rfl)
  · rintro ⟨first, others⟩ before after parts
    cases before with
    | nil =>
        cases parts
        exact first rfl
    | cons head before =>
        cases parts
        exact others before after rfl

theorem returnsPaired_dosLineEnds (unix : '\r' ∉ text) : ReturnsPaired (dosLineEnds text) := by
  fun_induction dosLineEnds text with
  | case1 => exact returnsPaired_nil
  | case2 rest ih =>
      rw [List.mem_cons, not_or] at unix
      simpa using ih unix.2
  | case3 char rest other ih =>
      rw [List.mem_cons, not_or] at unix
      rw [returnsPaired_cons]
      exact ⟨fun same => absurd same.symm unix.1, ih unix.2⟩

/-- Uniform line ends undo the carriage returns. -/
theorem normalizeLineEnds_dosLineEnds (unix : '\r' ∉ text) :
    normalizeLineEnds (dosLineEnds text) = text := by
  fun_induction dosLineEnds text with
  | case1 => rfl
  | case2 rest ih =>
      rw [List.mem_cons, not_or] at unix
      rw [normalizeLineEnds, ih unix.2]
  | case3 char rest other ih =>
      rw [List.mem_cons, not_or] at unix
      have plain : char ≠ '\r' := fun same => unix.1 same.symm
      rw [normalizeLineEnds, ih unix.2]
      · exact fun _ same => absurd same plain
      · exact plain

end CounterMachine.Text

namespace CounterMachine.Listing

open Text (ReturnsPaired normalizeLineEnds dosLineEnds)

variable {left right : List (List Char)}

theorem Line.ofText_congr {line other : List Char} (same : content line = content other) :
    ofText line = ofText other := by
  simp only [ofText, same]

/-- Lines of equal contents are read alike, errors included. -/
theorem readRules_congr {number : Nat} (same : List.Forall₂ (content · = content ·) left right) :
    readRules number left = readRules number right := by
  induction same generalizing number with
  | nil => rfl
  | cons first others ih => simp only [readRules, Line.ofText_congr first, ih]

theorem readLines_congr {number : Nat} (same : List.Forall₂ (content · = content ·) left right) :
    readLines number left = readLines number right := by
  induction same generalizing number with
  | nil => rfl
  | cons first others ih =>
      simp only [readLines, Line.ofText_congr first, readRules_congr others, ih]

/-- Two lines that differ at most in a carriage return at the end of the first. -/
inductive EndsAlike : List Char → List Char → Prop where
  | same (line : List Char) : EndsAlike line line
  | returned (line : List Char) : EndsAlike (line ++ ['\r']) line

theorem EndsAlike.cons {line other : List Char} (char : Char) (alike : EndsAlike line other) :
    EndsAlike (char :: line) (char :: other) := by
  cases alike with
  | same => exact .same (char :: line)
  | returned => exact .returned (char :: other)

/-- A carriage return at the end of a line is white space, or it belongs to a comment. -/
theorem content_append_return (line : List Char) : content (line ++ ['\r']) = content line := by
  rw [content_eq_iff]
  apply (says_content line).append_padding
  rw [List.forall_mem_singleton]
  decide

theorem EndsAlike.content_eq {line other : List Char} (alike : EndsAlike line other) :
    content line = content other := by
  cases alike with
  | same => rfl
  | returned => exact content_append_return other

theorem lines_feed (rest : List Char) : lines ('\n' :: rest) = [] :: lines rest := by
  simp [lines, List.splitOn, List.splitOnP_cons_eq_if_modifyHead]

theorem lines_cons {char : Char} (inside : char ≠ '\n') (rest : List Char) :
    lines (char :: rest) = (lines rest).modifyHead (char :: ·) := by
  simp [lines, List.splitOn, List.splitOnP_cons_eq_if_modifyHead, inside]

theorem forall₂_endsAlike_modifyHead (char : Char) (alike : List.Forall₂ EndsAlike left right) :
    List.Forall₂ EndsAlike (left.modifyHead (char :: ·)) (right.modifyHead (char :: ·)) := by
  cases alike with
  | nil => exact .nil
  | cons first others => exact .cons (first.cons char) others

/-- Uniform line ends take at most a carriage return from the end of each line. -/
theorem endsAlike_lines {text : List Char} (paired : ReturnsPaired text) :
    List.Forall₂ EndsAlike (lines text) (lines (normalizeLineEnds text)) := by
  fun_induction normalizeLineEnds text with
  | case1 => exact .cons (.same []) .nil
  | case2 rest ih =>
      simp only [Text.returnsPaired_cons] at paired
      rw [lines_cons (by decide), lines_feed, lines_feed]
      exact .cons (.returned []) (ih paired.2.2)
  | case3 rest unpaired ih =>
      have feed := (Text.returnsPaired_cons.1 paired).1 rfl
      cases rest with
      | nil => cases feed
      | cons char rest =>
          cases feed
          exact absurd rfl (unpaired rest)
  | case4 char rest unpaired other ih =>
      have later := ih (Text.returnsPaired_cons.1 paired).2
      by_cases feed : char = '\n'
      · rw [feed, lines_feed, lines_feed]
        exact .cons (.same []) later
      · rw [lines_cons feed, lines_cons feed]
        exact forall₂_endsAlike_modifyHead char later

/-- Uniform line ends change nothing in what is read from a text with paired carriage returns. -/
theorem parse_normalizeLineEnds {text : List Char} (paired : ReturnsPaired text) :
    parse (normalizeLineEnds text) = parse text := by
  have same : readLines 1 (lines text) = readLines 1 (lines (normalizeLineEnds text)) :=
    readLines_congr ((endsAlike_lines paired).imp fun _ _ alike => alike.content_eq)
  rw [parse, parse, same]

theorem readStored_toUTF8 (text : String) :
    readStored (.contents text.toUTF8) =
      (parse (normalizeLineEnds text.toList)).mapError .unparsable := by
  simp only [readStored, readBytes, Text.Utf8.decode_toUTF8]

/-- Reading a file and reading the text that it holds have the same outcome, be it a program or an
error, if the lines of the text end in the Unix or the DOS way. So a text without carriage returns
may be given DOS line ends without any effect on what is read. -/
theorem readStored_eq_parseText :
    (∀ text : String, ReturnsPaired text.toList →
      readStored (.contents text.toUTF8) = (parseText text).mapError .unparsable) ∧
    ∀ text : String, '\r' ∉ text.toList →
      parseText (String.ofList (dosLineEnds text.toList)) = parseText text := by
  constructor
  · intro text paired
    rw [readStored_toUTF8, parse_normalizeLineEnds paired, parseText]
  · intro text unix
    rw [parseText, String.toList_ofList,
      ← parse_normalizeLineEnds (Text.returnsPaired_dosLineEnds unix),
      Text.normalizeLineEnds_dosLineEnds unix, parseText]

/-- DOS line ends after a comment, before a misspelt rule and at the end of the text. -/
theorem readStored_misspelt_rule :
    ReturnsPaired "tapes: 1 ; x\r\n0 [1[ 0\r\n".toList ∧
    readStored (.contents "tapes: 1 ; x\r\n0 [1[ 0\r\n".toUTF8) =
      .error (.unparsable (.line 2 (.unknownFormat "0 [1[ 0".toList))) ∧
    '\r' ∉ "tapes: 1\n".toList ∧
    parseText (String.ofList (dosLineEnds "tapes: 1\n".toList)) = parseText "tapes: 1\n" := by
  have paired : ReturnsPaired "tapes: 1 ; x\r\n0 [1[ 0\r\n".toList := by simp
  have unix : '\r' ∉ "tapes: 1\n".toList := by simp
  refine ⟨paired, ?_, unix, readStored_eq_parseText.2 _ unix⟩
  rw [readStored_eq_parseText.1 _ paired]
  decide +kernel

end CounterMachine.Listing
