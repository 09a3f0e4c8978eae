import CounterMachine.Proofs.LineEnds
import CounterMachine.Proofs.Parsing

/-!
# The first line at fault

A line of a listing is at fault, read after the lines before it, if it is a second header, if it
says something other than a header where no header came before, if it is neither a header nor a
rule, or if it is a rule with a piece between its brackets that is no amount.

An error that names a line names the first one at fault. Reading goes on through the lines before
it and stops there, so no later line matters. That the rules do not fit the header is reported only
if no line at all is at fault.
-/

namespace CounterMachine

namespace Listing

open Text (Separated isListSeparator)
open Text.Numeral (Amount Count)

theorem exists_forall₂_iff {α β : Type} {relation : α → β → Prop} {inputs : List α} :
    (∃ results, List.Forall₂ relation inputs results) ↔
      ∀ input ∈ inputs, ∃ result, relation input result := by
  induction inputs with
  | nil => simp
  | cons input inputs ih =>
      rw [List.forall_mem_cons, ← ih]
      constructor
      · rintro ⟨results, related⟩
        cases related with
        | cons first others => exact ⟨⟨_, first⟩, _, others⟩
      · rintro ⟨⟨result, first⟩, results, others⟩
        exact ⟨result :: results, .cons first others⟩

/-- One of the lines is a header. -/
def Declared (lines : List (List Char)) : Prop :=
  ∃ line ∈ lines, ∃ text digits, Says line text ∧ HeaderForm text digits

/-- What is at fault with a line that is read after others. -/
inductive Faulty (before : List (List Char)) (line : List Char) : LineFault → Prop where
  | duplicateHeader {text digits : List Char} (declared : Declared before)
      (spelled : Says line text) (header : HeaderForm text digits) :
      Faulty before line .duplicateHeader
  | headerExpected {text : List Char} (undeclared : ¬ Declared before) (spelled : Says line text)
      (present : text ≠ []) (noHeader : ∀ digits, ¬ HeaderForm text digits) :
      Faulty before line .headerExpected
  | unknownFormat {text : List Char} (declared : Declared before) (spelled : Says line text)
      (present : text ≠ []) (noHeader : ∀ digits, ¬ HeaderForm text digits)
      (noRule : ∀ parts, ¬ RuleForm text parts) : Faulty before line (.unknownFormat text)
  | invalidAdjustment {text piece : List Char} {parts : RuleText} {pieces : List (List Char)}
      (declared : Declared before) (spelled : Says line text) (rule : RuleForm text parts)
      (cut : Separated isListSeparator parts.body pieces) (member : piece ∈ pieces)
      (invalid : ∀ amount, ¬ Amount piece amount) :
      Faulty before line (.invalidAdjustment parts.body)

/-- The line with a number, counted from one, is at fault after the lines before it. -/
inductive FaultAt (lines : List (List Char)) : Nat → LineFault → Prop where
  | intro {before after : List (List Char)} {line : List Char} {fault : LineFault}
      (parts : lines = before ++ line :: after) (faulty : Faulty before line fault) :
      FaultAt lines (before.length + 1) fault

/-- An error that one more line gives: it names the line for its fault, or it is that a number is
too long to read. -/
inductive Blames (before : List (List Char)) (line : List Char) (number : Nat) : ParseError → Prop
    where
  | fault {fault : LineFault} (faulty : Faulty before line fault) :
      Blames before line number (.line number fault)
  | unreadable (cause : Text.Numeral.Error) : Blames before line number (.unreadable cause)

section Lines

variable {before after lines : List (List Char)} {line : List Char} {fault : LineFault}
  {number : Nat} {error : ParseError}

theorem statements_append (before after : List (List Char)) :
    statements (before ++ after) = statements before ++ statements after := by
  rw [statements, List.map_append, List.filter_append]
  rfl

theorem statements_eq_nil_iff : statements lines = [] ↔ ∀ line ∈ lines, Says line [] := by
  rw [statements, List.filter_eq_nil_iff, List.forall_mem_map]
  simp [content_eq_iff]

theorem statements_singleton (present : content line ≠ []) :
    statements [line] = [content line] := by
  simp [statements, present]

theorem declared_iff :
    Declared lines ↔ ∃ text ∈ statements lines, ∃ digits, HeaderForm text digits := by
  constructor
  · rintro ⟨line, member, text, digits, spelled, header⟩
    rw [← content_eq_iff] at spelled
    subst spelled
    have present : content line ≠ [] := by
      rcases header.exists_head with ⟨char, rest, same, -⟩
      simp [same]
    refine ⟨content line, ?_, digits, header⟩
    exact List.mem_filter.2 ⟨List.mem_map_of_mem member, by simpa using present⟩
  · rintro ⟨text, member, digits, header⟩
    rcases List.mem_map.1 (List.mem_filter.1 member).1 with ⟨line, inside, rfl⟩
    exact ⟨line, inside, content line, digits, says_content line, header⟩

theorem declared_of_statements {header digits : List Char} {rest : List (List Char)}
    (order : statements lines = header :: rest) (form : HeaderForm header digits) :
    Declared lines := by
  rw [declared_iff, order]
  exact ⟨header, List.mem_cons_self, digits, form⟩

theorem not_declared_of_silent (silent : statements lines = []) : ¬ Declared lines := by
  rw [declared_iff, silent]
  simp

theorem Faulty.content_ne_nil (faulty : Faulty before line fault) : content line ≠ [] := by
  cases faulty with
  | duplicateHeader _ spelled header =>
      rcases header.exists_head with ⟨char, rest, rfl, -⟩
      simp [content_eq_iff.2 spelled]
  | headerExpected _ spelled present => rwa [content_eq_iff.2 spelled]
  | unknownFormat _ spelled present => rwa [content_eq_iff.2 spelled]
  | invalidAdjustment _ spelled rule =>
      rcases rule.exists_head with ⟨char, rest, rfl, -⟩
      simp [content_eq_iff.2 spelled]

/-- A line at fault after a header describes no rule. -/
theorem Faulty.not_describes (faulty : Faulty before line fault) (declared : Declared before)
    (rule : Rule) : ¬ Describes (content line) rule := by
  intro describes
  cases describes with
  | intro form source target cut amounts =>
      cases faulty with
      | duplicateHeader _ spelled header =>
          rw [content_eq_iff.2 spelled] at form
          exact header.not_ruleForm form
      | headerExpected undeclared => exact undeclared declared
      | unknownFormat _ spelled _ _ noRule =>
          rw [content_eq_iff.2 spelled] at form
          exact noRule _ form
      | invalidAdjustment _ spelled rule found member invalid =>
          rw [content_eq_iff.2 spelled] at form
          have same := rule.ruleText?_eq.symm.trans form.ruleText?_eq
          cases same
          rw [← found.pieces_eq, cut.pieces_eq] at member
          rcases exists_forall₂_iff.1 ⟨_, amounts⟩ _ member with ⟨amount, valid⟩
          exact invalid amount valid

/-- A line at fault before any header is no header. -/
theorem Faulty.not_headerForm (faulty : Faulty before line fault) (undeclared : ¬ Declared before)
    (digits : List Char) : ¬ HeaderForm (content line) digits := by
  intro header
  cases faulty with
  | duplicateHeader declared => exact undeclared declared
  | headerExpected _ spelled _ noHeader =>
      rw [content_eq_iff.2 spelled] at header
      exact noHeader digits header
  | unknownFormat declared => exact undeclared declared
  | invalidAdjustment declared => exact undeclared declared

theorem readRule_error {text : RuleText} (failed : readRule number text = .error error) :
    (∃ cause, error = .unreadable cause) ∨
      error = .line number (.invalidAdjustment text.body) ∧
        ∀ amounts, readAdjustments number text.body ≠ .ok amounts := by
  simp only [readRule, readNumber, bind_eq_error_iff, mapError_eq_error_iff] at failed
  rcases failed with ⟨cause, -, rfl⟩ | ⟨source, -, ⟨cause, -, rfl⟩ | ⟨target, -, failed⟩⟩
  · exact .inl ⟨cause, rfl⟩
  · exact .inl ⟨cause, rfl⟩
  · rcases failed with failed | ⟨amounts, -, same⟩
    · rcases mapError_eq_error_iff.1 failed with ⟨cause, -, rfl⟩
      refine .inr ⟨rfl, ?_⟩
      intro amounts read
      rw [read] at failed
      cases failed
    · cases same

/-- A body that is not read has a piece that is no amount. -/
theorem exists_invalid_piece {body : List Char}
    (unread : ∀ amounts, readAdjustments number body ≠ .ok amounts) :
    ∃ pieces, Separated isListSeparator body pieces ∧
      ∃ piece ∈ pieces, ∀ amount, ¬ Amount piece amount := by
  rcases Text.exists_separated isListSeparator body with ⟨pieces, cut⟩
  refine ⟨pieces, cut, ?_⟩
  by_contra valid
  push Not at valid
  rcases exists_forall₂_iff.2 valid with ⟨amounts, written⟩
  exact unread amounts (readAdjustments_eq_ok_iff.2 ⟨pieces, cut, written⟩)

/-- One more line after a header. -/
theorem blames_of_readRules (declared : Declared before)
    (failed : readRules number [line] = .error error) : Blames before line number error := by
  rw [readRules] at failed
  cases kind : Line.ofText line with
  | blank =>
      simp only [kind, readRules] at failed
      cases failed
  | header digits =>
      simp only [kind] at failed
      cases failed
      exact .fault (.duplicateHeader declared (says_content line)
        (Line.ofText_eq_header_iff.1 kind))
  | other text =>
      simp only [kind] at failed
      cases failed
      obtain ⟨same, present, noHeader, noRule⟩ := Line.ofText_eq_other_iff.1 kind
      exact .fault (.unknownFormat declared (content_eq_iff.1 same) present noHeader noRule)
  | rule text =>
      simp only [kind, bind_eq_error_iff] at failed
      rcases failed with failed | ⟨rule, -, rest⟩
      · rcases readRule_error failed with ⟨cause, rfl⟩ | ⟨rfl, unread⟩
        · exact .unreadable cause
        · obtain ⟨pieces, cut, piece, member, invalid⟩ := exists_invalid_piece unread
          exact .fault (.invalidAdjustment declared (says_content line)
            (Line.ofText_eq_rule_iff.1 kind) cut member invalid)
      · -- after the rule nothing is left that could fail
        simp only [readRules] at rest
        rcases rest with rest | ⟨rules, -, rest⟩
        · cases rest
        · cases rest

/-- One more line before any header. -/
theorem blames_of_readLines (undeclared : ¬ Declared before)
    (failed : readLines number [line] = .error error) (stops : error ≠ .missingHeader) :
    Blames before line number error := by
  rw [readLines] at failed
  cases kind : Line.ofText line with
  | blank =>
      simp only [kind, readLines] at failed
      cases failed
      exact absurd rfl stops
  | header digits =>
      simp only [kind, bind_eq_error_iff, readNumber, mapError_eq_error_iff, readRules] at failed
      rcases failed with ⟨cause, -, rfl⟩ | ⟨tapes, -, rest | ⟨rules, -, rest⟩⟩
      · exact .unreadable cause
      · cases rest
      · cases rest
  | other text =>
      simp only [kind] at failed
      cases failed
      obtain ⟨same, present, noHeader, -⟩ := Line.ofText_eq_other_iff.1 kind
      exact .fault (.headerExpected undeclared (content_eq_iff.1 same) present noHeader)
  | rule text =>
      simp only [kind] at failed
      cases failed
      have form := Line.ofText_eq_rule_iff.1 kind
      refine .fault (.headerExpected undeclared (says_content line) ?_ ?_)
      · obtain ⟨char, rest, same, -⟩ := form.exists_head
        simp [same]
      · exact fun digits header => header.not_ruleForm form

/-! ## Lines after lines -/

theorem readRules_ne_missing (number : Nat) (lines : List (List Char)) :
    readRules number lines ≠ .error .missingHeader := by
  induction lines generalizing number with
  | nil => simp [readRules]
  | cons line rest ih =>
      rw [readRules]
      cases Line.ofText line with
      | blank => exact ih (number + 1)
      | header digits => simp
      | other text => simp
      | rule text =>
          simp only [ne_eq, bind_eq_error_iff]
          rintro (failed | ⟨rule, -, failed | ⟨rules, -, failed⟩⟩)
          · rcases readRule_error failed with ⟨cause, same⟩ | ⟨same, -⟩
            · cases same
            · cases same
          · exact ih (number + 1) failed
          · cases failed

/-- Only where no line says anything, the header is missing. -/
theorem readLines_eq_missing_iff :
    readLines number lines = .error .missingHeader ↔ statements lines = [] := by
  induction lines generalizing number with
  | nil => simp [readLines, statements]
  | cons line rest ih =>
      rw [readLines]
      cases kind : Line.ofText line with
      | blank => rw [statements_of_blank kind, ih]
      | header digits =>
          rw [statements_of_not_blank (by simp [kind])]
          simp only [bind_eq_error_iff, readNumber, mapError_eq_error_iff, readRules_ne_missing]
          constructor
          · rintro (⟨cause, -, same⟩ | ⟨tapes, -, impossible | ⟨rules, -, same⟩⟩)
            · cases same
            · exact impossible.elim
            · cases same
          · intro same
            cases same
      | rule text | other text =>
          rw [statements_of_not_blank (by simp [kind])]
          simp

/-- Reading the rules of more lines reads the first ones and then the others. -/
theorem readRules_append (number : Nat) (before after : List (List Char)) :
    readRules number (before ++ after) = (do
      let rules ← readRules number before
      let others ← readRules (number + before.length) after
      return rules ++ others) := by
  induction before generalizing number with
  | nil =>
      change readRules number after = (do
        let others ← readRules number after
        return [] ++ others)
      simp
  | cons line before ih =>
      have later : number + 1 + before.length = number + (line :: before).length := by
        rw [List.length_cons]
        omega
      rw [List.cons_append, readRules, readRules]
      cases Line.ofText line with
      | blank => simp only [ih, later]
      | header digits => rfl
      | other content => rfl
      | rule text => simp only [ih, later, bind_assoc, pure_bind, List.cons_append]

theorem readLines_append_of_silent (silent : statements before = []) (number : Nat)
    (after : List (List Char)) :
    readLines number (before ++ after) = readLines (number + before.length) after := by
  induction before generalizing number with
  | nil => rfl
  | cons line before ih =>
      have blank : Line.ofText line = .blank := by
        by_contra present
        rw [statements_of_not_blank present] at silent
        cases silent
      rw [statements_of_blank blank] at silent
      rw [List.cons_append, readLines, blank]
      simp only [ih silent, List.length_cons]
      congr 1
      omega

theorem readLines_append_of_ok {program : Program} (read : readLines number before = .ok program)
    (after : List (List Char)) :
    readLines number (before ++ after) = (do
      let others ← readRules (number + before.length) after
      return { program with rules := program.rules ++ others }) := by
  induction before generalizing number with
  | nil => cases read
  | cons line before ih =>
      have later : number + 1 + before.length = number + (line :: before).length := by
        rw [List.length_cons]
        omega
      rw [List.cons_append]
      rw [readLines] at read ⊢
      cases kind : Line.ofText line with
      | blank =>
          simp only [kind] at read
          simp only [ih read, later]
      | header digits =>
          simp only [kind, bind_eq_ok_iff] at read
          rcases read with ⟨tapes, count, rules, found, same⟩
          cases same
          simp only [count, readRules_append, found, later]
          exact bind_assoc (readRules (number + (line :: before).length) after) _ _
      | rule text | other text =>
          simp only [kind] at read
          cases read

theorem readLines_append_of_error (failed : readLines number before = .error error)
    (stops : error ≠ .missingHeader) (after : List (List Char)) :
    readLines number (before ++ after) = .error error := by
  induction before generalizing number with
  | nil =>
      cases failed
      exact absurd rfl stops
  | cons line before ih =>
      rw [List.cons_append]
      rw [readLines] at failed ⊢
      cases kind : Line.ofText line with
      | blank =>
          simp only [kind] at failed
          exact ih failed
      | header digits =>
          simp only [kind, bind_eq_error_iff, readRules_append] at failed ⊢
          rcases failed with failed | ⟨tapes, count, failed | ⟨rules, -, same⟩⟩
          · exact .inl failed
          · exact .inr ⟨tapes, count, .inl (.inl failed)⟩
          · cases same
      | rule text | other text =>
          simp only [kind] at failed ⊢
          exact failed

/-- Reading goes on after the lines: at most there is no header yet. -/
def Continues (lines : List (List Char)) : Prop :=
  ∀ error, readLines 1 lines = .error error → error = .missingHeader

/-- Reading goes on through the lines before a line and stops there with an error. -/
structure StopsAt (before : List (List Char)) (line : List Char) (error : ParseError) : Prop where
  continues : Continues before
  failed : readLines 1 (before ++ [line]) = .error error
  stops : error ≠ .missingHeader

theorem Continues.of_append (continues : Continues (before ++ after)) : Continues before := by
  intro error failed
  by_contra stops
  exact stops (continues error (readLines_append_of_error failed stops after))

theorem not_continues_iff :
    ¬ Continues lines ↔ ∃ error, readLines 1 lines = .error error ∧ error ≠ .missingHeader := by
  simp [Continues]

/-- Reading that goes on has read a program so far, or nothing. -/
theorem Continues.cases (continues : Continues lines) :
    (∃ program, readLines 1 lines = .ok program) ∧ Declared lines ∨
      statements lines = [] ∧ ¬ Declared lines := by
  cases read : readLines 1 lines with
  | error error =>
      cases continues error read
      have silent := readLines_eq_missing_iff.1 read
      exact .inr ⟨silent, not_declared_of_silent silent⟩
  | ok program =>
      rcases readLines_eq_ok_iff.1 read with ⟨header, rules, order, declares, -⟩
      refine .inl ⟨⟨program, rfl⟩, ?_⟩
      cases declares with
      | intro form count => exact declared_of_statements order form

/-- Reading that fails for more than a missing header stops at one of the lines. -/
theorem exists_stopsAt (failed : readLines 1 lines = .error error)
    (stops : error ≠ .missingHeader) :
    ∃ before line after, lines = before ++ line :: after ∧ StopsAt before line error := by
  -- on the last line: either it is the one, or reading stops before
  induction lines using List.reverseRecOn with
  | nil =>
      cases failed
      exact absurd rfl stops
  | append_singleton before line ih =>
      by_cases continues : Continues before
      · exact ⟨before, line, [], rfl, continues, failed, stops⟩
      · rcases not_continues_iff.1 continues with ⟨earlier, failedEarlier, stopsEarlier⟩
        have same := readLines_append_of_error failedEarlier stopsEarlier [line]
        rw [failed, Except.error.injEq] at same
        subst same
        rcases ih failedEarlier with ⟨first, stop, after, rfl, stopsAt⟩
        exact ⟨first, stop, after ++ [line], by simp, stopsAt⟩

/-- Reading stops at a line with an error that this line is to blame for. -/
theorem StopsAt.blames (stopsAt : StopsAt before line error) :
    Blames before line (before.length + 1) error := by
  have failed := stopsAt.failed
  rw [Nat.add_comm]
  rcases stopsAt.continues.cases with ⟨⟨program, read⟩, declared⟩ | ⟨silent, undeclared⟩
  · simp only [readLines_append_of_ok read, bind_eq_error_iff] at failed
    rcases failed with failed | ⟨rules, -, same⟩
    · exact blames_of_readRules declared failed
    · cases same
  · rw [readLines_append_of_silent silent] at failed
    exact blames_of_readLines undeclared failed stopsAt.stops

/-- Reading does not go on after a line at fault. -/
theorem Faulty.not_continues (faulty : Faulty before line fault) :
    ¬ Continues (before ++ [line]) := by
  intro continues
  have order := statements_append before [line]
  rw [statements_singleton faulty.content_ne_nil] at order
  rcases continues.cases with ⟨⟨program, read⟩, -⟩ | ⟨silent, -⟩
  · rcases readLines_eq_ok_iff.1 read with ⟨header, rules, split, declares, described⟩
    rw [order] at split
    cases declares with
    | intro form count =>
        -- the line stands where the header is due, or where a rule is
        cases first : statements before with
        | nil =>
            rw [first] at split
            cases split
            exact faulty.not_headerForm (not_declared_of_silent first) _ form
        | cons text rest =>
            rw [first] at split
            cases split
            have declared : Declared before := declared_of_statements first form
            have describes : ∃ rule, Describes (content line) rule :=
              exists_forall₂_iff.1 ⟨_, described⟩ _ (by simp)
            rcases describes with ⟨rule, describes⟩
            exact faulty.not_describes declared rule describes
  · rw [order] at silent
    simp at silent

/-- No line before the one at which reading stops is at fault. -/
theorem StopsAt.le_of_faultAt (stopsAt : StopsAt before line error)
    (faultAt : FaultAt (before ++ line :: after) number fault) : before.length + 1 ≤ number := by
  cases faultAt with
  | @intro earlier rest other _ parts faulty =>
      by_contra less
      rcases List.append_eq_append_iff.1 parts with ⟨middle, rfl, -⟩ | ⟨middle, same, tail⟩
      · simp at less
      · cases middle with
        | nil => simp [same] at less
        | cons first middle =>
            cases tail
            have continues := stopsAt.continues
            rw [same, List.append_cons] at continues
            exact faulty.not_continues continues.of_append

end Lines

/-! ## Texts -/

theorem newline_not_mem_lines (source : List Char) : ∀ line ∈ lines source, '\n' ∉ line := by
  induction source with
  | nil => simp [lines]
  | cons char rest ih =>
      by_cases feed : char = '\n'
      · rw [feed, lines_feed, List.forall_mem_cons]
        exact ⟨by simp, ih⟩
      · rw [lines_cons feed]
        cases split : lines rest with
        | nil => simp
        | cons first others =>
            rw [split, List.forall_mem_cons] at ih
            rw [List.modifyHead_cons, List.forall_mem_cons, List.mem_cons, not_or]
            exact ⟨⟨fun same => feed same.symm, ih.1⟩, ih.2⟩

/-- The first lines of a text, joined again, are read as before. -/
theorem readLines_lines_intercalate {source : List Char} {before after : List (List Char)}
    (parts : lines source = before ++ after) :
    readLines 1 (lines (List.intercalate ['\n'] before)) = readLines 1 before := by
  cases before with
  | nil =>
      -- no line at all joins to one that is empty
      rfl
  | cons first rest =>
      congr 1
      apply List.splitOn_intercalate '\n' _ (List.cons_ne_nil first rest)
      intro line member
      apply newline_not_mem_lines source
      rw [parts]
      exact List.mem_append_left after member

section Texts

variable {source : List Char} {number : Nat} {fault : LineFault} {error : ParseError}

theorem readLines_ne_malformed {lines : List (List Char)} (refusal : Refusal) :
    readLines 1 lines ≠ .error (.malformed refusal) := by
  intro failed
  obtain ⟨before, line, after, -, stopsAt⟩ := exists_stopsAt failed (by simp)
  cases stopsAt.blames

/-- An error of a text is one of its lines, or the lines are read and the program is rejected. -/
theorem parse_eq_error_iff :
    parse source = .error error ↔
      readLines 1 (lines source) = .error error ∨
        ∃ program refusal, readLines 1 (lines source) = .ok program ∧
          program.toDraft.accept = .error refusal ∧ error = .malformed refusal := by
  rw [parse]
  cases readLines 1 (lines source) with
  | error found => simp
  | ok program =>
      simp only [mapError_eq_error_iff, reduceCtorEq, Except.ok.injEq, false_or, exists_and_left,
        exists_eq_left', @eq_comm _ error]

theorem parse_eq_error_iff_readLines (syntactic : ∀ refusal, error ≠ .malformed refusal) :
    parse source = .error error ↔ readLines 1 (lines source) = .error error := by
  rw [parse_eq_error_iff, or_iff_left_iff_imp]
  rintro ⟨program, refusal, -, -, rfl⟩
  exact absurd rfl (syntactic refusal)

/-- What is wrong with a program that has been read can always be put in words. -/
theorem exists_defect_of_parse {refusal : Refusal}
    (failed : parse source = .error (.malformed refusal)) :
    ∃ defect, refusal = .defective defect := by
  rcases parse_eq_error_iff.1 failed with failed | ⟨program, _, read, refused, same⟩
  · exact absurd failed (readLines_ne_malformed refusal)
  · cases same
    obtain ⟨header, rules, -, declares, describes⟩ := readLines_eq_ok_iff.1 read
    have reportable :=
      DraftProgram.reportable_of_showable (isShowable_of_declares declares describes)
    cases refusal with
    | defective defect => exact ⟨defect, rfl⟩
    | unshowable => exact absurd reportable (DraftProgram.accept_eq_unshowable.1 refused)

/-- Where reading goes on to the end, the header is missing or the program is rejected, if there is
an error at all. -/
theorem Continues.parse_error (continues : Continues (lines source))
    (failed : parse source = .error error) :
    error = .missingHeader ∨ ∃ defect, error = .malformed (.defective defect) := by
  rcases parse_eq_error_iff.1 failed with missing | ⟨program, refusal, -, -, rfl⟩
  · exact .inl (continues error missing)
  · obtain ⟨defect, rfl⟩ := exists_defect_of_parse failed
    exact .inr ⟨defect, rfl⟩

theorem continues_of_malformed {refusal : Refusal}
    (failed : parse source = .error (.malformed refusal)) : Continues (lines source) := by
  intro error stopped
  rcases parse_eq_error_iff.1 failed with failed | ⟨program, _, read, -, -⟩
  · exact absurd failed (readLines_ne_malformed refusal)
  · rw [read] at stopped
    cases stopped

theorem FaultAt.not_continues {lines : List (List Char)} (faultAt : FaultAt lines number fault) :
    ¬ Continues lines := by
  cases faultAt with
  | intro parts faulty =>
      rw [parts, List.append_cons]
      exact fun continues => faulty.not_continues continues.of_append

/-- The line that an error names is at fault, and reading stops there. -/
theorem exists_stopsAt_of_parse (failed : parse source = .error (.line number fault)) :
    ∃ before line after, lines source = before ++ line :: after ∧ number = before.length + 1 ∧
      Faulty before line fault ∧ StopsAt before line (.line number fault) := by
  rw [parse_eq_error_iff_readLines (by simp)] at failed
  obtain ⟨before, line, after, parts, stopsAt⟩ := exists_stopsAt failed (by simp)
  cases stopsAt.blames with
  | fault faulty => exact ⟨before, line, after, parts, rfl, faulty, stopsAt⟩

/-- With a line at fault the error names that line or an earlier one, or is that a number is too
long to read. -/
theorem FaultAt.parse_error (faultAt : FaultAt (lines source) number fault) :
    (∃ first ≤ number, ∃ found, parse source = .error (.line first found)) ∨
      ∃ cause, parse source = .error (.unreadable cause) := by
  rcases not_continues_iff.1 faultAt.not_continues with ⟨error, failed, stops⟩
  rcases exists_stopsAt failed stops with ⟨before, line, after, parts, stopsAt⟩
  rw [parts] at faultAt
  have bound := stopsAt.le_of_faultAt faultAt
  cases stopsAt.blames with
  | @fault found _ =>
      exact .inl ⟨_, bound, found, (parse_eq_error_iff_readLines (by simp)).2 failed⟩
  | unreadable cause =>
      exact .inr ⟨cause, (parse_eq_error_iff_readLines (by simp)).2 failed⟩

theorem parse_eq_missing_iff :
    parse source = .error .missingHeader ↔ ∀ line ∈ lines source, Says line [] := by
  rw [parse_eq_error_iff_readLines (by simp), readLines_eq_missing_iff, statements_eq_nil_iff]

/-- Texts that agree up to a line at which reading stops give the same error. -/
theorem StopsAt.parse_eq {before after : List (List Char)} {line : List Char}
    (stopsAt : StopsAt before line (.line number fault))
    (parts : lines source = before ++ line :: after) :
    parse source = .error (.line number fault) := by
  rw [parse_eq_error_iff_readLines (by simp), parts, List.append_cons]
  exact readLines_append_of_error stopsAt.failed stopsAt.stops after

end Texts

/-- An error that names a line names the first line at fault. The lines before it alone give no
such error, nor one of a number too long to read, and every text with the same lines up to that one
gives the same error. The header is missing exactly if no line says anything. That the rules do not
fit the header is reported only if no line is at fault: wherever one is, the error names it or an
earlier one, or is that a number is too long to read. -/
theorem parseText_reports_first_fault (source : String) :
    (∀ number fault, parseText source = .error (.line number fault) →
      FaultAt (lines source.toList) number fault ∧
      (∀ earlier < number, ∀ found, ¬ FaultAt (lines source.toList) earlier found) ∧
      (∀ error, parseText (String.ofList (List.intercalate ['\n']
          ((lines source.toList).take (number - 1)))) = .error error →
        error = .missingHeader ∨ ∃ defect, error = .malformed (.defective defect)) ∧
      ∀ other : String,
        (lines other.toList).take number = (lines source.toList).take number →
        parseText other = .error (.line number fault)) ∧
    (parseText source = .error .missingHeader ↔ ∀ line ∈ lines source.toList, Says line []) ∧
    (∀ refusal, parseText source = .error (.malformed refusal) →
      (∃ defect, refusal = .defective defect) ∧
      ∀ number fault, ¬ FaultAt (lines source.toList) number fault) ∧
    ∀ number fault, FaultAt (lines source.toList) number fault →
      (∃ first ≤ number, ∃ found, parseText source = .error (.line first found)) ∨
        ∃ cause, parseText source = .error (.unreadable cause) := by
  refine ⟨?_, parse_eq_missing_iff, ?_, fun number fault faultAt => faultAt.parse_error⟩
  · intro number fault failed
    rcases exists_stopsAt_of_parse failed with ⟨before, line, after, parts, rfl, faulty, stopsAt⟩
    refine ⟨.intro parts faulty, ?_, ?_, ?_⟩
    · intro earlier less found faultAt
      rw [parts] at faultAt
      exact absurd (stopsAt.le_of_faultAt faultAt) (Nat.not_le.2 less)
    · intro error failed
      rw [parts, Nat.add_sub_cancel, List.take_left, parseText, String.toList_ofList] at failed
      have continues := stopsAt.continues
      rw [Continues, ← readLines_lines_intercalate parts] at continues
      exact Continues.parse_error continues failed
    · intro other same
      have start : (lines source.toList).take (before.length + 1) = before ++ [line] := by
        rw [parts, List.append_cons, List.take_left' (by simp)]
      have split := List.take_append_drop (before.length + 1) (lines other.toList)
      rw [same, start, ← List.append_cons] at split
      exact stopsAt.parse_eq split.symm
  · intro refusal failed
    exact ⟨exists_defect_of_parse failed,
      fun number fault faultAt => faultAt.not_continues (continues_of_malformed failed)⟩

/-- A piece that is no amount, after a rule of the wrong width. -/
theorem parseText_reports_first_fault_after_wrong_width :
    parseText "tapes: 1\n0 [1 2] 0\n0 [x] 0" = .error (.line 3 (.invalidAdjustment ['x'])) ∧
    FaultAt (lines "tapes: 1\n0 [1 2] 0\n0 [x] 0".toList) 3 (.invalidAdjustment ['x']) ∧
    parseText "tapes: 1\n0 [1 2] 0\n0 [x] 0\ntapes: 2\n?" =
      .error (.line 3 (.invalidAdjustment ['x'])) ∧
    parseText "tapes: 1\n0 [1 2] 0" = .error (.malformed (.defective (.rule 0 (.width 1 2)))) ∧
    ∀ number fault, ¬ FaultAt (lines "tapes: 1\n0 [1 2] 0".toList) number fault := by
  have failed : parseText "tapes: 1\n0 [1 2] 0\n0 [x] 0" =
      .error (.line 3 (.invalidAdjustment ['x'])) := by
    decide +kernel
  have misfit : parseText "tapes: 1\n0 [1 2] 0" =
      .error (.malformed (.defective (.rule 0 (.width 1 2)))) := by
    decide +kernel
  have facts := (parseText_reports_first_fault _).1 _ _ failed
  exact ⟨failed, facts.1, facts.2.2.2 _ (by decide +kernel), misfit,
    ((parseText_reports_first_fault _).2.2.1 _ misfit).2⟩

end Listing

end CounterMachine
