import CounterMachine.Listing.Parser
import CounterMachine.Proofs.Defects
import CounterMachine.Proofs.Grammar
import CounterMachine.Proofs.Result

/-!
# The language of listings

A text lists a program if its lines do: of the contents that are not empty the first is a header,
which declares the number of tapes, and all others are rules, which describe the rules of the
program one by one; and the program is well formed.

Reading a listing succeeds exactly on the texts of this language, with the program that they list.
-/

namespace CounterMachine.Listing

open Text (Separated isListSeparator isBlank isDigit)
open Text.Numeral (Amount Count)

/-- A header declares its number of tapes. -/
inductive Declares : List Char → Int → Prop where
  | intro {content digits : List Char} {tapes : Int} (form : HeaderForm content digits)
      (count : Count digits tapes) : Declares content tapes

/-- A rule in a listing describes a rule of a program. -/
inductive Describes : List Char → Rule → Prop where
  | intro {content : List Char} {text : RuleText} {pieces : List (List Char)} {rule : Rule}
      (form : RuleForm content text) (source : Count text.source rule.source)
      (target : Count text.target rule.target)
      (cut : Separated isListSeparator text.body pieces)
      (amounts : List.Forall₂ Amount pieces rule.adjustments) : Describes content rule

/-- A text lists a program. Of the contents of its lines that are not empty, the first is the only
header and all others are rules. -/
inductive Lists : List Char → Program → Prop where
  | intro {source header : List Char} {contents rules : List (List Char)} {program : Program}
      (lines : List.Forall₂ Says (source.splitOn '\n') contents)
      (order : contents.filter (fun content => !content.isEmpty) = header :: rules)
      (declares : Declares header program.tapes)
      (describes : List.Forall₂ Describes rules program.rules)
      (wellFormed : program.WellFormed) : Lists source program

theorem readNumber_eq_ok_iff {digits : List Char} {value : Int} (present : digits ≠ [])
    (number : ∀ char ∈ digits, isDigit char = true) :
    readNumber digits = .ok value ↔ Count digits value := by
  rw [readNumber, mapError_eq_ok_iff, Text.Numeral.read_eq_ok_iff_count present number]

theorem forall₂_read_iff {texts : List (List Char)} {amounts : List Int}
    (tight : ∀ text ∈ texts, ∀ char ∈ text, isBlank char = false) :
    List.Forall₂ (fun text amount => Text.Numeral.read text = .ok amount) texts amounts ↔
      List.Forall₂ Amount texts amounts := by
  induction texts generalizing amounts with
  | nil => simp
  | cons text texts ih =>
      rw [List.forall_mem_cons] at tight
      simp only [List.forall₂_cons_left_iff, Text.Numeral.read_eq_ok_iff_amount tight.1,
        ih tight.2]

/-- A list of numbers is read exactly as the amounts in its pieces. -/
theorem readList_eq_ok_iff {text : List Char} {amounts : List Int} :
    Text.Numeral.readList text = .ok amounts ↔
      ∃ pieces, Separated isListSeparator text pieces ∧ List.Forall₂ Amount pieces amounts := by
  have cut := Text.pieces_eq_iff.1 (Eq.refl (Text.pieces isListSeparator text))
  have tight : ∀ piece ∈ Text.pieces isListSeparator text, ∀ char ∈ piece,
      isBlank char = false := by
    intro piece member char inside
    have whole := cut.whole piece member char inside
    rw [isListSeparator, Bool.or_eq_false_iff] at whole
    exact whole.1
  rw [Text.Numeral.readList, Text.Numeral.readAll, mapM_eq_ok_iff, forall₂_read_iff tight]
  constructor
  · intro amounts
    exact ⟨_, cut, amounts⟩
  · rintro ⟨pieces, separated, amounts⟩
    rw [separated.pieces_eq]
    exact amounts

theorem readAdjustments_eq_ok_iff {number : Nat} {body : List Char} {amounts : List Int} :
    readAdjustments number body = .ok amounts ↔
      ∃ pieces, Separated isListSeparator body pieces ∧ List.Forall₂ Amount pieces amounts := by
  rw [readAdjustments, mapError_eq_ok_iff, readList_eq_ok_iff]

/-- Numbers that can be read can be written. -/
theorem isShowable_of_amounts {pieces : List (List Char)} {amounts : List Int}
    (written : List.Forall₂ Amount pieces amounts) :
    ∀ amount ∈ amounts, Text.Numeral.isShowable amount = true := by
  induction written with
  | nil => simp
  | cons first rest ih =>
      rw [List.forall_mem_cons]
      exact ⟨first.isShowable, ih⟩

theorem isShowable_of_readList {text : List Char} {amounts : List Int}
    (read : Text.Numeral.readList text = .ok amounts) :
    ∀ amount ∈ amounts, Text.Numeral.isShowable amount = true := by
  rcases readList_eq_ok_iff.1 read with ⟨pieces, -, written⟩
  exact isShowable_of_amounts written

theorem Describes.isShowable {content : List Char} {rule : Rule}
    (describes : Describes content rule) :
    ∀ number ∈ rule.toDraft.numbers, Text.Numeral.isShowable number = true := by
  cases describes with
  | intro form source target cut amounts =>
      intro number member
      rcases Rule.mem_numbers_toDraft.1 member with rfl | rfl | inside
      · exact source.isShowable
      · exact target.isShowable
      · exact isShowable_of_amounts amounts number inside

theorem readRule_eq_ok_iff {number : Nat} {content : List Char} {text : RuleText} {rule : Rule}
    (form : RuleForm content text) :
    readRule number text = .ok rule ↔
      Count text.source rule.source ∧ Count text.target rule.target ∧
        ∃ pieces, Separated isListSeparator text.body pieces ∧
          List.Forall₂ Amount pieces rule.adjustments := by
  cases form with
  | intro sourcePresent sourceNumber beforeBlank enclosed afterBlank targetPresent targetNumber =>
      simp only [readRule, bind_eq_ok_iff, readNumber_eq_ok_iff sourcePresent sourceNumber,
        readNumber_eq_ok_iff targetPresent targetNumber, readAdjustments_eq_ok_iff]
      constructor
      · rintro ⟨source, sourceCount, target, targetCount, amounts, cut, same⟩
        cases same
        exact ⟨sourceCount, targetCount, cut⟩
      · rintro ⟨sourceCount, targetCount, cut⟩
        exact ⟨rule.source, sourceCount, rule.target, targetCount, rule.adjustments, cut, rfl⟩

theorem declares_iff {line : List Char} {tapes : Int} :
    Declares (content line) tapes ↔
      ∃ digits, Line.ofText line = .header digits ∧ readNumber digits = .ok tapes := by
  constructor
  · intro declares
    cases declares with
    | intro form count =>
        exact ⟨_, Line.ofText_eq_header_iff.2 form,
          (readNumber_eq_ok_iff form.isDigits.1 form.isDigits.2).2 count⟩
  · rintro ⟨digits, line, read⟩
    have form := Line.ofText_eq_header_iff.1 line
    exact .intro form ((readNumber_eq_ok_iff form.isDigits.1 form.isDigits.2).1 read)

theorem describes_iff (number : Nat) {line : List Char} {rule : Rule} :
    Describes (content line) rule ↔
      ∃ text, Line.ofText line = .rule text ∧ readRule number text = .ok rule := by
  constructor
  · intro describes
    cases describes with
    | intro form source target cut amounts =>
        exact ⟨_, Line.ofText_eq_rule_iff.2 form,
          (readRule_eq_ok_iff form).2 ⟨source, target, _, cut, amounts⟩⟩
  · rintro ⟨text, line, read⟩
    have form := Line.ofText_eq_rule_iff.1 line
    rcases (readRule_eq_ok_iff form).1 read with ⟨source, target, pieces, cut, amounts⟩
    exact .intro form source target cut amounts

/-- The contents that are not empty. -/
def statements (lines : List (List Char)) : List (List Char) :=
  (lines.map content).filter fun content => !content.isEmpty

theorem statements_of_blank {line : List Char} {rest : List (List Char)}
    (blank : Line.ofText line = .blank) : statements (line :: rest) = statements rest := by
  simp [statements, Line.ofText_eq_blank_iff.1 blank]

theorem statements_of_not_blank {line : List Char} {rest : List (List Char)}
    (present : Line.ofText line ≠ .blank) :
    statements (line :: rest) = content line :: statements rest := by
  rw [ne_eq, Line.ofText_eq_blank_iff] at present
  simp [statements, present]

theorem readRules_eq_ok_iff {number : Nat} {lines : List (List Char)} {rules : List Rule} :
    readRules number lines = .ok rules ↔ List.Forall₂ Describes (statements lines) rules := by
  -- for every line number, which matters to errors alone
  induction lines generalizing number rules with
  | nil => simp [readRules, statements, eq_comm]
  | cons line rest ih =>
      rw [readRules]
      cases kind : Line.ofText line with
      | blank => rw [statements_of_blank kind, ih]
      | header digits =>
          rw [statements_of_not_blank (by simp [kind])]
          simp [List.forall₂_cons_left_iff, describes_iff number, kind]
      | other content =>
          rw [statements_of_not_blank (by simp [kind])]
          simp [List.forall₂_cons_left_iff, describes_iff number, kind]
      | rule text =>
          rw [statements_of_not_blank (by simp [kind])]
          simp only [bind_eq_ok_iff, ih, List.forall₂_cons_left_iff, describes_iff number, kind,
            Line.rule.injEq, exists_eq_left']
          constructor
          · rintro ⟨rule, read, others, described, same⟩
            exact ⟨rule, others, read, described, (Except.ok.inj same).symm⟩
          · rintro ⟨rule, others, read, described, rfl⟩
            exact ⟨rule, read, others, described, rfl⟩

theorem readLines_eq_ok_iff {number : Nat} {lines : List (List Char)} {program : Program} :
    readLines number lines = .ok program ↔
      ∃ header rules, statements lines = header :: rules ∧ Declares header program.tapes ∧
        List.Forall₂ Describes rules program.rules := by
  induction lines generalizing number with
  | nil => simp [readLines, statements]
  | cons line rest ih =>
      rw [readLines]
      cases kind : Line.ofText line with
      | blank => rw [statements_of_blank kind, ih]
      | header digits =>
          rw [statements_of_not_blank (by simp [kind])]
          simp only [bind_eq_ok_iff, readRules_eq_ok_iff, List.cons.injEq]
          constructor
          · rintro ⟨tapes, read, rules, described, same⟩
            cases same
            exact ⟨_, _, ⟨rfl, rfl⟩, declares_iff.2 ⟨digits, kind, read⟩, described⟩
          · rintro ⟨header, rules, ⟨rfl, rfl⟩, declares, described⟩
            rcases declares_iff.1 declares with ⟨found, same, read⟩
            rw [kind, Line.header.injEq] at same
            subst same
            exact ⟨program.tapes, read, program.rules, described, rfl⟩
      | other content | rule text =>
          rw [statements_of_not_blank (by simp [kind])]
          simp only [List.cons.injEq]
          constructor
          · intro same
            cases same
          · rintro ⟨header, rules, ⟨rfl, rfl⟩, declares, described⟩
            rcases declares_iff.1 declares with ⟨found, same, read⟩
            rw [kind] at same
            cases same

/-- A program that is read has numbers that can be written. -/
theorem isShowable_of_declares {header : List Char} {contents : List (List Char)}
    {program : Program} (declares : Declares header program.tapes)
    (describes : List.Forall₂ Describes contents program.rules) :
    ∀ number ∈ program.toDraft.numbers, Text.Numeral.isShowable number = true := by
  intro number member
  rcases Program.mem_numbers_toDraft.1 member with rfl | ⟨rule, inside, member⟩
  · cases declares with
    | intro form count => exact count.isShowable
  · obtain ⟨place, below, rfl⟩ := List.getElem_of_mem inside
    exact (describes.get (by rwa [describes.length_eq]) below).isShowable number member

theorem forall₂_says_iff {lines contents : List (List Char)} :
    List.Forall₂ Says lines contents ↔ lines.map content = contents := by
  induction lines generalizing contents with
  | nil => simp [eq_comm]
  | cons line lines ih =>
      simp only [List.forall₂_cons_left_iff, ih, ← content_eq_iff, List.map_cons]
      constructor
      · rintro ⟨first, others, rfl, rfl, rfl⟩
        rfl
      · rintro rfl
        exact ⟨_, _, rfl, rfl, rfl⟩

/-- Reading succeeds exactly on listings, and gives the program that they list. -/
theorem parse_eq_ok_iff {source : List Char} {program : Program} :
    parse source = .ok program ↔ Lists source program := by
  constructor
  · intro parsed
    rw [parse] at parsed
    split at parsed
    next => cases parsed
    next found read =>
      rw [mapError_eq_ok_iff, DraftProgram.accept_eq_ok] at parsed
      rcases parsed with ⟨same, wellFormed⟩
      have : found = program := by
        rw [← Program.toProgram_toDraft found, same, Program.toProgram_toDraft]
      subst this
      rcases readLines_eq_ok_iff.1 read with ⟨header, rules, order, declares, described⟩
      exact .intro (forall₂_says_iff.2 rfl) order declares described wellFormed
  · intro lists
    cases lists with
    | intro lines order declares described wellFormed =>
        rw [forall₂_says_iff] at lines
        subst lines
        have read : readLines 1 (Listing.lines source) = .ok program :=
          readLines_eq_ok_iff.2 ⟨_, _, order, declares, described⟩
        simp only [parse, read, mapError_eq_ok_iff, DraftProgram.accept_eq_ok]
        exact ⟨trivial, wellFormed⟩

theorem Lists.wellFormed {source : List Char} {program : Program} (lists : Lists source program) :
    program.WellFormed := by
  cases lists with
  | intro lines order declares describes wellFormed => exact wellFormed

theorem Lists.isShowable {source : List Char} {program : Program} (lists : Lists source program) :
    ∀ number ∈ program.toDraft.numbers, Text.Numeral.isShowable number = true := by
  cases lists with
  | intro lines order declares describes wellFormed =>
      exact isShowable_of_declares declares describes

/-- The lines of a text have no characters but its own. -/
theorem mem_of_mem_line {source line : List Char} {char : Char}
    (inside : line ∈ source.splitOn '\n') (member : char ∈ line) : char ∈ source := by
  rcases List.mem_iff_getElem?.1 inside with ⟨number, found⟩
  rw [← @List.getElem?_intersperse_two_mul _ _ ['\n']] at found
  have whole : ((source.splitOn '\n').intersperse ['\n']).flatten = source :=
    List.intercalate_splitOn '\n'
  rw [← whole]
  exact List.mem_flatten.2 ⟨line, List.mem_of_getElem? found, member⟩

/-- A blank text lists nothing. -/
theorem Lists.exists_not_blank {source : List Char} {program : Program}
    (lists : Lists source program) : ∃ char ∈ source, isBlank char = false := by
  cases lists with
  | @intro header contents rules _ lines order declares describes wellFormed =>
      rw [forall₂_says_iff] at lines
      subst lines
      have kept : header ∈ ((source.splitOn '\n').map content).filter
          fun content => !content.isEmpty := by
        rw [order]
        exact List.mem_cons_self
      rcases List.mem_filter.1 kept with ⟨member, present⟩
      rcases List.mem_map.1 member with ⟨line, inside, rfl⟩
      have parts := content_eq_iff.1 (Eq.refl (content line))
      generalize content line = header at parts present
      cases parts with
      | @intro left _ right comment leftBlank rightBlank tightLeft tightRight unmarked marked =>
          cases header with
          | nil => simp at present
          | cons char rest =>
              exact ⟨char, mem_of_mem_line inside (by simp), tightLeft char rfl⟩

/-- The texts from which a program can be read are the listings of the language: lines that are
blank, a header before everything else, and rules, with numbers of at most `digitLimit` digits and
with as many adjustments in every rule as the header declares tapes. The program has the values of
the header and of the rules, in their order. -/
theorem parseText_iff_lists (source : String) (program : Program) :
    parseText source = .ok program ↔ Lists source.toList program := by
  rw [parseText, parse_eq_ok_iff]

-- a long s, digits of another script, commas without a number between them
example : parseText "\n TAPEſ :٢\n٠[, +1_0,, -1 ,]7 ; moves" = .ok ⟨2, [⟨0, 7, [10, -1]⟩]⟩ := by
  decide +kernel

end CounterMachine.Listing
