import CounterMachine.Listing.Printer
import CounterMachine.Proofs.Parsing

/-!
# Listings round trip

Both texts of a program, the plain one and the one with columns, are listings of that program. So
reading either of them gives the program back, rule by rule, as long as its numbers are short enough
to be read. What is read from any text has such numbers. Its listing with columns is therefore a
canonical form.
-/

namespace CounterMachine

open Text (Separated isListSeparator isBlank isDigit)
open Text.Numeral (write writeNat isShowable digitLimit Count Amount)

/-- The tape count and the states are short enough to be written. Adjustments always are. -/
structure Program.Showable (program : Program) : Prop where
  tapes_showable : isShowable program.tapes = true
  states_showable : ∀ state ∈ program.states, isShowable state = true

namespace Listing

theorem Lists.showable {source : List Char} {program : Program} (lists : Lists source program) :
    program.Showable := by
  have showable := lists.isShowable
  simp only [Program.mem_numbers_toDraft, Rule.mem_numbers_toDraft] at showable
  constructor
  · exact showable _ (.inl rfl)
  · intro state member
    rcases Program.mem_states.1 member with ⟨rule, inside, rfl | rfl⟩
    · exact showable _ (.inr ⟨rule, inside, .inl rfl⟩)
    · exact showable _ (.inr ⟨rule, inside, .inr (.inl rfl)⟩)

/-- What stands between the brackets of a written rule. -/
def ruleBody (width : Nat) (amounts : List Int) : List Char :=
  List.intercalate [',', ' '] (amounts.map fun amount => padLeft width (write amount))

theorem forall_mem_intercalate {property : Char → Prop} {between : List Char}
    {parts : List (List Char)} (betweenHolds : ∀ char ∈ between, property char)
    (partsHold : ∀ part ∈ parts, ∀ char ∈ part, property char) :
    ∀ char ∈ List.intercalate between parts, property char := by
  induction parts with
  | nil => simp
  | cons part parts ih =>
      rw [List.forall_mem_cons] at partsHold
      cases parts with
      | nil =>
          rw [List.intercalate_singleton]
          exact partsHold.1
      | cons next parts =>
          rw [List.intercalate_cons_cons, List.forall_mem_append, List.forall_mem_append]
          exact ⟨⟨partsHold.1, betweenHolds⟩, ih partsHold.2⟩

theorem mem_ruleBody {width : Nat} {amounts : List Int} :
    ∀ char ∈ ruleBody width amounts, isDigit char = true ∨ char ∈ [' ', ',', '-'] := by
  apply forall_mem_intercalate
  · intro char member
    right
    simp only [List.mem_cons, List.not_mem_nil, or_false] at member ⊢
    rcases member with rfl | rfl
    · simp
    · simp
  · intro part member char inside
    rcases List.mem_map.1 member with ⟨amount, -, rfl⟩
    rw [padLeft, List.mem_append] at inside
    cases inside with
    | inl blank =>
        right
        simp [List.eq_of_mem_replicate blank]
    | inr written =>
        cases Text.Numeral.mem_write written with
        | inl digit => exact .inl digit
        | inr minus => simp [minus]

theorem isListSeparator_of_mem_write {amount : Int} {char : Char} (member : char ∈ write amount) :
    isListSeparator char = false := by
  cases Text.Numeral.mem_write member with
  | inl digit =>
      rw [isListSeparator, isBlank_of_isDigit digit, Bool.false_or, beq_eq_false_iff_ne]
      rintro rfl
      revert digit
      decide
  | inr minus =>
      subst minus
      decide

/-- The pieces of a written body are the written amounts, whatever the width of the columns. -/
theorem separated_ruleBody (width : Nat) (amounts : List Int) :
    Separated isListSeparator (ruleBody width amounts) (amounts.map write) := by
  have padding : ∀ count, ∀ char ∈ List.replicate count ' ', isListSeparator char = true := by
    intro count char member
    rw [List.eq_of_mem_replicate member]
    decide
  induction amounts with
  | nil => exact .blank (by simp [ruleBody])
  | cons amount amounts ih =>
      have whole : ∀ char ∈ write amount, isListSeparator char = false := fun char member =>
        isListSeparator_of_mem_write member
      cases amounts with
      | nil =>
          have only := Separated.piece (padding (width - (write amount).length))
            (Text.Numeral.write_ne_nil amount) whole (by simp [ruleBody]) ih
          simpa [ruleBody, padLeft] using only
      | cons next amounts =>
          -- the comma and the space after it join the padding of the next amount
          have comma : ∀ char ∈ [',', ' '], isListSeparator char = true :=
            List.all_eq_true.1 (by decide)
          have ends : ∀ char ∈ ([',', ' '] ++ ruleBody width (next :: amounts)).head?,
              isListSeparator char = true := by
            intro char first
            cases first
            decide
          have first := Separated.piece (padding (width - (write amount).length))
            (Text.Numeral.write_ne_nil amount) whole ends (ih.prepend comma)
          rw [ruleBody, List.map_cons, List.map_cons, List.intercalate_cons_cons, padLeft,
            List.append_assoc]
          exact first

/-- A line that says something and is its own content. -/
structure Bare (line : List Char) : Prop where
  present : line ≠ []
  unbroken : '\n' ∉ line
  content_eq : content line = line

/-- Characters of written programs. None of them ends a line or begins a comment. -/
def isWritten (char : Char) : Bool :=
  isDigit char || ['t', 'a', 'p', 'e', 's', ':', ' ', ',', '-', '[', ']'].contains char

theorem bare_of_isWritten {line : List Char} (written : ∀ char ∈ line, isWritten char = true)
    (present : line ≠ []) (tightLeft : ∀ char ∈ line.head?, isBlank char = false)
    (tightRight : ∀ char ∈ line.getLast?, isBlank char = false) : Bare line where
  present := present
  unbroken := by
    intro member
    have lineFeed := written _ member
    revert lineFeed
    decide
  content_eq := by
    have unmarked : ∀ char ∈ [] ++ line ++ [], isCommentMark char = false := by
      intro char member
      cases mark : isCommentMark char with
      | false => rfl
      | true =>
          have allowed := written char (by simpa using member)
          rw [isCommentMark, Bool.or_eq_true, beq_iff_eq, beq_iff_eq] at mark
          rcases mark with rfl | rfl
          · revert allowed
            decide
          · revert allowed
            decide
    have itself := Says.intro (by simp) (by simp) tightLeft tightRight unmarked
      (show ∀ char ∈ ([] : List Char).head?, isCommentMark char = true by simp)
    rw [content_eq_iff]
    simpa using itself

theorem ruleLine_eq (width : Nat) (rule : Rule) :
    ruleLine width rule = write rule.source ++ [' '] ++
      '[' :: (ruleBody width rule.adjustments ++ ']' :: ([' '] ++ write rule.target)) := by
  simp [ruleLine, ruleBody]

/-- The plain text of a rule has columns without a width. -/
theorem write_eq_ruleLine (rule : Rule) : rule.write = ruleLine 0 rule := by
  simp [Rule.write, Text.Numeral.writeList, ruleLine, padLeft]

theorem isWritten_of_isDigit {char : Char} (digit : isDigit char = true) :
    isWritten char = true := by
  rw [isWritten, digit, Bool.true_or]

theorem isBlank_of_mem_write {value : Int} {char : Char} (nonneg : 0 ≤ value)
    (member : char ∈ write value) : isBlank char = false :=
  isBlank_of_isDigit (Text.Numeral.isDigit_of_mem_write nonneg member)

section Rule

variable {rule : Rule} {tapes : Int} (wellFormed : rule.WellFormed tapes)
include wellFormed

theorem isWritten_ruleLine (width : Nat) :
    ∀ char ∈ ruleLine width rule, isWritten char = true := by
  have source : ∀ char ∈ write rule.source, isWritten char = true := fun char member =>
    isWritten_of_isDigit (Text.Numeral.isDigit_of_mem_write wellFormed.source_nonneg member)
  have target : ∀ char ∈ write rule.target, isWritten char = true := fun char member =>
    isWritten_of_isDigit (Text.Numeral.isDigit_of_mem_write wellFormed.target_nonneg member)
  have body : ∀ char ∈ ruleBody width rule.adjustments, isWritten char = true := by
    intro char member
    cases mem_ruleBody char member with
    | inl digit => exact isWritten_of_isDigit digit
    | inr other =>
        have others : ∀ other ∈ [' ', ',', '-'], isWritten other = true :=
          List.all_eq_true.1 (by decide)
        exact others char other
  rw [ruleLine_eq]
  simp only [List.forall_mem_append, List.forall_mem_cons, List.not_mem_nil, false_implies,
    implies_true, and_true]
  exact ⟨⟨source, by decide⟩, by decide, body, by decide, by decide, target⟩

theorem bare_ruleLine (width : Nat) : Bare (ruleLine width rule) := by
  have front := ruleLine_eq width rule
  have back : ruleLine width rule =
      write rule.source ++ [' '] ++ '[' :: (ruleBody width rule.adjustments ++ [']', ' ']) ++
        write rule.target := by
    simp [ruleLine_eq]
  apply bare_of_isWritten (isWritten_ruleLine wellFormed width)
  · simp [ruleLine_eq]
  · intro char first
    rw [front, List.append_assoc, List.head?_append_of_ne_nil _ (Text.Numeral.write_ne_nil _)]
      at first
    exact isBlank_of_mem_write wellFormed.source_nonneg (List.mem_of_mem_head? first)
  · intro char last
    rw [back, List.getLast?_append_of_ne_nil _ (Text.Numeral.write_ne_nil _)] at last
    exact isBlank_of_mem_write wellFormed.target_nonneg (List.mem_of_mem_getLast? last)

theorem ruleForm_ruleLine (width : Nat) :
    RuleForm (ruleLine width rule)
      ⟨write rule.source, ruleBody width rule.adjustments, write rule.target⟩ := by
  have enclosed : ']' ∉ ruleBody width rule.adjustments := by
    intro member
    have bracket := mem_ruleBody ']' member
    revert bracket
    decide
  have space : ∀ char ∈ [' '], isBlank char = true := List.all_eq_true.1 (by decide)
  rw [ruleLine_eq]
  exact .intro (Text.Numeral.write_ne_nil _)
    (fun char member => Text.Numeral.isDigit_of_mem_write wellFormed.source_nonneg member) space
    enclosed space (Text.Numeral.write_ne_nil _)
    (fun char member => Text.Numeral.isDigit_of_mem_write wellFormed.target_nonneg member)

/-- A written rule describes itself. -/
theorem describes_ruleLine (width : Nat) (source : isShowable rule.source = true)
    (target : isShowable rule.target = true) : Describes (ruleLine width rule) rule := by
  have amounts : List.Forall₂ Amount (rule.adjustments.map write) rule.adjustments := by
    rw [List.forall₂_map_left_iff, List.forall₂_same]
    intro amount member
    apply Text.Numeral.amount_write
    exact isShowable_of_bounded (wellFormed.adjustments_bounded amount member)
  exact .intro (ruleForm_ruleLine wellFormed width)
    (Text.Numeral.count_write wellFormed.source_nonneg source)
    (Text.Numeral.count_write wellFormed.target_nonneg target)
    (separated_ruleBody width rule.adjustments) amounts

end Rule

theorem header_eq (program : Program) :
    program.header = ['t', 'a', 'p', 'e', 's', ':', ' '] ++ write program.tapes := by
  unfold Program.header
  rfl

theorem headerForm_header {program : Program} (nonneg : 0 ≤ program.tapes) :
    HeaderForm program.header (write program.tapes) := by
  have keyword : List.Forall₂ Writes ['t', 'a', 'p', 'e', 's'] ['t', 'a', 'p', 'e', 's'] := by
    rw [List.forall₂_same]
    intro letter _
    exact .inl rfl
  have nothing : ∀ char ∈ ([] : List Char), isBlank char = true := by simp
  have space : ∀ char ∈ [' '], isBlank char = true := List.all_eq_true.1 (by decide)
  have form := HeaderForm.intro keyword nothing space (Text.Numeral.write_ne_nil program.tapes)
    (fun char member => Text.Numeral.isDigit_of_mem_write nonneg member)
  rw [header_eq]
  exact form

theorem bare_header {program : Program} (nonneg : 0 ≤ program.tapes) : Bare program.header := by
  rw [header_eq]
  apply bare_of_isWritten
  · rw [List.forall_mem_append]
    refine ⟨List.all_eq_true.1 (by decide), ?_⟩
    intro char member
    exact isWritten_of_isDigit (Text.Numeral.isDigit_of_mem_write nonneg member)
  · simp
  · intro char first
    cases first
    decide
  · intro char last
    rw [List.getLast?_append_of_ne_nil _ (Text.Numeral.write_ne_nil _)] at last
    exact isBlank_of_mem_write nonneg (List.mem_of_mem_getLast? last)

/-- A written header declares the number of tapes. -/
theorem declares_header {program : Program} (nonneg : 0 ≤ program.tapes)
    (short : isShowable program.tapes = true) : Declares program.header program.tapes :=
  .intro (headerForm_header nonneg) (Text.Numeral.count_write nonneg short)

/-! ## Listings -/

/-- Bare lines, and empty ones after them, list what they declare and describe. -/
theorem lists_of_bare {header : List Char} {rules empty : List (List Char)} {program : Program}
    (bare : ∀ line ∈ header :: rules, Bare line) (blank : ∀ line ∈ empty, line = [])
    (declares : Declares header program.tapes)
    (describes : List.Forall₂ Describes rules program.rules) (wellFormed : program.WellFormed) :
    Lists (List.intercalate ['\n'] (header :: rules ++ empty)) program := by
  have unbroken : ∀ line ∈ header :: rules ++ empty, '\n' ∉ line := by
    rw [List.forall_mem_append]
    constructor
    · exact fun line member => (bare line member).unbroken
    · intro line member
      rw [blank line member]
      simp
  have contents : (header :: rules ++ empty).map content = header :: rules ++ empty := by
    conv => rhs; rw [← List.map_id (header :: rules ++ empty)]
    apply List.map_congr_left
    rw [List.forall_mem_append]
    constructor
    · exact fun line member => (bare line member).content_eq
    · intro line member
      rw [blank line member]
      rfl
  have order : (header :: rules ++ empty).filter (fun content => !content.isEmpty) =
      header :: rules := by
    have kept : (header :: rules).filter (fun content => !content.isEmpty) = header :: rules := by
      rw [List.filter_eq_self]
      intro line member
      simpa using (bare line member).present
    have dropped : empty.filter (fun content => !content.isEmpty) = [] := by
      rw [List.filter_eq_nil_iff]
      intro line member
      simp [blank line member]
    rw [List.filter_append, kept, dropped, List.append_nil]
  apply Lists.intro _ order declares describes wellFormed
  rw [List.splitOn_intercalate '\n' unbroken (by simp), forall₂_says_iff]
  exact contents

theorem flatMap_line_end (lines : List (List Char)) :
    (lines.flatMap fun line => line ++ ['\n']) = List.intercalate ['\n'] (lines ++ [[]]) := by
  induction lines with
  | nil => rfl
  | cons line lines ih =>
      rw [List.flatMap_cons, ih, List.cons_append,
        List.intercalate_cons_of_ne_nil (List.append_ne_nil_of_right_ne_nil _ (by simp))]

section Program

variable {program : Program} (wellFormed : program.WellFormed) (showable : program.Showable)
include wellFormed

theorem bare_lines (width : Nat) :
    ∀ line ∈ program.header :: program.rules.map (ruleLine width), Bare line := by
  rw [List.forall_mem_cons]
  refine ⟨bare_header wellFormed.tapes_nonneg, ?_⟩
  intro line member
  rcases List.mem_map.1 member with ⟨rule, inside, rfl⟩
  exact bare_ruleLine (wellFormed.rules_wellFormed rule inside) width

include showable

theorem describes_lines (width : Nat) :
    List.Forall₂ Describes (program.rules.map (ruleLine width)) program.rules := by
  rw [List.forall₂_map_left_iff, List.forall₂_same]
  intro rule member
  apply describes_ruleLine (wellFormed.rules_wellFormed rule member) width
  · apply showable.states_showable
    exact Program.mem_states.2 ⟨rule, member, .inl rfl⟩
  · apply showable.states_showable
    exact Program.mem_states.2 ⟨rule, member, .inr rfl⟩

/-- The listing of a program lists it. -/
theorem lists_format : Lists (format program) program := by
  have empty : ∀ line ∈ ([[]] : List (List Char)), line = [] := by simp
  have lists := lists_of_bare (bare_lines wellFormed (columnWidth program)) empty
    (declares_header wellFormed.tapes_nonneg showable.tapes_showable)
    (describes_lines wellFormed showable (columnWidth program)) wellFormed
  rw [format, flatMap_line_end]
  exact lists

/-- The plain text of a program lists it. -/
theorem lists_write : Lists program.write program := by
  have none : ∀ line ∈ ([] : List (List Char)), line = [] := by simp
  have lists := lists_of_bare (bare_lines wellFormed 0) none
    (declares_header wellFormed.tapes_nonneg showable.tapes_showable)
    (describes_lines wellFormed showable 0) wellFormed
  have plain : program.rules.map Rule.write = program.rules.map (ruleLine 0) :=
    List.map_congr_left fun rule _ => write_eq_ruleLine rule
  rw [Program.write, plain]
  rwa [List.append_nil] at lists

end Program

/-- Every valid program whose numbers can be written is read back from its listing and from its
plain text. Every program that is read from any text is such a program, so it is read back too, and
listing it again gives the same text. -/
theorem parseText_formatText :
    (∀ (draft : DraftProgram) (program : Program), draft.accept = .ok program →
      program.Showable →
      parseText (formatText program) = .ok program ∧ parseText program.text = .ok program) ∧
    ∀ (source : String) (program : Program), parseText source = .ok program →
      program.toDraft.accept = .ok program ∧ program.Showable ∧
      parseText (formatText program) = .ok program ∧
      (parseText (formatText program)).map formatText = .ok (formatText program) := by
  have readsBack : ∀ program : Program, program.WellFormed → program.Showable →
      parseText (formatText program) = .ok program := by
    intro program wellFormed showable
    rw [parseText, formatText, String.toList_ofList, parse_eq_ok_iff]
    exact lists_format wellFormed showable
  constructor
  · intro draft program valid showable
    rcases DraftProgram.accept_eq_ok.1 valid with ⟨-, wellFormed⟩
    refine ⟨readsBack program wellFormed showable, ?_⟩
    rw [parseText, Program.text, String.toList_ofList, parse_eq_ok_iff]
    exact lists_write wellFormed showable
  · intro source program parsed
    rw [parseText, parse_eq_ok_iff] at parsed
    have again := readsBack program parsed.wellFormed parsed.showable
    refine ⟨DraftProgram.accept_eq_ok.2 ⟨rfl, parsed.wellFormed⟩, parsed.showable, again, ?_⟩
    rw [again]
    rfl

/-- A program with columns of unequal width, and a text of it in neither of the two layouts. -/
theorem parseText_formatText_columns :
    (parseText "tapes: 2\n0 [  1, -10] 7\n" = .ok ⟨2, [⟨0, 7, [1, -10]⟩]⟩ ∧
      parseText "tapes: 2\n0 [1, -10] 7" = .ok ⟨2, [⟨0, 7, [1, -10]⟩]⟩) ∧
    parseText "\nTAPES :02 # two\n0[,+1 -1_0]7" = .ok ⟨2, [⟨0, 7, [1, -10]⟩]⟩ ∧
      Program.Showable ⟨2, [⟨0, 7, [1, -10]⟩]⟩ := by
  have short : Program.Showable ⟨2, [⟨0, 7, [1, -10]⟩]⟩ := ⟨by decide, by decide⟩
  have back := parseText_formatText.1 (Program.toDraft ⟨2, [⟨0, 7, [1, -10]⟩]⟩)
    ⟨2, [⟨0, 7, [1, -10]⟩]⟩ rfl short
  have parsed : parseText "\nTAPES :02 # two\n0[,+1 -1_0]7" = .ok ⟨2, [⟨0, 7, [1, -10]⟩]⟩ := by
    decide +kernel
  exact ⟨back, parsed, (parseText_formatText.2 _ _ parsed).2.1⟩

end Listing

end CounterMachine
