import CounterMachine.CommandLine.Arguments
import CounterMachine.Proofs.Numeral
import Mathlib.Data.List.Forall2

/-!
# Options in full

An option can be given in one argument: its name with two dashes and, if it takes a value, an equals
sign and the value. A command line of such arguments is read one by one, and each argument makes its
own change to the options. So arguments whose changes commute may stand in any order.
-/

namespace CounterMachine.CommandLine

open Text.Numeral (text isShowable)

/-- The name of an option with two dashes. -/
def Key.fullName (key : Key) : List Char :=
  ((key.names.map String.toList).find? fun name => ['-', '-'].isPrefixOf name).getD []

namespace Key

theorem exists_fullName (key : Key) :
    ∃ char rest, key.fullName = '-' :: '-' :: char :: rest := by
  cases key <;> exact ⟨_, _, rfl⟩

theorem lookup_fullName (key : Key) : spellings.lookup key.fullName = some key := by
  cases key <;> rfl

theorem equals_notMem_fullName (key : Key) : '=' ∉ key.fullName := by
  cases key <;> decide

end Key

theorem splitAtEquals_append {name : List Char} (plain : '=' ∉ name) (value : List Char) :
    splitAtEquals (name ++ '=' :: value) = (name, some value) := by
  have differs : ∀ char ∈ name, (char != '=') = true := by
    intro char member
    simpa using fun same : char = '=' => plain (same ▸ member)
  simp [splitAtEquals, List.takeWhile_append_of_pos differs, List.dropWhile_append_of_pos differs]

/-- No spelling of an option has an equals sign in it. -/
theorem lookup_of_equals {argument : List Char} (inside : '=' ∈ argument) :
    spellings.lookup argument = none := by
  have plain : ∀ entry ∈ spellings, '=' ∉ entry.1 := by decide
  rw [List.lookup_eq_none_iff]
  intro entry member
  simpa using fun same : argument = entry.1 => plain entry member (same ▸ inside)

namespace Token

theorem ofArgument_fullName (key : Key) :
    ofArgument key.fullName = .ok (.option ⟨key, false, none⟩) := by
  obtain ⟨char, rest, name⟩ := key.exists_fullName
  have known := key.lookup_fullName
  rw [name] at known ⊢
  simp [ofArgument, known]

theorem ofArgument_value (key : Key) (value : List Char) :
    ofArgument (key.fullName ++ '=' :: value) = .ok (.option ⟨key, false, some value⟩) := by
  obtain ⟨char, rest, name⟩ := key.exists_fullName
  have cut := splitAtEquals_append key.equals_notMem_fullName value
  have whole : spellings.lookup (key.fullName ++ '=' :: value) = none :=
    lookup_of_equals (by simp)
  have known := key.lookup_fullName
  rw [name] at cut whole known ⊢
  simp only [List.cons_append] at cut whole ⊢
  simp [ofArgument, cut, whole, known]

end Token

theorem expandAttached_of_takesValue {key : Key} (takes : key.takesValue = true) (short : Bool)
    (value : List Char) : expandAttached key short value = .ok ([], .value key value) := by
  rw [expandAttached.eq_def, if_pos takes]

/-- An argument that gives one option in full, and the change that it makes to the options. -/
inductive Changes : String → (Options → Options) → Prop where
  | flag {argument : String} {key : Key} (written : argument.toList = key.fullName)
      (isFlag : key.takesValue = false) (plain : key ≠ .help) :
      Changes argument fun options => options.setFlag key
  | value {argument : String} {key : Key} {value : List Char} {change : Options → Options}
      (written : argument.toList = key.fullName ++ '=' :: value) (takes : key.takesValue = true)
      (sets : ∀ options : Options, options.setValue key value = .ok (change options)) :
      Changes argument change

theorem Changes.exists_mention {argument : String} {change : Options → Options}
    (changes : Changes argument change) :
    argument.toList ≠ ['-', '-'] ∧
      ∃ mention, Token.ofArgument argument.toList = .ok (.option mention) ∧
        ∀ (reading : Reading) (rest : List Token), reading.help = false →
          reading.consume (.option mention :: rest) =
            { reading with options := change reading.options }.consume rest := by
  cases changes with
  | @flag key written isFlag plain =>
      rw [written]
      refine ⟨?_, _, Token.ofArgument_fullName key, ?_⟩
      · obtain ⟨char, rest, name⟩ := key.exists_fullName
        simp [name]
      · intro reading rest running
        have notHelp : (key == Key.help) = false := beq_false_of_ne plain
        simp [Reading.consume, running, Mention.expand, isFlag, Reading.setFlag, notHelp, bind,
          Except.bind]
  | @value key value _ written takes sets =>
      rw [written]
      refine ⟨?_, _, Token.ofArgument_value key value, ?_⟩
      · obtain ⟨char, rest, name⟩ := key.exists_fullName
        simp [name]
      · intro reading rest running
        simp [Reading.consume, running, Mention.expand, expandAttached_of_takesValue takes,
          Reading.setValue, sets, Except.map, bind, Except.bind]

theorem changes_append (key : Key) {front given : String} {change : Options → Options}
    (spelt : front.toList = key.fullName ++ ['=']) (takes : key.takesValue = true)
    (sets : ∀ options : Options, options.setValue key given.toList = .ok (change options)) :
    Changes (front ++ given) change := by
  apply Changes.value _ takes sets
  rw [String.toList_append, spelt, List.append_assoc, List.singleton_append]

section CommandLine

variable {arguments : List String} {changes : List (Options → Options)}

theorem exists_tokens (given : List.Forall₂ Changes arguments changes) :
    ∃ found, tokens (arguments.map String.toList) = .ok found ∧
      ∀ reading : Reading, reading.help = false →
        reading.consume found = .ok { reading with
          options := changes.foldl (fun options change => change options) reading.options } := by
  induction given with
  | nil => exact ⟨[], rfl, fun _ _ => rfl⟩
  | @cons argument change arguments changes first others ih =>
      obtain ⟨found, told, consumed⟩ := ih
      obtain ⟨proper, mention, read, changed⟩ := first.exists_mention
      refine ⟨.option mention :: found, ?_, ?_⟩
      · simp [tokens, proper, read, told, bind, Except.bind, pure, Except.pure]
      · intro reading running
        rw [changed reading found running]
        exact consumed _ running

/-- Options in full are read one after the other. -/
theorem parseArguments_eq (given : List.Forall₂ Changes arguments changes) :
    parseArguments arguments =
      .ok (some (changes.foldl (fun options change => change options) {})) := by
  obtain ⟨found, told, consumed⟩ := exists_tokens given
  simp [parseArguments, told, consumed {} rfl, bind, Except.bind, pure, Except.pure]

/-- Options in full that do not interfere may stand in any order. -/
theorem parseArguments_of_perm {order : List String} (permuted : order.Perm arguments)
    (given : List.Forall₂ Changes arguments changes)
    (commute : ∀ first ∈ changes, ∀ second ∈ changes, ∀ options,
      first (second options) = second (first options)) :
    parseArguments order =
      .ok (some (changes.foldl (fun options change => change options) {})) := by
  obtain ⟨others, givenOthers, same⟩ := List.perm_comp_forall₂ permuted given
  rw [parseArguments_eq givenOthers, same.symm.foldl_eq']
  intro first firstMember second secondMember options
  exact commute second secondMember first firstMember options

end CommandLine

theorem readInteger_write (key : Key) {value : Int} (short : isShowable value = true) :
    readInteger key (Text.Numeral.write value) = .ok value := by
  rw [readInteger, Text.Numeral.read_write short]
  rfl

/-- The text of a number is never taken for the mark that leaves an option blank. -/
theorem write_ne_blankMark {value : Int} (short : isShowable value = true) :
    Text.Numeral.write value ≠ Options.blankMark := by
  intro same
  have unread : Text.Numeral.read Options.blankMark = .error (.malformed Options.blankMark) := by
    decide +kernel
  rw [← same, Text.Numeral.read_write short] at unread
  cases unread

/-- The options of a run: the file with the listing, the tapes, the control state, the fuel, and
whether to run the single-state form. -/
def runArguments (name tapes : String) (state fuel : Int) (eliminate : Bool) : List String :=
  ["--program=" ++ name, "--tapes=" ++ tapes, "--state=" ++ text state, "--fuel=" ++ text fuel] ++
    if eliminate then ["--transpile"] else []

/-- What these options set. -/
def runOptions (name tapes : String) (state fuel : Int) (eliminate : Bool) : Options where
  program := some (.value name)
  tapes := some (.value tapes)
  state := .value state
  fuel := .value fuel
  eliminate := eliminate

theorem parseArguments_runArguments {name tapes : String} {state fuel : Int} {eliminate : Bool}
    {arguments : List String} (nameGiven : name ≠ "--") (tapesGiven : tapes ≠ "--")
    (stateShort : isShowable state = true) (fuelShort : isShowable fuel = true)
    (permuted : arguments.Perm (runArguments name tapes state fuel eliminate)) :
    parseArguments arguments = .ok (some (runOptions name tapes state fuel eliminate)) := by
  have differs : ∀ given : String, given ≠ "--" → given.toList ≠ Options.blankMark := by
    intro given different same
    exact different (String.toList_inj.1 same)
  have program : Changes ("--program=" ++ name) fun options =>
      { options with program := some (.value name) } := by
    apply changes_append .program rfl rfl
    intro options
    simp [Options.setValue, differs name nameGiven]
  have tapesChange : Changes ("--tapes=" ++ tapes) fun options =>
      { options with tapes := some (.value tapes) } := by
    apply changes_append .tapes rfl rfl
    intro options
    simp [Options.setValue, differs tapes tapesGiven]
  have stateChange : Changes ("--state=" ++ text state) fun options =>
      { options with state := .value state } := by
    apply changes_append .state rfl rfl
    intro options
    simp [Options.setValue, text, write_ne_blankMark stateShort, readInteger_write _ stateShort,
      Except.map]
  have fuelChange : Changes ("--fuel=" ++ text fuel) fun options =>
      { options with fuel := .value fuel } := by
    apply changes_append .fuel rfl rfl
    intro options
    simp [Options.setValue, text, write_ne_blankMark fuelShort, readInteger_write _ fuelShort,
      Except.map]
  have eliminateChange : Changes "--transpile" fun options => options.setFlag .eliminate :=
    Changes.flag rfl rfl (by decide)
  cases eliminate with
  | false =>
      have given : List.Forall₂ Changes (runArguments name tapes state fuel false) _ :=
        .cons program (.cons tapesChange (.cons stateChange (.cons fuelChange .nil)))
      rw [parseArguments_of_perm permuted given]
      · rfl
      · simp
  | true =>
      have given : List.Forall₂ Changes (runArguments name tapes state fuel true) _ :=
        .cons program (.cons tapesChange (.cons stateChange (.cons fuelChange
          (.cons eliminateChange .nil))))
      rw [parseArguments_of_perm permuted given]
      · rfl
      · simp [Options.setFlag]

end CounterMachine.CommandLine
