import CounterMachine.Text.Numeral
import Mathlib.Data.List.Forall2
import Mathlib.Data.List.TakeWhile
import Mathlib.Data.Nat.Digits.Lemmas

/-!
# The language of numerals

Which texts are numerals, and which number each of them stands for, said without the reader. A count
is a run of digits of any script. An amount may have a sign in front, and single underscores between
its digits. Both stand for the value of their digits in positional notation, and neither may have
more than `digitLimit` digits.

The reader accepts exactly these texts and gives exactly these numbers, and what is written is a
numeral of the number written.
-/

namespace CounterMachine.Text

theorem isDigit_eq_true_iff {char : Char} :
    isDigit char = true ↔ ∃ digit, digitValue? char = some digit := by
  rw [isDigit, Option.isSome_iff_exists]

/-- No script has a digit among the white space. -/
theorem isBlank_of_digitValue? {char : Char} {digit : Nat} (found : digitValue? char = some digit) :
    isBlank char = false := by
  have table : ∀ first ∈ digitZeros, ∀ digit < 10,
      isBlank (Char.ofNat (first + digit)) = false := by
    decide +kernel
  simp only [digitValue?, Option.map_eq_some_iff] at found
  rcases found with ⟨first, located, rfl⟩
  have bounds := List.find?_some located
  simp only [Bool.and_eq_true, decide_eq_true_eq] at bounds
  have code : first + (char.toNat - first) = char.toNat := by omega
  have checked := table first (List.mem_of_find?_eq_some located) (char.toNat - first) (by omega)
  rwa [code, Char.ofNat_toNat] at checked

namespace Numeral

variable {text : List Char} {digits : List Nat} {value : Int}

/-- Digits of any script, and the value of each. -/
def Spells (text : List Char) (digits : List Nat) : Prop :=
  List.Forall₂ (fun char digit => digitValue? char = some digit) text digits

/-- Digits of any script with single underscores between two of them, and the value of each. -/
inductive Grouped : List Char → List Nat → Prop where
  | last {char : Char} {digit : Nat} (found : digitValue? char = some digit) :
      Grouped [char] [digit]
  | next {char : Char} {digit : Nat} {text : List Char} {digits : List Nat}
      (found : digitValue? char = some digit) (rest : Grouped text digits) :
      Grouped (char :: text) (digit :: digits)
  | spaced {char : Char} {digit : Nat} {text : List Char} {digits : List Nat}
      (found : digitValue? char = some digit) (rest : Grouped text digits) :
      Grouped (char :: '_' :: text) (digit :: digits)

/-- A number of tapes or a state, as it may stand in a listing. -/
inductive Count : List Char → Int → Prop where
  | intro {text : List Char} {digits : List Nat} (present : text ≠ [])
      (spells : Spells text digits) (short : digits.length ≤ digitLimit) :
      Count text (Nat.ofDigits 10 digits.reverse : Nat)

/-- A signed number, as it may stand between the brackets of a rule. -/
inductive Amount : List Char → Int → Prop where
  | unsigned {text : List Char} {digits : List Nat} (grouped : Grouped text digits)
      (short : digits.length ≤ digitLimit) :
      Amount text (Nat.ofDigits 10 digits.reverse : Nat)
  | positive {text : List Char} {digits : List Nat} (grouped : Grouped text digits)
      (short : digits.length ≤ digitLimit) :
      Amount ('+' :: text) (Nat.ofDigits 10 digits.reverse : Nat)
  | negative {text : List Char} {digits : List Nat} (grouped : Grouped text digits)
      (short : digits.length ≤ digitLimit) :
      Amount ('-' :: text) (-(Nat.ofDigits 10 digits.reverse : Nat))

/-- Folding the digits from the left is positional notation. -/
theorem ofDigits_eq (digits : List Nat) : ofDigits digits = Nat.ofDigits 10 digits.reverse := by
  rw [ofDigits, Nat.ofDigits_eq_foldr, List.foldr_reverse]
  congr 1
  funext value digit
  exact Nat.add_comm _ _

theorem digitValue?_underscore : digitValue? '_' = none := by decide

theorem digitValue?_plus : digitValue? '+' = none := by decide

theorem digitValue?_minus : digitValue? '-' = none := by decide

theorem Grouped.exists_head (grouped : Grouped text digits) :
    ∃ char rest digit, text = char :: rest ∧ digitValue? char = some digit := by
  cases grouped with
  | last found => exact ⟨_, _, _, rfl, found⟩
  | next found rest => exact ⟨_, _, _, rfl, found⟩
  | spaced found rest => exact ⟨_, _, _, rfl, found⟩

theorem Grouped.isBody_eq_true (grouped : Grouped text digits) : isBody text = true := by
  induction grouped with
  | last found => simp [isBody, isDigit, found]
  | next found rest ih =>
      rcases rest.exists_head with ⟨head, tail, other, rfl, headFound⟩
      rw [isBody]
      · simp [isDigit, found, ih]
      · simp
      · intro tail same
        rw [(List.cons.inj same).1, digitValue?_underscore] at headFound
        cases headFound
  | spaced found rest ih => simp [isBody, isDigit, found, ih]

theorem Grouped.digitValues_eq (grouped : Grouped text digits) : digitValues text = digits := by
  induction grouped with
  | last found => simp [digitValues, found]
  | next found rest ih =>
      rw [digitValues] at ih
      simp [digitValues, found, ih]
  | spaced found rest ih =>
      rw [digitValues] at ih
      simp [digitValues, found, digitValue?_underscore, ih]

theorem grouped_of_isBody (body : isBody text = true) : Grouped text (digitValues text) := by
  fun_induction isBody text with
  | case1 => simp at body
  | case2 char =>
      rcases isDigit_eq_true_iff.1 body with ⟨digit, found⟩
      simp only [digitValues, List.filterMap_cons, found, List.filterMap_nil]
      exact .last found
  | case3 char rest ih =>
      rw [Bool.and_eq_true] at body
      rcases isDigit_eq_true_iff.1 body.1 with ⟨digit, found⟩
      simp only [digitValues, List.filterMap_cons, found, digitValue?_underscore]
      exact .spaced found (ih body.2)
  | case4 char rest _ _ ih =>
      rw [Bool.and_eq_true] at body
      rcases isDigit_eq_true_iff.1 body.1 with ⟨digit, found⟩
      simp only [digitValues, List.filterMap_cons, found]
      exact .next found (ih body.2)

theorem Grouped.isBodyChar (grouped : Grouped text digits) :
    ∀ char ∈ text, isBodyChar char = true := by
  induction grouped with
  | last found => simp [Numeral.isBodyChar, isDigit, found]
  | next found rest ih =>
      rw [List.forall_mem_cons]
      exact ⟨by simp [Numeral.isBodyChar, isDigit, found], ih⟩
  | spaced found rest ih =>
      rw [List.forall_mem_cons, List.forall_mem_cons]
      exact ⟨by simp [Numeral.isBodyChar, isDigit, found], rfl, ih⟩

/-- Digits without underscores are grouped digits. -/
theorem Spells.grouped (spells : Spells text digits) (present : text ≠ []) :
    Grouped text digits := by
  induction spells with
  | nil => exact absurd rfl present
  | @cons char digit text digits found rest ih =>
      cases rest with
      | nil => exact .last found
      | cons nextFound rest => exact .next found (ih (by simp))

theorem Spells.isDigit (spells : Spells text digits) : ∀ char ∈ text, isDigit char = true := by
  induction spells with
  | nil => simp
  | cons found rest ih =>
      rw [List.forall_mem_cons]
      exact ⟨isDigit_eq_true_iff.2 ⟨_, found⟩, ih⟩

theorem spells_of_isDigit (all : ∀ char ∈ text, isDigit char = true) :
    ∃ digits, Spells text digits := by
  induction text with
  | nil => exact ⟨[], .nil⟩
  | cons char rest ih =>
      rw [List.forall_mem_cons] at all
      rcases isDigit_eq_true_iff.1 all.1 with ⟨digit, found⟩
      rcases ih all.2 with ⟨digits, spells⟩
      exact ⟨digit :: digits, .cons found spells⟩

/-- A count is an amount without a sign. -/
theorem Count.unsigned (count : Count text value) : Amount text value := by
  cases count with
  | intro present spells short => exact .unsigned (spells.grouped present) short

theorem Count.negative (count : Count text value) : Amount ('-' :: text) (-value) := by
  cases count with
  | intro present spells short => exact .negative (spells.grouped present) short

/-! ## Reading -/

theorem mem_of_mem_splitSign {char : Char} (member : char ∈ (splitSign text).2) : char ∈ text := by
  unfold splitSign at member
  split at member
  next => exact List.mem_cons_of_mem _ member
  next => exact List.mem_cons_of_mem _ member
  next => exact member

theorem isPadding_of_isBlank {char : Char} (tight : isBlank char = false) :
    isPadding char = false := by
  simp [isPadding, tight]

theorem dropWhile_isPadding (tight : ∀ char ∈ text, isBlank char = false) :
    text.dropWhile isPadding = text := by
  cases text with
  | nil => rfl
  | cons char rest => simp [isPadding_of_isBlank (tight char List.mem_cons_self)]

/-- Without padding there is nothing that may stand after the body. -/
theorem takeWhile_isBodyChar {core : List Char} (tight : ∀ char ∈ core, isPadding char = false)
    (padded : (core.dropWhile isBodyChar).all isPadding = true) :
    core.takeWhile isBodyChar = core := by
  have nothing : core.dropWhile isBodyChar = [] := by
    cases after : core.dropWhile isBodyChar with
    | nil => rfl
    | cons char rest =>
        have member : char ∈ core := by
          apply (List.dropWhile_suffix isBodyChar).mem
          simp [after]
        simp [after, tight char member] at padded
  rw [← List.append_nil (core.takeWhile isBodyChar), ← nothing, List.takeWhile_append_dropWhile]

/-- Without white space, reading looks at nothing but the sign and the body. -/
theorem read_eq_ok_iff {negative : Bool} {core : List Char}
    (tight : ∀ char ∈ text, isBlank char = false) (signed : splitSign text = (negative, core)) :
    read text = .ok value ↔
      ∃ digits, Grouped core digits ∧ digits.length ≤ digitLimit ∧
        value = if negative then -(ofDigits digits : Int) else ofDigits digits := by
  have inside : ∀ char ∈ core, isPadding char = false := by
    intro char member
    apply isPadding_of_isBlank
    apply tight
    apply mem_of_mem_splitSign
    rw [signed]
    exact member
  simp only [read, dropWhile_isPadding tight, signed]
  constructor
  · intro done
    split at done
    next => cases done
    next body =>
      split at done
      next => cases done
      next short =>
        split at done
        next => cases done
        next padded =>
          have whole := takeWhile_isBodyChar inside (by simpa using padded)
          rw [whole] at body short done
          refine ⟨digitValues core, grouped_of_isBody (by simpa using body), by omega, ?_⟩
          exact (Except.ok.inj done).symm
  · rintro ⟨digits, grouped, short, rfl⟩
    have whole : core.takeWhile isBodyChar = core :=
      List.takeWhile_eq_self_iff.2 grouped.isBodyChar
    have nothing : core.dropWhile isBodyChar = [] :=
      List.dropWhile_eq_nil_iff.2 grouped.isBodyChar
    have notLong : ¬ digitLimit < digits.length := by omega
    simp [whole, nothing, grouped.isBody_eq_true, grouped.digitValues_eq, notLong]

theorem Grouped.splitSign_eq (grouped : Grouped text digits) : splitSign text = (false, text) := by
  rcases grouped.exists_head with ⟨char, rest, digit, rfl, found⟩
  unfold splitSign
  split
  next same =>
    rw [(List.cons.inj same).1, digitValue?_minus] at found
    cases found
  next same =>
    rw [(List.cons.inj same).1, digitValue?_plus] at found
    cases found
  next => rfl

/-- An amount without white space is read exactly as what it stands for. -/
theorem read_eq_ok_iff_amount (tight : ∀ char ∈ text, isBlank char = false) :
    read text = .ok value ↔ Amount text value := by
  constructor
  · intro done
    cases signed : splitSign text with
    | mk negative core =>
        rcases (read_eq_ok_iff tight signed).1 done with ⟨digits, grouped, short, rfl⟩
        rw [ofDigits_eq]
        unfold splitSign at signed
        split at signed
        next =>
          cases signed
          exact .negative grouped short
        next =>
          cases signed
          exact .positive grouped short
        next =>
          cases signed
          exact .unsigned grouped short
  · intro amount
    cases amount with
    | @unsigned _ digits grouped short =>
        rw [← ofDigits_eq]
        exact (read_eq_ok_iff tight grouped.splitSign_eq).2 ⟨digits, grouped, short, rfl⟩
    | @positive _ digits grouped short =>
        rw [← ofDigits_eq]
        exact (read_eq_ok_iff tight rfl).2 ⟨digits, grouped, short, rfl⟩
    | @negative _ digits grouped short =>
        rw [← ofDigits_eq]
        exact (read_eq_ok_iff tight rfl).2 ⟨digits, grouped, short, rfl⟩

/-- A count is read exactly as what it stands for. -/
theorem read_eq_ok_iff_count (present : text ≠ []) (all : ∀ char ∈ text, isDigit char = true) :
    read text = .ok value ↔ Count text value := by
  have tight : ∀ char ∈ text, isBlank char = false := by
    intro char member
    rcases isDigit_eq_true_iff.1 (all char member) with ⟨digit, found⟩
    exact isBlank_of_digitValue? found
  rw [read_eq_ok_iff_amount tight]
  constructor
  · intro amount
    cases amount with
    | @unsigned _ digits grouped short =>
        rcases spells_of_isDigit all with ⟨others, spells⟩
        have same : digits = others :=
          grouped.digitValues_eq.symm.trans (spells.grouped present).digitValues_eq
        subst same
        exact .intro present spells short
    | positive grouped short =>
        have plus := all '+' List.mem_cons_self
        simp [isDigit, digitValue?_plus] at plus
    | negative grouped short =>
        have minus := all '-' List.mem_cons_self
        simp [isDigit, digitValue?_minus] at minus
  · exact Count.unsigned

/-! ## Writing -/

theorem digitValue?_digitChar : ∀ digit < 10, digitValue? (Nat.digitChar digit) = some digit := by
  decide

/-- The digits written for a natural number have it as their value. -/
theorem spells_writeNat (number : Nat) :
    ∃ digits, Spells (writeNat number) digits ∧ Nat.ofDigits 10 digits.reverse = number := by
  induction number using Nat.strongRecOn with
  | ind number ih =>
      rw [writeNat, Nat.toDigits_eq_if (by decide)]
      split
      next small =>
        refine ⟨[number], .cons (digitValue?_digitChar number small) .nil, ?_⟩
        simp
      next large =>
        rcases ih (number / 10) (by omega) with ⟨digits, spells, value⟩
        refine ⟨digits ++ [number % 10], ?_, ?_⟩
        · apply List.rel_append spells
          exact .cons (digitValue?_digitChar _ (by omega)) .nil
        · rw [List.reverse_append, List.reverse_singleton, List.singleton_append,
            Nat.ofDigits_cons, value]
          exact Nat.mod_add_div number 10

theorem writeNat_ne_nil (number : Nat) : writeNat number ≠ [] := by
  rw [writeNat, Nat.toDigits_eq_if (by decide)]
  split
  next => simp
  next => simp

theorem count_writeNat {number : Nat} (short : (writeNat number).length ≤ digitLimit) :
    Count (writeNat number) number := by
  rcases spells_writeNat number with ⟨digits, spells, same⟩
  rw [spells.length_eq] at short
  have count := Count.intro (writeNat_ne_nil number) spells short
  rw [same] at count
  exact count

theorem count_write (nonneg : 0 ≤ value) (short : isShowable value = true) :
    Count (write value) value := by
  rw [isShowable, decide_eq_true_eq] at short
  cases value with
  | ofNat number => exact count_writeNat short
  | negSucc number => exact absurd nonneg (by simp)

theorem amount_write (short : isShowable value = true) : Amount (write value) value := by
  rw [isShowable, decide_eq_true_eq] at short
  cases value with
  | ofNat number => exact (count_writeNat short).unsigned
  | negSucc number => exact (count_writeNat short).negative

theorem isDigit_of_mem_writeNat {char : Char} {number : Nat} (member : char ∈ writeNat number) :
    isDigit char = true := by
  rcases spells_writeNat number with ⟨digits, spells, -⟩
  exact spells.isDigit char member

theorem write_of_nonneg (nonneg : 0 ≤ value) : write value = writeNat value.toNat := by
  cases value with
  | ofNat number => rfl
  | negSucc number => exact absurd nonneg (by simp)

theorem write_ne_nil (value : Int) : write value ≠ [] := by
  cases value with
  | ofNat number => exact writeNat_ne_nil number
  | negSucc number => simp [write]

theorem isDigit_of_mem_write {char : Char} (nonneg : 0 ≤ value) (member : char ∈ write value) :
    isDigit char = true := by
  rw [write_of_nonneg nonneg] at member
  exact isDigit_of_mem_writeNat member

theorem mem_write {char : Char} (member : char ∈ write value) :
    isDigit char = true ∨ char = '-' := by
  cases value with
  | ofNat number => exact .inl (isDigit_of_mem_writeNat member)
  | negSucc number =>
      rw [write, List.mem_cons] at member
      cases member with
      | inl minus => exact .inr minus
      | inr inside => exact .inl (isDigit_of_mem_writeNat inside)

/-- A number that is short enough to be shown is read back from its text. -/
theorem read_write (short : isShowable value = true) : read (write value) = .ok value := by
  rw [read_eq_ok_iff_amount]
  · exact amount_write short
  · intro char member
    cases mem_write member with
    | inl digit =>
        obtain ⟨_, found⟩ := isDigit_eq_true_iff.1 digit
        exact isBlank_of_digitValue? found
    | inr minus =>
        rw [minus]
        rfl

theorem isShowable_iff_lt : isShowable value = true ↔ value.natAbs < 10 ^ digitLimit := by
  rw [isShowable, decide_eq_true_eq, writeNat,
    Nat.length_toDigits_le_iff (by decide) (by decide)]

/-- A one with `digitLimit` zeros is too long to be shown, and so is every longer one. -/
theorem isShowable_pow (zeros : Nat) (long : digitLimit ≤ zeros) :
    isShowable ((10 ^ zeros : Nat) : Int) = false := by
  rw [← Bool.not_eq_true, isShowable_iff_lt, Int.natAbs_natCast, Nat.not_lt]
  exact Nat.pow_le_pow_right (by decide) long

theorem Grouped.lt_ten (grouped : Grouped text digits) : ∀ digit ∈ digits, digit < 10 := by
  induction grouped with
  | last found => simpa using digitValue?_lt_ten found
  | next found rest ih | spaced found rest ih =>
      rw [List.forall_mem_cons]
      exact ⟨digitValue?_lt_ten found, ih⟩

theorem Grouped.ofDigits_lt (grouped : Grouped text digits) (short : digits.length ≤ digitLimit) :
    Nat.ofDigits 10 digits.reverse < 10 ^ digitLimit :=
  calc Nat.ofDigits 10 digits.reverse < 10 ^ digits.reverse.length := by
        apply Nat.ofDigits_lt_base_pow_length (by decide)
        simpa using grouped.lt_ten
    _ = 10 ^ digits.length := by rw [List.length_reverse]
    _ ≤ 10 ^ digitLimit := Nat.pow_le_pow_right (by decide) short

/-- An amount that can be read can be written. -/
theorem Amount.isShowable (amount : Amount text value) : isShowable value = true := by
  rw [isShowable_iff_lt]
  cases amount with
  | unsigned grouped short | positive grouped short =>
      rw [Int.natAbs_natCast]
      exact grouped.ofDigits_lt short
  | negative grouped short =>
      rw [Int.natAbs_neg, Int.natAbs_natCast]
      exact grouped.ofDigits_lt short

theorem Count.isShowable (count : Count text value) : isShowable value = true :=
  count.unsigned.isShowable

end Numeral

end CounterMachine.Text
