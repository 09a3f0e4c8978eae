import Mathlib.Data.List.Forall2

/-!
# Computations that may fail

When a computation that is put together from others returns, and when it fails and how.
-/

namespace CounterMachine

variable {ε δ α β : Type}

theorem bind_eq_ok_iff {first : Except ε α} {next : α → Except ε β} {result : β} :
    first >>= next = .ok result ↔ ∃ value, first = .ok value ∧ next value = .ok result := by
  cases first with
  | error error => simp [bind, Except.bind]
  | ok value => simp [bind, Except.bind]

theorem bind_eq_error_iff {first : Except ε α} {next : α → Except ε β} {error : ε} :
    first >>= next = .error error ↔
      first = .error error ∨ ∃ value, first = .ok value ∧ next value = .error error := by
  cases first with
  | error error => simp [bind, Except.bind]
  | ok value => simp [bind, Except.bind]

theorem mapError_eq_ok_iff {computation : Except ε α} {change : ε → δ} {result : α} :
    computation.mapError change = .ok result ↔ computation = .ok result := by
  cases computation with
  | error error => simp [Except.mapError]
  | ok value => simp [Except.mapError]

theorem mapError_eq_error_iff {computation : Except ε α} {change : ε → δ} {error : δ} :
    computation.mapError change = .error error ↔
      ∃ cause, computation = .error cause ∧ change cause = error := by
  cases computation with
  | error cause => simp [Except.mapError]
  | ok value => simp [Except.mapError]

/-- Errors may be changed at each stage of a computation. -/
theorem mapError_bind {first : Except ε α} {next : α → Except ε β} {change : ε → δ} :
    (first >>= next).mapError change =
      first.mapError change >>= fun value => (next value).mapError change := by
  cases first with
  | error error => rfl
  | ok value => rfl

theorem mapM_eq_ok_iff {compute : α → Except ε β} {inputs : List α} {results : List β} :
    inputs.mapM compute = .ok results ↔
      List.Forall₂ (fun input result => compute input = .ok result) inputs results := by
  induction inputs generalizing results with
  | nil => simp [pure, Except.pure, eq_comm]
  | cons input inputs ih =>
      simp only [List.mapM_cons, bind_eq_ok_iff, ih, List.forall₂_cons_left_iff]
      constructor
      · rintro ⟨result, first, others, rest, same⟩
        exact ⟨result, others, first, rest, (Except.ok.inj same).symm⟩
      · rintro ⟨result, others, first, rest, rfl⟩
        exact ⟨result, first, others, rest, rfl⟩

end CounterMachine
