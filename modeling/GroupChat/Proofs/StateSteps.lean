/-!
Runs of programs that carry a state and may fail. A run of two programs in turn is ok when both are,
and the second goes on from what the first left. It fails when the first does, or the second after it.
-/
namespace GroupChat

variable {ε σ α β : Type} {state final : σ}

theorem bind_eq_ok {program : EStateM ε σ α} {next : α → EStateM ε σ β} {result : β} :
    (program >>= next) state = .ok result final ↔
      ∃ value middle, program state = .ok value middle ∧ next value middle = .ok result final := by
  simp only [bind, EStateM.bind]
  cases program state <;> simp [and_assoc]

theorem bind_of_ok {program : EStateM ε σ α} {next : α → EStateM ε σ β} {value : α} {middle : σ}
    (ok : program state = .ok value middle) : (program >>= next) state = next value middle := by
  simp only [bind, EStateM.bind, ok]

theorem bind_eq_error {program : EStateM ε σ α} {next : α → EStateM ε σ β} {error : ε} :
    (program >>= next) state = .error error final ↔
      program state = .error error final ∨
        ∃ value middle, program state = .ok value middle ∧
          next value middle = .error error final := by
  simp only [bind, EStateM.bind]
  cases program state <;> simp [and_assoc]

theorem bind_of_error {program : EStateM ε σ α} {next : α → EStateM ε σ β} {error : ε}
    (failed : program state = .error error final) :
    (program >>= next) state = .error error final :=
  bind_eq_error.mpr (.inl failed)

theorem bind_congr_state {program : EStateM ε σ α} {next : α → EStateM ε σ β} {other : σ}
    (same : program state = program other) :
    (program >>= next) state = (program >>= next) other := by
  simp only [bind, EStateM.bind, same]

theorem map_eq_ok {program : EStateM ε σ α} {f : α → β} {result : β} :
    (f <$> program) state = .ok result final ↔
      ∃ value, program state = .ok value final ∧ f value = result := by
  simp only [Functor.map, EStateM.map]
  cases program state <;> simp [and_assoc, and_comm]

theorem map_eq_error {program : EStateM ε σ α} {f : α → β} {error : ε} :
    (f <$> program) state = .error error final ↔ program state = .error error final := by
  simp only [Functor.map, EStateM.map]
  cases program state <;> simp

theorem pure_eq_ok {value result : α} :
    (pure value : EStateM ε σ α) state = .ok result final ↔ value = result ∧ state = final := by
  simp [pure, EStateM.pure]

theorem pure_ne_error {value : α} {error : ε} :
    (pure value : EStateM ε σ α) state ≠ .error error final := by
  intro equal
  have succeeded : EStateM.Result.ok value state = .error error final := equal
  contradiction

theorem throw_ne_ok {error : ε} {result : α} :
    (throw error : EStateM ε σ α) state ≠ .ok result final := by
  intro equal
  have failed : EStateM.Result.error error state = .ok result final := equal
  contradiction

theorem throw_eq_error {thrown error : ε} :
    (throw thrown : EStateM ε σ α) state = .error error final ↔ error = thrown ∧ final = state := by
  have throws : (throw thrown : EStateM ε σ α) state = .error thrown state := rfl
  simp [throws, eq_comm]

theorem exists_eq_ok_iff {program : EStateM ε σ α} :
    (∃ result final, program state = .ok result final) ↔
      ∀ error final, program state ≠ .error error final := by
  cases program state <;> simp

/-- The state in which a program ends, whether or not it fails. -/
def finalState : EStateM.Result ε σ α → σ
  | .ok _ state => state
  | .error _ state => state

def outcome : EStateM.Result ε σ α → Except ε α
  | .ok value _ => .ok value
  | .error error _ => .error error

end GroupChat
