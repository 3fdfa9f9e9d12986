import InstanceScripts.Retry
import Mathlib.Logic.Function.Iterate
import Mathlib.Order.Bounds.Defs

/-!
# How often an operation is attempted

The state in which an operation is first called fixes what each further call would give.  A
retried operation is called up to the first outcome that ends the loop, and gives that one;
between two calls there is one pause, and behind the last call there is none.

The loop counts its attempts in 32 bits.  A loop that gives up when the count overflows never
does so.
-/

namespace InstanceScripts
namespace Retry

variable {σ ε α : Type}

/-! ## Calls one after the other -/

/-- The state that so many calls of an operation leave behind. -/
def stateAfter (operation : σ → Except ε α × σ) (calls : Nat) (state : σ) : σ :=
  (fun state => (operation state).2)^[calls] state

/-- What a call gives; the first one has number one. -/
def outcomeOf (operation : σ → Except ε α × σ) (state : σ) (call : Nat) : Except ε α :=
  (operation (stateAfter operation (call - 1) state)).1

@[simp] theorem stateAfter_zero (operation : σ → Except ε α × σ) (state : σ) :
    stateAfter operation 0 state = state := rfl

theorem stateAfter_succ (operation : σ → Except ε α × σ) (calls : Nat) (state : σ) :
    stateAfter operation (calls + 1) state =
      stateAfter operation calls (operation state).2 :=
  Function.iterate_succ_apply _ calls state

theorem stateAfter_succ_apply (operation : σ → Except ε α × σ) (calls : Nat) (state : σ) :
    stateAfter operation (calls + 1) state = (operation (stateAfter operation calls state)).2 :=
  Function.iterate_succ_apply' _ calls state

/-- Another attempt is worth making after an outcome. -/
def CanRetry (retryable : ε → Bool) (outcome : Except ε α) : Prop :=
  ∃ error, outcome = .error error ∧ retryable error = true

theorem canRetry_error_iff {retryable : ε → Bool} {error : ε} :
    CanRetry retryable (.error error : Except ε α) ↔ retryable error = true := by
  constructor
  · rintro ⟨_, same, again⟩
    cases same
    exact again
  · intro again
    exact ⟨error, rfl, again⟩

/-- No other attempt follows an outcome that is a value or an error that cannot be
retried. -/
theorem not_canRetry_iff {retryable : ε → Bool} {outcome : Except ε α} :
    ¬CanRetry retryable outcome ↔
      (∃ value, outcome = .ok value) ∨
        ∃ error, outcome = .error error ∧ retryable error = false := by
  cases outcome with
  | ok value => simp [CanRetry]
  | error error => simp [canRetry_error_iff]

/-! ## The timeline -/

namespace Policy

/-- So many failed attempts, each with the pause behind it, and a last attempt. -/
def timelineOf (policy : Policy) (failed : Nat) : List Moment :=
  (List.replicate failed [.attempt, .pause policy.pauseMillis]).flatten ++ [.attempt]

theorem timelineOf_succ (policy : Policy) (failed : Nat) :
    policy.timelineOf (failed + 1) =
      .attempt :: .pause policy.pauseMillis :: policy.timelineOf failed := by
  simp [timelineOf, List.replicate_succ]

theorem count_timelineOf (policy : Policy) (failed : Nat) :
    (policy.timelineOf failed).count .attempt = failed + 1 := by
  induction failed with
  | zero => rfl
  | succ failed inductionHypothesis =>
      rw [timelineOf_succ, List.count_cons_self, List.count_cons_of_ne (by simp),
        inductionHypothesis]

/-! ## The attempts that are made -/

/-- A first outcome after which no attempt is worth making is the outcome. -/
theorem attempt_final
    (policy : Policy) {retryable : ε → Bool} {operation : σ → Except ε α × σ} {state : σ}
    (final : ¬CanRetry retryable (operation state).1) (more : Nat) :
    policy.attempt retryable operation more state =
      ⟨(operation state).1, (operation state).2, [.attempt]⟩ := by
  rcases attempted : operation state with ⟨outcome, after⟩
  rw [attempted] at final
  cases more with
  | zero => simp only [attempt, attempted]
  | succ more =>
      cases outcome with
      | ok value => simp only [attempt, attempted]
      | error error =>
          have once : ¬retryable error = true := fun again => final (canRetry_error_iff.mpr again)
          simp only [attempt, attempted, if_neg once]

/-- After a first outcome that can be retried, the other attempts follow a pause. -/
theorem attempt_again
    (policy : Policy) {retryable : ε → Bool} {operation : σ → Except ε α × σ} {state : σ}
    (again : CanRetry retryable (operation state).1) (more : Nat) :
    policy.attempt retryable operation (more + 1) state =
      let rest := policy.attempt retryable operation more (operation state).2
      { rest with timeline := .attempt :: .pause policy.pauseMillis :: rest.timeline } := by
  rcases attempted : operation state with ⟨outcome, after⟩
  obtain ⟨error, failed, again⟩ := again
  rw [attempted] at failed
  subst failed
  simp only [attempt, attempted, if_pos again]

/-- The attempts made are those up to the first one that ends the loop. -/
theorem attempt_exact
    (policy : Policy) (retryable : ε → Bool) (operation : σ → Except ε α × σ)
    (more : Nat) (state : σ) :
    ∃ failed ≤ more,
      (∀ earlier < failed, CanRetry retryable (outcomeOf operation state (earlier + 1))) ∧
      (CanRetry retryable (outcomeOf operation state (failed + 1)) → failed = more) ∧
      policy.attempt retryable operation more state =
        ⟨outcomeOf operation state (failed + 1), stateAfter operation (failed + 1) state,
          policy.timelineOf failed⟩ := by
  induction more generalizing state with
  | zero => exact ⟨0, Nat.le_refl 0, by simp, fun _ => rfl, rfl⟩
  | succ more inductionHypothesis =>
      by_cases again : CanRetry retryable (operation state).1
      · obtain ⟨failed, bounded, earlier, last, run_eq⟩ := inductionHypothesis (operation state).2
        have shifted (call : Nat) :
            outcomeOf operation state (call + 2) =
              outcomeOf operation (operation state).2 (call + 1) := by
          unfold outcomeOf
          rw [Nat.add_sub_cancel, ← stateAfter_succ]
          rfl
        refine ⟨failed + 1, Nat.succ_le_succ bounded, ?_, ?_, ?_⟩
        · intro call before
          cases call with
          | zero => exact again
          | succ call =>
              rw [shifted]
              exact earlier call (Nat.lt_of_succ_lt_succ before)
        · intro retried
          rw [shifted] at retried
          rw [last retried]
        · rw [attempt_again policy again, run_eq, timelineOf_succ, shifted,
            stateAfter_succ operation (failed + 1)]
      · refine ⟨0, Nat.zero_le _, by simp, fun retried => absurd retried again, ?_⟩
        exact attempt_final policy again (more + 1)

/-- A retried operation is called so often.  Every call but the last fails in a way that can be
retried, and the last one gives the outcome; if that can be retried too, the budget is spent. -/
structure MakesCalls (policy : Policy) (retryable : ε → Bool) (operation : σ → Except ε α × σ)
    (state : σ) (calls : Nat) (outcome : Except ε α) : Prop where
  attempts : (policy.run retryable operation state).attempts = calls
  earlier : ∀ call, 1 ≤ call → call < calls → CanRetry retryable (outcomeOf operation state call)
  last : outcomeOf operation state calls = outcome
  allowed : 1 ≤ calls ∧ calls ≤ max policy.attempts.toNat 1
  spent : CanRetry retryable outcome → calls = max policy.attempts.toNat 1

/-- The last call finds the state that the others leave behind. -/
theorem MakesCalls.ends {policy : Policy} {retryable : ε → Bool} {operation : σ → Except ε α × σ}
    {state : σ} {calls : Nat} {outcome : Except ε α}
    (made : policy.MakesCalls retryable operation state calls outcome) :
    operation (stateAfter operation (calls - 1) state) =
      (outcome, stateAfter operation calls state) := by
  apply Prod.ext
  · exact made.last
  · rw [← stateAfter_succ_apply, Nat.sub_add_cancel made.allowed.1]

theorem run_makesCalls
    (policy : Policy) (retryable : ε → Bool) (operation : σ → Except ε α × σ) (state : σ) :
    ∃ calls,
      policy.MakesCalls retryable operation state calls
        (policy.run retryable operation state).outcome ∧
      (policy.run retryable operation state).state = stateAfter operation calls state := by
  have positive : 1 ≤ policy.budget := one_le_budget policy
  obtain ⟨failed, bounded, earlier, last, run_eq⟩ :=
    policy.attempt_exact retryable operation (policy.budget - 1) state
  change policy.run retryable operation state = _ at run_eq
  refine ⟨failed + 1, ⟨?_, ?_, by rw [run_eq], ⟨Nat.le_add_left 1 failed, ?_⟩, ?_⟩, by rw [run_eq]⟩
  · rw [run_eq]
    exact policy.count_timelineOf failed
  · intro call first before
    have again := earlier (call - 1) (by omega)
    rwa [Nat.sub_add_cancel first] at again
  · change failed + 1 ≤ policy.budget
    omega
  · rw [run_eq]
    intro again
    have all : failed = policy.budget - 1 := last again
    change failed + 1 = policy.budget
    omega

/-! ## The counter -/

/-- The number of attempts allowed, in the 32 bits in which they are counted. -/
def limit (policy : Policy) : UInt32 :=
  if policy.attempts = 0 then 1 else policy.attempts

theorem toNat_limit (policy : Policy) : policy.limit.toNat = policy.budget := by
  unfold limit budget
  by_cases none : policy.attempts = 0
  · rw [if_pos none, none]
    rfl
  · have some : policy.attempts.toNat ≠ 0 := fun zero => none (UInt32.toNat_inj.mp zero)
    rw [if_neg none]
    omega

/-- The next number, if 32 bits can hold it. -/
def next? (number : UInt32) : Option UInt32 :=
  if number.toNat + 1 < UInt32.size then some (number + 1) else none

theorem next?_of_lt {number bound : UInt32} (below : number < bound) :
    next? number = some (number + 1) ∧ (number + 1).toNat = number.toNat + 1 := by
  have bounded : number.toNat < bound.toNat := UInt32.lt_iff_toNat_lt.mp below
  have size : bound.toNat < UInt32.size := bound.toNat_lt
  constructor
  · rw [next?, if_pos (by omega)]
  · rw [UInt32.toNat_add]
    exact Nat.mod_eq_of_lt (by simp only [UInt32.size] at size; simpa using by omega)

/-- The loop with its counter: `number` is that of the attempt to be made.  There is no run if
the count overflows. -/
def counted (policy : Policy) (retryable : ε → Bool) (operation : σ → Except ε α × σ)
    (number : UInt32) (state : σ) : Option (Run σ ε α) :=
  match operation state with
  | (.ok value, state) => some ⟨.ok value, state, [.attempt]⟩
  | (.error error, state) =>
      if _ : retryable error = true ∧ number < policy.limit then
        match _ : next? number with
        | none => none
        | some next =>
            (counted policy retryable operation next state).map fun rest =>
              { rest with timeline := .attempt :: .pause policy.pauseMillis :: rest.timeline }
      else some ⟨.error error, state, [.attempt]⟩
termination_by policy.limit.toNat - number.toNat
decreasing_by
  have allowed : number < policy.limit := ‹retryable error = true ∧ number < policy.limit›.2
  have numbered : next? number = some next := ‹_›
  obtain ⟨followed, increased⟩ := next?_of_lt allowed
  rw [followed] at numbered
  cases numbered
  rw [increased]
  rw [UInt32.lt_iff_toNat_lt] at allowed
  omega

/-- The loop ends when no attempt is worth making, and when none is left. -/
theorem counted_ends
    (policy : Policy) {retryable : ε → Bool} {operation : σ → Except ε α × σ}
    {number : UInt32} {state : σ}
    (ends : CanRetry retryable (operation state).1 → ¬number < policy.limit) :
    policy.counted retryable operation number state =
      some ⟨(operation state).1, (operation state).2, [.attempt]⟩ := by
  rw [counted]
  rcases attempted : operation state with ⟨outcome, after⟩
  rw [attempted] at ends
  cases outcome with
  | ok value => rfl
  | error error => exact dif_neg fun again => ends (canRetry_error_iff.mpr again.1) again.2

/-- The loop goes on behind a pause, with the next number. -/
theorem counted_again
    (policy : Policy) {retryable : ε → Bool} {operation : σ → Except ε α × σ}
    {number : UInt32} {state : σ} (again : CanRetry retryable (operation state).1)
    (below : number < policy.limit) :
    policy.counted retryable operation number state =
      (policy.counted retryable operation (number + 1) (operation state).2).map fun rest =>
        { rest with timeline := .attempt :: .pause policy.pauseMillis :: rest.timeline } := by
  obtain ⟨followed, _⟩ := next?_of_lt below
  obtain ⟨error, failed, again⟩ := again
  rw [counted]
  rcases attempted : operation state with ⟨outcome, after⟩
  rw [attempted] at failed
  subst failed
  dsimp only
  rw [dif_pos ⟨again, below⟩]
  split
  · next missing =>
      rw [followed] at missing
      cases missing
  · next next found =>
      rw [followed] at found
      cases found
      rfl

/-- The count never overflows, so counting changes nothing. -/
theorem counted_eq
    (policy : Policy) (retryable : ε → Bool) (operation : σ → Except ε α × σ)
    {more : Nat} {number : UInt32} (left : number.toNat + more = policy.limit.toNat)
    (state : σ) :
    policy.counted retryable operation number state =
      some (policy.attempt retryable operation more state) := by
  induction more generalizing number state with
  | zero =>
      have spent : ¬number < policy.limit := by
        rw [UInt32.lt_iff_toNat_lt]
        omega
      exact policy.counted_ends fun _ => spent
  | succ more inductionHypothesis =>
      by_cases again : CanRetry retryable (operation state).1
      · have below : number < policy.limit := by
          rw [UInt32.lt_iff_toNat_lt]
          omega
        have increased := (next?_of_lt below).2
        rw [counted_again policy again below, attempt_again policy again,
          inductionHypothesis (by omega)]
        rfl
      · rw [attempt_final policy again]
        exact policy.counted_ends fun retried => absurd retried again

/-- Whatever the policy, the errors that can be retried and the outcomes are, an operation is
called up to the first outcome that is a value, an error that cannot be retried, or the last
one that the budget allows.  It gives that outcome, and pauses exactly between two calls; the
count of its attempts never overflows. -/
theorem run_exact
    (policy : Policy) (retryable : ε → Bool) (operation : σ → Except ε α × σ) (state : σ) :
    ∃ calls,
      IsLeast {call | 1 ≤ call ∧
        ((∃ value, outcomeOf operation state call = .ok value) ∨
          (∃ error, outcomeOf operation state call = .error error ∧
            retryable error = false) ∨
          call = max policy.attempts.toNat 1)} calls ∧
      (policy.run retryable operation state).outcome = outcomeOf operation state calls ∧
      (policy.run retryable operation state).state = stateAfter operation calls state ∧
      (policy.run retryable operation state).attempts = calls ∧
      (policy.run retryable operation state).timeline =
        (List.replicate (calls - 1) [.attempt, .pause policy.pauseMillis]).flatten ++
          [.attempt] ∧
      policy.counted retryable operation 1 state = some (policy.run retryable operation state) := by
  have positive : 1 ≤ policy.budget := one_le_budget policy
  obtain ⟨failed, bounded, earlier, last, run_eq⟩ :=
    policy.attempt_exact retryable operation (policy.budget - 1) state
  change policy.run retryable operation state = _ at run_eq
  refine ⟨failed + 1, ⟨⟨Nat.le_add_left 1 failed, ?_⟩, ?_⟩, by rw [run_eq], by rw [run_eq], ?_,
    by rw [run_eq]; rfl, ?_⟩
  · by_cases again : CanRetry retryable (outcomeOf operation state (failed + 1))
    · have all : failed = policy.budget - 1 := last again
      exact .inr (.inr (by change failed + 1 = policy.budget; omega))
    · rcases not_canRetry_iff.mp again with value | error
      · exact .inl value
      · exact .inr (.inl error)
  · rintro call ⟨first, ends⟩
    by_contra fewer
    have before : call - 1 < failed := by omega
    have again := earlier (call - 1) before
    rw [Nat.sub_add_cancel first] at again
    rcases ends with value | error | spent
    · exact not_canRetry_iff.mpr (.inl value) again
    · exact not_canRetry_iff.mpr (.inr error) again
    · change call = policy.budget at spent
      omega
  · rw [run_eq]
    exact policy.count_timelineOf failed
  · refine policy.counted_eq retryable operation ?_ state
    rw [toNat_limit]
    change 1 + (policy.budget - 1) = policy.budget
    omega

end Policy
end Retry
end InstanceScripts
