import InstanceScripts.Proofs.Retry.Exact

/-!
# The retry loop

A retried operation is a loop: whatever holds before the first attempt and survives
every failed one still holds before the last, and the outcome is that of the last
attempt.
-/

namespace InstanceScripts
namespace Retry
namespace Policy

variable {σ ε α : Type}

/-- What holds of the state after every number of failed attempts holds before the last
one, which gives the outcome.  Only an error that cannot be retried leaves attempts
unused. -/
theorem attempt_ends
    (policy : Policy) (retryable : ε → Bool) (operation : σ → Except ε α × σ)
    {holds : Nat → σ → Prop}
    (kept : ∀ count before error after, holds count before →
      operation before = (.error error, after) → retryable error → holds (count + 1) after)
    (more : Nat) (state : σ) (begun : holds 0 state) :
    ∃ count last, count ≤ more ∧ holds count last ∧
      operation last =
        ((policy.attempt retryable operation more state).outcome,
          (policy.attempt retryable operation more state).state) ∧
      ∀ error, (policy.attempt retryable operation more state).outcome = .error error →
        retryable error → count = more := by
  obtain ⟨failed, bounded, earlier, last, attempt_eq⟩ :=
    policy.attempt_exact retryable operation more state
  have held (count : Nat) (before : count ≤ failed) :
      holds count (stateAfter operation count state) := by
    induction count with
    | zero => exact begun
    | succ count inductionHypothesis =>
        obtain ⟨error, attempted, again⟩ := earlier count before
        rw [stateAfter_succ_apply]
        exact kept count _ error _ (inductionHypothesis (Nat.le_of_succ_le before))
          (Prod.ext attempted rfl) again
  refine ⟨failed, stateAfter operation failed state, bounded, held failed (Nat.le_refl failed),
    ?_, ?_⟩
  · rw [attempt_eq, stateAfter_succ_apply]
    rfl
  · intro error ends retried
    rw [attempt_eq] at ends
    exact last ⟨error, ends, retried⟩

/-- The loop rule for a whole run: fewer attempts than the budget fail before the last
one. -/
theorem run_ends
    (policy : Policy) (retryable : ε → Bool) (operation : σ → Except ε α × σ)
    (holds : Nat → σ → Prop)
    (kept : ∀ count before error after, holds count before →
      operation before = (.error error, after) → retryable error → holds (count + 1) after)
    (state : σ) (begun : holds 0 state) :
    ∃ count last, count < policy.budget ∧ holds count last ∧
      operation last =
        ((policy.run retryable operation state).outcome,
          (policy.run retryable operation state).state) ∧
      ∀ error, (policy.run retryable operation state).outcome = .error error →
        retryable error → count + 1 = policy.budget := by
  have positive : 1 ≤ policy.budget := one_le_budget policy
  obtain ⟨count, last, bounded, held, ends, exhausted⟩ :=
    attempt_ends policy retryable operation kept (policy.budget - 1) state begun
  refine ⟨count, last, by omega, held, ends, ?_⟩
  intro error failed retried
  have all : count = policy.budget - 1 := exhausted error failed retried
  omega

/-- A first attempt that succeeds is the only one. -/
theorem run_ok
    (policy : Policy) (retryable : ε → Bool) (operation : σ → Except ε α × σ)
    {state after : σ} {value : α} (done : operation state = (.ok value, after)) :
    policy.run retryable operation state = ⟨.ok value, after, [.attempt]⟩ := by
  have final : ¬CanRetry retryable (operation state).1 := by
    rw [done]
    exact not_canRetry_iff.mpr (.inl ⟨value, rfl⟩)
  rw [run, attempt_final policy final, done]

section Related

variable {τ β : Type} {left : σ → Except ε α × σ} {right : τ → Except ε β × τ}

/-- Two operations end alike: both fail with the same error in related states, or both succeed
with values that belong together. -/
inductive EndsAlike (related : σ → τ → Prop) (together : α → σ → β → τ → Prop) :
    Except ε α × σ → Except ε β × τ → Prop
  | failed (error : ε) {state : σ} {other : τ} (same : related state other) :
      EndsAlike related together (.error error, state) (.error error, other)
  | done {value : α} {state : σ} {another : β} {other : τ}
      (both : together value state another other) :
      EndsAlike related together (.ok value, state) (.ok another, other)

/-- Two operations that end alike in related states do so however often they are
attempted. -/
theorem attempt_endsAlike
    (policy : Policy) (retryable : ε → Bool) {related : σ → τ → Prop}
    {together : α → σ → β → τ → Prop}
    (kept : ∀ state other, related state other →
      EndsAlike related together (left state) (right other))
    (more : Nat) {state : σ} {other : τ} (begun : related state other) :
    EndsAlike related together
      ((policy.attempt retryable left more state).outcome,
        (policy.attempt retryable left more state).state)
      ((policy.attempt retryable right more other).outcome,
        (policy.attempt retryable right more other).state) := by
  induction more generalizing state other with
  | zero => exact kept state other begun
  | succ more inductionHypothesis =>
      have once := kept state other begun
      simp only [attempt]
      revert once
      rcases left state with ⟨outcome, after⟩
      rcases right other with ⟨another, otherAfter⟩
      intro once
      cases once with
      | done both => exact .done both
      | failed error same =>
          by_cases again : retryable error
          · simpa [again] using inductionHypothesis same
          · simpa [again] using EndsAlike.failed error same

theorem run_endsAlike
    (policy : Policy) (retryable : ε → Bool) {related : σ → τ → Prop}
    {together : α → σ → β → τ → Prop}
    (kept : ∀ state other, related state other →
      EndsAlike related together (left state) (right other))
    {state : σ} {other : τ} (begun : related state other) :
    EndsAlike related together
      ((policy.run retryable left state).outcome, (policy.run retryable left state).state)
      ((policy.run retryable right other).outcome, (policy.run retryable right other).state) :=
  attempt_endsAlike policy retryable kept (policy.budget - 1) begun

end Related

/-- Two operations that give the same in related states, and leave related states behind, do so
however often they are attempted. -/
theorem run_related
    {τ : Type} {left : σ → Except ε α × σ} {right : τ → Except ε α × τ}
    (policy : Policy) (retryable : ε → Bool) (related : σ → τ → Prop)
    (preserved : ∀ state other, related state other →
      (left state).1 = (right other).1 ∧ related (left state).2 (right other).2)
    {state : σ} {other : τ} (begun : related state other) :
    (policy.run retryable left state).outcome = (policy.run retryable right other).outcome ∧
      related (policy.run retryable left state).state (policy.run retryable right other).state := by
  have kept (state : σ) (other : τ) (begun : related state other) :
      EndsAlike related (fun value state another other => value = another ∧ related state other)
        (left state) (right other) := by
    have once := preserved state other begun
    revert once
    rcases left state with ⟨outcome, after⟩
    rcases right other with ⟨same, otherAfter⟩
    rintro ⟨rfl, next⟩
    cases outcome with
    | ok value => exact .done ⟨rfl, next⟩
    | error error => exact .failed error next
  have ended := policy.run_endsAlike retryable kept begun
  revert ended
  generalize (policy.run retryable left state).outcome = outcome
  generalize (policy.run retryable right other).outcome = another
  intro ended
  cases ended with
  | failed error same => exact ⟨rfl, same⟩
  | done both => exact ⟨congrArg Except.ok both.1, both.2⟩

/-- A policy of one attempt gives what that attempt gives. -/
theorem run_single (retryable : ε → Bool) (operation : σ → Except ε α × σ) (state : σ) :
    single.run retryable operation state =
      ⟨(operation state).1, (operation state).2, [.attempt]⟩ := rfl

end Policy
end Retry
end InstanceScripts
