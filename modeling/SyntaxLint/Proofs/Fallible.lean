import Mathlib

/-!
# Computations that may fail

Readers and the typing of trees run in `Except`: the first error ends them.  Two questions are asked
of such a computation.  Which error does it end with?  `errorOf` takes the error out, and if the
parts of a computation fail independently of what the others return, the first of their errors
counts (`errorOf_bind`).  And what is known if it ends well?  Then each of its parts has ended well
(`exists_of_bind_eq_ok`), and what every step of a loop preserves holds at its end
(`foldlM_invariant`).
-/

namespace SyntaxLint

variable {ε α β σ : Type}

/-! ## Errors -/

/-- The error of a computation, if it ends with one. -/
def errorOf : Except ε α → Option ε
  | .error error => some error
  | .ok _ => none

lemma errorOf_eq_some_iff {result : Except ε α} {error : ε} :
    errorOf result = some error ↔ result = .error error := by
  cases result <;> simp [errorOf]

lemma errorOf_eq_none_iff {result : Except ε α} :
    errorOf result = none ↔ ∃ value, result = .ok value := by
  cases result <;> simp [errorOf]

/-- If what comes after a computation fails in the same way whatever the computation returns, then
the first error is that of the computation or else that one. -/
lemma errorOf_bind {result : Except ε α} {next : α → Except ε β} {after : Option ε}
    (h : ∀ value, errorOf (next value) = after) :
    errorOf (result >>= next) = (errorOf result).or after := by
  cases result with
  | error error => rfl
  | ok value => exact h value

/-- A computation that ends by putting its value into some form has no error of its own there. -/
lemma errorOf_bind_pure (result : Except ε α) (form : α → β) :
    errorOf (result >>= fun value => pure (form value)) = errorOf result := by
  cases result <;> rfl

/-! ## Success -/

lemma throw_ne_ok {error : ε} {value : α} : (throw error : Except ε α) ≠ .ok value := by
  simp [throw, throwThe, MonadExceptOf.throw]

lemma exists_of_bind_eq_ok {result : Except ε α} {next : α → Except ε β} {value : β}
    (h : (result >>= next) = .ok value) : ∃ first, result = .ok first ∧ next first = .ok value := by
  cases result with
  | error error => exact absurd h (by simp [bind, Except.bind])
  | ok first => exact ⟨first, rfl, h⟩

lemma exists_of_map_eq_ok {result : Except ε α} {f : α → β} {value : β}
    (h : result.map f = .ok value) : ∃ first, result = .ok first ∧ f first = value := by
  cases result with
  | error error => exact absurd h (by simp [Except.map])
  | ok first => exact ⟨first, rfl, Except.ok.inj h⟩

lemma eq_ok_of_mapError_eq_ok {result : Except ε α} {f : ε → σ} {value : α}
    (h : result.mapError f = .ok value) : result = .ok value := by
  cases result with
  | error error => exact absurd h (by simp [Except.mapError])
  | ok first => rw [Except.ok.inj h]

/-- What holds of the start of a loop and is preserved by each of its steps holds at its end.  The
invariant may speak of the items that were taken so far. -/
lemma foldlM_invariant {step : σ → α → Except ε σ} {start last : σ} {items : List α}
    (Inv : List α → σ → Prop) (hstart : Inv [] start)
    (hstep : ∀ done state item next, Inv done state → step state item = .ok next →
      Inv (done ++ [item]) next)
    (h : items.foldlM step start = .ok last) : Inv items last := by
  suffices ∀ done state, Inv done state → items.foldlM step state = .ok last →
      Inv (done ++ items) last from this [] start hstart h
  clear hstart h
  induction items with
  | nil =>
    intro done state hstate h
    rw [List.append_nil, ← Except.ok.inj h]
    exact hstate
  | cons item items ih =>
    intro done state hstate h
    rw [List.foldlM_cons] at h
    obtain ⟨next, hnext, hrest⟩ := exists_of_bind_eq_ok h
    have hdone := ih (done ++ [item]) next (hstep done state item next hstate hnext) hrest
    rwa [List.append_assoc] at hdone

end SyntaxLint
