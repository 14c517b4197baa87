import Mathlib
import InertialSensor.Driver.State

/-!
# Triples

`x.Triple P Q E` says how the routine `x` ends when it starts in a state with `P`: with an answer
and a state of which `Q` holds, or with a failure, which happens only if `E`. If `E` is false the
routine succeeds; if it is true, the triple speaks of the runs that succeed.
-/

namespace InertialSensor.Routine

variable {σ α β : Type} {P : Driver σ → Prop} {Q Q' : α → Driver σ → Prop}
  {R : β → Driver σ → Prop} {E E' : Prop}

/-- From a state with `P` the routine ends with `Q`, or fails and `E` holds. -/
def Triple (P : Driver σ → Prop) (x : Routine σ α) (Q : α → Driver σ → Prop) (E : Prop) : Prop :=
  ∀ d, P d → match x d with
    | (.ok a, d') => Q a d'
    | (.error _, _) => E

namespace Triple

lemma look : Triple P look (fun _ => P) E := fun _ h => h

lemma fail (e : Failure) (h : E) : Triple P (fail e) Q E := fun _ _ => h

lemma update {f : Driver σ → Driver σ} {Q : Driver σ → Prop} (h : ∀ d, P d → Q (f d)) :
    Triple P (update f) (fun _ => Q) E := h

lemma bind {x : Routine σ α} {f : α → Routine σ β} (hx : Triple P x Q E)
    (hf : ∀ a, Triple (Q a) (f a) R E) : Triple P (x >>= f) R E := by
  intro d h
  have first := hx d h
  rw [bind_apply]
  generalize x d = r at first ⊢
  obtain ⟨_ | a, between⟩ := r
  · exact first
  · exact hf a between first

/-- An attempt goes on after a failure, of which nothing is known. -/
lemma attempt {x : Routine σ α} (hx : Triple P x Q E) :
    Triple P (attempt x) (fun r d => ∀ a, r = .ok a → Q a d) E' := by
  intro d h
  have done := hx d h
  rw [attempt_apply]
  generalize x d = r at done ⊢
  obtain ⟨_ | a, d'⟩ := r
  · exact nofun
  · rintro _ ⟨⟩
    exact done

lemma mono {x : Routine σ α} {P' : Driver σ → Prop} (hx : Triple P x Q E) (start : ∀ d, P' d → P d)
    (stop : ∀ a d, Q a d → Q' a d) : Triple P' x Q' E := by
  intro d h
  have done := hx d (start d h)
  generalize x d = r at done ⊢
  obtain ⟨_ | a, d'⟩ := r
  · exact done
  · exact stop a d' done

lemma and {x : Routine σ α} (hx : Triple P x Q E) (hx' : Triple P x Q' E') :
    Triple P x (fun a d => Q a d ∧ Q' a d) E := by
  intro d h
  have done := hx d h
  have done' := hx' d h
  generalize x d = r at done done' ⊢
  obtain ⟨_ | a, d'⟩ := r
  · exact done
  · exact ⟨done, done'⟩

/-- What holds after a success. -/
lemma of_ok {x : Routine σ α} {d : Driver σ} {a : α} (hx : Triple P x Q E) (h : P d)
    (succeeds : (x d).1 = .ok a) : Q a (x d).2 := by
  have done := hx d h
  generalize x d = r at done succeeds ⊢
  obtain ⟨_ | _, _⟩ := r
  · cases succeeds
  · cases succeeds
    exact done

/-- A routine that cannot fail succeeds. -/
lemma succeeds {x : Routine σ α} {d : Driver σ} (hx : Triple P x Q False) (h : P d) :
    ∃ a, (x d).1 = .ok a ∧ Q a (x d).2 := by
  have done := hx d h
  generalize x d = r at done ⊢
  obtain ⟨_ | a, _⟩ := r
  · exact done.elim
  · exact ⟨a, rfl, done⟩

end Triple

end InertialSensor.Routine
