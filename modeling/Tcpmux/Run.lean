import Tcpmux.Frame

/-!
# Runs of goroutines

The teardown and listener models are step functions over a shared state in which each event
is one atomic statement of one goroutine, and a statement that cannot run yet (a send on a
full channel, a receive on an empty one, the second step of a goroutine that has not made its
first) is refused.  `Reachable` is every state an interleaving reaches, with what its steps
emitted, and `runSteps` runs a given interleaving; `Reachable.inv` is the induction every
invariant of those models goes through.
-/

namespace Toh

section

variable {σ ε ω : Type} (step : σ → ε → Option (σ × Option ω))

/-- The states reachable from `init`, with what the steps emitted so far. -/
inductive Reachable (init : σ) : σ → List ω → Prop where
  | init : Reachable init init []
  | step {s s' : σ} {L : List ω} {o : Option ω} (e : ε) :
      Reachable init s L → step s e = some (s', o) → Reachable init s' (L ++ o.toList)

/-- A run of the events `es`: `none` when one of them is refused. -/
def runSteps : σ → List ε → Option (σ × List ω)
  | s, [] => some (s, [])
  | s, e :: es =>
    (step s e).bind fun p => (runSteps p.1 es).map fun q => (q.1, p.2.toList ++ q.2)

variable {step}

/-- An invariant of states and what was emitted that holds initially and that every step
keeps holds of every reachable state. -/
theorem Reachable.inv {P : σ → List ω → Prop} {init s : σ} {L : List ω}
    (h : Reachable step init s L) (h0 : P init [])
    (hs : ∀ s L e s' o, P s L → step s e = some (s', o) → P s' (L ++ o.toList)) : P s L := by
  induction h with
  | init => exact h0
  | step e _ he ih => exact hs _ _ e _ _ ih he

theorem runSteps_cons {s s' : σ} {e : ε} {es : List ε} {L : List ω} :
    runSteps step s (e :: es) = some (s', L) ↔
      ∃ s₁ o L', step s e = some (s₁, o) ∧ runSteps step s₁ es = some (s', L') ∧
        L = o.toList ++ L' := by
  simp only [runSteps, Option.bind_eq_some, Option.map_eq_some', Prod.exists, Prod.mk.injEq]
  constructor
  · rintro ⟨s₁, o, he, s'', L', hr, rfl, rfl⟩
    exact ⟨s₁, o, L', he, hr, rfl⟩
  · rintro ⟨s₁, o, L', he, hr, rfl⟩
    exact ⟨s₁, o, he, s', L', hr, rfl, rfl⟩

/-- A run from a reachable state ends in a reachable state. -/
theorem Reachable.runSteps {init s s' : σ} {L L' : List ω} (h : Reachable step init s L)
    (es : List ε) (hr : runSteps step s es = some (s', L')) : Reachable step init s' (L ++ L') := by
  induction es generalizing s L s' L' with
  | nil =>
    simp only [Toh.runSteps, Option.some.injEq, Prod.mk.injEq] at hr
    obtain ⟨rfl, rfl⟩ := hr
    simpa using h
  | cons e es ih =>
    obtain ⟨s₁, o, L₁, he, hr₁, rfl⟩ := runSteps_cons.1 hr
    simpa using ih (h.step e he) hr₁

end

end Toh
