import Inspector.Dialogue

/-!
Runs of dialogues and of evaluations, taken apart: a run of two in a row is a run of each.
-/

namespace Inspector

namespace Dialogue

variable {α β σ : Type} {host : Host σ} {j j' : Journal} {s s' : σ}

theorem run_done_inv {a b : α} (hrun : (done a).run host j s = some (b, j', s'))
    : b = a ∧ j' = j ∧ s' = s := by
  simp only [run, Option.some.injEq, Prod.mk.injEq] at hrun
  obtain ⟨rfl, rfl, rfl⟩ := hrun
  exact ⟨rfl, rfl, rfl⟩

theorem run_done_fst {a a' : α} {b b' : β}
    (hrun : (done (a, b)).run host j s = some ((a', b'), j', s')) : a = a' := by
  cases (run_done_inv hrun).1
  rfl

theorem run_bind_inv {x : Dialogue α} {f : α → Dialogue β} {b : β}
    (hrun : (x.bind f).run host j s = some (b, j', s'))
    : ∃ a j₁ s₁, x.run host j s = some (a, j₁, s₁) ∧ (f a).run host j₁ s₁ = some (b, j', s') := by
  rw [run_bind] at hrun
  obtain ⟨⟨a, j₁, s₁⟩, hx, hf⟩ := Option.bind_eq_some_iff.mp hrun
  exact ⟨a, j₁, s₁, hx, hf⟩

theorem run_ask_inv {q : Question} {f : q.Answer → Dialogue α} {b : α}
    (hrun : (ask q f).run host j s = some (b, j', s'))
    : ∃ a s₁, host q s = some (a, s₁) ∧ (f a).run host j s₁ = some (b, j', s') := by
  unfold run at hrun
  split at hrun
  next a s₁ hq => exact ⟨a, s₁, hq, hrun⟩
  next => contradiction

end Dialogue

namespace Evaluation

variable {α β σ : Type} {host : Host σ} {j j' j₁ : Journal} {s s' s₁ : σ}

theorem bind_eq (x : Evaluation α) (f : α → Evaluation β)
    : (x >>= f : Evaluation β) = Dialogue.bind x fun
        | .ok a => f a
        | .error e => .done (.error e) := by
  apply congrArg (Dialogue.bind x)
  funext r
  cases r <;> rfl

theorem run_bind_ok {x : Evaluation α} {f : α → Evaluation β} {a : α}
    (hx : Dialogue.run host x j s = some (.ok a, j₁, s₁))
    : Dialogue.run host (x >>= f : Evaluation β) j s = Dialogue.run host (f a) j₁ s₁ := by
  rw [bind_eq, Dialogue.run_bind, hx]
  rfl

theorem run_bind_error {x : Evaluation α} {f : α → Evaluation β} {err : EvalError}
    (hx : Dialogue.run host x j s = some (.error err, j₁, s₁))
    : Dialogue.run host (x >>= f : Evaluation β) j s = some (.error err, j₁, s₁) := by
  rw [bind_eq, Dialogue.run_bind, hx]
  rfl

theorem run_bind_ask {q : Question} {f : q.Answer → Evaluation β} {a : q.Answer}
    (hq : host q s = some (a, s₁))
    : Dialogue.run host (ask q >>= f : Evaluation β) j s = Dialogue.run host (f a) j s₁ := by
  apply run_bind_ok
  unfold ask Dialogue.run
  rw [hq]
  rfl

theorem run_bind_ofExcept {r : Except EvalError α} {f : α → Evaluation β} {a : α}
    (hr : r = .ok a)
    : Dialogue.run host (ofExcept r >>= f : Evaluation β) j s = Dialogue.run host (f a) j s := by
  rw [hr]
  rfl

theorem run_bind_inv {x : Evaluation α} {f : α → Evaluation β} {r : Except EvalError β}
    (hrun : Dialogue.run host (x >>= f : Evaluation β) j s = some (r, j', s'))
    : (∃ err, r = .error err ∧ Dialogue.run host x j s = some (.error err, j', s'))
        ∨ ∃ a j₁ s₁, Dialogue.run host x j s = some (.ok a, j₁, s₁)
            ∧ Dialogue.run host (f a) j₁ s₁ = some (r, j', s') := by
  rw [bind_eq] at hrun
  obtain ⟨a, j₁, s₁, hx, hf⟩ := Dialogue.run_bind_inv hrun
  cases a with
  | ok a => exact .inr ⟨a, j₁, s₁, hx, hf⟩
  | error err =>
    obtain ⟨rfl, rfl, rfl⟩ := Dialogue.run_done_inv hf
    exact .inl ⟨err, rfl, hx⟩

theorem run_ask_inv {q : Question} {r : Except EvalError q.Answer}
    (hrun : Dialogue.run host (ask q) j s = some (r, j', s'))
    : ∃ a, r = .ok a ∧ j' = j ∧ host q s = some (a, s') := by
  obtain ⟨a, s₁, hq, hdone⟩ := Dialogue.run_ask_inv hrun
  obtain ⟨rfl, rfl, rfl⟩ := Dialogue.run_done_inv hdone
  exact ⟨a, rfl, rfl, hq⟩

theorem run_bind_ask_inv {q : Question} {f : q.Answer → Evaluation β} {r : Except EvalError β}
    (hrun : Dialogue.run host (ask q >>= f : Evaluation β) j s = some (r, j', s'))
    : ∃ a s₁, host q s = some (a, s₁) ∧ Dialogue.run host (f a) j s₁ = some (r, j', s') := by
  obtain ⟨err, rfl, hask⟩ | ⟨a, j₁, s₁, hask, hf⟩ := run_bind_inv hrun
  · obtain ⟨a, hok, _⟩ := run_ask_inv hask
    contradiction
  · obtain ⟨a', hok, rfl, hq⟩ := run_ask_inv hask
    cases hok
    exact ⟨a, s₁, hq, hf⟩

theorem run_pure_inv {a : α} {r : Except EvalError α}
    (hrun : Dialogue.run host (pure a : Evaluation α) j s = some (r, j', s'))
    : r = .ok a ∧ j' = j ∧ s' = s :=
  Dialogue.run_done_inv hrun

theorem run_bind_pure_inv {x : Evaluation α} {f : α → β} {r : Except EvalError β}
    (hrun : Dialogue.run host (x >>= fun a => pure (f a) : Evaluation β) j s = some (r, j', s'))
    : ∃ q, r = q.map f ∧ Dialogue.run host x j s = some (q, j', s') := by
  obtain ⟨err, rfl, hx⟩ | ⟨a, j₁, s₁, hx, hf⟩ := run_bind_inv hrun
  · exact ⟨.error err, rfl, hx⟩
  · obtain ⟨rfl, rfl, rfl⟩ := run_pure_inv hf
    exact ⟨.ok a, rfl, hx⟩

theorem run_fail_inv {e : EvalError} {r : Except EvalError α}
    (hrun : Dialogue.run host (fail e : Evaluation α) j s = some (r, j', s'))
    : r = .error e ∧ j' = j.report e.message ∧ s' = s := by
  unfold fail Dialogue.run at hrun
  exact Dialogue.run_done_inv hrun

theorem run_bind_reporting_inv {a : Except EvalError α} {f : α → Evaluation β}
    {r : Except EvalError β}
    (hrun : Dialogue.run host (reporting a >>= f : Evaluation β) j s = some (r, j', s'))
    : (∃ e, a = .error e ∧ r = .error e ∧ j' = j.report e.message ∧ s' = s)
        ∨ ∃ x, a = .ok x ∧ Dialogue.run host (f x) j s = some (r, j', s') := by
  cases a with
  | ok x => exact .inr ⟨x, rfl, hrun⟩
  | error e =>
    obtain ⟨err, rfl, hfail⟩ | ⟨x, j₁, s₁, hfail, _⟩ := run_bind_inv hrun
    · obtain ⟨herr, hj, hs⟩ := run_fail_inv hfail
      cases herr
      exact .inl ⟨e, rfl, rfl, hj, hs⟩
    · obtain ⟨hok, _⟩ := run_fail_inv hfail
      contradiction

theorem run_orReport_ok {x : Evaluation α} {message : String} {a : α}
    (hx : Dialogue.run host x j s = some (.ok a, j₁, s₁))
    : Dialogue.run host (x.orReport message) j s = some (.ok a, j₁, s₁) := by
  unfold orReport
  rw [Dialogue.run_bind, hx]
  rfl

theorem run_orReport_error {x : Evaluation α} {message : String} {err : EvalError}
    (hx : Dialogue.run host x j s = some (.error err, j₁, s₁))
    : Dialogue.run host (x.orReport message) j s = some (.error err, j₁.report message, s₁) := by
  unfold orReport
  rw [Dialogue.run_bind, hx]
  rfl

theorem run_orReport_ok_inv {x : Evaluation α} {message : String} {a : α}
    (hrun : Dialogue.run host (x.orReport message) j s = some (.ok a, j₁, s₁))
    : Dialogue.run host x j s = some (.ok a, j₁, s₁) := by
  obtain ⟨r, j₂, s₂, hx, hdone⟩ := Dialogue.run_bind_inv hrun
  cases r with
  | ok b =>
    obtain ⟨hok, rfl, rfl⟩ := Dialogue.run_done_inv hdone
    cases hok
    exact hx
  | error err =>
    unfold Dialogue.run at hdone
    obtain ⟨herr, _⟩ := Dialogue.run_done_inv hdone
    contradiction

theorem run_bind_orReport_inv {x : Evaluation α} {message : String} {f : α → Evaluation β}
    {r : Except EvalError β}
    (hrun : Dialogue.run host (x.orReport message >>= f : Evaluation β) j s = some (r, j', s'))
    : (∃ err j₁, r = .error err ∧ j' = j₁.report message
          ∧ Dialogue.run host x j s = some (.error err, j₁, s'))
        ∨ ∃ a j₁ s₁, Dialogue.run host x j s = some (.ok a, j₁, s₁)
            ∧ Dialogue.run host (f a) j₁ s₁ = some (r, j', s') := by
  rw [bind_eq] at hrun
  obtain ⟨q, j₂, s₂, hreport, hf⟩ := Dialogue.run_bind_inv hrun
  obtain ⟨a, j₁, s₁, hx, hdone⟩ := Dialogue.run_bind_inv hreport
  cases a with
  | ok a =>
    obtain ⟨rfl, rfl, rfl⟩ := Dialogue.run_done_inv hdone
    exact .inr ⟨a, _, _, hx, hf⟩
  | error err =>
    unfold Dialogue.run at hdone
    obtain ⟨rfl, rfl, rfl⟩ := Dialogue.run_done_inv hdone
    obtain ⟨rfl, rfl, rfl⟩ := Dialogue.run_done_inv hf
    exact .inl ⟨err, j₁, rfl, rfl, hx⟩

theorem run_bind_ofExcept_inv {a : Except EvalError α} {f : α → Evaluation β}
    {r : Except EvalError β}
    (hrun : Dialogue.run host (ofExcept a >>= f : Evaluation β) j s = some (r, j', s'))
    : (∃ err, a = .error err ∧ r = .error err ∧ j' = j ∧ s' = s)
        ∨ ∃ x, a = .ok x ∧ Dialogue.run host (f x) j s = some (r, j', s') := by
  cases a with
  | ok x => exact .inr ⟨x, rfl, hrun⟩
  | error err => exact .inl ⟨err, rfl, Dialogue.run_done_inv (by exact hrun)⟩

/-! Evaluations that go alike from where they are. -/

theorem run_bind_congr {x y : Evaluation α} {f g : α → Evaluation β}
    (hx : Dialogue.run host x j s = Dialogue.run host y j s)
    (hf : ∀ a j₁ s₁, Dialogue.run host x j s = some (.ok a, j₁, s₁) →
      Dialogue.run host (f a) j₁ s₁ = Dialogue.run host (g a) j₁ s₁)
    : Dialogue.run host (x >>= f : Evaluation β) j s
      = Dialogue.run host (y >>= g : Evaluation β) j s := by
  rw [bind_eq, bind_eq, Dialogue.run_bind, Dialogue.run_bind, ← hx]
  cases hrun : Dialogue.run host x j s with
  | none => rfl
  | some r =>
    obtain ⟨r, j₁, s₁⟩ := r
    cases r with
    | ok a => exact hf a j₁ s₁ hrun
    | error err => rfl

theorem run_orReport_congr {x y : Evaluation α} {message : String}
    (hx : Dialogue.run host x j s = Dialogue.run host y j s)
    : Dialogue.run host (x.orReport message) j s = Dialogue.run host (y.orReport message) j s := by
  unfold orReport
  rw [Dialogue.run_bind, Dialogue.run_bind, hx]

end Evaluation

end Inspector
