import Inspector.Proofs.Dialogue

/-!
Dialogues that keep to a protocol. A reading dialogue asks for nothing but strings. An orderly one
asks for one live call at a time, and waits for its outcome before it does anything else.
-/

namespace Inspector

namespace Dialogue

variable {α β : Type}

inductive Reads (P : α → Prop) : Dialogue α → Prop where
  | done (ha : P a) : Reads P (done a)
  | ask {next : Except Unavailable String → Dialogue α} (hnext : ∀ r, Reads P (next r))
      : Reads P (ask (.readString source a) next)

inductive Orderly : Dialogue α → Prop where
  | done : Orderly (done a)
  | report (hnext : Orderly next) : Orderly (report m next)
  | visit {id : String} (hnext : Orderly next) : Orderly (visit id next)
  | permitted {next : Bool → Dialogue α} (hnext : ∀ b, Orderly (next b))
      : Orderly (ask .permitted next)
  | readString {next : Except Unavailable String → Dialogue α} (hnext : ∀ r, Orderly (next r))
      : Orderly (ask (.readString source a) next)
  | request {next : Except EvalError Handle → Dialogue α}
      {told : Handle → Except EvalError Outcome → Dialogue α}
      (hrefused : ∀ err, Orderly (next (.error err)))
      (hgranted : ∀ h, next (.ok h) = ask (.wait h) (told h)) (htold : ∀ h r, Orderly (told h r))
      : Orderly (ask (.request call) next)

variable {x : Dialogue α} {f : α → Dialogue β} {P : α → Prop} {Q : β → Prop}

theorem Reads.bind (hx : x.Reads P) (hf : ∀ a, P a → (f a).Reads Q) : (x.bind f).Reads Q := by
  induction hx with
  | done ha => exact hf _ ha
  | ask _ ih =>
    apply Reads.ask
    intro r
    exact ih r

theorem Reads.orderly (hx : x.Reads P) : x.Orderly := by
  induction hx with
  | done _ => exact .done
  | ask _ ih => exact .readString ih

theorem Reads.of_run {σ : Type} {host : Host σ} {j j' : Journal} {s s' : σ} {a : α}
    (hx : x.Reads P) (hrun : x.run host j s = some (a, j', s')) : P a := by
  induction hx generalizing s with
  | done ha =>
    obtain ⟨rfl, _⟩ := run_done_inv hrun
    exact ha
  | ask _ ih =>
    obtain ⟨r, s₁, _, hrun⟩ := run_ask_inv hrun
    exact ih r hrun

theorem Reads.journal_eq {σ : Type} {host : Host σ} {j j' : Journal} {s s' : σ} {a : α}
    (hx : x.Reads P) (hrun : x.run host j s = some (a, j', s')) : j' = j := by
  induction hx generalizing s with
  | done _ => exact (run_done_inv hrun).2.1
  | ask _ ih =>
    obtain ⟨r, s₁, _, hrun⟩ := run_ask_inv hrun
    exact ih r hrun

theorem Orderly.bind (hx : x.Orderly) (hf : ∀ a, (f a).Orderly) : (x.bind f).Orderly := by
  induction hx with
  | done => apply hf
  | report _ ih => exact .report ih
  | visit _ ih => exact .visit ih
  | permitted _ ih => exact .permitted ih
  | readString _ ih => exact .readString ih
  | request _ hgranted _ ihrefused ihtold =>
    apply Orderly.request ihrefused
    · intro h
      rw [hgranted]
      rfl
    · exact ihtold

end Dialogue

namespace Evaluation

variable {α β : Type} {x : Evaluation α} {f : α → Evaluation β}

theorem orderly_bind (hx : Dialogue.Orderly x) (hf : ∀ a, Dialogue.Orderly (f a))
    : Dialogue.Orderly (x >>= f : Evaluation β) := by
  rw [bind_eq]
  apply hx.bind
  intro r
  cases r with
  | ok a => apply hf
  | error err => exact .done

theorem orderly_orReport (hx : Dialogue.Orderly x) (message : String)
    : Dialogue.Orderly (x.orReport message) := by
  apply hx.bind
  intro r
  cases r with
  | ok a => exact .done
  | error err => exact .report .done

theorem orderly_fail (e : EvalError) : Dialogue.Orderly (fail e : Evaluation α) := .report .done

theorem orderly_reporting (r : Except EvalError α) : Dialogue.Orderly (reporting r) := by
  cases r with
  | ok a => exact .done
  | error e => apply orderly_fail

end Evaluation

end Inspector
