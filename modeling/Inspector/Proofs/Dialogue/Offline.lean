import Inspector.Proofs.Dialogue.Orderly
import Inspector.World

/-!
Offline dialogues. They ask for no live call, and not whether there may be one either, so that they
always come to an end, leave the session alone, and go the same way with and without permission.
-/

namespace Inspector

namespace Dialogue

variable {α β : Type}

inductive Offline : Dialogue α → Prop where
  | done : Offline (done a)
  | report (hnext : Offline next) : Offline (report m next)
  | visit {id : String} (hnext : Offline next) : Offline (visit id next)
  | readString {next : Except Unavailable String → Dialogue α} (hnext : ∀ r, Offline (next r))
      : Offline (ask (.readString source a) next)

variable {x : Dialogue α} {f : α → Dialogue β} {P : α → Prop}

theorem Reads.offline (hx : x.Reads P) : x.Offline := by
  induction hx with
  | done _ => exact .done
  | ask _ ih => exact .readString ih

theorem Offline.bind (hx : x.Offline) (hf : ∀ a, (f a).Offline) : (x.bind f).Offline := by
  induction hx with
  | done => apply hf
  | report _ ih => exact .report ih
  | visit _ ih => exact .visit ih
  | readString _ ih => exact .readString ih

end Dialogue

namespace Evaluation

variable {α β : Type} {x : Evaluation α} {f : α → Evaluation β}

theorem offline_bind (hx : Dialogue.Offline x) (hf : ∀ a, Dialogue.Offline (f a))
    : Dialogue.Offline (x >>= f : Evaluation β) := by
  rw [bind_eq]
  apply hx.bind
  intro r
  cases r with
  | ok a => apply hf
  | error err => exact .done

theorem offline_orReport (hx : Dialogue.Offline x) (message : String)
    : Dialogue.Offline (x.orReport message) := by
  apply hx.bind
  intro r
  cases r with
  | ok a => exact .done
  | error err => exact .report .done

end Evaluation

namespace World

def permit (enabled : Bool) (w : World) : World :=
  { w with session := w.session.setPropertyEvaluation enabled }

structure Untouched (w w' : World) : Prop where
  session : w'.session = w.session
  executed : w'.trace.executed = w.trace.executed
  control : w'.control = w.control

variable {w w₁ w' : World}

theorem Untouched.refl (w : World) : Untouched w w := ⟨rfl, rfl, rfl⟩

theorem Untouched.trans (hfirst : Untouched w w₁) (hlater : Untouched w₁ w') : Untouched w w' where
  session := hlater.session.trans hfirst.session
  executed := hlater.executed.trans hfirst.executed
  control := hlater.control.trans hfirst.control

theorem permit_self {enabled : Bool} (hw : w.session.propertyEvaluation = enabled)
    : w.permit enabled = w := by
  subst hw
  rfl

theorem Untouched.permit_eq {enabled : Bool} (hw : Untouched (w.permit enabled) w')
    : w'.permit enabled = w' :=
  permit_self (congrArg Session.propertyEvaluation hw.session)

theorem permit_permit (a b : Bool) (w : World) : (w.permit a).permit b = w.permit b := rfl

variable {α : Type} {x : Dialogue α} (d : Debuggee) (service : Service)

theorem run_of_offline (hx : x.Offline) (j : Journal) (w : World)
    : ∃ a j' w', x.run (host d service) j w = some (a, j', w') ∧ Untouched w w' := by
  induction hx generalizing j w with
  | @done a => exact ⟨a, j, w, rfl, .refl w⟩
  | report _ ih => exact ih _ w
  | visit _ ih => exact ih _ w
  | @readString source a next _ ih =>
    have hread : Untouched w { w with trace := (d.read source a w.trace).2 } :=
      ⟨rfl, d.executed_read source a w.trace, rfl⟩
    obtain ⟨r, j', w', hrun, hlater⟩ := ih _ j _
    exact ⟨r, j', w', hrun, hread.trans hlater⟩

theorem run_permit (hx : x.Offline) (enabled : Bool) (j : Journal) (w : World)
    : x.run (host d service) j (w.permit enabled)
      = (x.run (host d service) j w).map fun r => (r.1, r.2.1, r.2.2.permit enabled) := by
  induction hx generalizing j w with
  | done => rfl
  | report _ ih => apply ih
  | visit _ ih => apply ih
  | @readString source a next _ ih => exact ih _ j { w with trace := (d.read source a w.trace).2 }

end World

end Inspector
