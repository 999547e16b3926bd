import Inspector.Proofs.Session.Close
import Inspector.Proofs.Session.Refusal
import Inspector.Proofs.Session.Timeout
import Inspector.Proofs.System
import Mathlib.Data.List.Nodup

/-!
Outcomes in a system, whatever all parties do and in whatever order. Each evaluation is asked for,
handed out, ended and reported once at most, and what is reported of it is what was published for
it, or that the session was closed. Nothing brings back an outcome once its wait has given up, a
session is closed once for all parties, and nobody is turned away without a reason.
-/

namespace Inspector

namespace System

open Session (Op issued handedOut accepted delivered Explains)

variable {ι : Type} [DecidableEq ι]

theorem chronicle_system (d : Debuggee) (thread : Thread) (config : Config)
    (actions : List (Action ι))
    : let r := run d actions (.new thread config)
      Session.Chronicle (.new thread config) r.1 r.2.session := by
  apply Session.chronicle_run
  · exact run_session actions (.new thread config)
  · rfl
  · rfl

/-- The counter of handles stays below `2 ^ 64` up to `2 ^ 64 - 2` requests, by its equation. -/
theorem outcome_once (d : Debuggee) (thread : Thread) (config : Config) (actions : List (Action ι))
    : let log := (run d actions (.new thread config)).1
      ((issued log).map (·.1.id)).Pairwise (· < ·) ∧ ((issued log).map (·.1)).Nodup ∧
        (run d actions (.new thread config)).2.session.nextHandle = (issued log).length + 1 ∧
        ∀ h,
          (handedOut log h).length ≤ 1 ∧ (∀ call ∈ handedOut log h, (h, call) ∈ issued log) ∧
          (accepted log h).length ≤ 1 ∧
          (delivered log h).length ≤ 1 ∧
          (∀ r ∈ delivered log h, Explains (.new thread config) log h r) ∧
          ((∀ call, (h, call) ∉ issued log) →
            handedOut log h = [] ∧ accepted log h = [] ∧ delivered log h = []) := by
  intro log
  have hlog := chronicle_system d thread config actions
  have hids : ((issued log).map (·.1.id)).Pairwise (· < ·) := by
    rw [hlog.ids]
    exact List.pairwise_lt_range'
  refine ⟨hids, ?_, hlog.next, ?_⟩
  · apply List.Nodup.of_map Handle.id
    rw [List.map_map]
    exact hids.imp Nat.ne_of_lt
  · intro h
    have ⟨hout, hacc, hdel⟩ := hlog.once h
    refine ⟨?_, ?_, ?_, ?_, ?_, hlog.unknown⟩
    · obtain hnil | ⟨call, _, hone⟩ := hout
      · simp [log, hnil]
      · simp [log, hone]
    · intro call hcall
      obtain hnil | ⟨call', hissued, hone⟩ := hout
      · simp [log, hnil] at hcall
      · have : call = call' := by simpa [log, hone] using hcall
        rw [this]
        exact hissued
    · obtain hnil | ⟨_, delivery, _, hone⟩ := hacc
      · simp [log, hnil]
      · simp [log, hone]
    · obtain hnil | ⟨_, r, _, hone, _⟩ := hdel
      · simp [log, hnil]
      · simp [log, hone]
    · intro r hr
      obtain hnil | ⟨_, r', _, hone, hexplains⟩ := hdel
      · simp [log, hnil] at hr
      · have : r = r' := by simpa [log, hone] using hr
        rw [this]
        exact hexplains

theorem nextHandle_around {d : Debuggee} {thread : Thread} {config : Config}
    (before after : List (Action ι)) (a : Action ι)
    : let given := (run d before (.new thread config)).2
      (run d after (given.step d a).2).2.session.nextHandle ≤ 2 + before.length + after.length := by
  intro given
  have hbefore : given.session.nextHandle ≤ 1 + before.length :=
    nextHandle_run before (.new thread config)
  have hstep := nextHandle_step (d := d) a given
  have hafter := nextHandle_run (d := d) after (given.step d a).2
  omega

theorem timeout_final (d : Debuggee) (thread : Thread) (config : Config)
    (before after : List (Action ι)) (h : Handle) (op : Op)
    (hgive : (run d before (.new thread config)).2.session.GivesUp h op)
    : let r := run d before (.new thread config)
      let given := (r.2.step d (.direct op)).2
      let r' := run d after given
      Session.GivenUp h r.1 given.session r'.1 r'.2.session ∧
        r'.2.session.nextHandle ≤ 2 + before.length + after.length := by
  intro r given r'
  refine ⟨?_, nextHandle_around before after (.direct op)⟩
  apply Session.givenUp_run
  · exact chronicle_system d thread config before
  · exact Session.quiet_run (run_session before (.new thread config)) rfl
  · exact hgive
  · exact run_session after given

/-- The call is running when its time is up; a second wait, another request, the late outcome. -/
theorem timeout_final_running
    : let d := Debuggee.ofTables [] [("get_Slow", .returned (.null .object))]
      let before : List (Action Bool) :=
        [.direct (.request ⟨"get_Slow", none, []⟩), .take true false, .start true]
      let r := run d before (.new ⟨1⟩ {})
      let given := (r.2.step d (.direct (.expire ⟨1⟩))).2
      let r' := run d [.direct (.poll ⟨1⟩), .direct (.request ⟨"get_Other", none, []⟩),
        .execute true .attached, .publish true] given
      r.2.session.GivesUp ⟨1⟩ (.expire ⟨1⟩) ∧ Session.handedOut r.1 ⟨1⟩ ≠ [] ∧
        Session.Freed ⟨1⟩ r'.1 ∧ Session.GivenUp ⟨1⟩ r.1 given.session r'.1 r'.2.session := by
  intro d before r given r'
  have hgive : r.2.session.GivesUp ⟨1⟩ (.expire ⟨1⟩) := ⟨⟨none, false, rfl⟩, rfl⟩
  have hout : Session.handedOut r.1 ⟨1⟩ = [⟨"get_Slow", none, []⟩] := rfl
  refine ⟨hgive, ?_, rfl, (timeout_final d ⟨1⟩ {} before _ ⟨1⟩ (.expire ⟨1⟩) hgive).1⟩
  simp [hout]

theorem close_absorbing (d : Debuggee) (thread : Thread) (config : Config)
    (before after : List (Action ι))
    : let given := (run d before (.new thread config)).2
      let r := run d after (given.step d (.direct .close)).2
      Session.ClosedDown given.session r.1 r.2.session ∧
        r.2.session.nextHandle ≤ 2 + before.length + after.length := by
  intro given r
  refine ⟨?_, nextHandle_around before after (.direct .close)⟩
  apply Session.closedDown_run
  · exact Session.quiet_run (run_session before (.new thread config)) rfl
  · exact run_session after (given.step d (.direct .close)).2

theorem refusals_strict (d : Debuggee) (thread : Thread) (config : Config)
    (actions : List (Action ι))
    : let s := (run d actions (.new thread config)).2.session
      s.Strict ∧ s.nextHandle ≤ 1 + actions.length := by
  intro s
  exact ⟨Session.strict_of_chronicle (chronicle_system d thread config actions),
    nextHandle_run actions (.new thread config)⟩

end System

end Inspector
