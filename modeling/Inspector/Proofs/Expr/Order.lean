import Inspector.Proofs.Expr.Restore
import Inspector.Proofs.Expr.Run
import Inspector.Proofs.Expr.Tour

/-!
The order of an evaluation. On a session that accepts requests, an evaluation that serves its own
calls takes the tour of its tree: it runs the calls of the tour and no others, one after the other,
and its recording nodes note what the tour enters.
-/

namespace Inspector

variable {d : Debuggee} {source served : Source} {th : Thread} {w w' : World} {j j' : Journal}

theorem World.run_reader_of_reads {α : Type} {x : Dialogue α} {P : α → Prop} {a : α}
    {service : Service} (hx : x.Reads P)
    (hrun : x.run (World.host d service) j w = some (a, j', w'))
    : j' = j ∧ x.run d.reader {} w.trace = some (a, {}, w'.trace) := by
  induction hx generalizing w with
  | done _ =>
    obtain ⟨rfl, rfl, rfl⟩ := Dialogue.run_done_inv hrun
    exact ⟨rfl, rfl⟩
  | ask _ ih =>
    obtain ⟨r, w₁, hread, hrun⟩ := Dialogue.run_ask_inv hrun
    cases hread
    exact ih _ hrun

theorem LiveCall.run_evaluate_accepted (haccepts : w.session.Accepts)
    (hthread : w.session.activeThread = some th) (c : LiveCall)
    (hrun : Dialogue.run (World.host d (.inline served)) c.evaluate j w = some (r, j', w'))
    : r = (d.execute th c w.trace).1.result c.target served ∧ j'.visits = j.visits ∧
        w'.trace = (d.execute th c w.trace).2 := by
  obtain ⟨w₁, hrequest, hwait⟩ := World.host_request_accepted d served haccepts c
  rw [evaluate_eq] at hrun
  unfold Dialogue.run at hrun
  rw [hrequest] at hrun
  dsimp only at hrun
  unfold Dialogue.run at hrun
  rw [hwait] at hrun
  unfold World.afterCall Debuggee.serve at hrun
  rw [hthread] at hrun
  dsimp only at hrun
  cases hreply : (d.execute th c w.trace).1 with
  | returned v =>
    rw [hreply] at hrun
    obtain ⟨rfl, rfl, rfl⟩ := Evaluation.run_pure_inv hrun
    exact ⟨rfl, rfl, rfl⟩
  | threw _ | failed _ =>
    rw [hreply] at hrun
    obtain ⟨rfl, rfl, rfl⟩ := Evaluation.run_fail_inv hrun
    exact ⟨rfl, rfl, rfl⟩

namespace Expr

variable {e : Expr} {r : Except EvalError Value} {j₁ : Journal} {stops more : List Stop}

def Noted (j : Journal) (stops : List Stop) (j' : Journal) : Prop :=
  j'.visits = j.visits ++ labels stops

theorem Noted.quiet (hlabels : labels stops = []) (hvisits : j'.visits = j.visits)
    : Noted j stops j' := by
  unfold Noted
  rw [hlabels, hvisits, List.append_nil]

theorem Noted.append (hfirst : Noted j stops j₁) (hmore : Noted j₁ more j')
    : Noted j (stops ++ more) j' := by
  unfold Noted at *
  rw [hmore, hfirst, labels_append, List.append_assoc]

theorem Noted.visit {id : String} (hinner : Noted (j.visit id) stops j')
    : Noted j (.turn (recorded id e) :: stops) j' := by
  have hturn : Noted j [.turn (recorded id e)] (j.visit id) := rfl
  exact hturn.append hinner

variable (d source served th)

def Toured (e : Expr) : Prop :=
  ∀ {j j' : Journal} {w w' : World} {r : Except EvalError Value},
    w.session.Accepts → w.session.activeThread = some th →
      Dialogue.run (World.host d (.inline served)) (e.evaluate source) j w = some (r, j', w') →
        ∃ stops, Tour d th source served e w.trace stops r w'.trace ∧ Noted j stops j'

variable {d source served th}

theorem sequence_of_evaluateOption {target : String} {receiver : Option Expr}
    {r : Except EvalError (Option Value)}
    (hreceiver : ∀ e, receiver = some e → Toured d source served th e)
    (haccepts : w.session.Accepts) (hthread : w.session.activeThread = some th)
    (hrun : Dialogue.run (World.host d (.inline served)) (evaluateOption source target receiver) j w
      = some (r, j', w'))
    : ∃ stops, Sequence (Tour d th source served) receiver.toList w.trace stops
        (r.map Option.toList) w'.trace ∧ Noted j stops j' := by
  cases receiver with
  | none =>
    obtain ⟨rfl, rfl, rfl⟩ := Evaluation.run_pure_inv hrun
    exact ⟨[], .nil, .quiet rfl rfl⟩
  | some e =>
    unfold evaluateOption at hrun
    obtain ⟨err, j₁, rfl, rfl, he⟩ | ⟨v, j₁, w₁, he, hrun⟩ :=
      Evaluation.run_bind_orReport_inv hrun
    · obtain ⟨stops, htour, hnoted⟩ := hreceiver e rfl haccepts hthread he
      exact ⟨stops, .failed htour, hnoted⟩
    · obtain ⟨rfl, rfl, rfl⟩ := Evaluation.run_pure_inv hrun
      obtain ⟨stops, htour, hnoted⟩ := hreceiver e rfl haccepts hthread he
      exact ⟨stops ++ [], .cons htour .nil, hnoted.append (.quiet rfl rfl)⟩

theorem sequence_of_evaluateList {target : String} {index : Nat} {args : List Expr}
    {r : Except EvalError (List Value)} (hargs : ∀ e ∈ args, Toured d source served th e)
    (haccepts : w.session.Accepts) (hthread : w.session.activeThread = some th)
    (hrun : Dialogue.run (World.host d (.inline served)) (evaluateList source target index args) j w
      = some (r, j', w'))
    : ∃ stops, Sequence (Tour d th source served) args w.trace stops r w'.trace ∧
        Noted j stops j' := by
  induction args generalizing index j w r with
  | nil =>
    obtain ⟨rfl, rfl, rfl⟩ := Evaluation.run_pure_inv hrun
    exact ⟨[], .nil, .quiet rfl rfl⟩
  | cons e es ih =>
    rw [List.forall_mem_cons] at hargs
    unfold evaluateList at hrun
    obtain ⟨err, j₁, rfl, rfl, he⟩ | ⟨v, j₁, w₁, he, hrun⟩ :=
      Evaluation.run_bind_orReport_inv hrun
    · obtain ⟨stops, htour, hnoted⟩ := hargs.1 haccepts hthread he
      exact ⟨stops, .failed htour, hnoted⟩
    · obtain ⟨stops, htour, hnoted⟩ := hargs.1 haccepts hthread he
      obtain ⟨calls, hran⟩ := ran_of_evaluate he hthread
      obtain ⟨q, rfl, hes⟩ := Evaluation.run_bind_pure_inv hrun
      obtain ⟨more, hseq, hmore⟩ :=
        ih hargs.2 (hran.accepts.mpr haccepts) (hran.activeThread.trans hthread) hes
      exact ⟨stops ++ more, .cons htour hseq, hnoted.append hmore⟩

theorem toured_binary {op : Operator} {left right : Expr} {b : Option Binding}
    (hleft : Toured d source served th left) (hright : Toured d source served th right)
    : Toured d source served th (binary op left right b) := by
  intro j j' w w' r haccepts hthread hrun
  cases b with
  | none =>
    obtain ⟨rfl, rfl, rfl⟩ := Dialogue.run_done_inv hrun
    exact ⟨[], .unbound, .quiet rfl rfl⟩
  | some b =>
    cases binaryRun hrun with
    | firstFailed hl =>
      obtain ⟨stops, htour, hnoted⟩ := hleft haccepts hthread hl
      exact ⟨stops, .firstFailed htour, hnoted⟩
    | undecided hl htest =>
      obtain ⟨stops, htour, hnoted⟩ := hleft haccepts hthread hl
      exact ⟨stops, .undecided htour (op.verdict_of_shortCircuit htest), hnoted⟩
    | settled hl htest =>
      obtain ⟨stops, htour, hnoted⟩ := hleft haccepts hthread hl
      exact ⟨_, .settled htour (op.verdict_of_shortCircuit htest),
        (hnoted.append (.quiet rfl rfl)).append (.quiet rfl rfl)⟩
    | secondFailed hl htest hr =>
      obtain ⟨stops, htour, hnoted⟩ := hleft haccepts hthread hl
      obtain ⟨calls, hran⟩ := ran_of_evaluate hl hthread
      obtain ⟨more, hmore, hnoted'⟩ :=
        hright (hran.accepts.mpr haccepts) (hran.activeThread.trans hthread) hr
      exact ⟨_, .secondFailed htour (op.verdict_of_shortCircuit htest) hmore, hnoted.append hnoted'⟩
    | operated hoperands hcompute =>
      obtain ⟨hl, htest, hr⟩ := hoperands
      obtain ⟨stops, htour, hnoted⟩ := hleft haccepts hthread hl
      obtain ⟨calls, hran⟩ := ran_of_evaluate hl hthread
      obtain ⟨more, hmore, hnoted'⟩ :=
        hright (hran.accepts.mpr haccepts) (hran.activeThread.trans hthread) hr
      obtain ⟨rfl, hread⟩ := World.run_reader_of_reads (op.reads_evaluate _ _ _) hcompute
      exact ⟨_, .operated htour (op.verdict_of_shortCircuit htest) hmore hread,
        (hnoted.append hnoted').append (.quiet rfl rfl)⟩

theorem toured_call {target : String} {receiver : Option Expr} {args : List Expr}
    {type : TypeSignature} {compiled : Bool}
    (hreceiver : ∀ e, receiver = some e → Toured d source served th e)
    (hargs : ∀ e ∈ args, Toured d source served th e)
    : Toured d source served th (call target receiver args type compiled) := by
  intro j j' w w' r haccepts hthread hrun
  cases compiled with
  | false =>
    obtain ⟨rfl, rfl, rfl⟩ := Dialogue.run_done_inv hrun
    exact ⟨[], .uncompiled, .quiet rfl rfl⟩
  | true =>
    unfold evaluate at hrun
    obtain ⟨permitted, w₀, hpermitted, hrun⟩ := Evaluation.run_bind_ask_inv hrun
    obtain ⟨rfl, rfl⟩ := World.host_permitted_inv d hpermitted
    rw [haccepts.enabled, if_pos rfl] at hrun
    obtain ⟨err, rfl, ho⟩ | ⟨this, j₁, w₁, ho, hrun⟩ := Evaluation.run_bind_inv hrun
    · obtain ⟨stops, hseq, hnoted⟩ := sequence_of_evaluateOption hreceiver haccepts hthread ho
      exact ⟨stops, .receiverFailed hseq, hnoted⟩
    obtain ⟨stops, hseq, hnoted⟩ := sequence_of_evaluateOption hreceiver haccepts hthread ho
    obtain ⟨before, hran⟩ := ran_of_evaluateOption ho hthread
    have haccepts := hran.accepts.mpr haccepts
    have hthread := hran.activeThread.trans hthread
    obtain ⟨err, rfl, ha⟩ | ⟨values, j₂, w₂, ha, hrun⟩ := Evaluation.run_bind_inv hrun
    · obtain ⟨more, hmore, hnoted'⟩ := sequence_of_evaluateList hargs haccepts hthread ha
      exact ⟨_, .argumentFailed hseq hmore, hnoted.append hnoted'⟩
    obtain ⟨more, hmore, hnoted'⟩ := sequence_of_evaluateList hargs haccepts hthread ha
    obtain ⟨after, hran⟩ := ran_of_evaluateList ha hthread
    have haccepts := hran.accepts.mpr haccepts
    have hthread := hran.activeThread.trans hthread
    -- The operands have left the session as it was, so the call itself is granted too.
    obtain ⟨rfl, hvisits, htrace⟩ := LiveCall.run_evaluate_accepted haccepts hthread _ hrun
    have hthis : this.toList.head? = this := by
      cases this <;> rfl
    refine ⟨_, .called hseq hmore ?_, (hnoted.append hnoted').append (.quiet rfl hvisits)⟩
    rw [hthis, htrace]

theorem toured (e : Expr) : Toured d source served th e := by
  induction e using induction with
  | literal l =>
    intro j j' w w' r _ _ hrun
    obtain ⟨rfl, rfl, rfl⟩ := Dialogue.run_done_inv hrun
    exact ⟨_, .literal, .quiet rfl rfl⟩
  | remote v type =>
    intro j j' w w' r _ _ hrun
    obtain ⟨rfl, rfl, rfl⟩ := Dialogue.run_done_inv hrun
    exact ⟨_, .remote, .quiet rfl rfl⟩
  | failing type err =>
    intro j j' w w' r _ _ hrun
    obtain ⟨rfl, rfl, rfl⟩ := Dialogue.run_done_inv hrun
    exact ⟨_, .failing, .quiet rfl rfl⟩
  | recorded id e ih =>
    intro j j' w w' r haccepts hthread hrun
    obtain ⟨stops, htour, hnoted⟩ := ih haccepts hthread hrun
    exact ⟨_, .recorded htour, hnoted.visit⟩
  | binary op left right b ihl ihr => exact toured_binary ihl ihr
  | call target receiver args type compiled iho iha => exact toured_call iho iha

theorem evaluate_tours {ι : Type} [DecidableEq ι] (d : Debuggee) (thread : Thread)
    (config : Config) (before : List (System.Action ι)) (source served : Source) (e : Expr)
    (j : Journal) (t : Debuggee.Trace) (control : Option Nat)
    (haccepts : (System.run d before (.new thread config)).2.session.Accepts)
    : let s := (System.run d before (.new thread config)).2.session
      ∃ th r j' w' stops, s.activeThread = some th ∧
        Dialogue.run (World.host d (.inline served)) (e.evaluate source) j ⟨s, t, control⟩
          = some (r, j', w') ∧
        Tour d th source served e t stops r w'.trace ∧
        w'.trace.executed = t.executed ++ (made stops).map (Execution.mk th) ∧
        Covers stops r e.order ∧
        ∀ id,
          j'.count id = j.count id + (labels stops).count id ∧
          (labels stops).count id + (recorders (skipped stops)).count id
            ≤ (recorders e.order).count id ∧
          ∀ v, r = .ok v → (labels stops).count id + (recorders (skipped stops)).count id
            = (recorders e.order).count id := by
  intro s
  let w : World := ⟨s, t, control⟩
  obtain ⟨th, hthread⟩ : ∃ th, s.activeThread = some th :=
    Session.activeThread_run (System.run_session before (.new thread config)) rfl
  obtain ⟨r, j', w', calls, hrun, _⟩ :=
    World.run_of_orderly (orderly_evaluate source e) d served j (w := w) hthread
  obtain ⟨stops, htour, hnoted⟩ := toured e haccepts hthread hrun
  refine ⟨th, r, j', w', stops, hthread, hrun, htour, htour.ranSince, htour.covers, ?_⟩
  intro id
  rw [count_labels]
  refine ⟨?_, ?_, ?_⟩
  · unfold Journal.count
    rw [hnoted, List.count_append]
  · have hsub := htour.covers.ordered.sublist.filterMap recorder?
    exact hsub.count_le id
  · intro v hv
    rw [htour.covers.complete v hv]

theorem evaluate_tours_throwing
    : let d := Debuggee.ofTables []
        [("get_Items", .returned (.null .object)), ("get_Index", .threw (.null .object))]
      let e := invoke "Item" (some (invoke "get_Items"))
        [recorded "index" (invoke "get_Index"), recorded "rest" (invoke "get_Rest")]
      let c := e.compile (fun _ => some .object) {}
      let s := (System.run d ([] : List (System.Action Unit)) (.new ⟨1⟩ {})).2.session
      c.result = .ok () ∧ s.Accepts ∧
        ∃ err j' w' stops,
          Dialogue.run (World.host d (.inline .attached)) (c.tree.evaluate .attached) {}
            ⟨s, {}, none⟩ = some (.error err, j', w') ∧
          Tour d ⟨1⟩ .attached .attached c.tree {} stops (.error err) w'.trace ∧
          (made stops).map (Execution.mk ⟨1⟩)
            = [⟨⟨1⟩, ⟨"get_Items", none, []⟩⟩, ⟨⟨1⟩, ⟨"get_Index", none, []⟩⟩] ∧
          j'.count "index" = 1 ∧ j'.count "rest" = 0 := by
  intro d e c s
  have haccepts : s.Accepts := ⟨rfl, rfl, rfl⟩
  obtain ⟨err, j', w', hrun, hexecuted, hvisits⟩ : ∃ err j' w',
      Dialogue.run (World.host d (.inline .attached)) (c.tree.evaluate .attached) {} ⟨s, {}, none⟩
          = some (.error err, j', w') ∧
        w'.trace.executed
          = [⟨⟨1⟩, ⟨"get_Items", none, []⟩⟩, ⟨⟨1⟩, ⟨"get_Index", none, []⟩⟩] ∧
        j'.visits = ["index"] :=
    ⟨_, _, _, rfl, rfl, rfl⟩
  obtain ⟨th, r, j₁, w₁, stops, hthread, hrun₁, htour, hmade, _⟩ :=
    evaluate_tours d ⟨1⟩ {} [] .attached .attached c.tree {} {} none haccepts
  cases hthread
  cases hrun.symm.trans hrun₁
  refine ⟨rfl, haccepts, err, j', w', stops, hrun, htour, ?_, ?_, ?_⟩
  · exact hmade.symm.trans hexecuted
  · simp [Journal.count, hvisits]
  · simp [Journal.count, hvisits]

end Expr

end Inspector
