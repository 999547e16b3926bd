import Inspector.Proofs.Session.Holding
import Inspector.Proofs.System

/-!
Live calls exclude each other. A call that a control thread has taken holds the slot of the session
until that thread publishes what came of it, unless the session is closed on the way; and nothing
is handed out while the slot is held or once the session is closed.
-/

namespace Inspector

namespace System

open Session (Op Event)

variable {ι : Type}

structure Exclusive (sys : System ι) : Prop where
  quiet : sys.session.Quiet
  unique : ∀ {i j h h'}, (sys.workers i).running? = some h → (sys.workers j).running? = some h' →
    i = j
  held : ∀ {i h}, (sys.workers i).running? = some h → sys.session.HeldBy h

theorem exclusive_new (thread : Thread) (config : Config)
    : (System.new thread config : System ι).Exclusive where
  quiet := by simp [Session.Quiet, System.new, Session.new]
  unique := by simp [System.new, Worker.running?]
  held := by simp [System.new, Worker.running?]

variable {sys : System ι}

theorem exclusive_perform (hsys : sys.Exclusive) (op : Op)
    (hop : ∀ h delivery, op ≠ .publish h delivery) : (sys.perform op).Exclusive where
  quiet := Session.quiet_of_move (Session.move op sys.session) hsys.quiet
  unique := hsys.unique
  held hrun := by
    apply Session.heldBy_of_move (Session.move op sys.session) (hsys.held hrun)
    intro delivery heff
    exact hop _ _ (Event.comesFrom heff)

variable [DecidableEq ι]

theorem exclusive_setWorker (hsys : sys.Exclusive) (i : ι) (w : Worker)
    (hw : w.running? = (sys.workers i).running?) : (sys.setWorker i w).Exclusive := by
  have hsame : ∀ j, ((sys.setWorker i w).workers j).running? = (sys.workers j).running? := by
    intro j
    by_cases hj : j = i
    · subst hj
      simpa using hw
    · simp [hj]
  constructor
  · exact hsys.quiet
  · intro j k h h' hj hk
    rw [hsame] at hj hk
    exact hsys.unique hj hk
  · intro j h hj
    rw [hsame] at hj
    exact hsys.held hj

theorem exclusive_take (hsys : sys.Exclusive) (i : ι) (op : Op)
    (hop : ∀ h delivery, op ≠ .publish h delivery) (hfree : sys.workers i = .free)
    : ((sys.perform op).setWorker i (.ofEffect (sys.session.event op).effect?)).Exclusive := by
  have hmove := Session.move op sys.session
  have hperform := exclusive_perform hsys op hop
  unfold Worker.ofEffect
  split
  · next h call heff =>
    -- Nobody was running anything, since the slot still had a call to give.
    have ⟨hnone, hheld⟩ := Session.free_of_handedOut hmove hsys.quiet heff
    have hidle : ∀ j h', (sys.workers j).running? ≠ some h' := by
      intro j h' hj
      exact hnone h' (hsys.held hj)
    have honly : ∀ j h', (((sys.perform op).setWorker i (.taken h call)).workers j).running?
        = some h' → j = i ∧ h' = h := by
      intro j h' hj
      by_cases hji : j = i
      · subst hji
        simp [Worker.running?] at hj
        exact ⟨rfl, hj.symm⟩
      · simp [hji, hidle] at hj
    constructor
    · exact hperform.quiet
    · intro j k h' h'' hj hk
      rw [(honly j h' hj).1, (honly k h'' hk).1]
    · intro j h' hj
      rw [(honly j h' hj).2]
      exact hheld
  · apply exclusive_setWorker hperform
    simp [hfree]

theorem exclusive_publish (hsys : sys.Exclusive) (i : ι) (op : Op) {h : Handle}
    {delivery : Delivery} (hrun : sys.workers i = .ended h delivery)
    : ((sys.perform op).setWorker i .free).Exclusive := by
  -- The thread that publishes was the only one that ran anything.
  have hidle : ∀ j h', (((sys.perform op).setWorker i .free).workers j).running? ≠ some h' := by
    intro j h' hj
    by_cases hji : j = i
    · subst hji
      simp [Worker.running?] at hj
    · have hj : (sys.workers j).running? = some h' := by simpa [hji] using hj
      have hi : (sys.workers i).running? = some h := by simp [hrun, Worker.running?]
      exact hji (hsys.unique hj hi)
  constructor
  · exact Session.quiet_of_move (Session.move op sys.session) hsys.quiet
  · intro j k h' h'' hj hk
    exact absurd hj (hidle j h')
  · intro j h' hj
    exact absurd hj (hidle j h')

def Action.isOwn : Action ι → Bool
  | .direct op => !op.isServing
  | _ => true

variable {d : Debuggee}

theorem exclusive_step (hsys : sys.Exclusive) (a : Action ι) (hown : a.isOwn)
    : (sys.step d a).2.Exclusive := by
  cases a with
  | direct op =>
    apply exclusive_perform hsys
    intro h delivery heq
    simp [Action.isOwn, heq, Op.isServing] at hown
  | take i late =>
    unfold step
    dsimp only
    split
    · next hfree =>
      apply exclusive_take hsys i (lookOp late) _ hfree
      intro h delivery
      unfold lookOp
      split <;> simp
    · exact hsys
  | start i =>
    unfold step
    dsimp only
    split
    · next h call htaken =>
      split
      · apply exclusive_setWorker hsys
        simp [htaken, Worker.running?]
      · apply exclusive_setWorker hsys
        simp [htaken, Worker.running?]
    · exact hsys
  | execute i source =>
    unfold step
    dsimp only
    split
    · next h call thread hstarted =>
      have htrace
          : ({ sys with trace := (d.execute thread call sys.trace).2 } : System ι).Exclusive :=
        ⟨hsys.quiet, hsys.unique, hsys.held⟩
      apply exclusive_setWorker htrace
      simp [hstarted, Worker.running?]
    · exact hsys
  | publish i =>
    unfold step
    dsimp only
    split
    · next h delivery hended => exact exclusive_publish hsys i _ hended
    · exact hsys

theorem exclusive_run (actions : List (Action ι)) (hown : ∀ a ∈ actions, a.isOwn)
    (hsys : sys.Exclusive) : (run d actions sys).2.Exclusive := by
  induction actions generalizing sys with
  | nil => exact hsys
  | cons a as ih =>
    simp only [List.mem_cons, forall_eq_or_imp] at hown
    exact ih hown.2 (exclusive_step hsys a hown.1)

theorem running_exclusive (d : Debuggee) (thread : Thread) (config : Config)
    (actions : List (Action ι)) (hown : ∀ a ∈ actions, a.isOwn)
    : let sys := (run d actions (.new thread config)).2
      (∀ i j h h', (sys.workers i).running? = some h → (sys.workers j).running? = some h' → i = j) ∧
        (∀ i h, (sys.workers i).running? = some h →
          sys.session.closed = true
            ∨ ∃ abandoned, sys.session.slot = .awaiting h none abandoned) ∧
        sys.session.nextHandle ≤ 1 + actions.length := by
  have hsys : (run d actions (.new thread config)).2.Exclusive := by
    apply exclusive_run actions hown
    apply exclusive_new
  refine ⟨?_, ?_, nextHandle_run actions (.new thread config)⟩
  · intro i j h h' hi hj
    exact hsys.unique hi hj
  · intro i h hi
    exact hsys.held hi

theorem running_exclusive_abandoned
    : let actions : List (Action Bool) :=
        [.direct (.request ⟨"get_Slow", none, []⟩), .take true false, .direct (.expire ⟨1⟩),
          .take false true, .start true]
      let sys := (run (.ofTables [] []) actions (.new ⟨1⟩ {})).2
      (∀ a ∈ actions, a.isOwn) ∧ (sys.workers true).running? = some ⟨1⟩ ∧
        (∀ i j h h', (sys.workers i).running? = some h → (sys.workers j).running? = some h' →
          i = j) ∧
        (∀ i h, (sys.workers i).running? = some h →
          sys.session.closed = true
            ∨ ∃ abandoned, sys.session.slot = .awaiting h none abandoned) ∧
        sys.session.nextHandle ≤ 6 := by
  refine ⟨by simp [Action.isOwn, Op.isServing], rfl, ?_⟩
  apply running_exclusive
  simp [Action.isOwn, Op.isServing]

end System

end Inspector
