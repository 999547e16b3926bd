import Inspector.Proofs.Held
import Inspector.World

/-!
Held values in a world. No operation on them runs a call, so the debuggee is a memory to them: what
they tell is what it has, and it is asked once for each string.
-/

namespace Inspector

def Host.noting {σ : Type} (host : Host σ) : Host (σ × List Question)
  | q, p => (host q p.1).map fun (a, s) => (a, s, p.2 ++ [q])

theorem Dialogue.run_noting {α σ : Type} (host : Host σ) (x : Dialogue α) (j : Journal) (s : σ)
    (asked : List Question)
    : (x.run host.noting j (s, asked)).map (fun (a, j, s, _) => (a, j, s)) = x.run host j s := by
  induction x generalizing j s asked with
  | done a => rfl
  | report m next ih => apply ih
  | visit id next ih => apply ih
  | ask q next ih =>
    simp only [run, Host.noting]
    cases host q s with
    | none => rfl
    | some r => exact ih r.1 j r.2 _

def Reader.noting {σ : Type} (read : Reader σ) : Reader (σ × List Question) := fun source a p =>
  ((read source a p.1).1, (read source a p.1).2, p.2 ++ [.readString source a])

theorem Host.Reads.noting {σ : Type} {host : Host σ} {read : Reader σ} (hreads : host.Reads read)
    : host.noting.Reads read.noting := by
  intro source a p
  unfold Host.noting
  simp only [hreads source a p.1]
  rfl

theorem Reader.after_noting {σ : Type} (read : Reader σ) (s : σ) (asked : List Question) (v : Value)
    : read.noting.after (s, asked) v.question? =
        (read.after s v.question?, asked ++ v.question?.toList) := by
  obtain hv | ⟨source, a, hv⟩ := v.question?_cases
  · rw [hv]
    simp [Reader.after]
  · rw [hv]
    rfl

def Question.isAttached : Question → Bool
  | readString .attached _ => true
  | _ => false

def Debuggee.memory (d : Debuggee) (t : Trace) : Memory := fun source a => (d.read source a t).1

@[simp]
theorem Debuggee.memory_read (d : Debuggee) (source : Source) (a : Address) (t : Trace)
    : d.memory (d.read source a t).2 = d.memory t := by
  funext source' a'
  cases source <;> cases source' <;> rfl

namespace World

def reader (d : Debuggee) : Reader World := fun source a w =>
  ((d.read source a w.trace).1, { w with trace := (d.read source a w.trace).2 })

theorem host_reads (d : Debuggee) (service : Service) : (host d service).Reads (reader d) := by
  intro source a w
  rfl

theorem reader_steady (d : Debuggee) : (reader d).Steady := by
  intro source a w
  apply d.memory_read

def afterReads (w : World) (n : Nat) : World :=
  { w with trace := { w.trace with stringReads := w.trace.stringReads + n } }

theorem afterReads_read (d : Debuggee) (source : Source) (a : Address) (w : World) (n : Nat)
    : { w with trace := (d.read source a w.trace).2 }.afterReads n =
        w.afterReads ([Question.readString source a].countP Question.isAttached + n) := by
  unfold afterReads Debuggee.read
  cases source with
  | attached => simp [Question.isAttached, Nat.add_assoc]
  | detached => simp [Question.isAttached]

theorem run_of_memory {α : Type} {d : Debuggee} (service : Service) {x : Dialogue α} {w : World}
    {a : α} {j j' : Journal} {asked asked' : List Question}
    (hrun : x.run (d.memory w.trace).host j asked = some (a, j', asked'))
    : ∃ n, asked'.countP Question.isAttached = asked.countP Question.isAttached + n ∧
        x.run (host d service).noting j (w, asked) = some (a, j', w.afterReads n, asked') := by
  induction x generalizing w asked j with
  | done b =>
    obtain ⟨rfl, rfl, rfl⟩ := Dialogue.run_done_inv hrun
    exact ⟨0, rfl, rfl⟩
  | report m next ih => exact ih hrun
  | visit id next ih => exact ih hrun
  | ask q next ih =>
    obtain ⟨r, asked₁, hq, hrun⟩ := Dialogue.run_ask_inv hrun
    cases q with
    | readString source b =>
      cases hq
      let w₁ : World := { w with trace := (d.read source b w.trace).2 }
      -- Reading a string does not change what can be read.
      have hmemory : d.memory w₁.trace = d.memory w.trace := d.memory_read source b w.trace
      rw [← hmemory] at hrun
      obtain ⟨n, hn, hrun⟩ := ih _ hrun
      rw [List.countP_append, Nat.add_assoc] at hn
      rw [hmemory, afterReads_read] at hrun
      exact ⟨_, hn, hrun⟩
    | permitted | request | wait => contradiction

end World

namespace Held

/-- What a sequence of operations comes to if strings are read when they are first needed. -/
structure Memoized (m : Memory) (h : Held) (ops : List Op) (replies : List Reply) (h' : Held)
    (asked : List Question) : Prop where
  results : replies.map Reply.result? = (lookUps m (Cells.forget h.find?) ops).map Reply.result?
  asks : asked = questions (accesses m h.find? ops)
  attempts : asked.length = (accesses m h.find? ops).countP fun a => !a.cell.isMaterialized
  cells : h'.find? = after m h.find? ops
  faithful : Cells.Faithful m h'.find?
  life : ∀ before life rest name, ops = before ++ life ++ rest →
    (∀ op ∈ life, op.target? ≠ some name) →
      Cells.Life m name (after m h.find? before) (accesses m (after m h.find? before) life)
        (after m h.find? (before ++ life))
  copied : ∀ before source target rest v, ops = before ++ .copy source target :: rest →
    after m h.find? before source = some v →
      after m h.find? (before ++ [.copy source target]) target = some v

theorem length_questions (as : List Access)
    : (questions as).length = as.countP fun a => !a.cell.isMaterialized := by
  unfold questions
  rw [List.length_filterMap_eq_countP]
  simp [StringValue.isSome_question?]

theorem after_append (m : Memory) (cells : Cells) (before life : List Op)
    : after m cells (before ++ life) = after m (after m cells before) life := List.foldl_append

theorem performAll_memoized (d : Debuggee) (service : Service) (w : World) (h : Held)
    (ops : List Op) (j : Journal) (hfaithful : Cells.Faithful (d.memory w.trace) h.find?)
    : ∃ replies h' n asked,
        (performAll h ops).run (World.host d service).noting j (w, []) =
          some ((replies, h'), j, w.afterReads n, asked) ∧
        (performAll h ops).run (World.host d service) j w =
          some ((replies, h'), j, w.afterReads n) ∧
        n = asked.countP Question.isAttached ∧
        Memoized (d.memory w.trace) h ops replies h' asked := by
  obtain ⟨replies, h', hcells, hreplies, hmemory⟩ := run_performAll hfaithful ops j []
  obtain ⟨n, hn, hnoted⟩ := World.run_of_memory service hmemory
  have hrun := Dialogue.run_noting (World.host d service) (performAll h ops) j w []
  rw [hnoted] at hrun
  refine ⟨replies, h', n, _, hnoted, hrun.symm, ?_, ?_⟩
  · simpa using hn.symm
  constructor
  · exact hreplies
  · rfl
  · exact length_questions _
  · exact hcells
  · rw [hcells]
    exact faithful_after hfaithful ops
  · intro before life rest name _ hname
    rw [after_append]
    exact (lives _ _ hname).life
  · intro before source target rest v _ hsource
    rw [after_append]
    exact Cells.copy_self hsource

theorem performAll_memoized_retried
    : let d : Debuggee := .ofTables [(⟨16⟩, "x")] []
      let w := World.new ⟨1⟩ {}
      let h : Held := ⟨[("a", .string (.remote .attached ⟨16⟩ none)),
        ("b", .string (.remote .attached ⟨24⟩ none))]⟩
      let ops : List Op := [.apply .stringEquality .eq "a" "a", .content "b", .copy "a" "c",
        .content "c", .content "b"]
      Cells.Faithful (d.memory w.trace) h.find? ∧
        ∃ replies h' asked,
          (performAll h ops).run (World.host d .bare) {} w =
            some ((replies, h'), {}, w.afterReads 3) ∧
          Memoized (d.memory w.trace) h ops replies h' asked := by
  intro d w h ops
  have hfaithful : Cells.Faithful (d.memory w.trace) h.find? := by
    apply faithful_find?
    simp [h, Value.Faithful, StringValue.Faithful, StringValue.content?]
  obtain ⟨replies, h', n, asked, _, hrun, hn, hmemoized⟩ :=
    performAll_memoized d .bare w h ops {} hfaithful
  have hthree : n = 3 := by
    rw [hn, hmemoized.asks]
    rfl
  rw [hthree] at hrun
  exact ⟨hfaithful, replies, h', asked, hrun, hmemoized⟩

end Held

end Inspector
