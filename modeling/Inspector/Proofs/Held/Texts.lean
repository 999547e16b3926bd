import Inspector.Proofs.Held.Transparent

/-!
Comparisons of held strings, one after the other. They change which strings remember what they
are, but nothing about what is found in them; so equality stays the same equivalence throughout.
-/

namespace Inspector

variable {σ : Type} {host : Host σ} {read : Reader σ} {m : Memory} {s s₁ s' : σ}

namespace Cells

def text (m : Memory) (cells : Cells) (name : String) : Option (Except EvalError (Option String)) :=
  (cells name).map (Value.textIn m)

@[simp]
theorem text_touch (m : Memory) (cells : Cells) (n : String)
    : (cells.touch m n).text m = cells.text m := by
  funext name
  unfold text
  by_cases hname : name = n
  · subst hname
    rw [touch_self]
    cases cells name <;> simp
  · rw [touch_of_ne hname]

end Cells

namespace Held

variable {h h₁ h' : Held} {left right name : String} {o : Operands}

structure Keeps (read : Reader σ) (replaced : String → Prop) (h : Held) (s : σ) (h' : Held)
    (s' : σ) : Prop where
  memory : read.memory s' = read.memory s
  text : ∀ name, ¬ replaced name →
    Cells.text (read.memory s) h'.find? name = Cells.text (read.memory s) h.find? name

namespace Keeps

variable {replaced replaced₁ : String → Prop}

theorem of_text (hmemory : read.memory s' = read.memory s)
    (htext : Cells.text (read.memory s) h'.find? = Cells.text (read.memory s) h.find?)
    : Keeps read replaced h s h' s' where
  memory := hmemory
  text name _ := by rw [htext]

theorem refl (read : Reader σ) (replaced : String → Prop) (h : Held) (s : σ)
    : Keeps read replaced h s h s := of_text rfl rfl

theorem trans (hfirst : Keeps read replaced h s h₁ s₁) (hlater : Keeps read replaced₁ h₁ s₁ h' s')
    : Keeps read (fun name => replaced name ∨ replaced₁ name) h s h' s' where
  memory := hlater.memory.trans hfirst.memory
  text name hname := by
    rw [not_or] at hname
    have htext := hlater.text name hname.2
    rw [hfirst.memory] at htext
    rw [htext, hfirst.text name hname.1]

end Keeps

def verdict (m : Memory) (h : Held) (op : Operator) (left right : String)
    : Option (Except EvalError Primitive) := do
  let l ← Cells.text m h.find? left
  let r ← Cells.text m h.find? right
  return op.onTexts l r

theorem verdict_of_names (hnames : Names h.find? left right o) (m : Memory) (op : Operator)
    : h.verdict m op left right = some (op.onTexts (o.left.textIn m) (o.right.textIn m)) := by
  unfold verdict Cells.text
  rw [hnames.left_eq, hnames.right_eq]
  rfl

theorem verdict_of_missing (hmissing : h.find? left = none ∨ h.find? right = none) (m : Memory)
    (op : Operator) : h.verdict m op left right = none := by
  unfold verdict Cells.text
  obtain hleft | hright := hmissing
  · rw [hleft]
    rfl
  · rw [hright]
    cases h.find? left <;> rfl

theorem run_contentsEqual_of_names (hreads : host.Reads read) (hsteady : read.Steady)
    (hnames : Names h.find? left right o) (j : Journal) (s : σ)
    : let m := read.memory s
      ∃ o' cells s', Names cells left right o' ∧
        (∀ n, n ≠ left → n ≠ right → cells n = h.find? n) ∧
        Cells.text m cells = Cells.text m h.find? ∧ read.memory s' = m ∧
        o.contentsEqual.run host j s =
          some ((do return (← o.left.textIn m) == (← o.right.textIn m), o'), j, s') := by
  intro m
  have hmemory := hsteady.memory_after s o.left.question?
  cases hl : o.left.textIn m with
  | error err =>
    exact ⟨o, _, _, hnames, fun _ _ _ => rfl, rfl, hmemory,
      Operands.run_contentsEqual_failed hreads hl j⟩
  | ok l =>
    have hrun := Operands.run_contentsEqual_reached hreads hl j
    simp only [hmemory, Operands.textIn_right_keepLeft] at hrun
    refine ⟨_, _, _, (hnames.setLeft m).setRight m, ?_, ?_, ?_, hrun⟩
    · intro n hleft hright
      rw [Cells.touch_of_ne hright, Cells.touch_of_ne hleft]
    · rw [Cells.text_touch, Cells.text_touch]
    · rw [hsteady.memory_after, hmemory]

theorem run_apply_texts (hreads : host.Reads read) (hsteady : read.Steady) (h : Held)
    (op : Operator) (left right : String) (replaced : String → Prop) (j : Journal) (s : σ)
    : ∃ h' s', Keeps read replaced h s h' s' ∧
        (h.apply .stringEquality op left right).run host j s =
          some ((h.verdict (read.memory s) op left right, h'), j, s') := by
  cases ho : h.operands? left right with
  | none =>
    refine ⟨h, s, .refl read replaced h s, ?_⟩
    rw [apply_of_none ho, verdict_of_missing (find?_none_of_operands? ho)]
    rfl
  | some o =>
    have hnames := names_of_operands? ho
    obtain ⟨o', cells, s', hafter, hothers, htext, hmemory, hrun⟩ :=
      run_contentsEqual_of_names hreads hsteady hnames j s
    refine ⟨h.restore left right o', s', ?_, ?_⟩
    · apply Keeps.of_text hmemory
      rw [find?_restore hafter hothers, htext]
    · rw [apply_of_some ho, Dialogue.run_bind, Operator.run_onContents hrun,
        verdict_of_names hnames]
      cases o.left.textIn (read.memory s) with
      | error => rfl
      | ok l => cases o.right.textIn (read.memory s) <;> rfl

namespace Op

theorem run_content (hreads : host.Reads read) (hsteady : read.Steady) (h : Held) (name : String)
    (replaced : String → Prop) (j : Journal) (s : σ)
    : ∃ reply h' s', Keeps read replaced h s h' s' ∧
        ((content name).perform h).run host j s = some ((reply, h'), j, s') := by
  simp only [perform]
  cases hname : h.find? name with
  | none =>
    rw [content_of_none hname]
    exact ⟨_, h, s, .refl read _ h s, rfl⟩
  | some v =>
    have hkeeps : Keeps read replaced h s (h.insert name (v.remember (read.memory s)))
        (read.after s v.question?) := by
      apply Keeps.of_text (hsteady.memory_after s _)
      rw [find?_insert_remember hname, Cells.text_touch]
    refine ⟨.content (some (v.contentIn (read.memory s))), _, _, hkeeps, ?_⟩
    rw [content_of_some hname, Dialogue.run_bind, Dialogue.run_bind,
      Value.run_content_of_reads hreads]
    rfl

theorem run_apply (hreads : host.Reads read) (hsteady : read.Steady) (h : Held) (c : Computation)
    (op : Operator) (left right : String) (replaced : String → Prop) (j : Journal) (s : σ)
    : ∃ reply h' s', Keeps read replaced h s h' s' ∧
        ((apply c op left right).perform h).run host j s = some ((reply, h'), j, s') := by
  simp only [perform]
  cases c with
  | stringEquality =>
    obtain ⟨h', s', hkeeps, hrun⟩ :=
      run_apply_texts hreads hsteady h op left right replaced j s
    refine ⟨.scalar (h.verdict (read.memory s) op left right), h', s', hkeeps, ?_⟩
    rw [Dialogue.run_bind, hrun]
    rfl
  -- The other computations give the operands back as they are.
  | arithmetic | comparison | bitwise | shift | boolean | referenceEquality =>
    cases ho : h.operands? left right with
    | none =>
      rw [apply_of_none ho]
      exact ⟨_, h, s, .refl read _ h s, rfl⟩
    | some o =>
      have hkept : (h.restore left right o).find? = h.find? :=
        find?_restore (names_of_operands? ho) fun _ _ _ => rfl
      rw [apply_of_some ho]
      refine ⟨_, h.restore left right o, s, .of_text rfl ?_, rfl⟩
      rw [hkept]

theorem run_perform (hreads : host.Reads read) (hsteady : read.Steady) (h : Held) (op : Op)
    (j : Journal) (s : σ)
    : ∃ reply h' s', Keeps read (fun name => op.target? = some name) h s h' s' ∧
        (op.perform h).run host j s = some ((reply, h'), j, s') := by
  cases op with
  | content name => apply run_content hreads hsteady
  | apply c op left right => apply run_apply hreads hsteady
  | isIdentical | describe => exact ⟨_, h, s, .refl read _ h s, rfl⟩
  | copy source target =>
    refine ⟨_, h.copy source target, s, ?_, rfl⟩
    constructor
    · rfl
    · intro name hname
      have hne : name ≠ target := by
        rintro rfl
        exact hname rfl
      unfold Cells.text
      rw [find?_copy, Cells.copy_of_ne hne]

end Op

theorem run_performAll_texts (hreads : host.Reads read) (hsteady : read.Steady) (h : Held)
    (ops : List Op) (j : Journal) (s : σ)
    : ∃ replies h' s', Keeps read (fun name => ∃ op ∈ ops, op.target? = some name) h s h' s' ∧
        (performAll h ops).run host j s = some ((replies, h'), j, s') := by
  induction ops generalizing h s with
  | nil => exact ⟨[], h, s, .refl read _ h s, rfl⟩
  | cons op ops ih =>
    obtain ⟨reply, h₁, s₁, hfirst, hrun⟩ := op.run_perform hreads hsteady h j s
    obtain ⟨replies, h', s', hlater, hruns⟩ := ih h₁ s₁
    refine ⟨reply :: replies, h', s', ?_, ?_⟩
    · simpa using hfirst.trans hlater
    · unfold performAll
      rw [Dialogue.run_bind, hrun, Option.bind_some, Dialogue.run_bind, hruns]
      rfl

def Tells (h : Held) (host : Host σ) (j : Journal) (s : σ) (op : Operator) (left right : String)
    (b : Bool) : Prop :=
  ∃ h' after, (h.apply .stringEquality op left right).run host j s =
    some ((some (.ok (.bool b)), h'), after)

def Readable (m : Memory) (h : Held) (name : String) : Prop :=
  ∃ t, Cells.text m h.find? name = some (.ok t)

theorem tells_iff (hreads : host.Reads read) (hsteady : read.Steady) (h : Held) (j : Journal)
    (s : σ) (op : Operator) (left right : String) (b : Bool)
    : h.Tells host j s op left right b ↔
        h.verdict (read.memory s) op left right = some (.ok (.bool b)) := by
  obtain ⟨h', s', _, hrun⟩ :=
    run_apply_texts hreads hsteady h op left right (fun _ => False) j s
  unfold Tells
  rw [hrun]
  simp

theorem verdict_eq_true (m : Memory) (h : Held) (left right : String)
    : h.verdict m .eq left right = some (.ok (.bool true)) ↔
        ∃ t, Cells.text m h.find? left = some (.ok t) ∧
          Cells.text m h.find? right = some (.ok t) := by
  unfold verdict
  cases Cells.text m h.find? left with
  | none => simp
  | some l =>
    cases Cells.text m h.find? right with
    | none => simp
    | some r =>
      cases l with
      | error => simp
      | ok l =>
        cases r with
        | error => simp
        | ok r =>
          have hsymm : r = l ↔ l = r := eq_comm
          simp [hsymm]

theorem verdict_of_text_eq (htext : Cells.text m h.find? left = Cells.text m h.find? right)
    : h.verdict m .eq left right ≠ some (.ok (.bool false)) ∧
        h.verdict m .ne left right ≠ some (.ok (.bool true)) := by
  unfold verdict
  rw [htext]
  cases Cells.text m h.find? right with
  | none => simp
  | some r => cases r <;> simp

theorem verdict_congr {m' : Memory}
    (hleft : Cells.text m' h'.find? left = Cells.text m h.find? left)
    (hright : Cells.text m' h'.find? right = Cells.text m h.find? right) (op : Operator)
    : h'.verdict m' op left right = h.verdict m op left right := by
  unfold verdict
  rw [hleft, hright]

theorem equivalence_tells (hreads : host.Reads read) (hsteady : read.Steady) (h : Held)
    (j : Journal) (s : σ)
    : Equivalence fun left right : { name // h.Readable (read.memory s) name } =>
        h.Tells host j s .eq left right true := by
  simp only [tells_iff hreads hsteady, verdict_eq_true]
  constructor
  · intro ⟨name, t, ht⟩
    exact ⟨t, ht, ht⟩
  · rintro left right ⟨t, hleft, hright⟩
    exact ⟨t, hright, hleft⟩
  · rintro left middle right ⟨t, hleft, hmiddle⟩ ⟨u, hmiddle', hright⟩
    rw [hmiddle] at hmiddle'
    cases hmiddle'
    exact ⟨t, hleft, hright⟩

end Held

theorem Operands.compared {o : Operands} (hreads : host.Reads read) (hleft : o.left.IsText)
    (hright : o.right.IsText) (s : σ) (j : Journal)
    : ∃ verdict o' s' asked,
        o.contentsEqual.run host.noting j (s, []) = some ((verdict, o'), j, s', asked) ∧
        o.Compared (read.memory s) (read.memory (read.after s o.left.question?)) verdict o'
          asked := by
  cases hl : o.left.textIn (read.memory s) with
  | error err =>
    have hrun := run_contentsEqual_failed (s := (s, [])) hreads.noting hl j
    rw [read.after_noting] at hrun
    exact ⟨_, _, _, _, hrun, compared_failed hleft hl _⟩
  | ok l =>
    have hrun := run_contentsEqual_reached (s := (s, [])) hreads.noting hl j
    simp only [read.after_noting] at hrun
    exact ⟨_, _, _, _, hrun, compared_reached hleft hright hl _⟩

structure TextEquality (host : Host σ) (read : Reader σ) : Prop where
  compared : ∀ (o : Operands) (s : σ) (j : Journal), o.left.IsText → o.right.IsText →
    ∃ verdict o' s' asked,
      (Computation.stringEquality.apply .eq o).run host.noting j (s, []) =
        some ((verdict.map .bool, o'), j, s', asked) ∧
      (Computation.stringEquality.apply .ne o).run host.noting j (s, []) =
        some ((verdict.map fun equal => .bool !equal, o'), j, s', asked) ∧
      o.Compared (read.memory s) (read.memory (read.after s o.left.question?)) verdict o' asked
  equivalence : read.Steady → ∀ (h : Held) (j : Journal) (s : σ),
    Equivalence fun left right : { name // h.Readable (read.memory s) name } =>
      h.Tells host j s .eq left right true
  lasts : read.Steady → ∀ (h : Held) (ops : List Held.Op) (j : Journal) (s : σ),
    ∃ replies h' s', (h.performAll ops).run host j s = some ((replies, h'), j, s') ∧
      ∀ left right, (∀ op ∈ ops, op.target? ≠ some left ∧ op.target? ≠ some right) →
        (h'.Readable (read.memory s') left ↔ h.Readable (read.memory s) left) ∧
        ∀ op b, h'.Tells host j s' op left right b ↔ h.Tells host j s op left right b
  one_address : read.Steady → ∀ (h : Held) (j : Journal) (s : σ) (left right : String)
    (source : Source) (a : Address) (l r : Option String),
    h.find? left = some (.string (.remote source a l)) →
    h.find? right = some (.string (.remote source a r)) →
    (StringValue.remote source a l).Faithful (read.memory s) →
    (StringValue.remote source a r).Faithful (read.memory s) →
      ¬ h.Tells host j s .eq left right false ∧ ¬ h.Tells host j s .ne left right true

theorem Host.Reads.textEquality (hreads : host.Reads read) : TextEquality host read where
  compared := by
    intro o s j hleft hright
    obtain ⟨verdict, o', s', asked, hrun, hcompared⟩ := Operands.compared hreads hleft hright s j
    refine ⟨verdict, o', s', asked, ?_, ?_, hcompared⟩
    · rw [Operator.run_onContents hrun]
      cases verdict <;> rfl
    · rw [Operator.run_onContents hrun]
      cases verdict <;> rfl
  equivalence hsteady h j s := h.equivalence_tells hreads hsteady j s
  lasts := by
    intro hsteady h ops j s
    obtain ⟨replies, h', s', hkeeps, hrun⟩ := Held.run_performAll_texts hreads hsteady h ops j s
    refine ⟨replies, h', s', hrun, ?_⟩
    intro left right hothers
    have hleft := hkeeps.text left fun ⟨op, hop, htarget⟩ => (hothers op hop).1 htarget
    have hright := hkeeps.text right fun ⟨op, hop, htarget⟩ => (hothers op hop).2 htarget
    rw [hkeeps.memory]
    constructor
    · unfold Held.Readable
      rw [hleft]
    · intro op b
      rw [Held.tells_iff hreads hsteady, Held.tells_iff hreads hsteady, hkeeps.memory,
        Held.verdict_congr hleft hright]
  one_address := by
    intro hsteady h j s left right source a l r hleft hright hl hr
    have htext : Cells.text (read.memory s) h.find? left =
        Cells.text (read.memory s) h.find? right := by
      unfold Cells.text
      rw [hleft, hright]
      simp only [Option.map_some, Value.textIn_string]
      rw [StringValue.contentIn_of_faithful hl, StringValue.contentIn_of_faithful hr]
      rfl
    rw [Held.tells_iff hreads hsteady, Held.tells_iff hreads hsteady]
    exact Held.verdict_of_text_eq htext

theorem Host.Reads.textEquality_literal
    : let d : Debuggee := .ofTables [(⟨16⟩, "x")] []
      let host := World.host d .bare
      let read := World.reader d
      let w := World.new ⟨1⟩ {}
      let h : Held := ⟨[("a", .string (.remote .attached ⟨16⟩ none)),
        ("b", .string (.remote .attached ⟨16⟩ none)), ("x", .text "x"), ("empty", .text ""),
        ("null", .null (.of .string))]⟩
      host.Reads read ∧ read.Steady ∧ TextEquality host read ∧
        ∃ replies h' w',
          (h.performAll [.apply .stringEquality .eq "a" "x", .content "b"]).run host {} w =
            some ((replies, h'), {}, w') ∧
          h'.Tells host {} w' .eq "b" "a" true ∧ h'.Tells host {} w' .ne "empty" "null" true ∧
          ¬ h'.Tells host {} w' .ne "a" "b" true := by
  intro d host read w h
  have hreads : host.Reads read := World.host_reads d .bare
  have hsteady : read.Steady := World.reader_steady d
  have hlaw : TextEquality host read := Host.Reads.textEquality hreads
  obtain ⟨replies, h', w', hrun, hlasts⟩ :=
    hlaw.lasts hsteady h [.apply .stringEquality .eq "a" "x", .content "b"] {} w
  have hlater (left right : String) (op : Operator) (b : Bool)
      : h'.Tells host {} w' op left right b ↔ h.Tells host {} w op left right b := by
    apply (hlasts left right _).2
    simp [Held.Op.target?]
  refine ⟨hreads, hsteady, hlaw, replies, h', w', hrun, ?_, ?_, ?_⟩
  · rw [hlater]
    exact ⟨_, _, rfl⟩
  · rw [hlater]
    exact ⟨_, _, rfl⟩
  · rw [hlater]
    apply (hlaw.one_address hsteady h {} w "a" "b" .attached ⟨16⟩ none none rfl rfl _ _).2
    all_goals simp [StringValue.Faithful, StringValue.content?]

end Inspector
