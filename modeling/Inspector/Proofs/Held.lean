import Inspector.Held
import Inspector.Proofs.Computation.Texts
import Inspector.Proofs.Held.Cells

/-!
Operations on held values, one after the other, against a model that remembers nothing and looks
every string up when its content is needed.
-/

namespace Inspector

namespace Held

inductive Op where
  | content (name : String)
  | apply (c : Computation) (op : Operator) (left right : String)
  | isIdentical (left right : String)
  | copy (source target : String)
  | describe (name : String)

inductive Reply where
  | content (r : Option (Except EvalError String))
  | scalar (r : Option (Except EvalError Primitive))
  | identical (r : Option Bool)
  | copied
  | description (text : Option String)

/-- What is told of contents and scalars. A description tells what is remembered. -/
def Reply.result? : Reply → Option Reply
  | copied | description _ => none
  | r => some r

namespace Op

def perform (h : Held) : Op → Dialogue (Reply × Held)
  | content name => (h.content name).bind fun (r, h) => .done (.content r, h)
  | apply c op left right => (h.apply c op left right).bind fun (r, h) => .done (.scalar r, h)
  | isIdentical left right => .done (.identical (h.isIdentical left right), h)
  | copy source target => .done (.copied, h.copy source target)
  | describe name =>
    .done (.description (((h.find? name).bind Value.string?).map StringValue.describe), h)

def target? : Op → Option String
  | copy _ target => some target
  | content _ | apply .. | isIdentical .. | describe _ => none

section

variable (m : Memory) (cells : Cells)

def lookUp : Op → Reply
  | content name => .content ((cells name).map (Value.lookUp m))
  | apply c op left right => .scalar (do return c.lookUp m op (← cells left) (← cells right))
  | isIdentical left right => .identical (do return (← cells left).isIdentical (← cells right))
  | copy .. => .copied
  | describe name =>
    .description (((cells name).bind Value.string?).map StringValue.describe)

def move : Op → Cells
  | copy source target => cells.copy source target
  | content _ | apply .. | isIdentical .. | describe _ => cells

/--
The values whose contents an operation needs. A comparison that fails on its first operand does not
get to the second one.
-/
def needs : Op → List String
  | content name => [name]
  | apply .stringEquality _ left right =>
    match cells left, cells right with
    | some l, some _ => if (l.operandLookUp m).isOk then [left, right] else [left]
    | _, _ => []
  | apply .. | isIdentical .. | copy .. | describe _ => []

def accesses (op : Op) : List Access := cells.accesses m (op.needs m cells)

def after (op : Op) : Cells := op.move ((op.needs m cells).foldl (Cells.touch m) cells)

end

end Op

def performAll (h : Held) : List Op → Dialogue (List Reply × Held)
  | [] => .done ([], h)
  | op :: ops =>
    (op.perform h).bind fun (reply, h) =>
      (performAll h ops).bind fun (replies, h) => .done (reply :: replies, h)

section

variable (m : Memory)

def lookUps (cells : Cells) : List Op → List Reply
  | [] => []
  | op :: ops => op.lookUp m cells :: lookUps (op.move cells) ops

def accesses (cells : Cells) : List Op → List Access
  | [] => []
  | op :: ops => op.accesses m cells ++ accesses (op.after m cells) ops

def after (cells : Cells) (ops : List Op) : Cells :=
  ops.foldl (fun cells op => op.after m cells) cells

end

inductive Names (cells : Cells) : String → String → Operands → Prop where
  | pair (hne : left ≠ right) (hleft : cells left = some l) (hright : cells right = some r)
      : Names cells left right (.pair l r)
  | same (hname : cells name = some v) : Names cells name name (.same v)

variable {m : Memory} {h : Held} {cells : Cells} {left right name : String} {o : Operands}

def questions (accesses : List Access) : List Question := accesses.filterMap (·.cell.question?)

theorem questions_append (as bs : List Access)
    : questions (as ++ bs) = questions as ++ questions bs := List.filterMap_append

theorem questions_access {v : Value} (hname : cells name = some v)
    : questions (cells.access name) = v.question?.toList := by
  unfold questions Cells.access Value.question?
  rw [hname]
  cases v with
  | string s => cases hs : s.question? <;> simp [Value.string?, hs]
  | primitive | reference | composite => rfl

namespace Names

theorem left_eq (hnames : Names cells left right o) : cells left = some o.left := by
  cases hnames with
  | pair _ hleft _ => exact hleft
  | same hname => exact hname

theorem right_eq (hnames : Names cells left right o) : cells right = some o.right := by
  cases hnames with
  | pair _ _ hright => exact hright
  | same hname => exact hname

theorem setLeft (hnames : Names cells left right o) (m : Memory)
    : Names (cells.touch m left) left right (o.setLeft (o.left.remember m)) := by
  cases hnames with
  | pair hne hleft hright =>
    apply Names.pair hne
    · rw [Cells.touch_self, hleft]
      rfl
    · rw [Cells.touch_of_ne hne.symm, hright]
  | same hname =>
    apply Names.same
    rw [Cells.touch_self, hname]
    rfl

theorem setRight (hnames : Names cells left right o) (m : Memory)
    : Names (cells.touch m right) left right (o.setRight (o.right.remember m)) := by
  cases hnames with
  | pair hne hleft hright =>
    apply Names.pair hne
    · rw [Cells.touch_of_ne hne, hleft]
    · rw [Cells.touch_self, hright]
      rfl
  | same hname =>
    apply Names.same
    rw [Cells.touch_self, hname]
    rfl

end Names

theorem names_of_operands? (ho : h.operands? left right = some o)
    : Names h.find? left right o := by
  unfold operands? at ho
  split at ho
  next heq =>
    subst heq
    obtain ⟨v, hv, rfl⟩ := Option.map_eq_some_iff.mp ho
    exact .same hv
  next hne =>
    split at ho
    next l r hl hr =>
      cases ho
      exact .pair hne hl hr
    next => contradiction

theorem find?_none_of_operands? (ho : h.operands? left right = none)
    : h.find? left = none ∨ h.find? right = none := by
  unfold operands? at ho
  split at ho
  next => exact .inl (Option.map_eq_none_iff.mp ho)
  next =>
    split at ho
    next => contradiction
    next hnone =>
      cases hl : h.find? left with
      | none => exact .inl rfl
      | some l =>
        cases hr : h.find? right with
        | none => exact .inr rfl
        | some r => exact absurd hr (hnone l r hl)

theorem find?_restore (hnames : Names cells left right o)
    (hothers : ∀ n, n ≠ left → n ≠ right → cells n = h.find? n)
    : (h.restore left right o).find? = cells := by
  funext n
  unfold restore
  by_cases hright : n = right
  · rw [hright, find?_insert, hnames.right_eq]
  · rw [find?_insert_of_ne _ _ hright]
    by_cases hleft : n = left
    · rw [hleft, find?_insert, hnames.left_eq]
    · rw [find?_insert_of_ne _ _ hleft, hothers n hleft hright]

variable {j : Journal} {asked : List Question}

theorem needs_contents (hnames : Names cells left right o) (m : Memory) (op : Operator)
    : Op.needs m cells (.apply .stringEquality op left right) =
        if (o.left.operandLookUp m).isOk then [left, right] else [left] := by
  simp only [Op.needs, hnames.left_eq, hnames.right_eq]

theorem run_contentsEqual (hnames : Names cells left right o) (hcells : cells.Faithful m)
    (op : Operator) (j : Journal) (asked : List Question)
    : let needed := Op.needs m cells (.apply .stringEquality op left right)
      ∃ o', Names (needed.foldl (Cells.touch m) cells) left right o' ∧
        o.contentsEqual.run m.host j asked =
          some ((do return (← o.left.operandLookUp m) == (← o.right.operandLookUp m), o'), j,
            asked ++ questions (cells.accesses m needed)) := by
  have hleft := Value.textIn_of_faithful (hcells left _ hnames.left_eq)
  have hright := Value.textIn_of_faithful (hcells right _ hnames.right_eq)
  have hfirst := hnames.setLeft m
  have hasked := questions_access hnames.left_eq
  rw [needs_contents hnames, ← hleft, ← hright]
  cases hl : o.left.textIn m with
  | error err =>
    rw [← Operands.keepLeft, Operands.keepLeft_of_error hl] at hfirst
    refine ⟨o, hfirst, ?_⟩
    rw [Operands.run_contentsEqual_failed m.host_reads hl, m.after_reader]
    simp only [Except.isOk, Except.toBool, Bool.false_eq_true, if_false, Cells.accesses,
      List.append_nil, hasked]
    rfl
  | ok l =>
    have hmore := questions_access hfirst.right_eq
    refine ⟨_, hfirst.setRight m, ?_⟩
    simp only [Operands.run_contentsEqual_reached m.host_reads hl, m.memory_reader,
      m.after_reader, Operands.textIn_right_keepLeft, Except.isOk, Except.toBool, if_true,
      Cells.accesses, List.append_nil, questions_append, hasked, hmore, List.append_assoc]
    rfl

theorem run_apply (hnames : Names cells left right o) (hcells : cells.Faithful m)
    (c : Computation) (op : Operator) (j : Journal) (asked : List Question)
    : let needed := Op.needs m cells (.apply c op left right)
      ∃ o', Names (needed.foldl (Cells.touch m) cells) left right o' ∧
        (c.apply op o).run m.host j asked =
          some ((c.lookUp m op o.left o.right, o'), j,
            asked ++ questions (cells.accesses m needed)) := by
  cases c with
  | stringEquality =>
    obtain ⟨o', hafter, hrun⟩ := run_contentsEqual hnames hcells op j asked
    refine ⟨o', hafter, ?_⟩
    rw [Operator.run_onContents hrun]
    unfold Computation.lookUp
    cases o.left.operandLookUp m with
    | error => rfl
    | ok l => cases o.right.operandLookUp m <;> rfl
  -- The other computations need no contents.
  | arithmetic | comparison | bitwise | shift | boolean | referenceEquality =>
    refine ⟨o, hnames, ?_⟩
    simp [Op.needs, Cells.accesses, questions, Computation.apply, Dialogue.run, Computation.lookUp]

theorem needs_apply (m : Memory) (cells : Cells) (c : Computation) (op : Operator)
    (left right : String)
    : Op.needs m cells (.apply c op left right) ⊆ [left, right] := by
  unfold Op.needs
  split
  next => contradiction
  next heq =>
    cases heq
    split
    · split <;> simp
    · simp
  all_goals simp

theorem needs_missing (m : Memory) (c : Computation) (op : Operator)
    (hmissing : cells left = none ∨ cells right = none)
    : Op.needs m cells (.apply c op left right) = [] := by
  cases c with
  | stringEquality =>
    unfold Op.needs
    obtain hleft | hright := hmissing
    · simp [hleft]
    · cases cells left <;> simp [hright]
  | _ => rfl

theorem faithful_find? (hentries : ∀ e ∈ h.entries, e.2.Faithful m)
    : Cells.Faithful m h.find? := by
  intro name v hv
  obtain ⟨before, after, heq, _⟩ := List.lookup_eq_some_iff.mp hv
  apply hentries (name, v)
  rw [heq]
  simp

theorem find?_insert_remember {v : Value} (hname : h.find? name = some v)
    : (h.insert name (v.remember m)).find? = Cells.touch m h.find? name := by
  funext n
  by_cases hn : n = name
  · rw [hn, find?_insert, Cells.touch_self, hname]
    rfl
  · rw [find?_insert_of_ne _ _ hn, Cells.touch_of_ne hn]

theorem find?_copy (h : Held) (source target : String)
    : (h.copy source target).find? = Cells.copy h.find? source target := by
  funext n
  unfold copy Cells.copy
  cases hsource : h.find? source with
  | none => simp
  | some v =>
    by_cases hn : n = target
    · simp [hn]
    · simp [hn, find?_insert_of_ne _ _ hn]

theorem content_of_some {v : Value} (hname : h.find? name = some v)
    : h.content name = v.content.bind fun (r, v) => .done (some r, h.insert name v) := by
  unfold content
  rw [hname]

theorem content_of_none (hname : h.find? name = none) : h.content name = .done (none, h) := by
  unfold content
  rw [hname]

theorem apply_of_some {c : Computation} {op : Operator} (ho : h.operands? left right = some o)
    : h.apply c op left right =
        (c.apply op o).bind fun (r, o) => .done (some r, h.restore left right o) := by
  unfold apply
  rw [ho]

theorem apply_of_none {c : Computation} {op : Operator} (ho : h.operands? left right = none)
    : h.apply c op left right = .done (none, h) := by
  unfold apply
  rw [ho]

def Op.Transparent (m : Memory) (h : Held) (op : Op) : Prop :=
  ∀ j asked, ∃ h', h'.find? = op.after m h.find? ∧
    (op.perform h).run m.host j asked =
      some ((op.lookUp m h.find?, h'), j, asked ++ questions (op.accesses m h.find?))

namespace Op

theorem transparent_content (hcells : Cells.Faithful m h.find?) (name : String)
    : (content name).Transparent m h := by
  intro j asked
  cases hname : h.find? name with
  | none =>
    obtain ⟨s, hs⟩ | ⟨haccess, htouch⟩ := Cells.string_or_idle m h.find? name
    · rw [hname] at hs
      contradiction
    · refine ⟨h, htouch.symm, ?_⟩
      simp only [perform, content_of_none hname]
      simp [Dialogue.run, Dialogue.bind, lookUp, hname, accesses, needs, Cells.accesses, haccess,
        questions]
  | some v =>
    refine ⟨_, find?_insert_remember hname, ?_⟩
    simp only [perform, content_of_some hname]
    rw [Dialogue.run_bind, Dialogue.run_bind, Value.run_content (hcells name v hname)]
    simp [Dialogue.run, lookUp, hname, accesses, needs, Cells.accesses, questions_access hname]

theorem transparent_apply (hcells : Cells.Faithful m h.find?) (c : Computation) (op : Operator)
    (left right : String)
    : (apply c op left right).Transparent m h := by
  intro j asked
  cases ho : h.operands? left right with
  | none =>
    have hmissing := find?_none_of_operands? ho
    have hneeds := needs_missing m c op hmissing
    have hlook : (apply c op left right).lookUp m h.find? = .scalar none := by
      simp only [lookUp]
      obtain hleft | hright := hmissing
      · rw [hleft]
        rfl
      · rw [hright]
        cases h.find? left <;> rfl
    refine ⟨h, ?_, ?_⟩
    · simp [after, hneeds, move]
    · simp only [perform, apply_of_none ho]
      simp [Dialogue.run, Dialogue.bind, hlook, accesses, hneeds, Cells.accesses, questions]
  | some o =>
    have hnames := names_of_operands? ho
    obtain ⟨o', hafter, hrun⟩ := run_apply hnames hcells c op j asked
    refine ⟨h.restore left right o', ?_, ?_⟩
    · apply find?_restore hafter
      intro n hleft hright
      apply Cells.foldl_touch_of_not_mem
      intro hmem
      have hn := needs_apply m h.find? c op left right hmem
      simp [hleft, hright] at hn
    · simp only [perform, apply_of_some ho]
      rw [Dialogue.run_bind, Dialogue.run_bind, hrun]
      simp [Dialogue.run, lookUp, hnames.left_eq, hnames.right_eq, accesses]

theorem transparent_isIdentical (m : Memory) (h : Held) (left right : String)
    : (isIdentical left right).Transparent m h := by
  intro j asked
  refine ⟨h, rfl, ?_⟩
  have hlook : (isIdentical left right).lookUp m h.find? =
      .identical (h.isIdentical left right) := by
    simp only [lookUp, Held.isIdentical]
    cases h.find? left with
    | none => rfl
    | some l => cases h.find? right <;> rfl
  simp [perform, Dialogue.run, hlook, accesses, needs, Cells.accesses, questions]

theorem transparent (hcells : Cells.Faithful m h.find?) (op : Op) : op.Transparent m h := by
  cases op with
  | content name => exact transparent_content hcells name
  | apply c op left right => exact transparent_apply hcells c op left right
  | isIdentical left right => exact transparent_isIdentical m h left right
  | copy source target =>
    intro j asked
    refine ⟨_, find?_copy h source target, ?_⟩
    simp [perform, Dialogue.run, lookUp, accesses, needs, Cells.accesses, questions]
  | describe name =>
    intro j asked
    refine ⟨h, rfl, ?_⟩
    simp [perform, Dialogue.run, lookUp, accesses, needs, Cells.accesses, questions]

theorem faithful_after (hcells : cells.Faithful m) (op : Op) : (op.after m cells).Faithful m := by
  cases op with
  | copy source target => exact hcells.copy source target
  | content | apply | isIdentical | describe => exact Cells.faithful_foldl_touch hcells _

theorem forget_after (m : Memory) (cells : Cells) (op : Op)
    : (op.after m cells).forget = op.move cells.forget := by
  cases op with
  | copy source target => exact Cells.forget_copy source target
  | content | apply | isIdentical | describe => apply Cells.forget_foldl_touch

theorem result?_lookUp (m : Memory) (cells : Cells) (op : Op)
    : (op.lookUp m cells).result? = (op.lookUp m cells.forget).result? := by
  cases op with
  | content name =>
    simp only [lookUp, Cells.forget]
    cases cells name <;> simp
  | apply c op left right =>
    simp only [lookUp, Cells.forget]
    cases cells left with
    | none => rfl
    | some l => cases cells right <;> simp
  | isIdentical left right =>
    simp only [lookUp, Cells.forget]
    cases cells left with
    | none => rfl
    | some l => cases cells right <;> simp [Value.isIdentical_forget]
  | copy | describe => rfl

theorem lives (m : Memory) (cells : Cells) (op : Op) (hname : op.target? ≠ some name)
    : Cells.Lives m name cells (op.accesses m cells) (op.after m cells) := by
  cases op with
  | copy source target =>
    apply Cells.Lives.copy
    rintro rfl
    exact hname rfl
  | content | apply | isIdentical | describe => apply Cells.Lives.accesses

end Op

theorem run_performAll (hcells : Cells.Faithful m h.find?) (ops : List Op) (j : Journal)
    (asked : List Question)
    : ∃ replies h', h'.find? = after m h.find? ops ∧
        replies.map Reply.result? =
          (lookUps m (Cells.forget h.find?) ops).map Reply.result? ∧
        (performAll h ops).run m.host j asked =
          some ((replies, h'), j, asked ++ questions (accesses m h.find? ops)) := by
  induction ops generalizing h asked with
  | nil => exact ⟨[], h, rfl, rfl, by simp [performAll, Dialogue.run, accesses, questions]⟩
  | cons op ops ih =>
    -- Both models go on, one from what it remembers now, the other from the same without that.
    obtain ⟨h₁, hafter, hrun⟩ := op.transparent hcells j asked
    have hcells₁ : Cells.Faithful m h₁.find? := by
      rw [hafter]
      exact op.faithful_after hcells
    obtain ⟨replies, h', hlater, hreplies, hruns⟩ :=
      ih hcells₁ (asked ++ questions (op.accesses m h.find?))
    rw [hafter] at hlater hreplies hruns
    refine ⟨op.lookUp m h.find? :: replies, h', hlater, ?_, ?_⟩
    · rw [op.forget_after] at hreplies
      unfold lookUps
      rw [List.map_cons, List.map_cons, op.result?_lookUp, hreplies]
    · unfold performAll accesses
      rw [Dialogue.run_bind, hrun, Option.bind_some, Dialogue.run_bind, hruns, questions_append,
        List.append_assoc]
      rfl

theorem faithful_after (hcells : cells.Faithful m) (ops : List Op)
    : (after m cells ops).Faithful m := by
  induction ops generalizing cells with
  | nil => exact hcells
  | cons op ops ih => exact ih (op.faithful_after hcells)

theorem lives (m : Memory) (cells : Cells) {ops : List Op}
    (hname : ∀ op ∈ ops, op.target? ≠ some name)
    : Cells.Lives m name cells (accesses m cells ops) (after m cells ops) := by
  induction ops generalizing cells with
  | nil => apply Cells.Lives.refl
  | cons op ops ih =>
    rw [List.forall_mem_cons] at hname
    exact (op.lives m cells hname.1).append (ih _ hname.2)

end Held

end Inspector
