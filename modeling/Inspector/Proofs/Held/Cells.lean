import Inspector.Proofs.Value.Memory

/-!
Cells: the values that are held under names, and what accesses to their contents make of them. An
access fills its cell if the content can be read, and leaves all others alone.
-/

namespace Inspector

abbrev Cells := String → Option Value

/-- The content of a string is needed; the string is the one that is held at that moment. -/
structure Access where
  name : String
  cell : StringValue

def Access.reads (m : Memory) (a : Access) : Bool :=
  !a.cell.isMaterialized && (a.cell.lookUp m).isOk

namespace Cells

def forget (cells : Cells) : Cells := fun name => (cells name).map Value.forget

def copy (cells : Cells) (source target : String) : Cells := fun name =>
  if name = target then (cells source).or (cells name) else cells name

def Faithful (m : Memory) (cells : Cells) : Prop := ∀ name v, cells name = some v → v.Faithful m

section

variable (m : Memory) (cells : Cells)

def touch (name : String) : Cells := fun n =>
  if n = name then (cells n).map (Value.remember m) else cells n

def access (name : String) : List Access :=
  match (cells name).bind Value.string? with
  | some s => [⟨name, s⟩]
  | none => []

def accesses (cells : Cells) : List String → List Access
  | [] => []
  | name :: names => cells.access name ++ accesses (cells.touch m name) names

end

variable {m : Memory} {cells cells₁ cells' : Cells} {name : String}

theorem touch_self (name : String)
    : cells.touch m name name = (cells name).map (Value.remember m) := by
  unfold touch
  rw [if_pos rfl]

theorem touch_of_ne {n : String} (hne : n ≠ name) : cells.touch m name n = cells n := by
  unfold touch
  rw [if_neg hne]

theorem copy_self {source target : String} {v : Value} (hsource : cells source = some v)
    : cells.copy source target target = some v := by
  unfold copy
  rw [if_pos rfl, hsource]
  rfl

theorem copy_of_ne {source target : String} (hne : name ≠ target)
    : cells.copy source target name = cells name := by
  unfold copy
  rw [if_neg hne]

theorem foldl_touch_of_not_mem {names : List String} (hname : name ∉ names)
    : names.foldl (touch m) cells name = cells name := by
  induction names generalizing cells with
  | nil => rfl
  | cons n names ih =>
    rw [List.mem_cons, not_or] at hname
    exact (ih hname.2).trans (touch_of_ne hname.1)

theorem Faithful.touch (hcells : cells.Faithful m) (name : String)
    : (cells.touch m name).Faithful m := by
  intro n v hv
  by_cases hn : n = name
  · subst hn
    rw [touch_self] at hv
    obtain ⟨w, hw, rfl⟩ := Option.map_eq_some_iff.mp hv
    exact (hcells n w hw).remember
  · rw [touch_of_ne hn] at hv
    exact hcells n v hv

theorem Faithful.copy (hcells : cells.Faithful m) (source target : String)
    : (cells.copy source target).Faithful m := by
  intro n v hv
  unfold Cells.copy at hv
  split at hv
  · obtain hv | ⟨_, hv⟩ := Option.or_eq_some_iff.mp hv
    · exact hcells source v hv
    · exact hcells n v hv
  · exact hcells n v hv

@[simp]
theorem forget_touch (name : String) : (cells.touch m name).forget = cells.forget := by
  funext n
  unfold forget
  by_cases hn : n = name
  · subst hn
    rw [touch_self]
    cases cells n <;> simp
  · rw [touch_of_ne hn]

@[simp]
theorem forget_copy (source target : String)
    : (cells.copy source target).forget = cells.forget.copy source target := by
  funext n
  unfold forget copy
  split
  · cases hsource : cells source <;> simp [hsource]
  · rfl

theorem faithful_foldl_touch (hcells : cells.Faithful m) (names : List String)
    : Faithful m (names.foldl (touch m) cells) := by
  induction names generalizing cells with
  | nil => exact hcells
  | cons name names ih => exact ih (hcells.touch name)

theorem forget_foldl_touch (m : Memory) (cells : Cells) (names : List String)
    : forget (names.foldl (touch m) cells) = cells.forget := by
  induction names generalizing cells with
  | nil => rfl
  | cons name names ih => exact (ih _).trans (forget_touch name)

def pending (m : Memory) (cells : Cells) (name : String) : Nat :=
  (cells.access name).countP (Access.reads m)

structure Lives (m : Memory) (name : String) (cells : Cells) (accesses : List Access)
    (cells' : Cells) : Prop where
  cell : cells' name =
    if accesses.any (·.name == name) then (cells name).map (Value.remember m) else cells name
  count : accesses.countP (fun a => a.name == name && a.reads m) + pending m cells' name =
    pending m cells name

theorem access_string {s : StringValue} (hname : cells name = some (.string s))
    : cells.access name = [⟨name, s⟩] := by
  unfold access
  rw [hname]
  rfl

theorem touch_string {s : StringValue} (hname : cells name = some (.string s))
    : cells.touch m name name = some (.string (s.remember m)) := by
  rw [touch_self, hname]
  rfl

theorem string_or_idle (m : Memory) (cells : Cells) (name : String)
    : (∃ s, cells name = some (.string s)) ∨
        cells.access name = [] ∧ cells.touch m name = cells := by
  have hidle (hs : (cells name).bind Value.string? = none)
      (hv : (cells name).map (Value.remember m) = cells name)
      : cells.access name = [] ∧ cells.touch m name = cells := by
    constructor
    · unfold access
      rw [hs]
    · funext n
      by_cases hn : n = name
      · rw [hn, touch_self, hv]
      · rw [touch_of_ne hn]
  cases hname : cells name with
  | none =>
    rw [hname] at hidle
    exact .inr (hidle rfl rfl)
  | some v =>
    cases v with
    | string s => exact .inl ⟨s, rfl⟩
    | primitive | reference | composite =>
      rw [hname] at hidle
      exact .inr (hidle rfl rfl)

theorem pending_congr (hname : cells' name = cells name)
    : pending m cells' name = pending m cells name := by
  unfold pending access
  rw [hname]

theorem pending_string {s : StringValue} (hname : cells name = some (.string s))
    : pending m cells name = if (Access.mk name s).reads m then 1 else 0 := by
  unfold pending
  rw [access_string hname, List.countP_singleton]

theorem pending_le_one (m : Memory) (cells : Cells) (name : String)
    : pending m cells name ≤ 1 := by
  unfold pending
  apply Nat.le_trans List.countP_le_length
  obtain ⟨s, hname⟩ | ⟨hidle, _⟩ := string_or_idle m cells name
  · simp [access_string hname]
  · simp [hidle]

theorem reads_remember (m : Memory) (name : String) (s : StringValue)
    : (Access.mk name (s.remember m)).reads m = false := by
  unfold Access.reads
  rw [StringValue.lookUp_remember]
  cases hs : s.lookUp m with
  | ok c =>
    rw [StringValue.remember_of_ok hs, StringValue.isMaterialized_materialize]
    rfl
  | error reason => simp [Except.isOk, Except.toBool]

namespace Lives

theorem refl (m : Memory) (name : String) (cells : Cells) : Lives m name cells [] cells where
  cell := rfl
  count := by simp

theorem append {as bs : List Access} (hfirst : Lives m name cells as cells₁)
    (hlater : Lives m name cells₁ bs cells') : Lives m name cells (as ++ bs) cells' where
  cell := by
    rw [hlater.cell, hfirst.cell, List.any_append]
    cases as.any (·.name == name) with
    | false => simp
    | true => cases cells name <;> simp
  count := by
    rw [List.countP_append, Nat.add_assoc, hlater.count, hfirst.count]

theorem touch (m : Memory) (name : String) (cells : Cells) (n : String)
    : Lives m name cells (cells.access n) (cells.touch m n) := by
  obtain ⟨s, hn⟩ | ⟨haccess, htouch⟩ := string_or_idle m cells n
  · rw [access_string hn]
    by_cases hname : n = name
    · subst hname
      -- An access uses up the read that was still to come.
      constructor
      · simp [touch_self]
      · rw [pending_string hn, pending_string (touch_string hn), reads_remember]
        simp [List.countP_singleton]
    · have hkept : cells.touch m n name = cells name := touch_of_ne (Ne.symm hname)
      constructor
      · simp [hname, hkept]
      · rw [pending_congr hkept]
        simp [hname]
  · rw [haccess, htouch]
    apply refl

theorem accesses (m : Memory) (name : String) (cells : Cells) (names : List String)
    : Lives m name cells (cells.accesses m names) (names.foldl (Cells.touch m) cells) := by
  induction names generalizing cells with
  | nil => apply refl
  | cons n names ih => exact (touch m name cells n).append (ih _)

theorem copy (m : Memory) (cells : Cells) (source : String) {target : String}
    (hne : name ≠ target) : Lives m name cells [] (cells.copy source target) := by
  have hkept : cells.copy source target name = cells name := copy_of_ne hne
  constructor
  · simp [hkept]
  · rw [pending_congr hkept]
    simp

end Lives

structure Life (m : Memory) (name : String) (cells : Cells) (accesses : List Access)
    (cells' : Cells) : Prop where
  cell : cells' name =
    if accesses.any (·.name == name) then (cells name).map (Value.remember m) else cells name
  kept : ∀ s, cells name = some (.string s) → s.isMaterialized = true →
    cells' name = some (.string s)
  unread : ∀ s reason, cells name = some (.string s) → s.lookUp m = .error reason →
    cells' name = some (.string s)
  once : accesses.countP (fun a => a.name == name && a.reads m) ≤ 1

theorem Lives.life {as : List Access} (hlives : Lives m name cells as cells')
    : Life m name cells as cells' := by
  have hkept {s : StringValue} (hname : cells name = some (.string s)) (hs : s.remember m = s)
      : cells' name = some (.string s) := by
    rw [hlives.cell, hname, Option.map_some, Value.remember, hs]
    split <;> rfl
  constructor
  · exact hlives.cell
  · intro s hname hs
    exact hkept hname (StringValue.remember_of_materialized hs)
  · intro s reason hname hs
    exact hkept hname (StringValue.remember_of_error hs)
  · have hpending := pending_le_one m cells name
    have hcount := hlives.count
    omega

end Cells

end Inspector
