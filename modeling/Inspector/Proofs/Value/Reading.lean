import Inspector.Proofs.Dialogue
import Inspector.Proofs.Value.Memory

/-!
Strings at a host that reads them in whatever way it likes. What is found in a string is what it
remembers, wherever that came from, and what the host reads now if it remembers nothing.
-/

namespace Inspector

/-- How strings are read: with an answer, which may be another one the next time. -/
abbrev Reader (σ : Type) := Source → Address → σ → Except Unavailable String × σ

def Host.Reads {σ : Type} (host : Host σ) (read : Reader σ) : Prop :=
  ∀ source a s, host (.readString source a) s = some (read source a s)

def Memory.host (m : Memory) : Host (List Question)
  | .readString source a, asked => some (m source a, asked ++ [.readString source a])
  | _, _ => none

def Memory.reader (m : Memory) : Reader (List Question) := fun source a asked =>
  (m source a, asked ++ [.readString source a])

theorem Memory.host_reads (m : Memory) : m.host.Reads m.reader := by
  intro source a asked
  rfl

variable {σ : Type} {host : Host σ} {read : Reader σ} {m : Memory}

namespace Reader

section

variable (read : Reader σ) (s : σ)

def memory : Memory := fun source a => (read source a s).1

def after : Option Question → σ
  | some (.readString source a) => (read source a s).2
  | _ => s

/-- Strings stay as they are while nothing else happens than that they are read. -/
def Steady : Prop := ∀ source a s, read.memory (read source a s).2 = read.memory s

end

theorem Steady.memory_after (hsteady : read.Steady) (s : σ) (q : Option Question)
    : read.memory (read.after s q) = read.memory s := by
  unfold after
  split
  · apply hsteady
  · rfl

end Reader

namespace StringValue

def contentIn (m : Memory) : StringValue → Except Unavailable String
  | synthetic c | remote _ _ (some c) => .ok c
  | remote source a none => m source a

theorem contentIn_of_faithful {s : StringValue} (hs : s.Faithful m)
    : s.contentIn m = s.lookUp m := by
  cases s with
  | synthetic => rfl
  | remote source a content =>
    cases content with
    | none => rfl
    | some c => exact (hs c rfl).symm

@[simp]
theorem contentIn_remember (m : Memory) (s : StringValue)
    : (s.remember m).contentIn m = s.contentIn m := by
  obtain hs | ⟨source, a, c, rfl, hm, hs⟩ := s.remember_cases m
  · rw [hs]
  · rw [hs]
    exact hm.symm

theorem remember_of_contentIn_error {s : StringValue} {reason : Unavailable}
    (hs : s.contentIn m = .error reason) : s.remember m = s := by
  obtain hs' | ⟨source, a, c, rfl, hm, _⟩ := s.remember_cases m
  · exact hs'
  · have hread : (remote source a none).contentIn m = .ok c := hm
    rw [hread] at hs
    contradiction

theorem contentIn_remember_of_ok {s : StringValue} {c : String} (hs : s.contentIn m = .ok c)
    (m₁ : Memory) : (s.remember m).contentIn m₁ = .ok c := by
  cases s with
  | synthetic => exact hs
  | remote source a content =>
    cases content with
    | some =>
      rw [remember_of_materialized rfl]
      exact hs
    | none =>
      have hlook : (remote source a none).lookUp m = .ok c := hs
      rw [remember_of_ok hlook]
      rfl

theorem run_content_of_reads (hreads : host.Reads read) (t : StringValue) (j : Journal) (s : σ)
    : t.content.run host j s =
        some (((t.contentIn (read.memory s)).mapError .valueUnavailable,
          t.remember (read.memory s)), j, read.after s t.question?) := by
  cases hmaterialized : t.isMaterialized with
  | true =>
    rw [remember_of_materialized hmaterialized]
    unfold StringValue.content
    split
    · rfl
    · rfl
    · contradiction
  | false =>
    cases t with
    | synthetic => contradiction
    | remote source a content =>
      cases content with
      | some => contradiction
      | none =>
        unfold StringValue.content Dialogue.run
        rw [hreads]
        unfold remember lookUp contentIn Reader.memory
        cases hread : (read source a s).1 with
        | ok c =>
          simp only [hread]
          rfl
        | error reason =>
          simp only [hread]
          rfl

end StringValue

namespace Value

inductive IsText : Value → Prop where
  | string (s : StringValue) : IsText (.string s)
  | null {a : Address} (ha : a.isNull) (type : TypeSignature) : IsText (.reference a type)

def contentIn (m : Memory) : Value → Except EvalError String
  | string s => (s.contentIn m).mapError .valueUnavailable
  | v => .error (.typeMismatch (.notString v.type))

def textIn (m : Memory) (v : Value) : Except EvalError (Option String) :=
  if v.isNullReference then .ok none else (v.contentIn m).map some

variable {v : Value}

theorem IsText.remember (hv : v.IsText) (m : Memory) : (v.remember m).IsText := by
  cases hv with
  | string s => apply IsText.string
  | null ha type => apply IsText.null ha

@[simp]
theorem isNullReference_remember (m : Memory) (v : Value)
    : (v.remember m).isNullReference = v.isNullReference := by
  cases v <;> rfl

@[simp]
theorem contentIn_remember (m : Memory) (v : Value)
    : (v.remember m).contentIn m = v.contentIn m := by
  cases v with
  | string s => simp [Value.remember, contentIn]
  | primitive | reference | composite => rfl

@[simp]
theorem textIn_remember (m : Memory) (v : Value) : (v.remember m).textIn m = v.textIn m := by
  unfold textIn
  rw [isNullReference_remember, contentIn_remember]

theorem textIn_string (m : Memory) (s : StringValue)
    : (string s).textIn m = ((s.contentIn m).mapError .valueUnavailable).map some := rfl

theorem textIn_of_ok {s : StringValue} {c : String} (hs : s.contentIn m = .ok c)
    : (string s).textIn m = .ok (some c) := by
  rw [textIn_string, hs]
  rfl

theorem textIn_of_error {s : StringValue} {reason : Unavailable}
    (hs : s.contentIn m = .error reason)
    : (string s).textIn m = .error (.valueUnavailable reason) := by
  rw [textIn_string, hs]
  rfl

theorem textIn_null {a : Address} (ha : a.isNull) (type : TypeSignature) (m : Memory)
    : (reference a type).textIn m = .ok none := by
  unfold textIn
  apply if_pos ha

theorem textIn_of_not_isText (hv : ¬v.IsText) (m : Memory)
    : v.textIn m = .error (.typeMismatch (.notString v.type)) := by
  cases v with
  | string s => exact absurd (.string s) hv
  | reference a type =>
    have hnonnull : ¬(reference a type).isNullReference = true := fun ha => hv (.null ha type)
    unfold textIn
    rw [if_neg hnonnull]
    rfl
  | primitive | composite => rfl

theorem textIn_remember_of_ok {t : Option String} (hv : v.textIn m = .ok t) (m₁ : Memory)
    : (v.remember m).textIn m₁ = .ok t := by
  cases v with
  | string s =>
    cases hs : s.contentIn m with
    | ok c =>
      rw [textIn_of_ok hs] at hv
      rw [← hv]
      exact textIn_of_ok (StringValue.contentIn_remember_of_ok hs m₁)
    | error reason =>
      rw [textIn_of_error hs] at hv
      contradiction
  | primitive | reference | composite => exact hv

theorem remember_of_textIn_error {err : EvalError} (herr : v.textIn m = .error err)
    : v.remember m = v := by
  cases v with
  | string s =>
    cases hs : s.contentIn m with
    | error reason => rw [Value.remember, StringValue.remember_of_contentIn_error hs]
    | ok c =>
      rw [textIn_of_ok hs] at herr
      contradiction
  | primitive | reference | composite => rfl

theorem IsText.isNullReference_iff (hv : v.IsText) (m : Memory)
    : v.isNullReference ↔ v.textIn m = .ok none := by
  cases hv with
  | null ha type =>
    simp [isNullReference, ha, textIn_null ha]
  | string s =>
    cases hs : s.contentIn m with
    | ok c => simp [isNullReference, textIn_of_ok hs]
    | error reason => simp [isNullReference, textIn_of_error hs]

theorem IsText.unavailable (hv : v.IsText) {err : EvalError} (herr : v.textIn m = .error err)
    : ∃ reason, err = .valueUnavailable reason := by
  cases hv with
  | null ha type =>
    rw [textIn_null ha] at herr
    contradiction
  | string s =>
    cases hs : s.contentIn m with
    | ok c =>
      rw [textIn_of_ok hs] at herr
      contradiction
    | error reason =>
      rw [textIn_of_error hs] at herr
      cases herr
      exact ⟨reason, rfl⟩

theorem run_content_of_reads (hreads : host.Reads read) (v : Value) (j : Journal) (s : σ)
    : v.content.run host j s =
        some ((v.contentIn (read.memory s), v.remember (read.memory s)), j,
          read.after s v.question?) := by
  cases v with
  | string t =>
    unfold content
    rw [Dialogue.run_bind, StringValue.run_content_of_reads hreads]
    rfl
  | primitive | reference | composite => rfl

theorem run_operandContent_of_reads (hreads : host.Reads read) (v : Value) (j : Journal) (s : σ)
    : v.operandContent.run host j s =
        some ((v.textIn (read.memory s), v.remember (read.memory s)), j,
          read.after s v.question?) := by
  unfold operandContent textIn
  split
  · cases v with
    | reference => rfl
    | _ => contradiction
  · rw [Dialogue.run_bind, run_content_of_reads hreads]
    rfl

theorem question?_cases (v : Value)
    : v.question? = none ∨ ∃ source a, v.question? = some (.readString source a) := by
  cases v with
  | string t =>
    cases t with
    | synthetic => exact .inl rfl
    | remote source a content =>
      cases content with
      | none => exact .inr ⟨source, a, rfl⟩
      | some => exact .inl rfl
  | primitive | reference | composite => exact .inl rfl

end Value

theorem Memory.memory_reader (m : Memory) (asked : List Question) : m.reader.memory asked = m := rfl

theorem Memory.after_reader (m : Memory) (asked : List Question) (v : Value)
    : m.reader.after asked v.question? = asked ++ v.question?.toList := by
  obtain hv | ⟨source, a, hv⟩ := v.question?_cases
  · rw [hv]
    simp [Reader.after]
  · rw [hv]
    rfl

namespace Value

variable {v : Value}

theorem contentIn_of_faithful (hv : v.Faithful m) : v.contentIn m = v.lookUp m := by
  cases v with
  | string s =>
    simp only [contentIn, lookUp, StringValue.contentIn_of_faithful (hv s rfl)]
  | primitive | reference | composite => rfl

theorem textIn_of_faithful (hv : v.Faithful m) : v.textIn m = v.operandLookUp m := by
  unfold textIn operandLookUp
  rw [contentIn_of_faithful hv]

theorem run_content (hv : v.Faithful m) (j : Journal) (asked : List Question)
    : v.content.run m.host j asked =
        some ((v.lookUp m, v.remember m), j, asked ++ v.question?.toList) := by
  rw [run_content_of_reads m.host_reads, m.memory_reader, contentIn_of_faithful hv, m.after_reader]

end Value

end Inspector
