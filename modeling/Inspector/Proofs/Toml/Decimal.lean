import Inspector.Toml.Scalar
import Mathlib.Data.List.Basic

/-!
Numbers are read as they are written: their decimal digits are an integer with that value.
-/

namespace Inspector.Toml

theorem separated_digits {isDigit : Char → Bool} {ds : List Char} (hne : ds ≠ [])
    (hdigits : ∀ c ∈ ds, isDigit c = true) (hbar : isDigit '_' = false)
    : separated? isDigit ds = some ds := by
  induction ds with
  | nil => contradiction
  | cons c ds ih =>
    have hc : isDigit c = true := hdigits c List.mem_cons_self
    cases ds with
    | nil => simp [separated?, hc]
    | cons d ds =>
      have hd : d ≠ '_' := by
        rintro rfl
        simp [hdigits] at hbar
      have hrest := ih (List.cons_ne_nil d ds) fun c hmem => hdigits c (List.mem_cons_of_mem _ hmem)
      rw [separated?]
      · simp [hc, hrest]
      · simp
      · simp [hd]

theorem digitsValue_eq_ofDigitChars {ds : List Char} (hdigits : ∀ c ∈ ds, c.isDigit = true)
    : digitsValue 10 ds = Nat.ofDigitChars 10 ds 0 := by
  rw [Nat.ofDigitChars_eq_foldl]
  apply List.foldl_ext
  intro n c hc
  simp [digitValue, hdigits c hc]

theorem unsign_digits {ds : List Char} (hdigits : ∀ c ∈ ds, c.isDigit = true)
    : unsign ds = (false, ds) := by
  unfold unsign
  split
  · simp at hdigits
  · simp at hdigits
  · rfl

section

variable {n : Nat}

theorem isDigit_toDigits : ∀ c ∈ Nat.toDigits 10 n, c.isDigit = true :=
  fun _ => Nat.isDigit_of_mem_toDigits (by decide) (by decide)

theorem head_toDigits {ds : List Char} (hn : n ≠ 0) : Nat.toDigits 10 n ≠ '0' :: ds := by
  induction n using Nat.strongRecOn generalizing ds with
  | ind n ih =>
    rw [Nat.toDigits_eq_if (by decide)]
    split
    · next hlt =>
      intro hzero
      have hdigit : n.digitChar = '0' := (List.cons.inj hzero).1
      have hcode := Nat.toNat_digitChar_of_lt_ten hlt
      rw [hdigit] at hcode
      change 48 = 48 + n at hcode
      omega
    · next hge =>
      -- The first digit stays the same when the last one is dropped.
      intro hzero
      obtain ⟨hnil, _⟩ | ⟨ds', hds, _⟩ := List.append_eq_cons_iff.mp hzero
      · exact Nat.toDigits_ne_nil hnil
      · exact ih (n / 10) (by omega) (by omega) hds

theorem decimal_toDigits (n : Nat) : decimal? (Nat.toDigits 10 n) = some n := by
  have hseparated : separated? Char.isDigit (Nat.toDigits 10 n) = some (Nat.toDigits 10 n) :=
    separated_digits Nat.toDigits_ne_nil isDigit_toDigits rfl
  have hvalue : digitsValue 10 (Nat.toDigits 10 n) = n := by
    rw [digitsValue_eq_ofDigitChars isDigit_toDigits, Nat.ofDigitChars_ten_toDigits]
  unfold decimal?
  split
  · next hzero =>
    rw [← hvalue, ← Option.some.inj (hzero.symm.trans hseparated)]
    rfl
  · next hother hzero =>
    have hds := Option.some.inj (hseparated.symm.trans hzero)
    by_cases hn : n = 0
    · subst hn
      rw [Nat.toDigits_zero] at hds
      exact absurd (List.cons.inj hds).2.symm hother
    · exact absurd hds (head_toDigits hn)
  · next ds _ _ hds =>
    rw [← Option.some.inj (hseparated.symm.trans hds), hvalue]
  · next hnone =>
    cases hseparated.symm.trans hnone

theorem integer_toDigits (hn : n < UInt64.size)
    : integer? (Nat.toDigits 10 n) = some (n : Int) := by
  have hdigits : ∀ c ∈ Nat.toDigits 10 n, c.isDigit = true := isDigit_toDigits
  have hrange : (BitVec.intMin 128).toInt ≤ n ∧ (n : Int) ≤ (BitVec.allOnes 128).toNat := by
    rw [BitVec.toInt_intMin, BitVec.toNat_allOnes]
    unfold UInt64.size at hn
    omega
  unfold integer?
  split
  · next hds => simp [hds] at hdigits
  · next hds => simp [hds] at hdigits
  · next hds => simp [hds] at hdigits
  · dsimp only
    rw [unsign_digits hdigits, decimal_toDigits]
    exact Option.filter_eq_some_iff.mpr ⟨rfl, decide_eq_true hrange⟩

theorem ofScalar_toDigits (hn : n < UInt64.size)
    : ofScalar? (Nat.toDigits 10 n) = some (.integer n) := by
  have hword : ∀ word, word.any (!Char.isDigit ·) = true → Nat.toDigits 10 n ≠ word := by
    rintro word hword rfl
    obtain ⟨c, hc, hother⟩ := List.any_eq_true.mp hword
    simp [isDigit_toDigits c hc] at hother
  unfold ofScalar?
  rw [if_neg (hword _ rfl), if_neg (hword _ rfl), integer_toDigits hn]

theorem isScalarChar_toDigits : ∀ c ∈ Nat.toDigits 10 n, isScalarChar c = true := by
  intro c hc
  simp [isScalarChar, isBareKeyChar, Char.isAlphanum, isDigit_toDigits c hc]

end

end Inspector.Toml
