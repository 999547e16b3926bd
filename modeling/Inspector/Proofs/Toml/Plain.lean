import Inspector.Proofs.Toml.Decimal
import Inspector.Proofs.Toml.Distinct

/-!
Plain tables and their documents: one line for each entry, with a bare key and a boolean or a
natural number. A document holds what is written there, in the same order.
-/

namespace Inspector.Toml

def IsPlain : Toml → Prop
  | .boolean _ => True
  | .integer v => 0 ≤ v
  | _ => False

structure Plain (entries : Entries) : Prop where
  distinct : entries.Distinct
  bare : ∀ entry ∈ entries, isBareKey entry.1
  plain : ∀ entry ∈ entries, entry.2.IsPlain

theorem Plain.perm {entries entries' : Entries} (hentries : Plain entries)
    (hperm : entries'.Perm entries) : Plain entries' where
  distinct := (hperm.map Prod.fst).nodup_iff.mpr hentries.distinct
  bare entry hentry := hentries.bare entry (hperm.mem_iff.mp hentry)
  plain entry hentry := hentries.plain entry (hperm.mem_iff.mp hentry)

structure Line where
  key : String
  word : List Char
  value : Toml
  key_ne : key.toList ≠ []
  key_bare : key.toList.all isBareKeyChar
  word_bare : word.all isScalarChar
  word_value : ofScalar? word = some value

namespace Line

def text (line : Line) : List Char :=
  line.key.toList ++ ' ' :: '=' :: ' ' :: line.word ++ ['\n']

def entry (line : Line) : String × Toml := (line.key, line.value)

end Line

section

variable {p : Char → Bool} {word s : List Char} {c d : Char}

theorem ne_of_class (hc : p c = true) (hd : p d = false) : c ≠ d := by
  rintro rfl
  simp [hc] at hd

theorem isBlank_of_class (hc : p c = true) (hspace : p ' ' = false) (htab : p '\t' = false)
    : isBlank c = false := by
  unfold isBlank
  simp [ne_of_class hc hspace, ne_of_class hc htab]

theorem takeWhile_word (hword : ∀ c ∈ word, p c = true) (hd : p d = false)
    : (word ++ d :: s).takeWhile p = word := by
  rw [List.takeWhile_append_of_pos hword, List.takeWhile_cons_of_neg (by simp [hd]),
    List.append_nil]

theorem dropWhile_word (hword : ∀ c ∈ word, p c = true) (hd : p d = false)
    : (word ++ d :: s).dropWhile p = d :: s := by
  rw [List.dropWhile_append_of_pos hword, List.dropWhile_cons_of_neg (by simp [hd])]

theorem skipBlanks_cons (hc : isBlank c = false) : skipBlanks (c :: s) = c :: s :=
  List.dropWhile_cons_of_neg (by simp [hc])

end

variable {word s : List Char} {c : Char}

theorem simpleKey_bare {key : String} (hkey : ∀ c ∈ key.toList, isBareKeyChar c = true)
    (hne : key.toList ≠ []) (hc : isBareKeyChar c = false)
    : simpleKey? (key.toList ++ c :: s) = some (key, c :: s) := by
  unfold simpleKey?
  rw [takeWhile_word hkey hc]
  split
  · contradiction
  · rw [dropWhile_word hkey hc, String.ofList_toList]

theorem key_bare {n : Nat} {key : String} (hkey : ∀ c ∈ key.toList, isBareKeyChar c = true)
    (hne : key.toList ≠ [])
    : key? (n + 1) (key.toList ++ ' ' :: '=' :: s) = some (([], key), '=' :: s) := by
  unfold key?
  rw [simpleKey_bare hkey hne (by decide)]
  rfl

theorem head_word (hword : ∀ c ∈ word, isScalarChar c = true)
    : ∃ c rest, word ++ '\n' :: s = c :: rest ∧ isBlank c = false ∧
        c ≠ '[' ∧ c ≠ '{' ∧ c ≠ '"' ∧ c ≠ '\'' := by
  cases word with
  | nil => exact ⟨'\n', s, rfl, by decide⟩
  | cons c word =>
    have hc : isScalarChar c = true := hword c List.mem_cons_self
    exact ⟨c, word ++ '\n' :: s, rfl, isBlank_of_class hc rfl rfl, ne_of_class hc rfl,
      ne_of_class hc rfl, ne_of_class hc rfl, ne_of_class hc rfl⟩

theorem scalarText_word (hword : ∀ c ∈ word, isScalarChar c = true)
    : scalarText (word ++ '\n' :: s) = (word, '\n' :: s) := by
  unfold scalarText
  rw [takeWhile_word hword (by decide), dropWhile_word hword (by decide)]
  dsimp only
  split
  · next hrest => cases hrest
  · rfl

theorem value_word {depth : Nat} {value : Toml} (hword : ∀ c ∈ word, isScalarChar c = true)
    (hvalue : ofScalar? word = some value)
    : value? depth (word ++ '\n' :: s) = some (value, '\n' :: s) := by
  obtain ⟨c, rest, hstart, _, hbracket, hbrace, hdouble, hsingle⟩ := head_word (s := s) hword
  rw [hstart]
  unfold value?
  split
  · next hc => exact absurd (List.cons.inj hc).1 hbracket
  · next hc => exact absurd (List.cons.inj hc).1 hbrace
  · next hc => exact absurd (List.cons.inj hc).1 hdouble
  · next hc => exact absurd (List.cons.inj hc).1 hsingle
  · rw [← hstart, scalarText_word hword, hvalue]
    rfl

theorem pair_line (line : Line)
    : pair? (some ∘ skipBlanks) (value? maxDepth) (line.text ++ s)
      = some ((([], line.key), line.value), '\n' :: s) := by
  have htext : line.text ++ s
      = line.key.toList ++ ' ' :: '=' :: ' ' :: (line.word ++ '\n' :: s) := by
    simp [Line.text]
  have hkey := key_bare (n := maxDepth) (s := ' ' :: (line.word ++ '\n' :: s))
    (List.all_eq_true.mp line.key_bare) line.key_ne
  have hword := List.all_eq_true.mp line.word_bare
  have hblank : skipBlanks (' ' :: (line.word ++ '\n' :: s)) = line.word ++ '\n' :: s := by
    obtain ⟨c, rest, hstart, hc, _⟩ := head_word (s := s) hword
    rw [hstart]
    exact skipBlanks_cons hc
  have hvalue : value? maxDepth (line.word ++ '\n' :: s) = some (line.value, '\n' :: s) :=
    value_word hword line.word_value
  have hsign : skipBlanks ('=' :: ' ' :: (line.word ++ '\n' :: s)) = _ := skipBlanks_cons rfl
  rw [htext]
  unfold pair?
  simp only [maxParts, hkey, Function.comp_apply, hsign, expect, hblank, hvalue,
    Option.bind_eq_bind, Option.bind_some, if_true]
  rfl

theorem setNew_absent {key : String} {value : Toml} {entries : Entries}
    (habsent : key ∉ entries.map Prod.fst)
    : setNew key value entries = some (entries ++ [(key, value)]) := by
  unfold setNew
  induction entries with
  | nil => rfl
  | cons entry entries ih =>
    rw [List.map_cons, List.mem_cons, not_or] at habsent
    unfold alter
    rw [if_neg (Ne.symm habsent.1), ih habsent.2]
    rfl

theorem assignIn_root (key : String) (value : Toml) (entries : Entries)
    : assignIn [] [] key value entries = setNew key value entries := by
  simp [assignIn, assign, update]

theorem statement_line {root : Entries} (line : Line) (habsent : line.key ∉ root.map Prod.fst)
    : statement? ⟨root, []⟩ (line.text ++ s) = some (⟨root ++ [line.entry], []⟩, '\n' :: s) := by
  unfold statement?
  rw [pair_line]
  dsimp only
  rw [assignIn_root, setNew_absent habsent]
  rfl

theorem head_line (line : Line)
    : ∃ c rest, line.text ++ s = c :: rest ∧ isBareKeyChar c = true := by
  obtain ⟨c, key, hkey⟩ := List.exists_cons_of_ne_nil line.key_ne
  have hc : c ∈ line.key.toList := hkey ▸ List.mem_cons_self
  refine ⟨c, key ++ ' ' :: '=' :: ' ' :: line.word ++ ['\n'] ++ s, ?_,
    List.all_eq_true.mp line.key_bare c hc⟩
  rw [Line.text, hkey]
  rfl

theorem lines_line {root : Entries} (line : Line) (habsent : line.key ∉ root.map Prod.fst)
    (fuel : Nat)
    : lines? (fuel + 1) ⟨root, []⟩ (line.text ++ s) = lines? fuel ⟨root ++ [line.entry], []⟩ s := by
  have hstatement := statement_line (s := s) line habsent
  obtain ⟨c, rest, hstart, hc⟩ := head_line (s := s) line
  rw [hstart] at hstatement ⊢
  have hblank : skipBlanks (c :: rest) = c :: rest := skipBlanks_cons (isBlank_of_class hc rfl rfl)
  have hother : ¬(c = '#' ∨ c = '\n' ∨ c = '\r') := by
    simp [ne_of_class (d := '#') hc rfl, ne_of_class (d := '\n') hc rfl,
      ne_of_class (d := '\r') hc rfl]
  rw [lines?, hblank]
  dsimp only
  rw [if_neg (ne_of_class hc rfl), if_neg hother, hstatement]
  rfl

theorem lines_text (lines : List Line) {root : Entries} {fuel : Nat} (hfuel : lines.length < fuel)
    (hdistinct : (root.map Prod.fst ++ lines.map Line.key).Nodup)
    : lines? fuel ⟨root, []⟩ (lines.flatMap Line.text)
      = some ⟨root ++ lines.map Line.entry, []⟩ := by
  -- The root holds what has been read, and the keys that are still to come are new to it.
  induction lines generalizing root fuel with
  | nil =>
    cases fuel with
    | zero => contradiction
    | succ fuel => simp [lines?, skipBlanks]
  | cons line lines ih =>
    cases fuel with
    | zero => contradiction
    | succ fuel =>
      have habsent : line.key ∉ root.map Prod.fst := by
        intro hmem
        exact (List.nodup_append.mp hdistinct).2.2 _ hmem _ List.mem_cons_self rfl
      have hrest : ((root ++ [line.entry]).map Prod.fst ++ lines.map Line.key).Nodup := by
        simpa [Line.entry] using hdistinct
      rw [List.flatMap_cons, lines_line line habsent, ih (Nat.lt_of_succ_lt_succ hfuel) hrest]
      simp

theorem length_lines (lines : List Line) : lines.length ≤ (lines.flatMap Line.text).length := by
  induction lines with
  | nil => exact Nat.le_refl 0
  | cons line lines ih =>
    simp only [List.flatMap_cons, List.length_append, List.length_cons, Line.text]
    omega

theorem parse_lines (lines : List Line) (hdistinct : (lines.map Line.key).Nodup)
    : parse? (String.ofList (lines.flatMap Line.text)) = some (lines.map Line.entry) := by
  have hmark : ∀ rest, lines.flatMap Line.text ≠ '\ufeff' :: rest := by
    intro rest hmark
    cases lines with
    | nil => contradiction
    | cons line lines =>
      obtain ⟨c, later, hstart, hc⟩ := head_line (s := lines.flatMap Line.text) line
      rw [List.flatMap_cons, hstart] at hmark
      exact ne_of_class hc (by decide) (List.cons.inj hmark).1
  have hlines : lines? ((lines.flatMap Line.text).length + 1) {} (lines.flatMap Line.text)
      = some ⟨lines.map Line.entry, []⟩ :=
    lines_text lines (Nat.lt_succ_of_le (length_lines lines)) hdistinct
  unfold parse?
  rw [String.toList_ofList]
  split
  · next hstart => exact absurd hstart (hmark _)
  · dsimp only
    rw [hlines]
    rfl

section

variable {entry : String × Toml} {entries : Entries}

theorem ofScalar_word {word : List Char} {value : Toml} (hword : word? value = some word)
    : word.all isScalarChar ∧ ofScalar? word = some value := by
  cases value with
  | boolean b =>
    obtain rfl := Option.some.inj hword
    cases b <;> exact ⟨rfl, rfl⟩
  | integer v =>
    rw [word?] at hword
    split at hword
    · next hv =>
      obtain rfl := Option.some.inj hword
      obtain ⟨n, rfl⟩ := Int.eq_ofNat_of_zero_le hv.1
      exact ⟨List.all_eq_true.mpr isScalarChar_toDigits, ofScalar_toDigits (Int.ofNat_lt.mp hv.2)⟩
    · contradiction
  | _ => contradiction

theorem line_of_entry {text : List Char} (hline : line? entry = some text)
    : ∃ line : Line, line.entry = entry ∧ line.text = text := by
  obtain ⟨key, value⟩ := entry
  rw [line?] at hline
  split at hline
  · next hkey =>
    obtain ⟨word, hword, rfl⟩ := Option.map_eq_some_iff.mp hline
    obtain ⟨hscalar, hvalue⟩ := ofScalar_word hword
    simp only [isBareKey, Bool.and_eq_true, Bool.not_eq_true', List.isEmpty_eq_false_iff] at hkey
    exact ⟨⟨key, word, value, hkey.1, hkey.2, hscalar, hvalue⟩, rfl, rfl⟩
  · contradiction

theorem lines_of_entries {texts : List (List Char)} (hlines : entries.mapM line? = some texts)
    : ∃ lines : List Line, lines.map Line.entry = entries ∧ lines.map Line.text = texts := by
  induction entries generalizing texts with
  | nil =>
    obtain rfl := Option.some.inj hlines
    exact ⟨[], rfl, rfl⟩
  | cons entry entries ih =>
    rw [List.mapM_cons] at hlines
    obtain ⟨text, hline, hrest⟩ := Option.bind_eq_some_iff.mp hlines
    obtain ⟨texts, htexts, heq⟩ := Option.bind_eq_some_iff.mp hrest
    obtain rfl := Option.some.inj heq
    obtain ⟨line, rfl, rfl⟩ := line_of_entry hline
    obtain ⟨lines, rfl, rfl⟩ := ih htexts
    exact ⟨line :: lines, rfl, rfl⟩

theorem parse_print {text : String} (hentries : entries.Distinct)
    (hprint : print? entries = some text) : parse? text = some entries := by
  obtain ⟨texts, htexts, rfl⟩ := Option.map_eq_some_iff.mp hprint
  obtain ⟨lines, rfl, rfl⟩ := lines_of_entries htexts
  rw [← List.flatMap_def, parse_lines lines]
  unfold Entries.Distinct at hentries
  rwa [List.map_map] at hentries

theorem line_isSome (hkey : isBareKey entry.1) (hplain : entry.2.IsPlain)
    (hsize : ∀ v : Int, entry.2 = .integer v → v < UInt64.size)
    : ∃ text, line? entry = some text := by
  obtain ⟨key, value⟩ := entry
  rw [line?, if_pos hkey]
  cases value with
  | boolean b => exact ⟨_, rfl⟩
  | integer v =>
    have hv : 0 ≤ v ∧ v < UInt64.size := ⟨hplain, hsize v rfl⟩
    rw [word?, if_pos hv]
    exact ⟨_, rfl⟩
  | _ => exact hplain.elim

theorem print_isSome (hentries : Plain entries)
    (hsize : ∀ key (v : Int), (key, .integer v) ∈ entries → v < UInt64.size)
    : ∃ text, print? entries = some text := by
  obtain ⟨-, hbare, hplain⟩ := hentries
  have hlines : ∃ texts, entries.mapM line? = some texts := by
    induction entries with
    | nil => exact ⟨[], rfl⟩
    | cons entry entries ih =>
      obtain ⟨text, htext⟩ := line_isSome (hbare entry List.mem_cons_self)
        (hplain entry List.mem_cons_self) fun v hv => hsize entry.1 v (hv ▸ List.mem_cons_self)
      obtain ⟨texts, htexts⟩ := ih (fun key v hv => hsize key v (List.mem_cons_of_mem _ hv))
        (fun e he => hbare e (List.mem_cons_of_mem _ he))
        (fun e he => hplain e (List.mem_cons_of_mem _ he))
      refine ⟨text :: texts, ?_⟩
      rw [List.mapM_cons, htext, htexts]
      rfl
  obtain ⟨texts, htexts⟩ := hlines
  exact ⟨_, Option.map_eq_some_iff.mpr ⟨texts, htexts, rfl⟩⟩

end

end Inspector.Toml
