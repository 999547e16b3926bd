import Inspector.Toml.Document

/-!
No statement of a document can give a key of its root a second value. So a key that a document has
is one entry of its root, wherever it stands among the others.
-/

namespace Inspector.Toml

namespace Entries

def Distinct (entries : Entries) : Prop := (entries.map Prod.fst).Nodup

variable {entries : Entries}

theorem mem_iff_lookup (hentries : entries.Distinct) {key : String} {t : Toml}
    : (key, t) ∈ entries ↔ entries.lookup key = some t := by
  unfold Distinct at hentries
  induction entries with
  | nil => simp
  | cons entry entries ih =>
    obtain ⟨k, u⟩ := entry
    obtain ⟨hfirst, hrest⟩ := List.nodup_cons.mp hentries
    rw [List.mem_cons, ih hrest, List.lookup_cons]
    by_cases hk : key = k
    · subst hk
      have habsent : entries.lookup key ≠ some t := by
        intro hlookup
        exact hfirst (List.mem_map.mpr ⟨(key, t), (ih hrest).mpr hlookup, rfl⟩)
      simp [habsent, eq_comm]
    · have hother : (key == k) = false := beq_eq_false_iff_ne.mpr hk
      simp [hk, hother]

end Entries

def KeepsDistinct (f : Entries → Option Entries) : Prop :=
  ∀ {entries entries'}, f entries = some entries' → entries.Distinct → entries'.Distinct

theorem keys_alter {key : String} {f : Option Toml → Option Toml} {entries entries' : Entries}
    (halter : alter key f entries = some entries')
    : entries'.map Prod.fst = entries.map Prod.fst ∨
      key ∉ entries.map Prod.fst ∧ entries'.map Prod.fst = entries.map Prod.fst ++ [key] := by
  induction entries generalizing entries' with
  | nil =>
    obtain ⟨t, _, rfl⟩ := Option.map_eq_some_iff.mp halter
    exact .inr ⟨List.not_mem_nil, rfl⟩
  | cons entry entries ih =>
    obtain ⟨k, t⟩ := entry
    unfold alter at halter
    split at halter
    · obtain ⟨u, _, rfl⟩ := Option.map_eq_some_iff.mp halter
      exact .inl rfl
    · next hk =>
      obtain ⟨rest, hrest, rfl⟩ := Option.map_eq_some_iff.mp halter
      obtain hsame | ⟨habsent, hnew⟩ := ih hrest
      · exact .inl (congrArg (k :: ·) hsame)
      · refine .inr ⟨?_, congrArg (k :: ·) hnew⟩
        exact List.not_mem_cons_of_ne_of_not_mem (Ne.symm hk) habsent

theorem distinct_alter (key : String) (f : Option Toml → Option Toml)
    : KeepsDistinct (alter key f) := by
  intro entries entries' halter hentries
  unfold Entries.Distinct
  obtain hsame | ⟨habsent, hnew⟩ := keys_alter halter
  · rw [hsame]
    exact hentries
  · rw [hnew]
    refine List.nodup_append.mpr ⟨hentries, List.pairwise_singleton _ key, ?_⟩
    rintro k hk k' hk' rfl
    obtain rfl := List.mem_singleton.mp hk'
    exact habsent hk

theorem distinct_update {f : Origin → Entries → Option Entries}
    (hf : ∀ origin, KeepsDistinct (f origin)) (dotted : Bool) (path : List String) (origin : Origin)
    : KeepsDistinct (update dotted f path origin) := by
  cases path with
  | nil => exact hf origin
  | cons key path =>
    -- Whatever is done further down the path, this table has one entry altered.
    intro entries entries' hupdate
    rw [update] at hupdate
    exact distinct_alter _ _ hupdate

theorem distinct_assign (path : List String) (key : String) (value : Toml)
    : KeepsDistinct (assign path key value) := by
  apply distinct_update
  intro origin entries entries' hset
  split at hset
  · exact distinct_alter _ _ hset
  · contradiction

theorem distinct_assignIn (header path : List String) (key : String) (value : Toml)
    : KeepsDistinct (assignIn header path key value) := by
  apply distinct_update
  intro _
  apply distinct_assign

theorem distinct_openTable (path : List String) (key : String)
    : KeepsDistinct (openTable path key) := by
  apply distinct_update
  intro _
  apply distinct_alter

theorem distinct_openElement (path : List String) (key : String)
    : KeepsDistinct (openElement path key) := by
  apply distinct_update
  intro _
  apply distinct_alter

variable {doc doc' : Document} {s s' : List Char}

theorem distinct_root {f : Entries → Option Entries} (hf : KeepsDistinct f) {header : List String}
    (hmap : (f doc.root).map (fun root => (Document.mk root header, s)) = some (doc', s'))
    (hdoc : doc.root.Distinct) : doc'.root.Distinct := by
  obtain ⟨root, hroot, heq⟩ := Option.map_eq_some_iff.mp hmap
  obtain ⟨rfl, _⟩ := Prod.mk.inj heq
  exact hf hroot hdoc

theorem distinct_header (hheader : header? doc s = some (doc', s')) (hdoc : doc.root.Distinct)
    : doc'.root.Distinct := by
  unfold header? at hheader
  split at hheader
  · split at hheader
    · exact distinct_root (distinct_openElement _ _) hheader hdoc
    · contradiction
  · split at hheader
    · exact distinct_root (distinct_openTable _ _) hheader hdoc
    · contradiction

theorem distinct_statement (hstatement : statement? doc s = some (doc', s'))
    (hdoc : doc.root.Distinct) : doc'.root.Distinct := by
  unfold statement? at hstatement
  split at hstatement
  · exact distinct_root (distinct_assignIn _ _ _ _) hstatement hdoc
  · contradiction

theorem distinct_lines {fuel : Nat} (hlines : lines? fuel doc s = some doc')
    (hdoc : doc.root.Distinct) : doc'.root.Distinct := by
  induction fuel generalizing doc s with
  | zero => contradiction
  | succ fuel ih =>
    unfold lines? at hlines
    split at hlines
    · obtain rfl := Option.some.inj hlines
      exact hdoc
    · dsimp only at hlines
      split at hlines
      · contradiction
      · next c rest _ later s₁ hstep =>
        split at hlines
        · apply ih hlines
          split at hstep
          · exact distinct_header hstep hdoc
          · split at hstep
            · obtain ⟨rfl, _⟩ := Prod.mk.inj (Option.some.inj hstep)
              exact hdoc
            · exact distinct_statement hstep hdoc
        · contradiction

theorem distinct_parse {text : String} {entries : Entries} (hparse : parse? text = some entries)
    : entries.Distinct := by
  obtain ⟨doc, hlines, rfl⟩ := Option.map_eq_some_iff.mp hparse
  exact distinct_lines hlines List.nodup_nil

end Inspector.Toml
