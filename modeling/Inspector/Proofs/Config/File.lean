import Inspector.Proofs.Config.Document

/-!
Settings in files, in any format that keeps its promises. Whatever is saved is loaded again as it
was, what a file does not say takes its default, and loading leaves everything alone that is already
there.
-/

namespace Inspector.Config

open Toml (Entries)

/-- A key has the value that is given for it, or is missing if none is given. -/
def Gives (entries : Entries) (key : String) (write : α → Toml) (given : Option α) : Prop :=
  ∀ t, (key, t) ∈ entries ↔ ∃ v, given = some v ∧ t = write v

structure Given where
  propertyEvaluation : Option Bool := none
  evalTimeoutMs : Option UInt64 := none
  fileLogging : Option Bool := none

namespace Given

def override (given : Given) (c : Config) : Config where
  propertyEvaluation := given.propertyEvaluation.getD c.propertyEvaluation
  evalTimeoutMs := given.evalTimeoutMs.getD c.evalTimeoutMs
  fileLogging := given.fileLogging.getD c.fileLogging

/-- The entries give values of the right types to those settings and to no others. -/
structure In (given : Given) (entries : Entries) : Prop where
  propertyEvaluation : Gives entries "property_evaluation" .boolean given.propertyEvaluation
  evalTimeoutMs : Gives entries "eval_timeout_ms" (.integer ·.toNat) given.evalTimeoutMs
  fileLogging : Gives entries "file_logging" .boolean given.fileLogging

end Given

section

variable {format : Format} (hformat : format.Lawful)

theorem plain_fields (c : Config) : Toml.Plain c.fields where
  distinct := by simp [Entries.Distinct, fields]
  bare := by
    simp only [fields, List.forall_mem_cons]
    decide
  plain := by simp [fields, Toml.IsPlain]

include hformat

theorem plain_encode (c : Config) : Toml.Plain (format.encode c) :=
  (plain_fields c).perm (hformat.encode_perm c)

theorem write_isSome {c : Config} (hsize : c.evalTimeoutMs.toNat ≤ Toml.maxInteger)
    : ∃ text, format.write (format.encode c) = some text := by
  apply hformat.write_plain (plain_encode hformat c)
  intro key v hv
  have hfield : (key, .integer v) ∈ c.fields := (hformat.encode_perm c).mem_iff.mp hv
  simp only [fields, List.mem_cons, Prod.mk.injEq, Toml.integer.injEq, reduceCtorEq, and_false,
    List.not_mem_nil, or_false, false_or] at hfield
  rw [hfield.2]
  exact Int.ofNat_le.mpr hsize

theorem decode_read_write {c default : Config} {text : String}
    (hwrite : format.write (format.encode c) = some text)
    : (format.read text).bind (format.decode default) = some c := by
  obtain ⟨entries, hread, hperm⟩ := hformat.read_write (plain_encode hformat c) hwrite
  have hfields : entries.Perm c.fields := hperm.trans (hformat.encode_perm c)
  rw [hread, Option.bind_some, ← hformat.decode_fields default c]
  exact hformat.decode_known (hformat.distinct hread) (plain_fields c).distinct
    fun _ _ _ => hfields.mem_iff

variable {entries : Entries} {default : Config}

theorem decode_append {missing : Entries} (hdistinct : Entries.Distinct (missing ++ entries))
    (hmissing : ∀ entry ∈ missing, entry ∈ default.fields)
    : format.decode default (missing ++ entries) = format.decode default entries := by
  induction missing with
  | nil => rfl
  | cons entry missing ih =>
    obtain ⟨key, value⟩ := entry
    obtain ⟨habsent, hrest⟩ : key ∉ (missing ++ entries).map Prod.fst ∧
        Entries.Distinct (missing ++ entries) := List.nodup_cons.mp hdistinct
    rw [List.cons_append, hformat.decode_absent hrest habsent (hmissing _ List.mem_cons_self),
      ih hrest fun entry hentry => hmissing entry (List.mem_cons_of_mem _ hentry)]

end

def missing (default : Config) (entries : Entries) : Entries :=
  default.fields.filter fun entry => entry.1 ∉ entries.map Prod.fst

section

variable {entries : Entries} {default : Config} {given : Given}

theorem distinct_missing (hentries : entries.Distinct)
    : Entries.Distinct (default.missing entries ++ entries) := by
  unfold Entries.Distinct
  rw [List.map_append, List.nodup_append]
  refine ⟨?_, hentries, ?_⟩
  · exact ((List.filter_sublist).map Prod.fst).nodup (plain_fields default).distinct
  · rintro key hmissing key' hkey rfl
    obtain ⟨entry, hentry, rfl⟩ := List.mem_map.mp hmissing
    simp only [missing, List.mem_filter, decide_eq_true_eq] at hentry
    exact hentry.2 hkey

theorem mem_missing {key : String} {write : α → Toml} {given : Option α} {v : α} {value : Toml}
    (hgives : Gives entries key write given)
    (hdefault : ∀ t, (key, t) ∈ default.fields ↔ t = write v)
    : (key, value) ∈ default.missing entries ++ entries ↔ value = write (given.getD v) := by
  have hkey : key ∈ entries.map Prod.fst ↔ given.isSome := by
    rw [List.mem_map]
    constructor
    · rintro ⟨⟨_, t⟩, ht, rfl⟩
      obtain ⟨w, rfl, _⟩ := (hgives t).mp ht
      rfl
    · intro hsome
      obtain ⟨w, rfl⟩ := Option.isSome_iff_exists.mp hsome
      exact ⟨(key, write w), (hgives _).mpr ⟨w, rfl, rfl⟩, rfl⟩
  rw [List.mem_append, missing, List.mem_filter, hdefault, hgives, decide_eq_true_eq, hkey]
  cases given <;> simp

theorem decode_given {format : Format} (hformat : format.Lawful) (hentries : entries.Distinct)
    (hgiven : given.In entries)
    : format.decode default entries = some (given.override default) := by
  have hdistinct : Entries.Distinct (default.missing entries ++ entries) :=
    distinct_missing hentries
  rw [← decode_append hformat hdistinct fun _ hentry => (List.mem_filter.mp hentry).1,
    ← hformat.decode_fields default (given.override default)]
  apply hformat.decode_known hdistinct (plain_fields _).distinct
  intro key hkey value
  simp only [fields, List.map_cons, List.map_nil, List.mem_cons, List.not_mem_nil, or_false] at hkey
  obtain rfl | rfl | rfl := hkey
  · rw [mem_missing hgiven.propertyEvaluation (v := default.propertyEvaluation) (by simp [fields])]
    simp [fields, Given.override]
  · rw [mem_missing hgiven.evalTimeoutMs (v := default.evalTimeoutMs) (by simp [fields])]
    simp [fields, Given.override]
  · rw [mem_missing hgiven.fileLogging (v := default.fileLogging) (by simp [fields])]
    simp [fields, Given.override]

end

section

variable {format : Format} {path : String} {fs fs' : FileSystem} {c : Config}

theorem readText_file {text : String} (hfile : fs.find? path = some (.file text.toUTF8))
    : fs.readText? path = some text := by
  unfold FileSystem.readText?
  rw [hfile]
  exact dif_pos text.isValidUTF8

theorem loadFrom_file {text : String} (hfile : fs.find? path = some (.file text.toUTF8))
    : loadFrom format path fs
      = ((format.read text).bind (format.decode {})).elim (.error .malformed) .ok := by
  unfold loadFrom
  rw [readText_file hfile]
  dsimp only
  cases (format.read text).bind (format.decode {}) <;> rfl

theorem saveTo_eq_ok
    : saveTo format c path fs = .ok fs' ↔
      ∃ text, format.write (format.encode c) = some text ∧
        fs.write? path text.toUTF8 = some fs' := by
  unfold saveTo
  cases format.write (format.encode c) with
  | none => simp
  | some text =>
    simp only [Option.some.injEq, exists_eq_left']
    cases fs.write? path text.toUTF8 <;> simp

theorem loadFrom_saveTo (hformat : format.Lawful) (hsave : saveTo format c path fs = .ok fs')
    : loadFrom format path fs' = .ok c := by
  obtain ⟨text, htext, hwrite⟩ := saveTo_eq_ok.mp hsave
  rw [loadFrom_file (FileSystem.find_write hwrite), decode_read_write hformat htext]
  rfl

theorem saveTo_isOk (hformat : format.Lawful) (hsize : c.evalTimeoutMs.toNat ≤ Toml.maxInteger)
    : (∃ fs', saveTo format c path fs = .ok fs') ↔ fs.accepts path := by
  obtain ⟨text, htext⟩ := write_isSome hformat hsize
  rw [← FileSystem.write_isSome text.toUTF8]
  simp [saveTo_eq_ok, htext]

theorem node_saveTo (hsave : saveTo format c path fs = .ok fs') {place : FileSystem.Place}
    (hother : fs.locate path ≠ some place) : fs'.node? place = fs.node? place := by
  obtain ⟨_, _, hwrite⟩ := saveTo_eq_ok.mp hsave
  exact FileSystem.node_write hwrite hother

theorem find_saveTo (hsave : saveTo format c path fs = .ok fs')
    : ∃ content, fs'.find? path = some (.file content) := by
  obtain ⟨_, _, hwrite⟩ := saveTo_eq_ok.mp hsave
  exact ⟨_, FileSystem.find_write hwrite⟩

variable {home : String}

theorem load_present {node : FileSystem.Node} (hhome : fs.find? (homePath home) = some node)
    : load format (some home) fs = (loadFrom format (homePath home) fs, fs) := by
  have hsome : ¬(fs.find? (homePath home)).isNone := by simp [hhome]
  exact if_neg hsome

theorem load_absent (hhome : fs.find? (homePath home) = none)
    : load format (some home) fs
      = match saveTo format {} (homePath home) fs with
        | .error e => (.error e, fs)
        | .ok fs' => (.ok {}, fs') := by
  have hnone : (fs.find? (homePath home)).isNone := by
    rw [hhome]
    rfl
  exact if_pos hnone

theorem load_saveTo (hformat : format.Lawful)
    (hsave : saveTo format c (homePath home) fs = .ok fs')
    : load format (some home) fs' = (.ok c, fs') := by
  obtain ⟨_, hfile⟩ := find_saveTo hsave
  rw [load_present hfile, loadFrom_saveTo hformat hsave]

theorem load_absent_cases (format : Format) (hhome : fs.find? (homePath home) = none)
    : (∃ e, load format (some home) fs = (.error e, fs)) ∨
      ∃ fs', saveTo format {} (homePath home) fs = .ok fs' ∧
        load format (some home) fs = (.ok {}, fs') := by
  rw [load_absent hhome]
  cases saveTo format {} (homePath home) fs with
  | error e => exact .inl ⟨e, rfl⟩
  | ok fs' => exact .inr ⟨fs', rfl, rfl⟩

theorem load_load (hformat : format.Lawful) (home : Option String) (fs : FileSystem)
    : load format home (load format home fs).2 = load format home fs := by
  cases home with
  | none => rfl
  | some home =>
    cases hhome : fs.find? (homePath home) with
    | some node =>
      have hload : load format (some home) fs = _ := load_present hhome
      rw [hload, hload]
    | none =>
      obtain ⟨_, hload⟩ | ⟨fs', hsave, hload⟩ := load_absent_cases format hhome
      · rw [hload, hload]
      · rw [hload, load_saveTo hformat hsave]

theorem node_load (home : Option String) {place : FileSystem.Place} {node : FileSystem.Node}
    (hnode : fs.node? place = some node) : (load format home fs).2.node? place = some node := by
  cases home with
  | none => exact hnode
  | some home =>
    cases hhome : fs.find? (homePath home) with
    | some _ =>
      rw [load_present hhome]
      exact hnode
    | none =>
      obtain ⟨_, hload⟩ | ⟨fs', hsave, hload⟩ := load_absent_cases format hhome
      · rw [hload]
        exact hnode
      · -- The place that is written held nothing before.
        have hother : fs.locate (homePath home) ≠ some place := by
          intro hplace
          simp [FileSystem.find?, hplace, hnode] at hhome
        rw [hload, node_saveTo hsave hother]
        exact hnode

end

structure Keeps (format : Format) : Prop where
  reloaded {c path fs fs'} : saveTo format c path fs = .ok fs' → loadFrom format path fs' = .ok c
  saved {c path fs} : c.evalTimeoutMs.toNat ≤ Toml.maxInteger →
    ((∃ fs', saveTo format c path fs = .ok fs') ↔ fs.accepts path)
  elsewhere {c path fs fs' place} : saveTo format c path fs = .ok fs' →
    fs.locate path ≠ some place → fs'.node? place = fs.node? place
  merged {path fs text entries} {given : Given} : fs.find? path = some (.file text.toUTF8) →
    format.read text = some entries → given.In entries →
    loadFrom format path fs = .ok (given.override {})
  malformed {path fs text} : fs.find? path = some (.file text.toUTF8) →
    format.read text = none → loadFrom format path fs = .error .malformed
  created {home fs} : fs.find? (homePath home) = none → fs.accepts (homePath home) →
    ∃ fs', saveTo format {} (homePath home) fs = .ok fs' ∧
      load format (some home) fs = (.ok {}, fs') ∧ load format (some home) fs' = (.ok {}, fs')
  present {home fs node} : fs.find? (homePath home) = some node →
    load format (some home) fs = (loadFrom format (homePath home) fs, fs)
  repeated home fs : load format home (load format home fs).2 = load format home fs
  untouched {home fs place node} : fs.node? place = some node →
    (load format home fs).2.node? place = some node

/--
What is saved is loaded again. A file changes just those defaults that it gives values for, whatever
else it says and in whatever order. Where there is no file, the defaults are saved and loaded, now
and later; what is there already is never touched.
-/
theorem load_roundtrip {format : Format} (hformat : format.Lawful) : Keeps format where
  reloaded := loadFrom_saveTo hformat
  saved := saveTo_isOk hformat
  elsewhere hsave hother := node_saveTo hsave hother
  merged hfile hread hgiven := by
    rw [loadFrom_file hfile, hread, Option.bind_some,
      decode_given hformat (hformat.distinct hread) hgiven]
    rfl
  malformed hfile hread := by
    rw [loadFrom_file hfile, hread]
    rfl
  created hhome haccepts := by
    obtain ⟨fs', hsave⟩ := (saveTo_isOk (c := {}) hformat (by decide)).mpr haccepts
    refine ⟨fs', hsave, ?_, load_saveTo hformat hsave⟩
    rw [load_absent hhome, hsave]
  present := load_present
  repeated := load_load hformat
  untouched := node_load _

theorem load_roundtrip_foreign
    : let text := "file_logging = true # new\nfont.size = 9\neval_timeout_ms = 1_000\n[old]\nx = 0"
      let fs := FileSystem.ofTree [] [(["home"], .directory), (["root"], .directory),
        (["home", ".mdb.toml"], .file text.toUTF8)]
      Format.toml.Lawful ∧
        load .toml (some "/home") fs = (.ok { evalTimeoutMs := 1000, fileLogging := true }, fs) ∧
        ∃ fs', load .toml (some "/root/") fs = (.ok {}, fs') ∧
          load .toml (some "/root/") fs' = (.ok {}, fs') := by
  intro text fs
  have hkeeps := load_roundtrip Format.toml_lawful
  have hfile : fs.find? (homePath "/home") = some (.file text.toUTF8) := by rfl
  let entries : Entries := [("file_logging", .boolean true),
    ("font", .table .dotted [("size", .integer 9)]), ("eval_timeout_ms", .integer 1000),
    ("old", .table .header [("x", .integer 0)])]
  have hread : Format.toml.read text = some entries := by
    unfold text
    rfl
  have hgiven : ({ evalTimeoutMs := some 1000, fileLogging := some true } : Given).In entries := by
    constructor <;> simp [Gives, entries]
  refine ⟨Format.toml_lawful, ?_, ?_⟩
  · rw [hkeeps.present hfile, hkeeps.merged hfile hread hgiven]
    rfl
  · have hnone : fs.find? (homePath "/root/") = none := by rfl
    obtain ⟨fs', _, hload, hagain⟩ := hkeeps.created hnone rfl
    exact ⟨fs', hload, hagain⟩

end Inspector.Config
