import Inspector.Config.Document
import Inspector.Proofs.Toml.Plain

/-!
What a format of settings has to promise, and that TOML as it is read and written here promises it:
a table of booleans and numbers comes back from its text, every key counts by itself wherever it
stands, and a field without a key has its default.
-/

namespace Inspector

/-- All that read or write TOML have integers up to this one. -/
def Toml.maxInteger : Nat := 0x7fffffffffffffff

namespace Config

open Toml (Entries)

structure Format.Lawful (format : Format) : Prop where
  distinct {text} {entries : Entries} : format.read text = some entries → entries.Distinct
  read_write {entries : Entries} {text} : Toml.Plain entries → format.write entries = some text →
    ∃ entries', format.read text = some entries' ∧ entries'.Perm entries
  write_plain {entries : Entries} : Toml.Plain entries →
    (∀ key (v : Int), (key, .integer v) ∈ entries → v ≤ Toml.maxInteger) →
    ∃ text, format.write entries = some text
  encode_perm (c : Config) : (format.encode c).Perm c.fields
  decode_fields (default c : Config) : format.decode default c.fields = some c
  /-- A key that is absent might as well have its default. -/
  decode_absent {default : Config} {entries : Entries} {key value} : entries.Distinct →
    key ∉ entries.map Prod.fst → (key, value) ∈ default.fields →
    format.decode default ((key, value) :: entries) = format.decode default entries
  /-- Neither the order of the keys nor any other key makes a difference. -/
  decode_known {default : Config} {entries entries' : Entries} :
    entries.Distinct → entries'.Distinct →
    (∀ key ∈ default.fields.map Prod.fst, ∀ value,
      (key, value) ∈ entries ↔ (key, value) ∈ entries') →
    format.decode default entries = format.decode default entries'

section

variable {c default : Config} {key : String} {value : Toml}

theorem readMilliseconds_toNat (ms : UInt64)
    : readMilliseconds (.integer ms.toNat) = some ms := by
  have hsize : ms.toNat < UInt64.size := ms.toNat_lt_size
  rw [readMilliseconds, if_pos (by omega), Int.toNat_natCast, UInt64.ofNat_toNat]

theorem ofEntries_fields : ofEntries? default c.fields = some c := by
  unfold ofEntries?
  simp [fields, setting, List.lookup_cons, readBoolean, readMilliseconds_toNat]

variable {entries entries' : Entries}

theorem ofEntries_absent (habsent : key ∉ entries.map Prod.fst)
    (hfield : (key, value) ∈ default.fields)
    : ofEntries? default ((key, value) :: entries) = ofEntries? default entries := by
  have hlookup : entries.lookup key = none := by
    apply List.lookup_eq_none_iff.mpr
    intro entry hentry
    simp only [bne_iff_ne]
    rintro rfl
    exact habsent (List.mem_map_of_mem hentry)
  simp only [fields, List.mem_cons, Prod.mk.injEq, List.not_mem_nil, or_false] at hfield
  unfold ofEntries?
  obtain ⟨rfl, rfl⟩ | ⟨rfl, rfl⟩ | ⟨rfl, rfl⟩ := hfield <;>
    simp [setting, List.lookup_cons, hlookup, readBoolean, readMilliseconds_toNat]

theorem ofEntries_known (hentries : entries.Distinct) (hentries' : entries'.Distinct)
    (hknown : ∀ key ∈ default.fields.map Prod.fst, ∀ value,
      (key, value) ∈ entries ↔ (key, value) ∈ entries')
    : ofEntries? default entries = ofEntries? default entries' := by
  have hlookup : ∀ key ∈ default.fields.map Prod.fst, entries.lookup key = entries'.lookup key := by
    intro key hkey
    apply Option.ext
    intro value
    rw [← Toml.Entries.mem_iff_lookup hentries, ← Toml.Entries.mem_iff_lookup hentries']
    exact hknown key hkey value
  unfold ofEntries? setting
  rw [hlookup "property_evaluation" (by simp [fields]),
    hlookup "eval_timeout_ms" (by simp [fields]), hlookup "file_logging" (by simp [fields])]

end

theorem Format.toml_lawful : Format.toml.Lawful where
  distinct := Toml.distinct_parse
  read_write hplain hwrite := ⟨_, Toml.parse_print hplain.distinct hwrite, .refl _⟩
  write_plain hplain hsize := by
    apply Toml.print_isSome hplain
    intro key v hv
    exact Int.lt_of_le_of_lt (hsize key v hv) (by decide)
  encode_perm c := .refl c.fields
  decode_fields _ _ := ofEntries_fields
  decode_absent _ := ofEntries_absent
  decode_known := ofEntries_known

end Config

end Inspector
