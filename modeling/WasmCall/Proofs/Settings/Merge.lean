import WasmCall.Proofs.Document.Edited
import WasmCall.Proofs.Document.Json
import WasmCall.Settings.File

/-!
# Settings out of edited documents

Settings are written as a document with all of their fields.  Whatever is deleted from it, in whatever
order the rest is put, and whatever else is written beside it, reading the document gives the settings
with the defaults in place of what was deleted.

* `without` says what becomes of each record, field by field and table by table.
* `read_of_edited` follows the tables from the inside to the outside, one lemma for each record.
* `Merged` is the law for texts, in both formats.  A document which was edited can be written again as
  JSON, and a text in TOML may be any one which is read as such a document.
-/

namespace WasmCall

open Document WasmCall.Field

section Leaves

variable {σ α : Type} {f : Field σ} {fields : List (Field σ)} {gone : Paths} {s : σ} {d : Document}
  {members : List (Key × Document)} {find : String → Option Document}

/-- A field is read from what is left of the member in its place, or it stays as it is. -/
theorem Field.Leaves.readFrom_cons (hleaves : Leaves gone members find) (n : Nat)
    (hmember : members[n]? = some (.text f.name, d)) (put : α → σ → σ) {a base : α}
    (hbase : put base s = s)
    (hupdate : ∀ d', Edited (gone.below f.name) d d' → f.update d' s = .ok (put a s)) :
    readFrom find s (f :: fields) =
      readFrom find (put (if gone [f.name] then base else a) s) fields := by
  have hmem := List.mem_of_getElem? hmember
  apply Field.readFrom_cons put hbase
  · intro hgone
    exact hleaves.missing _ (List.mem_map_of_mem hmem) hgone
  · intro hleft
    obtain ⟨d', hd', hedited⟩ := hleaves.left _ d hmem hleft
    exact ⟨d', hd', hupdate d' hedited⟩

/-- A scalar which is left is the same one. -/
theorem Field.Leaves.readFrom_scalar (hleaves : Leaves gone members find) (n : Nat)
    (hmember : members[n]? = some (.text f.name, d)) (hscalar : d.isScalar = true)
    (put : α → σ → σ) {a base : α} (hbase : put base s = s)
    (hupdate : f.update d s = .ok (put a s)) :
    readFrom find s (f :: fields) =
      readFrom find (put (if gone [f.name] then base else a) s) fields := by
  apply hleaves.readFrom_cons n hmember put hbase
  intro d' hedited
  rw [hedited.eq_of_isScalar hscalar]
  exact hupdate

theorem Field.update_ofReader {name : String} {initial : α} {read : Document → Except Fault α}
    {put : α → σ → σ} {a : α} (h : read d = .ok a) :
    (ofReader name initial read put).update d s = .ok (put a s) :=
  update_ofReader_eq_ok_iff.2 ⟨a, h, rfl⟩

end Leaves

/-- A number below the bound is read as itself. -/
theorem Document.readNat_of_lt {bound n : Nat} (h : n < bound) :
    readNat bound (.integer n) = .ok n := by
  rw [readNat, if_pos (by omega), Int.toNat_natCast]

theorem Document.readUInt32_toNat (n : UInt32) : readUInt32 (.integer n.toNat) = .ok n := by
  rw [readUInt32, readNat_of_lt n.toNat_lt, Except.map_ok, UInt32.ofNat_toNat]

theorem Document.readUInt64_toNat (n : UInt64) : readUInt64 (.integer n.toNat) = .ok n := by
  rw [readUInt64, readNat_of_lt n.toNat_lt, Except.map_ok, UInt64.ofNat_toNat]

namespace EngineSettings

/-- The settings with those of another record in place of what was deleted. -/
def without (gone : Paths) (s base : EngineSettings) : EngineSettings where
  pooling := if gone ["pooling_allocator"] then base.pooling else s.pooling
  maxInstances := if gone ["max_instances"] then base.maxInstances else s.maxInstances
  instanceMemoryMb :=
    if gone ["instance_memory_mb"] then base.instanceMemoryMb else s.instanceMemoryMb
  optLevel := if gone ["opt_level"] then base.optLevel else s.optLevel
  fuelMetering := if gone ["fuel_metering"] then base.fuelMetering else s.fuelMetering

theorem separate_fields (dialect : Dialect) : Separate (fields dialect) where
  distinct := by simp [fields, ofReader]
  independent := by simp [fields, independent_ofReader]

/-- The defaults of all fields are those of the record, whatever stood there before. -/
theorem defaults_fields (dialect : Dialect) (s : EngineSettings) :
    Field.defaults (fields dialect) s = default :=
  rfl

theorem read_of_edited (dialect : Dialect) {gone : Paths} {s : EngineSettings} {d : Document}
    (h : Edited gone s.toDocument d) : read dialect d = .ok (s.without gone default) := by
  have hlevel : readWord dialect (OptLevel.all.map fun l => (l.name, l)) (.string s.optLevel.name) =
      .ok s.optLevel := by
    cases s.optLevel <;> rfl
  refine readRecord_of_edited dialect (separate_fields dialect)
    (defaults_fields dialect Inhabited.default) rfl h ?_
  intro find hleaves
  refine (hleaves.readFrom_scalar 0 rfl rfl
    (fun v (s : EngineSettings) => { s with pooling := v }) rfl rfl).trans ?_
  refine (hleaves.readFrom_scalar 1 rfl rfl
    (fun v (s : EngineSettings) => { s with maxInstances := v }) rfl
    (update_ofReader (readUInt32_toNat s.maxInstances))).trans ?_
  refine (hleaves.readFrom_scalar 2 rfl rfl
    (fun v (s : EngineSettings) => { s with instanceMemoryMb := v }) rfl
    (update_ofReader (readUInt32_toNat s.instanceMemoryMb))).trans ?_
  refine (hleaves.readFrom_scalar 3 rfl rfl
    (fun v (s : EngineSettings) => { s with optLevel := v }) rfl
    (update_ofReader hlevel)).trans ?_
  exact hleaves.readFrom_scalar 4 rfl rfl
    (fun v (s : EngineSettings) => { s with fuelMetering := v }) rfl rfl

end EngineSettings

namespace ExecutionSettings

/-- The settings with those of another record in place of what was deleted. -/
def without (gone : Paths) (s base : ExecutionSettings) : ExecutionSettings where
  maxFuel := if gone ["max_fuel"] then base.maxFuel else s.maxFuel

theorem separate_fields : Separate fields where
  distinct := by simp [fields]
  independent := by simp [fields]

/-- The defaults of all fields are those of the record, whatever stood there before. -/
theorem defaults_fields (s : ExecutionSettings) : Field.defaults fields s = default :=
  rfl

theorem read_of_edited (dialect : Dialect) {gone : Paths} {s : ExecutionSettings} {d : Document}
    (h : Edited gone s.toDocument d) : read dialect d = .ok (s.without gone default) := by
  refine readRecord_of_edited dialect separate_fields (defaults_fields Inhabited.default) rfl h ?_
  intro find hleaves
  exact hleaves.readFrom_scalar 0 rfl rfl
    (fun v (s : ExecutionSettings) => { s with maxFuel := v }) rfl
    (update_ofReader (readUInt64_toNat s.maxFuel))

end ExecutionSettings

namespace CallSettings

/-- The settings with those of another record in place of what was deleted. -/
def without (gone : Paths) (s base : CallSettings) : CallSettings where
  overflow := if gone ["overflow"] then base.overflow else s.overflow

theorem separate_fields (dialect : Dialect) : Separate (fields dialect) where
  distinct := by simp [fields]
  independent := by simp [fields]

/-- The defaults of all fields are those of the record, whatever stood there before. -/
theorem defaults_fields (dialect : Dialect) (s : CallSettings) :
    Field.defaults (fields dialect) s = default :=
  rfl

theorem read_of_edited (dialect : Dialect) {gone : Paths} {s : CallSettings} {d : Document}
    (h : Edited gone s.toDocument d) : read dialect d = .ok (s.without gone default) := by
  have hpolicy : readWord dialect (OverflowPolicy.all.map fun p => (p.name, p))
      (.string s.overflow.name) = .ok s.overflow := by
    cases s.overflow <;> rfl
  refine readRecord_of_edited dialect (separate_fields dialect)
    (defaults_fields dialect Inhabited.default) rfl h ?_
  intro find hleaves
  exact hleaves.readFrom_scalar 0 rfl rfl
    (fun v (s : CallSettings) => { s with overflow := v }) rfl
    (update_ofReader hpolicy)

end CallSettings

namespace LogSettings

/-- The settings with those of another record in place of what was deleted. -/
def without (gone : Paths) (s base : LogSettings) : LogSettings where
  filter := if gone ["filter"] then base.filter else s.filter
  json := if gone ["json"] then base.json else s.json

theorem separate_fields : Separate fields where
  distinct := by simp [fields, ofReader]
  independent := by simp [fields, independent_ofReader]

/-- The defaults of all fields are those of the record, whatever stood there before. -/
theorem defaults_fields (s : LogSettings) : Field.defaults fields s = default :=
  rfl

theorem read_of_edited (dialect : Dialect) {gone : Paths} {s : LogSettings} {d : Document}
    (h : Edited gone s.toDocument d) : read dialect d = .ok (s.without gone default) := by
  refine readRecord_of_edited dialect separate_fields (defaults_fields Inhabited.default) rfl h ?_
  intro find hleaves
  refine (hleaves.readFrom_scalar 0 rfl rfl
    (fun v (s : LogSettings) => { s with filter := v }) rfl rfl).trans ?_
  exact hleaves.readFrom_scalar 1 rfl rfl
    (fun v (s : LogSettings) => { s with json := v }) rfl rfl

end LogSettings

namespace Settings

/-- The settings with those of another record in place of what was deleted. -/
def without (gone : Paths) (s base : Settings) : Settings where
  engine := if gone ["engine"] then base.engine
    else s.engine.without (gone.below "engine") base.engine
  execution := if gone ["execution"] then base.execution
    else s.execution.without (gone.below "execution") base.execution
  call := if gone ["call"] then base.call else s.call.without (gone.below "call") base.call

theorem separate_fields (dialect : Dialect) : Separate (fields dialect) where
  distinct := by simp [fields, ofReader]
  independent := by simp [fields, independent_ofReader]

/-- The defaults of all fields are those of the record, whatever stood there before. -/
theorem defaults_fields (dialect : Dialect) (s : Settings) :
    Field.defaults (fields dialect) s = default :=
  rfl

theorem read_of_edited (dialect : Dialect) {gone : Paths} {s : Settings} {d : Document}
    (h : Edited gone s.toDocument d) : read dialect d = .ok (s.without gone default) := by
  refine readRecord_of_edited dialect (separate_fields dialect)
    (defaults_fields dialect Inhabited.default) rfl h ?_
  intro find hleaves
  refine (hleaves.readFrom_cons 0 rfl
    (fun v (s : Settings) => { s with engine := v }) rfl
    fun d' h => update_ofReader (EngineSettings.read_of_edited dialect h)).trans ?_
  refine (hleaves.readFrom_cons 1 rfl
    (fun v (s : Settings) => { s with execution := v }) rfl
    fun d' h => update_ofReader (ExecutionSettings.read_of_edited dialect h)).trans ?_
  exact hleaves.readFrom_cons 2 rfl
    (fun v (s : Settings) => { s with call := v }) rfl
    fun d' h => update_ofReader (CallSettings.read_of_edited dialect h)

end Settings

namespace Configuration

/-- The configuration with that of another one in place of what was deleted. -/
def without (gone : Paths) (c base : Configuration) : Configuration where
  runtime := if gone ["runtime"] then base.runtime
    else c.runtime.without (gone.below "runtime") base.runtime
  logging := if gone ["logging"] then base.logging
    else c.logging.without (gone.below "logging") base.logging

theorem separate_fields (dialect : Dialect) : Separate (fields dialect) where
  distinct := by simp [fields, ofReader]
  independent := by simp [fields, independent_ofReader]

/-- The defaults of all fields are those of the record, whatever stood there before. -/
theorem defaults_fields (dialect : Dialect) (s : Configuration) :
    Field.defaults (fields dialect) s = default :=
  rfl

theorem read_of_edited (dialect : Dialect) {gone : Paths} {c : Configuration} {d : Document}
    (h : Edited gone c.toDocument d) : read dialect d = .ok (c.without gone default) := by
  refine readRecord_of_edited dialect (separate_fields dialect)
    (defaults_fields dialect Inhabited.default) rfl h ?_
  intro find hleaves
  refine (hleaves.readFrom_cons 0 rfl
    (fun v (s : Configuration) => { s with runtime := v }) rfl
    fun d' h => update_ofReader (Settings.read_of_edited dialect h)).trans ?_
  exact hleaves.readFrom_cons 1 rfl
    (fun v (s : Configuration) => { s with logging := v }) rfl
    fun d' h => update_ofReader (LogSettings.read_of_edited dialect h)

end Configuration

section Self

mutual

/-- Nothing needs to be edited. -/
theorem Document.edited_self {d : Document} (h : Json.Writable d) : Edited (fun _ => false) d d := by
  cases h with
  | null => exact .scalar _ _ rfl
  | bool b => exact .scalar _ _ rfl
  | natural n hn => exact .scalar _ _ rfl
  | negative n hpos hn => exact .scalar _ _ rfl
  | string s => exact .scalar _ _ rfl
  | table ms hms =>
      exact .table _ ms ms [] ms .closed (kept_self hms) (by simp) (by simp) rfl

theorem Document.kept_self {ms : List (Key × Document)} (h : Json.WritableMembers ms) :
    Kept (fun _ => false) ms ms := by
  cases h with
  | nil => exact .nil _
  | cons name d ms hd hms => exact .kept _ name d d ms ms rfl (edited_self hd) (kept_self hms)

end

end Self

/-- Settings have a text. -/
theorem Settings.writable_toDocument (s : Settings) : Json.Writable s.toDocument := by
  have hinstances : s.engine.maxInstances.toNat < pow2 64 :=
    Nat.lt_trans s.engine.maxInstances.toNat_lt (by decide)
  have hmemory : s.engine.instanceMemoryMb.toNat < pow2 64 :=
    Nat.lt_trans s.engine.instanceMemoryMb.toNat_lt (by decide)
  have hengine : Json.Writable s.engine.toDocument :=
    .table _ (.cons _ _ _ (.bool _) (.cons _ _ _ (.natural _ hinstances)
      (.cons _ _ _ (.natural _ hmemory) (.cons _ _ _ (.string _) (.cons _ _ _ (.bool _) .nil)))))
  have hexecution : Json.Writable s.execution.toDocument :=
    .table _ (.cons _ _ _ (.natural _ s.execution.maxFuel.toNat_lt) .nil)
  have hcall : Json.Writable s.call.toDocument :=
    .table _ (.cons _ _ _ (.string _) .nil)
  exact .table _ (.cons _ _ _ hengine (.cons _ _ _ hexecution (.cons _ _ _ hcall .nil)))

/-- What is read from a document which was edited.

* `serialized`: the text as which settings are written is one of their document.
* `json`, `toml`: a text of a document which was edited gives the settings with the defaults in place of
  what was deleted.
* `written`: so does the text as which the document is written.
* `unchanged`: settings are read as they were written.
* `bare`: if everything is deleted then the defaults are left. -/
structure Merged : Prop where
  serialized : ∀ s : Settings, Json.Denotes s.toJson s.toDocument
  json : ∀ (s : Settings) (gone : Paths) (d : Document) (text : String),
    Edited gone s.toDocument d → Json.Denotes text d →
      Settings.ofJson text = .ok (s.without gone .default)
  written : ∀ (s : Settings) (gone : Paths) (d : Document), Edited gone s.toDocument d →
    Json.Writable d → Settings.ofJson (Json.write d) = .ok (s.without gone .default)
  toml : ∀ (c : Configuration) (gone : Paths) (d : Document) (text : String),
    Edited gone c.toDocument d → Toml.parse text = some d →
      Configuration.ofToml text = .ok (c.without gone .default)
  unchanged : ∀ s : Settings, Settings.ofJson s.toJson = .ok s
  bare : ∀ (s : Settings) (c : Configuration), s.without (fun _ => true) .default = .default ∧
    c.without (fun _ => true) .default = .default

/-- Settings are merged with the defaults, whatever they are and whatever is deleted. -/
theorem settings_merged : Merged where
  serialized := fun s => Json.denotes_write s.writable_toDocument
  json := by
    intro s gone d text hedited htext
    rw [Settings.ofJson, Json.read_of_denotes _ htext]
    exact Settings.read_of_edited _ hedited
  written := by
    intro s gone d hedited hwritable
    rw [Settings.ofJson, Json.read_of_denotes _ (Json.denotes_write hwritable)]
    exact Settings.read_of_edited _ hedited
  toml := by
    intro c gone d text hedited htext
    rw [Configuration.ofToml, Toml.read, htext]
    simp only [Configuration.read_of_edited Toml.dialect hedited]
    rfl
  unchanged := by
    intro s
    have hwritable := s.writable_toDocument
    rw [Settings.toJson, Settings.ofJson, Json.read_of_denotes _ (Json.denotes_write hwritable)]
    exact Settings.read_of_edited _ (edited_self hwritable)
  bare := fun _ _ => ⟨rfl, rfl⟩

section Sample

/-- Settings with as much fuel as there can be, and with truncation. -/
def sampleSettings : Settings := ⟨⟨true, 1, 2, .none, false⟩, ⟨18446744073709551615⟩, ⟨.truncate⟩⟩

/-- The engine is deleted. -/
def sampleGone : Paths := fun path => path == ["engine"]

/-- The other tables in another order, and something else between them. -/
def sampleDocument : Document :=
  .table [(.text "call", sampleSettings.call.toDocument), (.text "note", .null),
    (.text "execution", sampleSettings.execution.toDocument)] .closed

theorem edited_sample : Edited sampleGone sampleSettings.toDocument sampleDocument := by
  have hexecution : Json.Writable sampleSettings.execution.toDocument :=
    .table _ (.cons _ _ _ (.natural _ (by decide)) .nil)
  have hcall : Json.Writable sampleSettings.call.toDocument :=
    .table _ (.cons _ _ _ (.string _) .nil)
  refine .table _ _ [(.text "execution", sampleSettings.execution.toDocument),
    (.text "call", sampleSettings.call.toDocument)] [(.text "note", .null)] _ _ ?_ ?_ ?_ rfl
  · exact .deleted _ _ _ _ _ rfl (.kept _ _ _ _ _ _ rfl (edited_self hexecution)
      (.kept _ _ _ _ _ _ rfl (edited_self hcall) (.nil _)))
  · intro m hm
    obtain rfl := List.mem_singleton.1 hm
    exact ⟨"note", rfl, by decide, rfl⟩
  · exact (List.perm_append_comm : ([_, _] ++ [_] : List _).Perm _)

/-- The engine is as it is by default, and so is everything if there is no text. -/
theorem merged_sample :
    Json.write sampleDocument = "\x7b\"call\":\x7b\"overflow\":\"truncate\"\x7d,\"note\":null," ++
        "\"execution\":\x7b\"max_fuel\":18446744073709551615\x7d\x7d" ∧
      Settings.ofJson (Json.write sampleDocument) =
        .ok ⟨.default, ⟨18446744073709551615⟩, ⟨.truncate⟩⟩ ∧
      Configuration.ofToml "" = .ok .default := by
  have hwritable : Json.Writable sampleDocument :=
    .table _ (.cons _ _ _ (.table _ (.cons _ _ _ (.string _) .nil)) (.cons _ _ _ .null
      (.cons _ _ _ (.table _ (.cons _ _ _ (.natural _ (by decide)) .nil)) .nil)))
  have hnothing : Edited (fun _ => true) Configuration.default.toDocument (.table [] .spread) :=
    .table _ _ [] [] [] .spread (.deleted _ _ _ _ _ rfl (.deleted _ _ _ _ _ rfl (.nil _))) (by simp)
      .nil rfl
  refine ⟨by decide +kernel, ?_, ?_⟩
  · exact settings_merged.written sampleSettings sampleGone sampleDocument edited_sample hwritable
  · exact settings_merged.toml .default _ _ "" hnothing rfl

/-- The same is said in a file, in another order and beside a float and a date. -/
example : (Configuration.ofToml ("size = 1.5\n[logging]\njson = true\n[runtime.call]\n" ++
    "overflow = \"truncate\"\n[runtime.execution]\nday = 1979-05-27\nmax_fuel = 5\n")).toOption =
      some ⟨⟨.default, ⟨5⟩, ⟨.truncate⟩⟩, ⟨LogSettings.default.filter, true⟩⟩ := by
  decide +kernel

end Sample

end WasmCall
