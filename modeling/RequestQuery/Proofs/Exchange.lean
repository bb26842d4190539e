import RequestQuery.PublicReport
import RequestQuery.Proofs.Data.Codec
import RequestQuery.Proofs.Settings
import RequestQuery.Schema.Registry

namespace RequestQuery

open Json (Writable)

variable {surplus : Surplus}

theorem Data.texts?_map (texts : List String) : texts? (.list (texts.map .text)) = some texts :=
  mapM_map_eq_some (by intro s; rfl)

theorem Json.writable_texts (texts : List String) : Writable (.list (texts.map .text)) := by
  apply Writable.list
  simp only [List.forall_mem_map]
  exact fun s _ => .text s

theorem writable_textMember? {name : String} {value : Option String} :
    ∀ m ∈ textMember? name value, Writable m.2 := by
  cases value
  case none   => nofun
  case some s => simpa [textMember?] using Writable.text s

theorem LogSettings.writable_toData (s : LogSettings) : Writable s.toData := by
  apply Writable.record
  simp only [List.cons_append, List.forall_mem_cons, List.forall_mem_append]
  exact ⟨.text _, writable_textMember?, .text _, .integer _, .integer _, nofun⟩

theorem ReadingOptions.writable_toData (o : ReadingOptions) : Writable o.toData := by
  apply Writable.record
  simpa using Writable.boolean o.strictBounds

theorem Settings.writable_toData (s : Settings) : Writable s.toData := by
  apply Writable.record
  simp only [List.forall_mem_cons, List.forall_mem_append]
  exact ⟨writable_textMember?, s.log.writable_toData, s.reading.writable_toData, nofun⟩

theorem FieldSet.ofList_names (fields : FieldSet) : ofList fields.names = fields := by
  have hn : fields.names.map (·, ()) = fields.entries := List.map_map.trans (List.map_id _)
  rw [ofList, hn, SortedMap.ofList_entries]

namespace Entity

variable (e : Entity)

theorem ofData?_toData : ofData? surplus e.toData = some e := by
  have hn : ([("name", Data.text e.name), ("fields", .list (e.fields.names.map .text))].map
      (·.1)).Nodup := by simp
  rw [ofData?, toData, Data.members?_record hn]
  simp [SortedMap.lookup_cons, Data.text?, Data.texts?_map, ofNames, FieldSet.ofList_names]

theorem writable_toData : Writable e.toData := by
  apply Writable.record
  simp only [List.forall_mem_cons]
  exact ⟨.text _, Json.writable_texts _, nofun⟩

end Entity

namespace Registry

variable (r : Registry)

-- A name may stand there twice: nothing is registered when a list of entities is read.
theorem listed?_toData : listed? surplus r.toData = some r.entities := by
  have he : (r.entities.map Entity.toData).mapM (Entity.ofData? surplus) = some r.entities :=
    mapM_map_eq_some Entity.ofData?_toData
  have hn : ([("entity", Data.list (r.entities.map Entity.toData))].map (·.1)).Nodup := List.nodup_singleton _
  rw [listed?, toData, Data.members?_record hn]
  simp [SortedMap.lookup_cons, Data.orElse_some, Data.list?, he]

theorem writable_toData : Writable r.toData := by
  apply Writable.record
  simp only [List.forall_mem_cons]
  refine ⟨.list ?_, nofun⟩
  simp only [List.forall_mem_map]
  exact fun e _ => e.writable_toData

end Registry

theorem Cause.Kind.lossless : (Codec.ofCases all name).Lossless :=
  Codec.lossless_ofCases fun kind => by cases kind <;> rfl

theorem PublicCode.lossless : (Codec.ofCases all name).Lossless :=
  Codec.lossless_ofCases fun code => by cases code <;> rfl

theorem PublicCode.Category.lossless : (Codec.ofCases all name).Lossless :=
  Codec.lossless_ofCases fun category => by cases category <;> rfl

theorem Direction.lossless : (Codec.ofCases all name).Lossless :=
  Codec.lossless_ofCases fun direction => by cases direction <;> rfl

theorem NullsPlacement.lossless : (Codec.ofCases all name).Lossless :=
  Codec.lossless_ofCases fun nulls => by cases nulls <;> rfl

namespace Rejection

variable (r : Rejection)

-- The parameter is written as null if there is none.
theorem optionalText?_parameter :
    Data.optionalText? (r.parameter.elim .null .text) = some r.parameter := by
  cases r.parameter <;> rfl

theorem ofData?_toData : ofData? surplus r.toData = some r := by
  have hn : ([("message", Data.text r.message), ("error_type", .text r.kind.name),
      ("context", r.parameter.elim .null .text)].map (·.1)).Nodup := by simp
  have hk : Data.case? Cause.Kind.all Cause.Kind.name (.text r.kind.name) = some r.kind :=
    Cause.Kind.lossless.read?_write r.kind
  rw [ofData?, toData, Data.members?_record hn]
  simp [SortedMap.lookup_cons, Data.text?, hk, Data.orElse_some, optionalText?_parameter]

theorem writable_toData : Writable r.toData := by
  apply Writable.record
  simp only [List.forall_mem_cons]
  refine ⟨.text _, .text _, ?_, nofun⟩
  cases r.parameter
  case none   => exact .null
  case some p => exact .text p

end Rejection

namespace PublicReport

variable (r : PublicReport)

theorem ofData?_toData : ofData? surplus r.toData = some r := by
  have hn : ([("code", Data.text r.code.name), ("message", .text r.message)].map (·.1)).Nodup := by simp
  have hc : Data.case? PublicCode.all PublicCode.name (.text r.code.name) = some r.code :=
    PublicCode.lossless.read?_write r.code
  rw [ofData?, toData, Data.members?_record hn]
  simp [SortedMap.lookup_cons, Data.text?, hc]

theorem writable_toData : Writable r.toData := by
  apply Writable.record
  simp only [List.forall_mem_cons]
  exact ⟨.text _, .text _, nofun⟩

end PublicReport

-- The types whose values are written as JSON and read from it.
inductive Exchanged
  | settings
  | logSettings
  | readingOptions
  | entity
  | registry
  | rejection
  | causeKind
  | publicCode
  | category
  | publicReport
  | direction
  | nullsPlacement
  deriving DecidableEq

namespace Exchanged

def Value : Exchanged → Type
  | settings       => Settings
  | logSettings    => LogSettings
  | readingOptions => ReadingOptions
  | entity         => Entity
  | registry       => Registry
  | rejection      => Rejection
  | causeKind      => Cause.Kind
  | publicCode     => PublicCode
  | category       => PublicCode.Category
  | publicReport   => PublicReport
  | direction      => Direction
  | nullsPlacement => NullsPlacement

-- In JSON a structure that is written as a list must not be longer than it is.
def codec : (t : Exchanged) → Codec t.Value
  | settings       => ⟨Settings.toData, Settings.ofData? .refused⟩
  | logSettings    => ⟨LogSettings.toData, LogSettings.ofData? .refused⟩
  | readingOptions => ⟨ReadingOptions.toData, ReadingOptions.ofData? .refused⟩
  | entity         => ⟨Entity.toData, Entity.ofData? .refused⟩
  | registry       => ⟨Registry.toData, fun d => Registry.mk <$> Registry.listed? .refused d⟩
  | rejection      => ⟨Rejection.toData, Rejection.ofData? .refused⟩
  | causeKind      => .ofCases Cause.Kind.all Cause.Kind.name
  | publicCode     => .ofCases PublicCode.all PublicCode.name
  | category       => .ofCases PublicCode.Category.all PublicCode.Category.name
  | publicReport   => ⟨PublicReport.toData, PublicReport.ofData? .refused⟩
  | direction      => .ofCases Direction.all Direction.name
  | nullsPlacement => .ofCases NullsPlacement.all NullsPlacement.name

theorem lossless (t : Exchanged) : t.codec.Lossless := by
  cases t
  case settings       => exact ⟨Settings.writable_toData, Settings.ofData?_toData⟩
  case logSettings    => exact ⟨LogSettings.writable_toData, LogSettings.ofData?_toData⟩
  case readingOptions => exact ⟨ReadingOptions.writable_toData, ReadingOptions.ofData?_toData⟩
  case entity         => exact ⟨Entity.writable_toData, Entity.ofData?_toData⟩
  case registry       =>
    exact ⟨Registry.writable_toData, fun r => congrArg (Option.map Registry.mk) r.listed?_toData⟩
  case rejection      => exact ⟨Rejection.writable_toData, Rejection.ofData?_toData⟩
  case causeKind      => exact Cause.Kind.lossless
  case publicCode     => exact PublicCode.lossless
  case category       => exact PublicCode.Category.lossless
  case publicReport   => exact ⟨PublicReport.writable_toData, PublicReport.ofData?_toData⟩
  case direction      => exact Direction.lossless
  case nullsPlacement => exact NullsPlacement.lossless

-- A value comes back from its text, so that a text that is rewritten once stays as it is.
theorem ofJson?_json_and_rewrite?_of_rewrite? (t : Exchanged) :
    (∀ v : t.Value, t.codec.ofJson? (t.codec.json v) = some v) ∧
      ∀ text text', t.codec.rewrite? text = some text' → t.codec.rewrite? text' = some text' where
  left          := t.lossless.ofJson?_json
  right _ _ h := t.lossless.rewrite?_of_rewrite? h

end Exchanged

end RequestQuery
