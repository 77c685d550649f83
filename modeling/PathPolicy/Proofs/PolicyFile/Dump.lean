import PathPolicy.Proofs.PolicyFile.Grammar
import PathPolicy.Proofs.Schema.Built
import PathPolicy.Proofs.Selector

/-! Schemas written as entries. What a schema shows of itself, with the flags of its
selector, is an entry that is read as the same schema again. -/

namespace PathPolicy

theorem Fields.field?_map (fields : Fields) (key : String) :
    Entries.field? (fields.map fun e => (.str e.1, e.2)) key = fields.lookup key := by
  unfold Entries.field? Entries.get?
  induction fields with
  | nil => rfl
  | cons e rest ih =>
    obtain ⟨n, v⟩ := e
    by_cases h : n = key
    · simp [h, Value.same, List.lookup]
    · have hkey : (key == n) = false := beq_eq_false_iff_ne.2 (Ne.symm h)
      simpa [List.lookup, hkey, Value.same, h] using ih

theorem ExactPath.ofValue_path [Host] (e : ExactPath) : ofValue (.str e.path) = .ok e := by
  simp only [ofValue, e.notBlank, dif_pos]

theorem Allowance.parse_word [Host] (a : Allowance) : Allowance.parse (.str a.word) = .ok a := by
  have hword : ofText? a.word = some a := by
    cases a <;> decide +kernel
  simp only [Allowance.parse, Value.text, hword]

namespace Schema

section

variable [Host]

/-- What a schema shows of itself, and the flags of its selector. -/
def dumped (s : Schema) : Fields := s.toFields.insert "flags" (.int s.selector.flags)

/-- The entry that a schema is written as. -/
def toEntry (s : Schema) : Entries := s.dumped.map fun e => (.str e.1, e.2)

namespace Entry

variable {table : Validator.Table} {b : Builder}

theorem setFrom_validator {v : Validator}
    (h : (Validator.resolve (.str v.name) table >>= Validator.ofCandidate) = .ok v) :
    setFrom (validatorSetting table) (some (.str v.name)) b = .ok { b with validator := v } := by
  obtain ⟨c, hresolve, hc⟩ := Failure.exists_of_bind_eq_ok h
  change ((Validator.resolve (.str v.name) table).map Setting.validator >>= b.set) = _
  rw [hresolve]
  change (Validator.ofCandidate c).map _ = _
  rw [hc]
  rfl

theorem setFrom_allowance (field : AllowanceField) (a : Allowance) :
    setFrom (allowanceSetting field) (some (.str a.word)) b = .ok (b.setAllowance field a) := by
  have hset (v : Value) : b.set (.allowance field (.value v)) =
      (Allowance.parse v).map (b.setAllowance field ·) := rfl
  simp only [setFrom, allowanceSetting, bind, Except.bind, hset, Allowance.parse_word, Except.map]

theorem setFrom_name {n : String} (h : n ≠ "") :
    setFrom nameSetting ((some (Value.str n)).filter Value.truthy) b =
      .ok { b with name := .str n } := by
  have ht : (Value.str n).truthy = true := by simpa [Value.truthy] using h
  have hw : (Value.str n).unwritable? = none := Value.unwritable?_str n
  rw [Option.filter_some, if_pos ht]
  simp only [setFrom, nameSetting, hw]
  rfl

/-- Metadata without entries is not set, and then there is none. -/
theorem setFrom_metadata {fields : Fields} (h : fields.Settled) (hb : b.metadata = []) :
    setFrom metadataSetting ((some fields.toValue).filter Value.truthy) b =
      .ok { b with metadata := fields } := by
  cases fields with
  | nil =>
    change Except.ok b = _
    rw [← hb]
  | cons e rest =>
    have ht : Value.truthy (Fields.toValue (e :: rest)) = true := rfl
    have hread : metadata (Fields.toValue (e :: rest)) = .ok (e :: rest) := metadata_eq_ok_iff.2 rfl
    have hself : ¬(e :: rest).any (·.1 = "self") = true := by
      intro hany
      obtain ⟨f, hf, hkey⟩ := List.any_eq_true.1 hany
      exact h.notReserved f hf (of_decide_eq_true hkey)
    have hupdate : b.metadata.update (e :: rest) = e :: rest := by
      rw [hb]
      exact Fields.update_of_nodup h.nodup
    rw [Option.filter_some, if_pos ht]
    simp only [setFrom, metadataSetting, hread]
    change (if (e :: rest).any (·.1 = "self") then .error (.fault .reservedName)
      else .ok { b with metadata := b.metadata.update (e :: rest) } : Except Failure Builder) = _
    rw [if_neg hself, hupdate]

variable {s : Schema}

theorem dumped_eq (s : Schema) : s.dumped =
    [("name", s.name), ("path", .str s.path), ("is_regex", .bool (!s.isExact)),
      ("documentation", .str s.documentation), ("data_validator", .str s.validator.name),
      ("ephemeral", .str s.ephemeral.word), ("sequential", .str s.sequential.word),
      ("watched", .str s.watched.word), ("can_be_deleted", .bool s.canBeDeleted),
      ("metadata", s.metadata.toValue), ("flags", .int s.selector.flags)] := by
  simp [dumped, toFields, Fields.insert]

theorem field?_toEntry (key : String) : s.toEntry.field? key = s.dumped.lookup key :=
  Fields.field?_map s.dumped key

theorem unknownKeys_toEntry (s : Schema) : unknownKeys (s.toEntry.map (·.1)) = .ok () := by
  have hkeys : s.toEntry.map (·.1) = s.dumped.map fun e => .str e.1 := by simp [toEntry]
  have htext : ∀ k ∈ s.toEntry.map (·.1), k.isText = true := by
    rw [hkeys]
    rintro k hk
    obtain ⟨e, -, rfl⟩ := List.mem_map.1 hk
    rfl
  have hknown : ∀ k ∈ s.toEntry.map (·.1), ∃ word ∈ knownKeys, k = .str word := by
    simp [hkeys, dumped_eq, knownKeys]
  rcases unknownKeys_of_text htext with ⟨hok, -⟩ | ⟨-, hnot⟩
  · exact hok
  · exact absurd hknown hnot

theorem start_toEntry (s : Schema) : start s.toEntry = .ok { selector := s.selector } := by
  have hpath : s.toEntry.field? "path" = some (.str s.path) := by
    simp [field?_toEntry, dumped_eq, List.lookup]
  have hregex : s.toEntry.field? "is_regex" = some (.bool (!s.isExact)) := by
    simp [field?_toEntry, dumped_eq, List.lookup]
  have hflags : s.toEntry.field? "flags" = some (.int s.selector.flags) := by
    simp [field?_toEntry, dumped_eq, List.lookup]
  unfold start
  rw [hpath, hregex, hflags]
  unfold path isExact
  cases hs : s.selector with
  | exact e =>
    change Builder.start (.str e.path) none = _
    simp only [Builder.start, Selector.choose, Value.isNull, ExactPath.ofValue_path, Except.map]
  | pattern p =>
    change (PathPattern.make p.source p.flags >>= fun q =>
      Builder.start .null (some (.pattern q))) = _
    rw [PathPattern.make_source]
    rfl

theorem settings_toEntry (hs : s.Built)
    (hv : (Validator.resolve (.str s.validator.name) table >>= Validator.ofCandidate) =
      .ok s.validator) :
    settings s.toEntry table { selector := s.selector } = .ok {
      selector := s.selector
      name := s.name
      documentation := .str s.documentation
      validator := s.validator
      ephemeral := s.ephemeral
      sequential := s.sequential
      watched := s.watched
      canBeDeleted := .bool s.canBeDeleted
      metadata := s.metadata } := by
  obtain ⟨n, hn, hne⟩ := hs.name
  have hdeleted (b : Builder) : setFrom canBeDeletedSetting (some (.bool s.canBeDeleted)) b =
      .ok { b with canBeDeleted := .bool s.canBeDeleted } := rfl
  simp only [settings, field?_toEntry, dumped_eq, AllowanceField.all, AllowanceField.word,
    List.foldlM, hn, List.lookup, String.reduceBEq, Option.getD_some]
  simp only [setFrom_validator hv, setFrom_allowance, hdeleted, setFrom_name hne, bind,
    Except.bind, pure, Except.pure, Builder.setAllowance]
  rw [setFrom_metadata hs.metadata rfl]
  rfl

theorem build_map {entries : Entries} {b c : Builder}
    (hkeys : unknownKeys (entries.map (·.1)) = .ok ()) (hstart : start entries = .ok b)
    (hsettings : settings entries table b = .ok c) :
    build (.map entries) table = c.build.mapError .definition := by
  simp only [build, hkeys, hstart, hsettings, bind, Except.bind]
  rfl

/-- The entry that a schema is written as is read as the schema. -/
theorem build_toEntry (hs : s.Built)
    (hv : (Validator.resolve (.str s.validator.name) table >>= Validator.ofCandidate) =
      .ok s.validator) :
    build (.map s.toEntry) table = .ok s := by
  obtain ⟨n, hn, hne⟩ := hs.name
  have htruthy : s.name.truthy = true := by simpa [hn, Value.truthy] using hne
  have hdocument : Draft.checkDocumentation (.str s.documentation) s.selector.raw =
      .ok ⟨s.documentation, s.documented⟩ := by
    simp only [Draft.checkDocumentation, s.documented, dif_pos]
  rw [build_map (unknownKeys_toEntry s) (start_toEntry s) (settings_toEntry hs hv)]
  unfold Builder.build
  rw [if_neg (by simp [Value.isNull]), draft_build_eq, hdocument]
  simp only [Except.map, htruthy, if_true]
  rfl

end Entry

/-- Nothing in the entry leads back to something around it. -/
theorem followed_toEntry {s : Schema} (hs : s.Built) : SchemaSet.Followed 2 (.map s.toEntry) := by
  obtain ⟨n, hn, -⟩ := hs.name
  refine ⟨fun r hr => (by cases hr), fun fields hfields => ?_⟩
  cases hfields
  simp [toEntry, Entry.dumped_eq, hn, Value.Rests, Fields.toValue]

/-- A schema from a builder, written as the only entry of a file, is read as it was. The
table has to give the validator under the name by which the schema shows it. -/
theorem ofValue_toEntry {s : Schema} (hs : s.Built) {table : Validator.Table}
    (hv : (Validator.resolve (.str s.validator.name) table >>= Validator.ofCandidate) =
      .ok s.validator) (name : String) :
    ∃ set, SchemaSet.ofValue (SchemaSet.alone (.map s.toEntry)) name table = .ok set ∧
      set.schemas = [s] ∧ set.schemas.map toFields = [s.toFields] := by
  obtain ⟨set, hset, hone⟩ : ∃ set, SchemaSet.ofValue (SchemaSet.alone (.map s.toEntry)) name table =
      .ok set ∧ set.schemas = [s] :=
    (SchemaSet.alone_eq_ok_iff (followed_toEntry hs)).2 (Entry.build_toEntry hs hv)
  exact ⟨set, hset, hone, by rw [hone]; rfl⟩

end

/-- Any text under `/a`, in more than one line too. -/
def lockPaths : PathPattern where
  source := "/a.*"
  flags := 16
  program := ⟨48, 0, .cat (.char 0x2F) (.cat (.char 0x61) (.loop .greedy 0 none .any))⟩
  notBlank := by decide
  compiled := by decide +kernel

/-- A schema whose name is a space. -/
def locks : Schema where
  selector := .pattern lockPaths
  documentation := "Locks"
  documented := by decide
  validator := .json false
  ephemeral := .must
  sequential := .can
  watched := .can
  canBeDeleted := true
  name := .str " "
  metadata := [("owner", .list [.int 1, .null])]

def lockSettings : List Setting :=
  [.documentation (.str "Locks"), .validator (.validator (.json false)), .name (.str " "),
    .allowance .watched (.value (.str "never")), .allowance .ephemeral (.value (.str " Must")),
    .metadata [("owner", .str "x")], .metadata [("owner", .list [.int 1, .null])]]

def lockTable : Validator.Table := [("jsondatavalidator", .validator (.json false))]

theorem locks_built : locks.Built := by
  refine ⟨.null, some (.pattern lockPaths), { selector := .pattern lockPaths }, lockSettings,
    rfl, ?_, ?_⟩
  · simp [lockSettings, Setting.NamesText]
  · cbv

theorem ofValue_toEntry_locks : locks.Built ∧
    (Validator.resolve (.str locks.validator.name) lockTable >>= Validator.ofCandidate) =
      .ok locks.validator ∧
    ∃ set, SchemaSet.ofValue (SchemaSet.alone (.map locks.toEntry)) "locks" lockTable = .ok set ∧
      set.schemas = [locks] ∧ set.schemas.map toFields = [locks.toFields] := by
  have hv : (Validator.resolve (.str locks.validator.name) lockTable >>=
      Validator.ofCandidate) = .ok locks.validator := by
    have hkey : Validator.key (some "JsonDataValidator") = "jsondatavalidator" := by
      decide +kernel
    have hlower : Text.lower "jsondatavalidator" = "jsondatavalidator" := by decide +kernel
    have hfind : lockTable.complete.find? "jsondatavalidator" =
        some (.validator (.json false)) := by
      simp [lockTable, Validator.Table.complete, Validator.Table.find?, hlower]
    simp only [locks, Validator.name, Validator.resolve, Validator.resolveText, hkey, hfind]
    rfl
  exact ⟨locks_built, hv, ofValue_toEntry locks_built hv "locks"⟩

end Schema

end PathPolicy
