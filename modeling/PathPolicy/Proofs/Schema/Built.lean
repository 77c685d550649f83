import PathPolicy.Proofs.PolicyFile.Settings
import Mathlib

/-! What every schema from a builder has, whatever was set before and whichever settings
failed: a name that is not empty, and metadata with each key once and never the key that a
builder refuses. -/

namespace PathPolicy

namespace Fields

/-- No key comes twice, and none is the one that a builder refuses. -/
structure Settled (fields : Fields) : Prop where
  nodup : (fields.map (·.1)).Nodup
  notReserved : ∀ e ∈ fields, e.1 ≠ "self"

variable {fields more : Fields} {name : String} {v : Value}

theorem insert_of_mem (h : name ∈ fields.map (·.1)) :
    (fields.insert name v).map (·.1) = fields.map (·.1) := by
  induction fields with
  | nil => simp at h
  | cons e rest ih =>
    obtain ⟨n, u⟩ := e
    by_cases hn : n = name
    · simp [insert, hn]
    · have hrest : name ∈ rest.map (·.1) := by simpa [Ne.symm hn] using h
      simp [insert, hn, ih hrest]

theorem insert_of_not_mem (h : name ∉ fields.map (·.1)) :
    fields.insert name v = fields ++ [(name, v)] := by
  induction fields with
  | nil => rfl
  | cons e rest ih =>
    obtain ⟨n, u⟩ := e
    simp only [List.map_cons, List.mem_cons, not_or] at h
    rw [insert, if_neg (Ne.symm h.1), ih h.2]
    rfl

theorem settled_nil : Settled [] := ⟨List.nodup_nil, by simp⟩

theorem Settled.insert (h : fields.Settled) (hn : name ≠ "self") :
    (fields.insert name v).Settled := by
  have hkey : ∀ {g : Fields}, (∀ e ∈ g, e.1 ≠ "self") ↔ "self" ∉ g.map (·.1) := by
    intro g
    simp only [List.mem_map, not_exists, not_and]
  obtain ⟨hnodup, hself⟩ := h
  by_cases hm : name ∈ fields.map (·.1)
  · refine ⟨?_, hkey.2 ?_⟩ <;> rw [insert_of_mem hm]
    · exact hnodup
    · exact hkey.1 hself
  · rw [insert_of_not_mem hm]
    refine ⟨?_, hkey.2 ?_⟩ <;> rw [List.map_append]
    · exact List.nodup_append.2 ⟨hnodup, by simp, by
        rintro a ha b hb rfl
        simp only [List.map_cons, List.map_nil, List.mem_singleton] at hb
        exact hm (hb ▸ ha)⟩
    · have := hkey.1 hself
      simpa [hn.symm] using this

theorem Settled.update (h : fields.Settled) (hm : ∀ e ∈ more, e.1 ≠ "self") :
    (fields.update more).Settled := by
  unfold Fields.update
  induction more generalizing fields with
  | nil => exact h
  | cons e rest ih =>
    obtain ⟨he, hrest⟩ := List.forall_mem_cons.1 hm
    exact ih (h.insert he) hrest

/-- Keys that are all new are added as they come. -/
theorem update_of_nodup (h : ((fields ++ more).map (·.1)).Nodup) :
    fields.update more = fields ++ more := by
  unfold Fields.update
  induction more generalizing fields with
  | nil => simp
  | cons e rest ih =>
    have hnew : e.1 ∉ fields.map (·.1) := by
      rw [List.map_append, List.nodup_append] at h
      intro hmem
      exact h.2.2 _ hmem e.1 (by simp) rfl
    rw [List.foldl_cons, insert_of_not_mem hnew, ih (by simpa using h)]
    simp

end Fields

namespace Schema

variable [Host]

/-- A setting that gives a name gives a text. -/
def Setting.NamesText (setting : Setting) : Prop := ∀ v, setting = .name v → ∃ n, v = .str n

namespace Builder

/-- A setting that fails leaves the builder as it was. -/
def attempt (b : Builder) (setting : Setting) : Builder := (b.set setting).toOption.getD b

/-- What the settings leave true of a builder. -/
structure Orderly (b : Builder) : Prop where
  name : ∃ n, b.name = .str n
  metadata : b.metadata.Settled

variable {b : Builder} {s : Schema}

theorem orderly_start {path : Value} {pattern : Option PathPattern.Given}
    (h : Builder.start path pattern = .ok b) : b.Orderly := by
  unfold Builder.start at h
  cases hc : Selector.choose path pattern with
  | error e =>
    rw [hc] at h
    cases h
  | ok selector =>
    rw [hc] at h
    cases h
    exact ⟨⟨"", rfl⟩, Fields.settled_nil⟩

theorem Orderly.set {c : Builder} {setting : Setting} (h : b.Orderly)
    (hn : setting.NamesText) (hs : b.set setting = .ok c) : c.Orderly := by
  obtain ⟨hname, hmeta⟩ := h
  cases setting with
  | name v =>
    cases hs
    exact ⟨hn v rfl, hmeta⟩
  | documentation v =>
    cases hs
    exact ⟨hname, hmeta⟩
  | validator candidate =>
    change (Validator.ofCandidate candidate).map _ = _ at hs
    cases hc : Validator.ofCandidate candidate <;> rw [hc] at hs <;> cases hs
    exact ⟨hname, hmeta⟩
  | allowance field given =>
    change given.parse.map _ = _ at hs
    cases hg : given.parse <;> rw [hg] at hs <;> cases hs
    cases field <;> exact ⟨hname, hmeta⟩
  | canBeDeleted v =>
    cases hs
    exact ⟨hname, hmeta⟩
  | metadata more =>
    change (if _ then _ else _) = _ at hs
    split at hs <;> cases hs
    rename_i hself
    refine ⟨hname, hmeta.update fun e he hkey => hself ?_⟩
    exact List.any_eq_true.2 ⟨e, he, decide_eq_true hkey⟩

theorem Orderly.attempt {setting : Setting} (h : b.Orderly) (hn : setting.NamesText) :
    (b.attempt setting).Orderly := by
  unfold Builder.attempt
  cases hs : b.set setting with
  | error e => exact h
  | ok c => exact h.set hn hs

/-- However many settings were tried. -/
theorem Orderly.run {settings : List Setting} (h : b.Orderly)
    (hn : ∀ setting ∈ settings, setting.NamesText) :
    (settings.foldl Builder.attempt b).Orderly := by
  induction settings generalizing b with
  | nil => exact h
  | cons setting rest ih =>
    obtain ⟨hfirst, hrest⟩ := List.forall_mem_cons.1 hn
    exact ih (h.attempt hfirst) hrest

theorem build_eq_ok (h : b.build = .ok s) :
    s.name = (if b.name.truthy then b.name else .str b.selector.raw) ∧
      s.metadata = b.metadata := by
  unfold build at h
  split at h
  · cases h
  · rw [Entry.draft_build_eq] at h
    cases hd : Draft.checkDocumentation b.documentation b.selector.raw <;> rw [hd] at h <;> cases h
    exact ⟨rfl, rfl⟩

end Builder

/-- The schema comes from a builder, after any settings, some of which may have failed. -/
def Built (s : Schema) : Prop :=
  ∃ (path : Value) (pattern : Option PathPattern.Given) (start : Builder)
    (settings : List Setting), Builder.start path pattern = .ok start ∧
    (∀ setting ∈ settings, setting.NamesText) ∧
    (settings.foldl Builder.attempt start).build = .ok s

variable {s : Schema}

theorem raw_ne_empty (selector : Selector) : selector.raw ≠ "" := by
  intro h
  cases selector with
  | exact e =>
    have hblank := e.notBlank
    rw [show e.path = "" from h] at hblank
    cases hblank
  | pattern p =>
    have hblank := p.notBlank
    rw [show p.source = "" from h] at hblank
    cases hblank

theorem Built.name (h : s.Built) : ∃ n, s.name = .str n ∧ n ≠ "" := by
  obtain ⟨_, _, _, _, hstart, hsettings, hbuild⟩ := h
  obtain ⟨⟨n, hn⟩, -⟩ := (Builder.orderly_start hstart).run hsettings
  obtain ⟨hname, -⟩ := Builder.build_eq_ok hbuild
  rw [hn] at hname
  by_cases he : n = ""
  · exact ⟨_, by simpa [he, Value.truthy] using hname, raw_ne_empty _⟩
  · exact ⟨n, by simpa [he, Value.truthy] using hname, he⟩

theorem Built.metadata (h : s.Built) : s.metadata.Settled := by
  obtain ⟨_, _, _, _, hstart, hsettings, hbuild⟩ := h
  obtain ⟨-, hmeta⟩ := Builder.build_eq_ok hbuild
  rw [hmeta]
  exact ((Builder.orderly_start hstart).run hsettings).metadata

/-! Schemas that are read from entries. -/

namespace Builder

/-- Some settings turn the one builder into the other. -/
def Leads (b c : Builder) : Prop :=
  ∃ settings : List Setting, (∀ setting ∈ settings, setting.NamesText) ∧
    settings.foldl attempt b = c

variable {b c : Builder}

theorem Leads.refl (b : Builder) : b.Leads b := ⟨[], by simp, rfl⟩

theorem Leads.trans {e : Builder} (h : b.Leads c) (h' : c.Leads e) : b.Leads e := by
  obtain ⟨settings, hsettings, rfl⟩ := h
  obtain ⟨more, hmore, rfl⟩ := h'
  exact ⟨settings ++ more, List.forall_mem_append.2 ⟨hsettings, hmore⟩, List.foldl_append⟩

end Builder

namespace Entry

variable {b c : Builder} {entries : Entries} {table : Validator.Table}

end Entry

end Schema

end PathPolicy
