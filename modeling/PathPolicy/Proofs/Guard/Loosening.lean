import PathPolicy.Host.Standard
import PathPolicy.Proofs.Guard.Decision
import PathPolicy.Proofs.Registry.Replacement

/-! Loosening a registered schema: what the old schema accepted the looser one accepts, and a
path with another schema is answered as before. -/

namespace PathPolicy

namespace Allowance

/-- Nothing that the other allows is forbidden. -/
def Looser (a b : Allowance) : Prop := b = .can ∨ b = a

theorem Looser.not_conflicts {a b : Allowance} {has : Bool} (h : a.Looser b)
    (ha : ¬a.Conflicts has) : ¬b.Conflicts has := by
  rcases h with rfl | rfl
  · simp [Conflicts]
  · exact ha

end Allowance

namespace Schema

variable [Host]

/-- `t` is for the same paths as `s`, and at no point stricter. -/
structure Looser (s t : Schema) : Prop where
  selector : t.selector = s.selector
  ephemeral : s.ephemeral.Looser t.ephemeral
  sequential : s.sequential.Looser t.sequential
  watched : s.watched.Looser t.watched
  deletion : s.canBeDeleted = true → t.canBeDeleted = true
  validator : ∀ data, s.validator.accepts data = .ok true → t.validator.accepts data = .ok true

theorem Looser.accepts {s t : Schema} (h : s.Looser t) {act : Act} (ha : s.Accepts act) :
    t.Accepts act := by
  cases act with
  | create e q data =>
    obtain ⟨he, hq, hdata⟩ := ha
    exact ⟨h.ephemeral.not_conflicts he, h.sequential.not_conflicts hq, h.validator data hdata⟩
  | delete => exact h.deletion ha
  | watch b => exact h.watched.not_conflicts ha
  | setData data => exact h.validator data ha

end Schema

namespace Guard

section

variable [Host] {r w : Registry} {path : String} {q : Request}

theorem verdict_serve (r : Registry) (path : String) (q : Request) :
    Verdict (r.select path) q (serve r path q).2.outcome := by
  by_cases hq : ∃ act, q.Asks act
  · obtain ⟨act, ha⟩ := hq
    exact verdict_of_asks ha r path
  · exact verdict_of_unknown (fun act ha => hq ⟨act, ha⟩) r path

/-- A request is granted if the schema of the path accepts what it asks for. -/
theorem granted_iff : (∃ s, (serve r path q).2.outcome = .ok s) ↔
    ∃ act, q.Asks act ∧ (r.select path).Accepts act := by
  have hverdict := verdict_serve r path q
  constructor
  · rintro ⟨s, hs⟩
    exact ((hverdict.accepted s).1 hs).2
  · intro h
    exact ⟨r.select path, (hverdict.accepted _).2 ⟨rfl, h⟩⟩

/-- Of the registry an answer depends on nothing but the schema of the path. -/
theorem serve_congr (h : w.select path = r.select path) : (serve w path q).2 = (serve r path q).2 := by
  have hcheck (operation : Operation) (test : Schema → Except CheckError Unit) :
      check w operation (.str path) test = check r operation (.str path) test := by
    simp only [check, schemaFor, Registry.lookup, h]
  cases q with
  | create mode data sequential =>
    simp only [serve, checkCreate]
    cases mode.parse sequential with
    | ok m => exact hcheck _ _
    | error e => rfl
  | delete => exact hcheck _ _
  | watch b => exact hcheck _ _
  | setData data => exact hcheck _ _

/-- After a looser schema took the place of a registered one every request that was granted
still is, and where another schema governs the path all stays as it was, notices included. -/
theorem serve_register_looser {s t : Schema} (hs : s ∈ r.schemas) (h : s.Looser t) (path : String)
    (q : Request) :
    ((∃ u, (serve r path q).2.outcome = .ok u) →
      ∃ u, (serve (r.register t) path q).2.outcome = .ok u) ∧
    (r.select path ≠ s → (serve (r.register t) path q).2 = (serve r path q).2) := by
  rcases Registry.select_register_of_mem hs h.selector path with ⟨hselect, hnew⟩ | hsame
  · refine ⟨fun hgranted => ?_, fun hne => absurd hselect hne⟩
    obtain ⟨act, hasks, haccepts⟩ := granted_iff.1 hgranted
    rw [hselect] at haccepts
    refine granted_iff.2 ⟨act, hasks, ?_⟩
    rw [hnew]
    exact h.accepts haccepts
  · rw [serve_congr hsame]
    exact ⟨id, fun _ => rfl⟩

end

/-- Settings that nobody may delete and everybody has to watch. -/
def settings : Schema where
  selector := .exact ⟨"/settings", by decide⟩
  documentation := "Settings"
  documented := by decide
  validator := .json false
  ephemeral := .cannot
  sequential := .cannot
  watched := .must
  canBeDeleted := false
  name := .str "settings"
  metadata := []

/-- The settings, which may also be empty, temporary and deleted. -/
def freeSettings : Schema :=
  { settings with validator := .json true, ephemeral := .can, canBeDeleted := true }

theorem settings_looser : settings.Looser freeSettings where
  selector := rfl
  ephemeral := .inl rfl
  sequential := .inr rfl
  watched := .inr rfl
  deletion := fun _ => rfl
  validator := by
    intro data h
    simp only [settings, freeSettings, Validator.accepts, Validator.acceptsJson] at h ⊢
    cases hd : data.getD [] with
    | nil => simp [hd] at h
    | cons b r => simpa only [hd] using h

theorem serve_register_freeSettings :
    let r := Registry.after DefaultMode.strict.schema [.register settings]
    let q := Request.create (.mode .persistent) (some [0x31]) false
    (settings ∈ r.schemas ∧ settings.Looser freeSettings) ∧
      ((∃ u, (serve r "/settings" q).2.outcome = .ok u) ∧
        ∃ u, (serve (r.register freeSettings) "/settings" q).2.outcome = .ok u) ∧
      r.select "/a" ≠ settings ∧
        (serve (r.register freeSettings) "/a" q).2 = (serve r "/a" q).2 := by
  intro r q
  have hs : settings ∈ r.schemas := List.mem_singleton.2 rfl
  have hgranted : ∃ u, (serve r "/settings" q).2.outcome = .ok u := ⟨settings, rfl⟩
  have hselect : r.select "/a" ≠ settings := by
    intro h
    cases congrArg Schema.watched h
  exact ⟨⟨hs, settings_looser⟩,
    ⟨hgranted, (serve_register_looser hs settings_looser "/settings" q).1 hgranted⟩, hselect,
    (serve_register_looser hs settings_looser "/a" q).2 hselect⟩

end Guard

end PathPolicy
