import PathPolicy.Host.Standard
import PathPolicy.Proofs.Guard.Loosening
import PathPolicy.Proofs.Json.Nesting

/-! Checks of a schema with the validator for JSON content. They end in success or in a violation,
except on one kind of data: text with more arrays and objects open at once than there is room for
stops every check that comes to it. -/

namespace PathPolicy

open Text.Utf8 (encodeChars)

/-- Success or a violation, and no other error. -/
def Settled [Host] {α : Type} (answer : Except CheckError α) : Prop :=
  ∀ e, answer = .error e → ∃ v, e = .violation v

section

variable [Host] {allowEmpty : Bool} {data : Content} {s : Schema} {act : Act} {f : Fault}

namespace Validator

/-- There is a place in the text where too many arrays and objects are open. -/
def TooDeep (data : Content) : Prop :=
  ∃ cs, data.getD [] = encodeChars cs ∧ Json.Opens (Host.jsonRoom + 1) cs

theorem not_tooDeep_of_empty (h : data.getD [] = []) : ¬TooDeep data := by
  rintro ⟨cs, hcs, hopens⟩
  rw [h] at hcs
  obtain rfl : [] = cs := Text.Utf8.encodeChars_injective hcs
  exact absurd hopens.le_length (Nat.not_succ_le_zero _)

theorem accepts_json_error_iff :
    accepts (.json allowEmpty) data = .error f ↔ f = .tooDeep ∧ TooDeep data := by
  simp only [accepts, acceptsJson]
  split
  · next hempty => simp [not_tooDeep_of_empty hempty]
  · rw [TooDeep, ← Json.document_tooDeep_iff]
    split <;> rename_i hdocument <;> simp [hdocument, eq_comm]

end Validator

theorem Settled.map {α β : Type} {answer : Except CheckError α} (h : Settled answer) (g : α → β) :
    Settled (answer.map g) := by
  intro e he
  cases answer with
  | ok _ => cases he
  | error _ => exact h e (by cases he; rfl)

namespace Schema

/-- The check of the act comes to the data, which is after the flags. -/
inductive Weighs (s : Schema) : Act → Content → Prop
  | created {e q : Bool} {data : Content} :
    ¬s.ephemeral.Conflicts e → ¬s.sequential.Conflicts q → Weighs s (.create e q data) data
  | stored (data : Content) : Weighs s (.setData data) data

theorem raises_iff :
    s.Raises f act ↔ ∃ data, s.Weighs act data ∧ s.validator.accepts data = .error f := by
  constructor
  · intro h
    cases act with
    | create e q data => exact ⟨data, .created h.1 h.2.1, h.2.2⟩
    | setData data => exact ⟨data, .stored data, h⟩
    | delete => exact h.elim
    | watch b => exact h.elim
  · rintro ⟨data, hweighs, h⟩
    cases hweighs with
    | created he hq => exact ⟨he, hq, h⟩
    | stored => exact h

theorem settled_judge (h : ∀ f, ¬s.Raises f act) : Settled (s.judge act) := by
  intro e he
  have hdecides := decides_judge s act
  rcases e with v | d | f
  · exact ⟨v, rfl⟩
  · exact absurd he (hdecides.defined d)
  · exact absurd ((hdecides.stopped f).1 he) (h f)

end Schema

/-- The answer to an act, where data that nests too deep is all that is neither accepted nor
refused. -/
structure SettledUnlessDeep (s : Schema) (act : Act) {α : Type} (answer : Except CheckError α) :
    Prop where
  settled : (∀ data, s.Weighs act data → ¬Validator.TooDeep data) → Settled answer
  stopped : ∀ data, s.Weighs act data → Validator.TooDeep data →
    answer = .error (.failure (.fault .tooDeep))

theorem settledUnlessDeep_judge (hs : s.validator = .json allowEmpty) (act : Act) :
    SettledUnlessDeep s act (s.judge act) := by
  constructor
  · intro hdata
    refine Schema.settled_judge fun f hf => ?_
    obtain ⟨data, hweighs, haccepts⟩ := Schema.raises_iff.1 hf
    rw [hs, Validator.accepts_json_error_iff] at haccepts
    exact hdata data hweighs haccepts.2
  · intro data hweighs hdeep
    have haccepts : s.validator.accepts data = .error .tooDeep := by
      rw [hs]
      exact Validator.accepts_json_error_iff.2 ⟨rfl, hdeep⟩
    exact ((s.decides_judge act).stopped .tooDeep).2
      (Schema.raises_iff.2 ⟨data, hweighs, haccepts⟩)

theorem SettledUnlessDeep.not_settled {α : Type} {answer : Except CheckError α}
    (h : SettledUnlessDeep s act answer) (hweighs : s.Weighs act data)
    (hdeep : Validator.TooDeep data) : ¬Settled answer := by
  intro hsettled
  obtain ⟨v, hv⟩ := hsettled _ (h.stopped data hweighs hdeep)
  cases hv

namespace Guard

theorem settledUnlessDeep_serve {r : Registry} {path : String} {q : Request}
    (hs : (r.select path).validator = .json allowEmpty) (hasks : q.Asks act) :
    SettledUnlessDeep (r.select path) act (serve r path q).2.outcome := by
  have hjudge := settledUnlessDeep_judge hs act
  rw [serve_of_asks hasks, check_outcome]
  refine ⟨fun hdata => (hjudge.settled hdata).map _, fun data hweighs hdeep => ?_⟩
  rw [hjudge.stopped data hweighs hdeep]
  rfl

theorem accepts_json_ok_iff :
    (∃ answer, (Validator.json allowEmpty).accepts data = .ok answer) ↔
      ¬Validator.TooDeep data := by
  cases haccepts : Validator.accepts (.json allowEmpty) data with
  | ok answer =>
    refine iff_of_true ⟨answer, rfl⟩ fun hdeep => ?_
    rw [Validator.accepts_json_error_iff.2 ⟨rfl, hdeep⟩] at haccepts
    cases haccepts
  | error f =>
    have hdeep := (Validator.accepts_json_error_iff.1 haccepts).2
    exact iff_of_false (by simp) (not_not_intro hdeep)

end Guard

end

namespace Guard

/-- The validator answers about all data that does not nest too deep for the room that is left where
it is asked, and every check of a schema with it and every request to a guard that selects such a
schema is settled, each with the room that is left to it. On data that nests too deep the validator
fails, and so does every check that comes to the data. -/
theorem settled_json (allowEmpty : Bool) :
    (∀ [Host] data, (∃ answer, (Validator.json allowEmpty).accepts data = .ok answer) ↔
      ¬Validator.TooDeep data) ∧
    (∀ [Host] (s : Schema), s.validator = .json allowEmpty →
      ∀ act, SettledUnlessDeep s act (s.judge act)) ∧
    ∀ [Host] (r : Registry) (path : String) (q : Request) (act : Act),
      (r.select path).validator = .json allowEmpty → q.Asks act →
        SettledUnlessDeep (r.select path) act (serve r path q).2.outcome :=
  ⟨fun _ => accepts_json_ok_iff, fun _ hs => settledUnlessDeep_judge hs,
    fun _ _ _ _ hs hasks => settledUnlessDeep_serve hs hasks⟩

/-- JSON with objects and arrays inside one another. -/
def nestedLock : List Char := "\x7b\"owners\": [[\"a\", \x7b\"since\": [1, null]\x7d], []]\x7d".toList

/-- An array that is closed as an object. -/
def brokenLock : List Char := "\x7b\"owners\": [[\"a\"\x7d".toList

/-- Short data is weighed and not too deep, whether it is JSON or not. -/
theorem settled_json_settings :
    let r := Registry.after DefaultMode.strict.schema [.register settings]
    (r.select "/settings").validator = .json false ∧
      ∀ text ∈ [nestedLock, brokenLock],
        let q := Request.setData (some (encodeChars text))
        (∀ data, settings.Weighs (.setData (some (encodeChars text))) data →
            ¬Validator.TooDeep data) ∧
          Settled (serve r "/settings" q).2.outcome ∧
          settings.validator.accepts (some (encodeChars text)) = .ok (text = nestedLock) := by
  intro r
  have hjson : (r.select "/settings").validator = .json false := rfl
  have hshort : ∀ text ∈ [nestedLock, brokenLock], text.length ≤ 100 := by decide
  have hread : ∀ text ∈ [nestedLock, brokenLock], encodeChars text ≠ [] ∧
      Json.text Host.jsonRoom text = if text = nestedLock then .ok () else .error .malformed := by
    decide +kernel
  refine ⟨hjson, fun text htext => ?_⟩
  intro q
  have hlength := hshort text htext
  have hdata : ∀ data, settings.Weighs (.setData (some (encodeChars text))) data →
      ¬Validator.TooDeep data := by
    rintro data hweighs ⟨cs, hcs, hopens⟩
    cases hweighs
    obtain rfl := Text.Utf8.encodeChars_injective (show encodeChars text = encodeChars cs from hcs)
    exact absurd (hopens.le_length.trans hlength) (by decide)
  obtain ⟨-, -, hserve⟩ := settled_json false
  refine ⟨hdata, (hserve r "/settings" q _ hjson (.setData _)).settled hdata, ?_⟩
  obtain ⟨hne, htext⟩ := hread text htext
  have hdocument : Json.document Host.jsonRoom (encodeChars text) =
      Json.text Host.jsonRoom text := by
    rw [Json.document, Text.Utf8.decode_eq_ok_iff.2 rfl]
  obtain ⟨b, bytes, hbytes⟩ := List.exists_cons_of_ne_nil hne
  rw [hbytes] at hdocument ⊢
  simp only [settings, Validator.accepts, Validator.acceptsJson, Option.getD_some, hdocument, htext]
  by_cases hnested : text = nestedLock <;> simp [hnested]

/-- Five thousand arrays in one another, none of which is closed. -/
def brackets : Content := some (encodeChars (List.replicate 5000 '['))

theorem tooDeep_brackets : Validator.TooDeep brackets :=
  ⟨_, rfl, (Json.opens_replicate 4999).of_le (by decide) (by decide)⟩

theorem not_settled_brackets :
    let r := Registry.after DefaultMode.strict.schema [.register settings]
    (¬∃ answer, settings.validator.accepts brackets = .ok answer) ∧
      ¬Settled (settings.judge (.setData brackets)) ∧
      ¬Settled (serve r "/settings" (.setData brackets)).2.outcome := by
  intro r
  have hjson : settings.validator = .json false := rfl
  have haccepts : settings.validator.accepts brackets = .error .tooDeep :=
    Validator.accepts_json_error_iff.2 ⟨rfl, tooDeep_brackets⟩
  refine ⟨by simp [haccepts], ?_, ?_⟩
  · exact (settledUnlessDeep_judge hjson _).not_settled (.stored brackets) tooDeep_brackets
  · have hselect : (r.select "/settings").validator = .json false := rfl
    exact (settledUnlessDeep_serve hselect (.setData brackets)).not_settled (.stored brackets)
      tooDeep_brackets

end Guard

end PathPolicy
