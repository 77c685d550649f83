import PathPolicy.Guard
import Mathlib.Tactic.Common

/-! The policy of a schema as rules. A rule says what breaks the schema and why; of the
rules that are broken the one of the earliest stage is reported. The checks of a schema
decide exactly this. -/

namespace PathPolicy

/-- What a request asks for, once its mode has been read. -/
inductive Act where
  | create (isEphemeral isSequential : Bool) (data : Content)
  | delete
  | watch (isWatching : Bool)
  | setData (data : Content)

/-- A node with the property conflicts with `cannot`, and one without it with `must`. -/
def Allowance.Conflicts (a : Allowance) (has : Bool) : Prop :=
  has = true ∧ a = .cannot ∨ has = false ∧ a = .must

theorem Allowance.permits_iff (a : Allowance) (has : Bool) :
    a.permits has = true ↔ ¬a.Conflicts has := by
  cases has <;> simp [permits, Conflicts]

namespace Reason

def ofEphemeral (isEphemeral : Bool) : Reason :=
  if isEphemeral then cannotBeEphemeral else mustBeEphemeral

def ofSequential (isSequential : Bool) : Reason :=
  if isSequential then cannotBeSequential else mustBeSequential

def ofWatching (isWatching : Bool) : Reason := if isWatching then cannotBeWatched else mustBeWatched

/-- Flags come before data, and the ephemeral flag before the sequential one. -/
def stage : Reason → Nat
  | cannotBeSequential => 1
  | mustBeSequential => 1
  | dataNotValid => 2
  | _ => 0

theorem stage_ofEphemeral (b : Bool) : (ofEphemeral b).stage = 0 := by cases b <;> rfl

theorem stage_ofSequential (b : Bool) : (ofSequential b).stage = 1 := by cases b <;> rfl

theorem stage_le_dataNotValid (reason : Reason) : reason.stage ≤ dataNotValid.stage := by
  cases reason <;> decide

end Reason

namespace Schema

variable [Host]

/-- The rules: what breaks the schema, and the reason that goes with it. -/
inductive Breaks (s : Schema) : Act → Reason → Prop
  | deletion : s.canBeDeleted = false → Breaks s .delete .cannotBeDeleted
  | watch {b : Bool} : s.watched.Conflicts b → Breaks s (.watch b) (.ofWatching b)
  | ephemeral {e q : Bool} {data : Content} :
      s.ephemeral.Conflicts e → Breaks s (.create e q data) (.ofEphemeral e)
  | sequential {e q : Bool} {data : Content} :
      s.sequential.Conflicts q → Breaks s (.create e q data) (.ofSequential q)
  | created {e q : Bool} {data : Content} :
      s.validator.accepts data = .ok false → Breaks s (.create e q data) .dataNotValid
  | stored {data : Content} :
      s.validator.accepts data = .ok false → Breaks s (.setData data) .dataNotValid

/-- The reason of the first rule that is broken. -/
def FirstBroken (s : Schema) (a : Act) (reason : Reason) : Prop :=
  s.Breaks a reason ∧ ∀ other, s.Breaks a other → reason.stage ≤ other.stage

def Accepts (s : Schema) : Act → Prop
  | .create e q data =>
    ¬s.ephemeral.Conflicts e ∧ ¬s.sequential.Conflicts q ∧ s.validator.accepts data = .ok true
  | .delete => s.canBeDeleted = true
  | .watch b => ¬s.watched.Conflicts b
  | .setData data => s.validator.accepts data = .ok true

/-- The validator is asked, which it is only if the flags are accepted, and fails. -/
def Raises (s : Schema) (f : Fault) : Act → Prop
  | .create e q data =>
    ¬s.ephemeral.Conflicts e ∧ ¬s.sequential.Conflicts q ∧ s.validator.accepts data = .error f
  | .setData data => s.validator.accepts data = .error f
  | _ => False

/-- The check of a schema for an act. -/
def judge (s : Schema) : Act → Except CheckError Unit
  | .create e q data => s.checkCreate e q data
  | .delete => s.checkDeletion.mapError .violation
  | .watch b => (s.checkWatch b).mapError .violation
  | .setData data => s.checkData data

variable {s : Schema} {act : Act} {reason : Reason} {data : Content} {e q b : Bool}

theorem breaks_delete_iff :
    s.Breaks .delete reason ↔ reason = .cannotBeDeleted ∧ s.canBeDeleted = false := by
  constructor
  · intro hb
    cases hb with
    | deletion h => exact ⟨rfl, h⟩
  · rintro ⟨rfl, h⟩
    exact .deletion h

theorem breaks_watch_iff :
    s.Breaks (.watch b) reason ↔ reason = .ofWatching b ∧ s.watched.Conflicts b := by
  constructor
  · intro hb
    cases hb with
    | watch h => exact ⟨rfl, h⟩
  · rintro ⟨rfl, h⟩
    exact .watch h

theorem breaks_setData_iff :
    s.Breaks (.setData data) reason ↔
      reason = .dataNotValid ∧ s.validator.accepts data = .ok false := by
  constructor
  · intro hb
    cases hb with
    | stored h => exact ⟨rfl, h⟩
  · rintro ⟨rfl, h⟩
    exact .stored h

theorem breaks_create_iff :
    s.Breaks (.create e q data) reason ↔
      (reason = .ofEphemeral e ∧ s.ephemeral.Conflicts e) ∨
        (reason = .ofSequential q ∧ s.sequential.Conflicts q) ∨
        (reason = .dataNotValid ∧ s.validator.accepts data = .ok false) := by
  constructor
  · intro h
    cases h with
    | ephemeral h => exact .inl ⟨rfl, h⟩
    | sequential h => exact .inr (.inl ⟨rfl, h⟩)
    | created h => exact .inr (.inr ⟨rfl, h⟩)
  · rintro (⟨rfl, h⟩ | ⟨rfl, h⟩ | ⟨rfl, h⟩)
    · exact .ephemeral h
    · exact .sequential h
    · exact .created h

/-- A broken rule that comes before every other broken one is the first. -/
theorem firstBroken_iff_of_earliest {first : Reason} (hb : s.Breaks act first)
    (he : ∀ other, s.Breaks act other → other = first ∨ first.stage < other.stage) :
    s.FirstBroken act reason ↔ reason = first := by
  constructor
  · rintro ⟨hr, hmin⟩
    rcases he reason hr with h | h
    · exact h
    · have hle := hmin first hb
      omega
  · rintro rfl
    refine ⟨hb, fun other ho => ?_⟩
    rcases he other ho with h | h
    · exact h ▸ Nat.le_refl _
    · omega

theorem Breaks.changeValidator (v : Validator) (h : s.Breaks act reason)
    (hd : reason ≠ .dataNotValid) : { s with validator := v }.Breaks act reason := by
  cases h with
  | deletion h => exact .deletion h
  | watch h => exact .watch h
  | ephemeral h => exact .ephemeral h
  | sequential h => exact .sequential h
  | created _ => exact absurd rfl hd
  | stored _ => exact absurd rfl hd

/-- A rule about flags is broken first whatever the validator would say. -/
theorem FirstBroken.changeValidator (v : Validator) (h : s.FirstBroken act reason)
    (hd : reason ≠ .dataNotValid) : { s with validator := v }.FirstBroken act reason := by
  refine ⟨h.1.changeValidator v hd, fun other ho => ?_⟩
  by_cases hother : other = .dataNotValid
  · rw [hother]
    exact reason.stage_le_dataNotValid
  · exact h.2 other (ho.changeValidator s.validator hother)

theorem checkAllowance_of_not_conflicts {a : Allowance} {cannot must : Reason} {has : Bool}
    (h : ¬a.Conflicts has) : s.checkAllowance a cannot must has = .ok () := by
  rw [checkAllowance, if_pos ((a.permits_iff has).2 h)]

theorem checkAllowance_of_conflicts {a : Allowance} {cannot must : Reason} {has : Bool}
    (h : a.Conflicts has) :
    s.checkAllowance a cannot must has = .error ⟨s, if has then cannot else must⟩ := by
  rw [checkAllowance, if_neg fun hp => (a.permits_iff has).1 hp h]

theorem judge_create_of_ephemeral (h : s.ephemeral.Conflicts e) :
    s.judge (.create e q data) = .error (.violation ⟨s, .ofEphemeral e⟩) := by
  simp only [judge, checkCreate, checkAllowance_of_conflicts h]
  rfl

theorem judge_create_of_sequential (he : ¬s.ephemeral.Conflicts e) (h : s.sequential.Conflicts q) :
    s.judge (.create e q data) = .error (.violation ⟨s, .ofSequential q⟩) := by
  simp only [judge, checkCreate, checkAllowance_of_not_conflicts he, checkAllowance_of_conflicts h]
  rfl

/-- Data counts once the flags are accepted. -/
theorem judge_create_of_flags (he : ¬s.ephemeral.Conflicts e) (hq : ¬s.sequential.Conflicts q) :
    s.judge (.create e q data) = s.checkData data := by
  simp only [judge, checkCreate, checkAllowance_of_not_conflicts he,
    checkAllowance_of_not_conflicts hq]
  rfl

/-- How a check ends says which rules are broken. -/
structure Decides (s : Schema) (act : Act) (answer : Except CheckError Unit) : Prop where
  accepted : answer = .ok () ↔ s.Accepts act
  refused : ∀ v, answer = .error (.violation v) ↔ v.schema = s ∧ s.FirstBroken act v.reason
  stopped : ∀ f, answer = .error (.failure (.fault f)) ↔ s.Raises f act
  defined : ∀ d, answer ≠ .error (.failure (.definition d))

theorem decides_ok (ha : s.Accepts act) (hb : ∀ reason, ¬s.Breaks act reason)
    (hr : ∀ f, ¬s.Raises f act) : s.Decides act (.ok ()) where
  accepted := by simp [ha]
  refused v := by
    have hfirst : ¬s.FirstBroken act v.reason := fun h => hb v.reason h.1
    simp [hfirst]
  stopped f := by simp [hr f]
  defined := by simp

theorem decides_violation {first : Reason} (hb : s.Breaks act first)
    (he : ∀ other, s.Breaks act other → other = first ∨ first.stage < other.stage)
    (ha : ¬s.Accepts act) (hr : ∀ f, ¬s.Raises f act) :
    s.Decides act (.error (.violation ⟨s, first⟩)) where
  accepted := by simp [ha]
  refused := by
    rintro ⟨t, reason⟩
    rw [firstBroken_iff_of_earliest hb he]
    simp [eq_comm]
  stopped f := by simp [hr f]
  defined := by simp

theorem decides_fault {f : Fault} (hr : ∀ g, s.Raises g act ↔ f = g)
    (ha : ¬s.Accepts act) (hb : ∀ reason, ¬s.Breaks act reason) :
    s.Decides act (.error (.failure (.fault f))) where
  accepted := by simp [ha]
  refused v := by
    have hfirst : ¬s.FirstBroken act v.reason := fun h => hb v.reason h.1
    simp [hfirst]
  stopped g := by simp [hr g]
  defined := by simp

/-- The data is the last thing that can be wrong with an act. -/
theorem decides_checkData
    (ha : s.Accepts act ↔ s.validator.accepts data = .ok true)
    (hb : ∀ reason, s.Breaks act reason ↔
      reason = .dataNotValid ∧ s.validator.accepts data = .ok false)
    (hr : ∀ f, s.Raises f act ↔ s.validator.accepts data = .error f) :
    s.Decides act (s.checkData data) := by
  unfold checkData
  cases h : s.validator.accepts data with
  | ok accepted =>
    rw [h] at ha hb hr
    cases accepted with
    | true => exact decides_ok (by simp [ha]) (by simp [hb]) (by simp [hr])
    | false => exact decides_violation (by simp [hb]) (by simp [hb]) (by simp [ha]) (by simp [hr])
  | error f =>
    rw [h] at ha hb hr
    exact decides_fault (by simp [hr]) (by simp [ha]) (by simp [hb])

theorem decides_judge_create (e q : Bool) (data : Content) :
    s.Decides (.create e q data) (s.judge (.create e q data)) := by
  -- in the order of the stages: the first conflict decides, and then the data
  by_cases he : s.ephemeral.Conflicts e
  · rw [judge_create_of_ephemeral he]
    refine decides_violation (.ephemeral he) (fun other ho => ?_) (fun h => h.1 he)
      fun f h => h.1 he
    rcases breaks_create_iff.1 ho with ⟨rfl, -⟩ | ⟨rfl, -⟩ | ⟨rfl, -⟩
    · exact .inl rfl
    · right
      rw [Reason.stage_ofEphemeral, Reason.stage_ofSequential]
      omega
    · right
      rw [Reason.stage_ofEphemeral]
      decide
  by_cases hq : s.sequential.Conflicts q
  · rw [judge_create_of_sequential he hq]
    refine decides_violation (.sequential hq) (fun other ho => ?_) (fun h => h.2.1 hq)
      fun f h => h.2.1 hq
    rcases breaks_create_iff.1 ho with ⟨-, h⟩ | ⟨rfl, -⟩ | ⟨rfl, -⟩
    · exact absurd h he
    · exact .inl rfl
    · right
      rw [Reason.stage_ofSequential]
      decide
  · rw [judge_create_of_flags he hq]
    exact decides_checkData (by simp [Accepts, he, hq]) (by simp [breaks_create_iff, he, hq])
      (by simp [Raises, he, hq])

theorem decides_judge (s : Schema) (act : Act) : s.Decides act (s.judge act) := by
  cases act with
  | create e q data => exact decides_judge_create e q data
  | delete =>
    cases h : s.canBeDeleted with
    | true =>
      rw [show s.judge .delete = .ok () by simp [judge, checkDeletion, h, Except.mapError]]
      exact decides_ok h (by simp [breaks_delete_iff, h]) (by simp [Raises])
    | false =>
      rw [show s.judge .delete = .error (.violation ⟨s, .cannotBeDeleted⟩) by
        simp [judge, checkDeletion, h, Except.mapError]]
      exact decides_violation (.deletion h) (by simp [breaks_delete_iff, h]) (by simp [Accepts, h])
        (by simp [Raises])
  | watch b =>
    by_cases h : s.watched.Conflicts b
    · rw [show s.judge (.watch b) = .error (.violation ⟨s, .ofWatching b⟩) by
        simp [judge, checkWatch, checkAllowance_of_conflicts h, Except.mapError, Reason.ofWatching]]
      exact decides_violation (.watch h) (by simp [breaks_watch_iff, h]) (fun ha => ha h)
        (by simp [Raises])
    · rw [show s.judge (.watch b) = .ok () by
        simp [judge, checkWatch, checkAllowance_of_not_conflicts h, Except.mapError]]
      exact decides_ok h (by simp [breaks_watch_iff, h]) (by simp [Raises])
  | setData data =>
    exact decides_checkData (by simp [Accepts]) (by simp [breaks_setData_iff]) (by simp [Raises])

end Schema

end PathPolicy
