import PathPolicy.Proofs.Guard.Loosening

/-! Paths without a schema. No command reaches the schema of last resort, not even one for a
schema with its own selector, and it is not matched before it is applied; so on every path that
nothing registered matches the guard decides as the mode of the registry says. -/

namespace PathPolicy

namespace DefaultMode

/-- What the strict mode refuses, and the reason that it gives. -/
def refusal? : Act → Option Reason
  | .create _ _ _ => some .dataNotValid
  | .delete => some .cannotBeDeleted
  | .watch isWatching => if isWatching then some .cannotBeWatched else none
  | .setData _ => some .dataNotValid

variable [Host]

theorem judge_strict (act : Act) : strict.schema.judge act =
    match refusal? act with
    | some reason => .error (.violation ⟨strict.schema, reason⟩)
    | none => .ok () := by
  cases act with
  | create e q data => cases e <;> cases q <;> rfl
  | delete => rfl
  | watch b => cases b <;> rfl
  | setData data => rfl

theorem judge_permissive (act : Act) : permissive.schema.judge act = .ok () := by
  cases act with
  | create e q data => cases e <;> cases q <;> rfl
  | delete => rfl
  | watch b => cases b <;> rfl
  | setData data => rfl

end DefaultMode

namespace Registry

variable [Host]

theorem make_mode (mode : DefaultMode) :
    make none (.str mode.word) = .ok (empty mode.schema) := by
  cases mode <;> cbv

/-- After any run the schema of last resort governs the paths that nothing registered matches. -/
theorem select_run_of_unregistered {r : Registry} {commands : List Command} {path : String}
    (h : ∀ s ∈ (r.run commands).schemas, s.isMatch path = false) :
    (r.run commands).select path = r.fallback := by
  rw [select_eq_scan, (scan_eq_none_iff _ _).2 h, Option.getD_none, fallback_run]

end Registry

namespace Guard

section

variable [Host] {r : Registry} {path : String} {s : Schema}

/-- Nothing is granted on the path but not to watch it; all else violates the schema `s`. -/
structure FailsClosed (r : Registry) (path : String) (s : Schema) : Prop where
  create : ∀ (mode : CreateMode.Given) (data : Content) (sequential : Bool) (m : CreateMode),
    mode.Names sequential m →
      (serve r path (.create mode data sequential)).2.outcome =
        .error (.violation ⟨s, .dataNotValid⟩)
  setData : ∀ data,
    (serve r path (.setData data)).2.outcome = .error (.violation ⟨s, .dataNotValid⟩)
  delete : (serve r path .delete).2.outcome = .error (.violation ⟨s, .cannotBeDeleted⟩)
  watch : (serve r path (.watch true)).2.outcome = .error (.violation ⟨s, .cannotBeWatched⟩)
  unwatched : (serve r path (.watch false)).2.outcome = .ok s

/-- Every request for the path that can be read is granted by the schema `s`. -/
def StaysOpen (r : Registry) (path : String) (s : Schema) : Prop :=
  ∀ (q : Request) (act : Act), q.Asks act → (serve r path q).2.outcome = .ok s

theorem outcome_of_asks {q : Request} {act : Act} (h : q.Asks act) :
    (serve r path q).2.outcome = ((r.select path).judge act).map fun _ => r.select path := by
  rw [serve_of_asks h, check_outcome]

theorem failsClosed_of_select (h : r.select path = DefaultMode.strict.schema) :
    FailsClosed r path DefaultMode.strict.schema := by
  have hserve {q : Request} {act : Act} (ha : q.Asks act) :
      (serve r path q).2.outcome =
        (DefaultMode.strict.schema.judge act).map fun _ => DefaultMode.strict.schema := by
    rw [outcome_of_asks ha, h]
  constructor
  · intro mode data sequential m hm
    rw [hserve (.create hm), DefaultMode.judge_strict]
    rfl
  · intro data
    rw [hserve (.setData data), DefaultMode.judge_strict]
    rfl
  · rw [hserve .delete, DefaultMode.judge_strict]
    rfl
  · rw [hserve (.watch true), DefaultMode.judge_strict]
    rfl
  · rw [hserve (.watch false), DefaultMode.judge_strict]
    rfl

theorem staysOpen_of_select (h : r.select path = DefaultMode.permissive.schema) :
    StaysOpen r path DefaultMode.permissive.schema := by
  intro q act ha
  rw [outcome_of_asks ha, h, DefaultMode.judge_permissive]
  rfl

/-- A registry without a schema of last resort of its own closes in the strict mode, and opens
in the permissive mode, every path that nothing registered matches, whatever was registered,
unregistered and cleared before. -/
theorem serve_unregistered (commands : List Registry.Command) (path : String) :
    (∃ r, Registry.make none (.str "strict") = .ok r ∧
      ((∀ s ∈ (r.run commands).schemas, s.isMatch path = false) →
        FailsClosed (r.run commands) path r.fallback)) ∧
    ∃ r, Registry.make none (.str "permissive") = .ok r ∧
      ((∀ s ∈ (r.run commands).schemas, s.isMatch path = false) →
        StaysOpen (r.run commands) path r.fallback) := by
  refine ⟨⟨_, Registry.make_mode .strict, fun h => ?_⟩,
    ⟨_, Registry.make_mode .permissive, fun h => ?_⟩⟩
  · exact failsClosed_of_select (Registry.select_run_of_unregistered h)
  · exact staysOpen_of_select (Registry.select_run_of_unregistered h)

end

/-- The other default schema comes, goes and comes back, and its pattern does not match a path
with a line break. -/
theorem serve_unregistered_lineBreak :
    let s := DefaultMode.permissive.schema
    let commands : List Registry.Command := [.register s, .unregister s, .register s]
    let r := Registry.after DefaultMode.strict.schema commands
    (s ∈ r.schemas ∧ ∀ t ∈ r.schemas, t.isMatch "/a\n" = false) ∧
      FailsClosed r "/a\n" DefaultMode.strict.schema := by
  intro s commands r
  have hmatch : s.isMatch "/a\n" = false := by cbv
  have hschemas : ∀ t ∈ r.schemas, t.isMatch "/a\n" = false := List.forall_mem_singleton.2 hmatch
  obtain ⟨w, hw, hclosed⟩ := (serve_unregistered commands "/a\n").1
  obtain rfl : Registry.empty DefaultMode.strict.schema = w :=
    Except.ok.inj ((Registry.make_mode .strict).symm.trans hw)
  exact ⟨⟨List.mem_singleton.2 rfl, hschemas⟩, hclosed hschemas⟩

end Guard

end PathPolicy
