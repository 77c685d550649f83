import PathPolicy.Proofs.Guard.Policy
import PathPolicy.Proofs.Text.Spelling

/-! The decisions of the guard. A request is answered with the schema that governs its
path exactly if that schema accepts it; else with the first broken rule of that schema, or
with the fault of its validator. Every refusal leaves one warning, and nothing else does. -/

namespace PathPolicy

namespace CreateMode

/-- The modes that a value stands for. -/
inductive Given.Names (sequential : Bool) : Given → CreateMode → Prop
  | mode (m : CreateMode) : Names sequential (.mode m) m
  | flag (isEphemeral : Bool) :
      Names sequential (.value (.bool isEphemeral)) (ofFlags isEphemeral sequential)
  | word {s : String} {m : CreateMode} :
      Text.lower (Text.trim s) = m.word → Names sequential (.value (.str s)) m

theorem word_injective {m n : CreateMode} (h : m.word = n.word) : m = n := by
  cases m <;> cases n <;> first | rfl | exact absurd h (by decide)

theorem mem_all (m : CreateMode) : m ∈ all := by cases m <;> decide

theorem ofText?_eq_some_iff {s : String} {m : CreateMode} :
    ofText? s = some m ↔ Text.lower (Text.trim s) = m.word := by
  unfold ofText?
  exact Text.find?_word_eq_some_iff (fun _ _ => word_injective) m.mem_all (Text.lower (Text.trim s))

theorem Given.parse_eq_ok_iff [Host] {given : Given} {sequential : Bool} {m : CreateMode} :
    given.parse sequential = .ok m ↔ given.Names sequential m := by
  constructor
  · intro h
    unfold parse at h
    split at h
    · cases h
      exact .mode m
    · cases h
      exact .flag _
    · split at h
      · rename_i hs
        cases h
        exact .word (ofText?_eq_some_iff.1 hs)
      · cases h
    · cases h
  · intro h
    cases h with
    | mode m => rfl
    | flag b => rfl
    | word hs => simp only [parse, ofText?_eq_some_iff.2 hs]

/-- What is refused is a value, and the refusal shows it. -/
theorem Given.of_parse_error [Host] {given : Given} {sequential : Bool} {e : Failure}
    (h : given.parse sequential = .error e) :
    ∃ v, given = .value v ∧ e = .refusing v (unknown v) := by
  unfold parse at h
  split at h
  · cases h
  · cases h
  · split at h <;> cases h
    exact ⟨_, rfl, rfl⟩
  · cases h
    exact ⟨_, rfl, rfl⟩

end CreateMode

namespace Guard

/-- What is asked of a guard about a path. -/
inductive Request where
  | create (mode : CreateMode.Given) (data : Content) (sequential : Bool)
  | delete
  | watch (isWatching : Bool)
  | setData (data : Content)

def Request.operation : Request → Operation
  | create _ _ _ => .create
  | delete => .delete
  | watch _ => .watch
  | setData _ => .setData

/-- The acts that a request stands for: one, or none if its mode is unknown. -/
inductive Request.Asks : Request → Act → Prop
  | create {mode : CreateMode.Given} {data : Content} {sequential : Bool} {m : CreateMode} :
      mode.Names sequential m →
      Asks (.create mode data sequential) (.create m.isEphemeral m.isSequential data)
  | delete : Asks .delete .delete
  | watch (isWatching : Bool) : Asks (.watch isWatching) (.watch isWatching)
  | setData (data : Content) : Asks (.setData data) (.setData data)

variable [Host]

/-- The mode of the request is a value that is no mode and cannot be shown. -/
inductive Request.Unshown : Request → Fault → Prop
  | create {v : Value} {data : Content} {sequential : Bool} {f : Fault} :
      (∀ m, ¬(CreateMode.Given.value v).Names sequential m) → v.unwritable? = some f →
      Unshown (.create (.value v) data sequential) f

/-- The registry after a request, and the answer with its notices. -/
def serve (r : Registry) (path : String) (q : Request) : Registry × Logged CheckError Schema :=
  (r, match q with
    | .create mode data sequential => checkCreate r (.str path) mode data sequential
    | .delete => checkDelete r (.str path)
    | .watch isWatching => checkWatch r (.str path) isWatching
    | .setData data => checkSetData r (.str path) data)

/-- The reason and the schema's name of an answer that is a violation. -/
def refusal? : Except CheckError Schema → Option (String × Value)
  | .ok _ => none
  | .error e => e.refusal?

/-- The answer is the policy of the schema `s`. -/
structure Verdict (s : Schema) (q : Request) (answer : Except CheckError Schema) : Prop where
  accepted : ∀ t, answer = .ok t ↔ t = s ∧ ∃ act, q.Asks act ∧ s.Accepts act
  refused : ∀ v, answer = .error (.violation v) ↔
    v.schema = s ∧ ∃ act, q.Asks act ∧ s.FirstBroken act v.reason
  stopped : ∀ f, answer = .error (.failure (.fault f)) ↔
    (∃ act, q.Asks act ∧ s.Raises f act) ∨ q.Unshown f
  unknown : (∃ d, answer = .error (.failure (.definition d))) ↔
    (∀ act, ¬q.Asks act) ∧ ∀ f, ¬q.Unshown f

/-- The notices tell the selection and, if the answer is a violation, the rejection. -/
structure Announced (s : Schema) (path : String) (q : Request)
    (result : Logged CheckError Schema) : Prop where
  notices : ∀ act, q.Asks act → result.notices = .selected s.name (.str path) ::
    ((refusal? result.outcome).map fun x => .rejected q.operation (.str path) x.1 x.2).toList
  levels : ∀ act, q.Asks act → result.notices.map Notice.level =
    .debug :: if (refusal? result.outcome).isSome then [.warning] else []
  unread : (∀ act, ¬q.Asks act) → result.notices = []

theorem check_outcome_lookup (r : Registry) (operation : Operation) (path : Value)
    (test : Schema → Except CheckError Unit) :
    (check r operation path test).outcome =
      ((r.lookup path).mapError fun f => .failure (.fault f)).bind fun s =>
        (test s).map fun _ => s := by
  rw [check, Logged.outcome_bind, schemaFor]
  cases r.lookup path with
  | error f => rfl
  | ok s =>
    show (announcing operation path (test s) >>= fun _ => pure s).outcome = (test s).map fun _ => s
    rw [Logged.outcome_bind]
    cases test s <;> rfl

theorem check_outcome (r : Registry) (operation : Operation) (path : String)
    (test : Schema → Except CheckError Unit) :
    (check r operation (.str path) test).outcome =
      (test (r.select path)).map fun _ => r.select path :=
  check_outcome_lookup r operation (.str path) test

theorem check_notices (r : Registry) (operation : Operation) (path : String)
    (test : Schema → Except CheckError Unit) :
    (check r operation (.str path) test).notices =
      .selected (r.select path).name (.str path) ::
        ((refusal? (check r operation (.str path) test).outcome).map fun x =>
          .rejected operation (.str path) x.1 x.2).toList := by
  rw [check_outcome]
  simp only [check, schemaFor, Registry.lookup, bind, Logged.bind, announcing]
  cases test (r.select path) with
  | ok _ => rfl
  | error e => simp [Except.map, refusal?]

/-- A request whose mode is known is checked like the act it stands for. -/
theorem serve_of_asks {q : Request} {act : Act} (h : q.Asks act) (r : Registry) (path : String) :
    (serve r path q).2 = check r q.operation (.str path) (·.judge act) := by
  cases h with
  | create hm =>
    simp only [serve, checkCreate, CreateMode.Given.parse_eq_ok_iff.2 hm]
    rfl
  | delete => rfl
  | watch b => rfl
  | setData data => rfl

theorem Request.Asks.unique {q : Request} {a b : Act} (ha : q.Asks a) (hb : q.Asks b) : a = b := by
  cases ha with
  | create hm =>
    cases hb with
    | create hn =>
      have hm := CreateMode.Given.parse_eq_ok_iff.2 hm
      rw [CreateMode.Given.parse_eq_ok_iff.2 hn] at hm
      cases hm
      rfl
  | delete => cases hb; rfl
  | watch b => cases hb; rfl
  | setData data => cases hb; rfl

theorem Request.Asks.not_unshown {q : Request} {act : Act} (h : q.Asks act) (f : Fault) :
    ¬q.Unshown f := by
  rintro ⟨hnone, -⟩
  cases h with
  | create hm => exact hnone _ hm

/-- A mode that is a text can be shown. -/
theorem Request.not_unshown_of_text (s : String) (data : Content) (sequential : Bool) (f : Fault) :
    ¬(Request.create (.value (.str s)) data sequential).Unshown f := by
  rintro ⟨-, hf⟩
  rw [Value.unwritable?_str] at hf
  cases hf

/-- A request that stands for no act has a mode that cannot be read. -/
theorem serve_of_unknown {q : Request} (h : ∀ act, ¬q.Asks act) (r : Registry) (path : String) :
    (∃ d : DefinitionError, d.code = .invalidArgument ∧ (∀ f, ¬q.Unshown f) ∧
      (serve r path q).2 = ⟨.error (.failure (.definition d)), []⟩) ∨
    ∃ f, (∀ g, q.Unshown g ↔ f = g) ∧
      (serve r path q).2 = ⟨.error (.failure (.fault f)), []⟩ := by
  cases q with
  | create mode data sequential =>
    have hnone (m : CreateMode) : ¬mode.Names sequential m := fun hm => h _ (.create hm)
    cases hp : mode.parse sequential with
    | ok m => exact absurd (CreateMode.Given.parse_eq_ok_iff.1 hp) (hnone m)
    | error e =>
      have hserve : (serve r path (.create mode data sequential)).2 =
          ⟨.error (.failure e), []⟩ := by
        simp only [serve, checkCreate, hp]
      obtain ⟨v, rfl, rfl⟩ := CreateMode.Given.of_parse_error hp
      have hunshown (f : Fault) :
          (Request.create (.value v) data sequential).Unshown f ↔ v.unwritable? = some f :=
        ⟨fun ⟨_, hf⟩ => hf, fun hf => .create hnone hf⟩
      simp only [hserve, hunshown, Failure.refusing]
      cases v.unwritable? with
      | none => exact .inl ⟨_, rfl, by simp, rfl⟩
      | some f => exact .inr ⟨f, by simp, rfl⟩
  | delete => exact absurd .delete (h _)
  | watch b => exact absurd (.watch b) (h _)
  | setData data => exact absurd (.setData data) (h _)

theorem verdict_of_asks {q : Request} {act : Act} (h : q.Asks act) (r : Registry) (path : String) :
    Verdict (r.select path) q (serve r path q).2.outcome := by
  have hact (P : Act → Prop) : (∃ a, q.Asks a ∧ P a) ↔ P act :=
    ⟨fun ⟨_, ha, hp⟩ => h.unique ha ▸ hp, fun hp => ⟨act, h, hp⟩⟩
  have hd := Schema.decides_judge (r.select path) act
  rw [serve_of_asks h, check_outcome]
  constructor
  · intro t
    rw [hact, ← hd.accepted]
    cases (r.select path).judge act <;> simp [Except.map, eq_comm]
  · intro v
    rw [hact fun a => (r.select path).FirstBroken a v.reason, ← hd.refused]
    cases (r.select path).judge act <;> simp [Except.map]
  · intro f
    rw [hact, or_iff_left (h.not_unshown f), ← hd.stopped]
    cases (r.select path).judge act <;> simp [Except.map]
  · refine ⟨fun ⟨d, hdef⟩ => ?_, fun hun => absurd h (hun.1 act)⟩
    have hdefined := hd.defined d
    cases hj : (r.select path).judge act <;> rw [hj] at hdef hdefined
    · cases hdef
      exact absurd rfl hdefined
    · cases hdef

theorem announced_of_asks {q : Request} {act : Act} (h : q.Asks act) (r : Registry)
    (path : String) : Announced (r.select path) path q (serve r path q).2 := by
  have hn := check_notices r q.operation path (·.judge act)
  rw [serve_of_asks h]
  refine ⟨fun _ _ => hn, fun _ _ => ?_, fun hun => absurd h (hun act)⟩
  rw [hn]
  cases refusal? (check r q.operation (.str path) (·.judge act)).outcome <;> rfl

theorem verdict_of_unknown {q : Request} (h : ∀ act, ¬q.Asks act) (r : Registry) (path : String) :
    Verdict (r.select path) q (serve r path q).2.outcome := by
  rcases serve_of_unknown h r path with ⟨d, -, hshown, hd⟩ | ⟨f, hf, he⟩
  · rw [hd]
    exact ⟨by simp [h], by simp [h], by simp [h, hshown], by simp [h, hshown]⟩
  · rw [he]
    exact ⟨by simp [h], by simp [h], by simp [h, hf], by simp [h, hf]⟩

theorem announced_of_unknown {q : Request} (h : ∀ act, ¬q.Asks act) (r : Registry)
    (path : String) : Announced (r.select path) path q (serve r path q).2 := by
  refine ⟨fun act ha => absurd ha (h act), fun act ha => absurd ha (h act), fun _ => ?_⟩
  rcases serve_of_unknown h r path with ⟨d, -, -, hd⟩ | ⟨f, -, hf⟩
  · rw [hd]
  · rw [hf]

/-- A refusal for a flag is the same under any other validator. -/
theorem flag_refusal_of_validator {r w : Registry} {path : String} {v : Validator} {q : Request}
    {reason : Reason} (hw : w.select path = { r.select path with validator := v })
    (hd : reason ≠ .dataNotValid)
    (h : (serve r path q).2.outcome = .error (.violation ⟨r.select path, reason⟩)) :
    (serve w path q).2.outcome = .error (.violation ⟨w.select path, reason⟩) := by
  by_cases hq : ∃ act, q.Asks act
  · obtain ⟨act, ha⟩ := hq
    obtain ⟨-, a, hask, hfirst⟩ := ((verdict_of_asks ha r path).refused _).1 h
    refine ((verdict_of_asks ha w path).refused _).2 ⟨rfl, a, hask, ?_⟩
    rw [hw]
    exact hfirst.changeValidator v hd
  · rcases serve_of_unknown (fun act ha => hq ⟨act, ha⟩) r path with ⟨d, -, -, hun⟩ | ⟨f, -, hun⟩
    all_goals
      rw [hun] at h
      cases h

/-- The guard decides as the schema that is selected says and announces what it decides;
refusals are reported as violations, and unknown modes as invalid arguments if they can be shown,
as every text can. -/
theorem serve_decides (r : Registry) (path : String) (q : Request) :
    (serve r path q).1 = r ∧
      Verdict (r.select path) q (serve r path q).2.outcome ∧
      Announced (r.select path) path q (serve r path q).2 ∧
      (∀ v : Violation, (serve r path q).2.outcome = .error (.violation v) →
        v.report.code = .schemaViolation) ∧
      (∀ d, (serve r path q).2.outcome = .error (.failure (.definition d)) →
        d.code = .invalidArgument) ∧
      (∀ mode data sequential f,
        ¬(Request.create (.value (.str mode)) data sequential).Unshown f) ∧
      ∀ (w : Registry) (v : Validator) (reason : Reason),
        w.select path = { r.select path with validator := v } → reason ≠ .dataNotValid →
        (serve r path q).2.outcome = .error (.violation ⟨r.select path, reason⟩) →
        (serve w path q).2.outcome = .error (.violation ⟨w.select path, reason⟩) := by
  by_cases hq : ∃ act, q.Asks act
  · obtain ⟨act, ha⟩ := hq
    have hverdict := verdict_of_asks ha r path
    refine ⟨rfl, hverdict, announced_of_asks ha r path, fun _ _ => rfl, fun d h => ?_,
      Request.not_unshown_of_text, fun w v reason hw hd h => flag_refusal_of_validator hw hd h⟩
    exact absurd ha ((hverdict.unknown.1 ⟨d, h⟩).1 act)
  · have hun : ∀ act, ¬q.Asks act := fun act ha => hq ⟨act, ha⟩
    refine ⟨rfl, verdict_of_unknown hun r path, announced_of_unknown hun r path, fun _ _ => rfl,
      fun d h => ?_, Request.not_unshown_of_text,
      fun w v reason hw hd h => flag_refusal_of_validator hw hd h⟩
    rcases serve_of_unknown hun r path with ⟨e, hcode, -, he⟩ | ⟨f, -, hf⟩
    · rw [he] at h
      cases h
      exact hcode
    · rw [hf] at h
      cases h

end Guard

end PathPolicy
