import PathPolicy.Host.Standard
import PathPolicy.Proofs.Schema.Built
import PathPolicy.Proofs.Value.Fields

/-! Runs of a builder in which any step may fail. Of every part a builder knows only what was given
last, so that a step that fails might as well not have been made, and a schema tells what was given
before it was built and nothing that came later. -/

namespace PathPolicy

namespace Schema

/-- One step with a builder. -/
inductive Step where
  | set (setting : Setting)
  | build

namespace Step

/-! What a step gives for one part of a builder, if it succeeds and is about that part. -/

def name? : Step → Option Value
  | set (.name v) => some v
  | _ => none

def documentation? : Step → Option Value
  | set (.documentation v) => some v
  | _ => none

def validator? [Host] : Step → Option Validator
  | set (.validator c) => (Validator.ofCandidate c).toOption
  | _ => none

def allowance? [Host] (field : AllowanceField) : Step → Option Allowance
  | set (.allowance about given) => if about = field then given.parse.toOption else none
  | _ => none

def canBeDeleted? : Step → Option Value
  | set (.canBeDeleted v) => some v
  | _ => none

def metadata? : Step → Option Fields
  | set (.metadata more) => if more.any (·.1 = "self") then none else some more
  | _ => none

variable {α : Type} {part? : Step → Option α} {default : α} {done : List Step} {step : Step}

/-- What the last step gives that gives anything. -/
def latest (part? : Step → Option α) (default : α) (done : List Step) : α :=
  (done.filterMap part?).getLast?.getD default

theorem latest_concat :
    latest part? default (done ++ [step]) = (part? step).getD (latest part? default done) := by
  unfold latest
  cases hp : part? step with
  | none => simp [List.filterMap_append, hp]
  | some a => simp [List.filterMap_append, hp]

/-- The entries of all metadata in the order in which they were given. -/
def entries (done : List Step) : Fields := (done.filterMap metadata?).flatten

theorem entries_concat : entries (done ++ [step]) = entries done ++ (metadata? step).getD [] := by
  unfold entries
  cases hm : metadata? step with
  | none => simp [List.filterMap_append, hm]
  | some more => simp [List.filterMap_append, hm]

theorem not_reserved_of_mem_entries {e : String × Value} (h : e ∈ entries done) :
    e.1 ≠ "self" := by
  obtain ⟨more, hmore, he⟩ := List.mem_flatten.1 h
  obtain ⟨step, -, hstep⟩ := List.mem_filterMap.1 hmore
  unfold metadata? at hstep
  split at hstep
  · split at hstep
    · cases hstep
    · next hself =>
      cases hstep
      exact fun hname => hself (List.any_eq_true.2 ⟨e, he, decide_eq_true hname⟩)
  · cases hstep

/-- The documentation given last is a text and not blank. -/
def Documented (done : List Step) : Prop :=
  ∃ d, latest documentation? .null done = .str d ∧ Text.isBlankText d = false

end Step

open Step

/-- Nothing shows in the schema but what was given last for each part of it; of the metadata, what
was given last for each key. -/
structure MadeBy [Host] (s : Schema) (chosen : Selector) (done : List Step) : Prop where
  selector : s.selector = chosen
  documentation : latest documentation? .null done = .str s.documentation
  validator : s.validator = latest validator? .acceptAll done
  ephemeral : s.ephemeral = latest (allowance? .ephemeral) .can done
  sequential : s.sequential = latest (allowance? .sequential) .can done
  watched : s.watched = latest (allowance? .watched) .can done
  canBeDeleted : s.canBeDeleted = (latest canBeDeleted? (.bool true) done).truthy
  name : s.name =
    let name := latest name? (.str "") done
    if name.truthy then name else .str chosen.raw
  metadata : ∀ key, s.metadata.lookup key = (entries done).reverse.lookup key
  keys : (s.metadata.map (·.1)).Nodup

namespace Builder

section

variable [Host] {b : Builder} {selector : Selector} {done rest : List Step} {step : Step}

/-- A step gives nothing, a schema or a failure. -/
def outcome (b : Builder) : Step → Except Failure (Option Schema)
  | .set setting => (b.set setting).map fun _ => none
  | .build => (b.build.mapError .definition).map some

def after (b : Builder) : Step → Builder
  | .set setting => b.attempt setting
  | .build => b

def outcomes (b : Builder) : List Step → List (Except Failure (Option Schema))
  | [] => []
  | step :: rest => b.outcome step :: (b.after step).outcomes rest

/-- The builder that knows what was given last. -/
def recalling (selector : Selector) (done : List Step) : Builder where
  selector := selector
  name := latest name? (.str "") done
  documentation := latest documentation? .null done
  validator := latest validator? .acceptAll done
  ephemeral := latest (allowance? .ephemeral) .can done
  sequential := latest (allowance? .sequential) .can done
  watched := latest (allowance? .watched) .can done
  canBeDeleted := latest canBeDeleted? (.bool true) done
  metadata := Fields.update [] (entries done)

theorem eq_recalling_of_start {path : Value} {pattern : Option PathPattern.Given}
    (h : Builder.start path pattern = .ok b) :
    Selector.choose path pattern = .ok b.selector ∧ b = recalling b.selector [] := by
  unfold Builder.start at h
  cases hc : Selector.choose path pattern with
  | error e =>
    rw [hc] at h
    cases h
  | ok selector =>
    rw [hc] at h
    cases h
    exact ⟨rfl, rfl⟩

theorem after_recalling (selector : Selector) (done : List Step) (step : Step) :
    (recalling selector done).after step = recalling selector (done ++ [step]) := by
  simp only [recalling, latest_concat, entries_concat, Fields.update_append]
  cases step with
  | build => rfl
  | set setting =>
    cases setting with
    | name v => rfl
    | documentation v => rfl
    | canBeDeleted v => rfl
    | validator c =>
      simp only [after, attempt, set, validator?]
      cases Validator.ofCandidate c <;> rfl
    | allowance field given =>
      simp only [after, attempt, set, allowance?]
      cases given.parse <;> cases field <;> rfl
    | metadata more =>
      simp only [after, attempt, set, metadata?]
      split <;> rfl

theorem foldl_after_recalling (selector : Selector) (done : List Step) :
    done.foldl after (recalling selector []) = recalling selector done := by
  induction done using List.reverseRecOn with
  | nil => rfl
  | append_singleton done step ih =>
    rw [List.foldl_append, ih]
    exact after_recalling selector done step

theorem after_of_failed {f : Failure} (h : b.outcome step = .error f) : b.after step = b := by
  cases step with
  | build => rfl
  | set setting =>
    show (b.set setting).toOption.getD b = b
    cases hs : b.set setting with
    | error e => rfl
    | ok c =>
      simp only [outcome, hs] at h
      cases h

theorem outcomes_append (b : Builder) (done rest : List Step) :
    b.outcomes (done ++ rest) = b.outcomes done ++ (done.foldl after b).outcomes rest := by
  induction done generalizing b with
  | nil => rfl
  | cons step done ih =>
    rw [List.cons_append, outcomes, ih, outcomes]
    rfl

theorem length_outcomes (b : Builder) (done : List Step) :
    (b.outcomes done).length = done.length := by
  induction done generalizing b with
  | nil => rfl
  | cons step done ih => rw [outcomes, List.length_cons, ih, List.length_cons]

/-- What comes later plays no part in what a step gives. -/
theorem getElem?_outcomes (b : Builder) (done : List Step) (step : Step) (rest : List Step) :
    (b.outcomes (done ++ step :: rest))[done.length]? =
      some ((done.foldl after b).outcome step) := by
  rw [outcomes_append, List.getElem?_append_right (length_outcomes b done).le, length_outcomes,
    Nat.sub_self]
  rfl

/-- A step that fails is not noticed afterwards. -/
theorem eraseIdx_outcomes {f : Failure} (h : (done.foldl after b).outcome step = .error f)
    (rest : List Step) :
    (b.outcomes (done ++ step :: rest)).eraseIdx done.length = b.outcomes (done ++ rest) := by
  rw [outcomes_append, List.eraseIdx_append_of_length_le (length_outcomes b done).le,
    length_outcomes, Nat.sub_self, outcomes, after_of_failed h, outcomes_append]
  rfl

theorem madeBy_of_build_recalling {s : Schema} (h : (recalling selector done).build = .ok s) :
    s.MadeBy selector done := by
  unfold build at h
  split at h
  · cases h
  rw [Entry.draft_build_eq] at h
  cases hd : Draft.checkDocumentation (recalling selector done).documentation selector.raw with
  | error e =>
    rw [show (recalling selector done).selector = selector from rfl, hd] at h
    cases h
  | ok d =>
    rw [show (recalling selector done).selector = selector from rfl, hd] at h
    cases h
    have hdocumentation : latest documentation? .null done = .str d.1 := by
      change Draft.checkDocumentation (latest documentation? .null done) selector.raw = _ at hd
      unfold Draft.checkDocumentation at hd
      split at hd
      · next s heq =>
        split at hd
        · cases hd
          exact heq
        · cases hd
      · cases hd
    have hmetadata (key : String) : (Fields.update [] (entries done)).lookup key =
        (entries done).reverse.lookup key := by
      rw [Fields.lookup_update]
      exact Option.or_none
    exact {
      selector := rfl
      documentation := hdocumentation
      validator := rfl
      ephemeral := rfl
      sequential := rfl
      watched := rfl
      canBeDeleted := rfl
      name := rfl
      metadata := hmetadata
      keys := (Fields.settled_nil.update fun _ => not_reserved_of_mem_entries).nodup }

theorem build_recalling_eq_ok_iff (selector : Selector) :
    (∃ s, (recalling selector done).build = .ok s) ↔ Documented done := by
  have hiff := Entry.checkDocumentation_eq_ok_iff (latest documentation? .null done) selector.raw
  unfold build
  rw [Entry.draft_build_eq, Documented, ← hiff]
  show (∃ s, (if (latest documentation? .null done).isNull then _ else _) = _) ↔ _
  cases hd : latest documentation? .null done with
  | null =>
    refine iff_of_false ?_ ?_
    · rintro ⟨s, hs⟩
      cases hs
    · rintro ⟨d, hc⟩
      cases hc
  | _ =>
    rw [if_neg (by simp [Value.isNull]), ← hd]
    show (∃ s, (Draft.checkDocumentation (latest documentation? .null done) selector.raw).map _ =
      .ok s) ↔ _
    cases Draft.checkDocumentation (latest documentation? .null done) selector.raw <;>
      simp [Except.map]

/-- Whatever steps were made before: one that fails leaves no trace in what comes later, and what a
step gives stays the same whatever comes later. A schema is built if and only if the documentation
given last is a text and not blank, and it shows what was given before it was built. -/
theorem outcomes_lastGiven {path : Value} {pattern : Option PathPattern.Given}
    (h : Builder.start path pattern = .ok b) (done rest : List Step) :
    Selector.choose path pattern = .ok b.selector ∧
      (∀ step f, (b.outcomes (done ++ [step])).getLast? = some (.error f) →
        (b.outcomes (done ++ step :: rest)).eraseIdx done.length = b.outcomes (done ++ rest)) ∧
      (∀ step, (b.outcomes (done ++ step :: rest))[done.length]? =
        (b.outcomes (done ++ [step]))[done.length]?) ∧
      (Documented done → ∃ s,
        (b.outcomes (done ++ .build :: rest))[done.length]? = some (.ok (some s)) ∧
          s.MadeBy b.selector done) ∧
      (¬Documented done → ∃ d,
        (b.outcomes (done ++ .build :: rest))[done.length]? = some (.error (.definition d))) := by
  obtain ⟨hselector, hstart⟩ := eq_recalling_of_start h
  have hrun : done.foldl after b = recalling b.selector done := by
    rw [hstart]
    exact foldl_after_recalling _ done
  refine ⟨hselector, fun step f hf => ?_, fun step => ?_, fun hdoc => ?_, fun hdoc => ?_⟩
  · refine eraseIdx_outcomes (f := f) ?_ rest
    rw [outcomes_append] at hf
    simpa [outcomes] using hf
  · rw [getElem?_outcomes, getElem?_outcomes]
  · obtain ⟨s, hs⟩ := (build_recalling_eq_ok_iff b.selector).2 hdoc
    refine ⟨s, ?_, madeBy_of_build_recalling hs⟩
    rw [getElem?_outcomes, hrun, outcome, hs]
    rfl
  · cases hs : (recalling b.selector done).build with
    | ok s => exact absurd ((build_recalling_eq_ok_iff b.selector).1 ⟨s, hs⟩) hdoc
    | error d =>
      refine ⟨d, ?_⟩
      rw [getElem?_outcomes, hrun, outcome, hs]
      rfl

end

/-- Steps of which one gives an unknown word and another a key that no call can have. -/
def stumbling : List Step :=
  [.set (.documentation (.str "d")), .set (.allowance .watched (.value (.str " MUST "))),
    .set (.allowance .watched (.value (.str "often"))), .set (.name (.str "")),
    .set (.metadata [("owner", .str "x"), ("k", .int 1)]), .set (.metadata [("k", .int 2)]),
    .set (.metadata [("k", .int 3), ("self", .int 4)])]

/-- The schema is that of the steps that succeeded, and what is set later does not reach it. -/
theorem outcomes_lastGiven_stumbling :
    let b : Builder := { selector := .exact ⟨"/a", by decide⟩ }
    let later : List Step := [.set (.documentation .null), .set (.metadata [("k", .int 5)]), .build]
    Builder.start (.str "/a") none = .ok b ∧ Documented stumbling ∧
      ∃ s, (b.outcomes (stumbling ++ .build :: later))[stumbling.length]? = some (.ok (some s)) ∧
        s.documentation = "d" ∧ s.watched = .must ∧ s.name = .str "/a" ∧
        s.metadata.lookup "owner" = some (.str "x") ∧ s.metadata.lookup "k" = some (.int 2) := by
  intro b later
  have hstart : Builder.start (.str "/a") none = .ok b := by cbv
  have hdoc : Documented stumbling := ⟨"d", rfl, by decide⟩
  obtain ⟨-, -, -, hbuilt, -⟩ := outcomes_lastGiven hstart stumbling later
  obtain ⟨s, hs, hmade⟩ := hbuilt hdoc
  refine ⟨hstart, hdoc, s, hs, ?_, ?_, ?_, ?_, ?_⟩
  · exact (Value.str.inj hmade.documentation).symm
  · rw [hmade.watched]
    cbv
  · rw [hmade.name]
    rfl
  · rw [hmade.metadata]
    rfl
  · rw [hmade.metadata]
    rfl

end Builder

end Schema

end PathPolicy
