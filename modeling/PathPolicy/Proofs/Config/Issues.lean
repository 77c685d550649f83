import PathPolicy.Config.Issue
import PathPolicy.Proofs.PolicyFile.Part
import Mathlib

/-! The issues of a configuration, and what is left of it without the parts that its warnings call
useless: the directories that do not exist, and the named sets where there is no directory to load
them from. -/

namespace PathPolicy

open Files

variable {d : Disk} {c : Config} {issues more : List Config.Issue} {path : String} {index : Nat}

namespace Config

namespace Issue

/-- Says of the path in a place that it is no directory. -/
def isAbout (index : Nat) : Issue → Bool
  | missingDirectory i _ => i == index
  | _ => false

/-- Says that the named sets have no effect. -/
def isAboutSets : Issue → Bool
  | setsWithoutPaths => true
  | _ => false

end Issue

/-- The configuration without what the issues call useless. -/
def heeding (c : Config) (issues : List Issue) : Config :=
  { c with
    schemaPaths := (c.schemaPaths.zipIdx.filter fun p => !issues.any (·.isAbout p.2)).map (·.1)
    schemaSets := if issues.any (·.isAboutSets) then [] else c.schemaSets }

/-! The paths that are found. -/

/-- Whether a path is a directory, as it is judged. -/
def found (d : Disk) (path : String) : Except Fault Bool := do
  d.isDirectoryAt (← d.expandHome (.ofText path))

def isFound (d : Disk) (path : String) : Bool := (found d path).toOption.getD false

def verdict (d : Disk) (p : String × Nat) : List Issue :=
  if isFound d p.1 then [] else [.missingDirectory p.2 p.1]

theorem isFound_iff : isFound d path = true ↔ found d path = .ok true := by
  unfold isFound
  cases found d path <;> simp [Except.toOption]

theorem pathIssue_eq : pathIssue d index path =
    (found d path).map fun b => if b then [] else [.missingDirectory index path] := by
  unfold pathIssue found
  cases d.expandHome (.ofText path) with
  | error f => rfl
  | ok p =>
    show (d.isDirectoryAt p >>= _) = (d.isDirectoryAt p).map _
    rcases d.isDirectoryAt p with f | _ | _ <;> rfl

theorem pathIssue_eq_ok_iff : pathIssue d index path = .ok more ↔
    found d path = .ok (isFound d path) ∧ verdict d (path, index) = more := by
  rw [pathIssue_eq, verdict, isFound]
  cases found d path with
  | error f => simp [Except.map]
  | ok b => exact ⟨fun h => ⟨rfl, Except.ok.inj h⟩, fun h => congrArg Except.ok h.2⟩

theorem exists_mem_zipIdx (h : path ∈ c.schemaPaths) : ∃ i, (path, i) ∈ c.schemaPaths.zipIdx := by
  rw [← List.zipIdx_map_fst 0 c.schemaPaths] at h
  obtain ⟨⟨_, i⟩, hi, rfl⟩ := List.mem_map.1 h
  exact ⟨i, hi⟩

/-- The paths are judged one by one. -/
theorem pathIssues_eq_ok_iff : c.pathIssues d = .ok more ↔
    (∀ p ∈ c.schemaPaths, found d p = .ok (isFound d p)) ∧
      c.schemaPaths.zipIdx.flatMap (verdict d) = more := by
  unfold pathIssues
  constructor
  · intro h
    obtain ⟨results, hresults, hmore⟩ := Failure.exists_of_bind_eq_ok h
    have hread := Failure.forall₂_of_mapM_eq_ok hresults
    simp only [pathIssue_eq_ok_iff, List.forall₂_and_left] at hread
    obtain ⟨hfound, hverdict⟩ := hread
    refine ⟨fun p hp => ?_, ?_⟩
    · obtain ⟨i, hi⟩ := exists_mem_zipIdx hp
      exact hfound (p, i) hi
    · have hresults : c.schemaPaths.zipIdx.map (verdict d) = results := by
        rw [← List.forall₂_eq_eq_eq, List.forall₂_map_left_iff]
        exact hverdict
      rw [List.flatMap, hresults]
      exact Except.ok.inj hmore
  · rintro ⟨hfound, rfl⟩
    have hread : List.Forall₂ (fun p more => pathIssue d p.2 p.1 = .ok more) c.schemaPaths.zipIdx
        (c.schemaPaths.zipIdx.map (verdict d)) := by
      rw [List.forall₂_map_right_iff, List.forall₂_same]
      exact fun p hp => pathIssue_eq_ok_iff.2 ⟨hfound _ (List.fst_mem_of_mem_zipIdx hp), rfl⟩
    rw [Failure.mapM_eq_ok_of_forall₂ hread]
    rfl

/-! The mode. -/

/-- What is said of a mode that can be written. -/
def modeVerdict (c : Config) : List Issue :=
  if (DefaultMode.ofValue? c.defaultMode).isSome then [] else [.unknownMode c.defaultMode]

theorem unknownMode_of_mem {i : Issue} (h : i ∈ c.modeVerdict) :
    i = .unknownMode c.defaultMode := by
  unfold modeVerdict at h
  split at h
  · cases h
  · exact List.mem_singleton.1 h

section

variable [Host]

/-- The mode is known or can at least be written. -/
def Judged (c : Config) : Prop :=
  (DefaultMode.ofValue? c.defaultMode).isSome = true ∨ c.defaultMode.unwritable? = none

theorem modeIssues_eq_ok_iff : c.modeIssues = .ok more ↔ c.Judged ∧ c.modeVerdict = more := by
  unfold modeIssues Judged modeVerdict
  cases (DefaultMode.ofValue? c.defaultMode).isSome with
  | true => simp
  | false => cases c.defaultMode.unwritable? <;> simp

theorem issues_eq_ok_iff : c.issues d = .ok issues ↔
    c.Judged ∧ (∀ p ∈ c.schemaPaths, found d p = .ok (isFound d p)) ∧
      c.modeVerdict ++ c.schemaPaths.zipIdx.flatMap (verdict d) ++ c.setIssues = issues := by
  unfold Config.issues
  constructor
  · intro h
    obtain ⟨modes, hmodes, h⟩ := Failure.exists_of_bind_eq_ok h
    obtain ⟨more, hmore, h⟩ := Failure.exists_of_bind_eq_ok h
    obtain ⟨hjudged, rfl⟩ := modeIssues_eq_ok_iff.1 hmodes
    obtain ⟨hfound, rfl⟩ := pathIssues_eq_ok_iff.1 hmore
    exact ⟨hjudged, hfound, Except.ok.inj h⟩
  · rintro ⟨hjudged, hfound, rfl⟩
    rw [modeIssues_eq_ok_iff.2 ⟨hjudged, rfl⟩, pathIssues_eq_ok_iff.2 ⟨hfound, rfl⟩]
    rfl

theorem missing_mem_iff (h : c.issues d = .ok issues) : .missingDirectory index path ∈ issues ↔
    (path, index) ∈ c.schemaPaths.zipIdx ∧ isFound d path = false := by
  obtain ⟨-, -, rfl⟩ := issues_eq_ok_iff.1 h
  have hmode : .missingDirectory index path ∉ c.modeVerdict := by
    intro hmem
    cases unknownMode_of_mem hmem
  have hsets : .missingDirectory index path ∉ c.setIssues := by
    unfold setIssues
    split <;> simp
  have hverdict (p : String × Nat) : .missingDirectory index path ∈ verdict d p ↔
      p = (path, index) ∧ isFound d path = false := by
    obtain ⟨other, i⟩ := p
    unfold verdict
    cases hfound : isFound d other with
    | true =>
      simp only [if_true, List.not_mem_nil, false_iff, not_and, Prod.mk.injEq]
      rintro ⟨rfl, -⟩
      simp [hfound]
    | false =>
      simp only [Bool.false_eq_true, if_false, List.mem_singleton, Issue.missingDirectory.injEq,
        Prod.mk.injEq]
      constructor
      · rintro ⟨rfl, rfl⟩
        exact ⟨⟨rfl, rfl⟩, hfound⟩
      · rintro ⟨⟨rfl, rfl⟩, -⟩
        exact ⟨rfl, rfl⟩
  rw [List.mem_append, List.mem_append, List.mem_flatMap]
  simp only [hmode, hsets, false_or, or_false, hverdict]
  exact ⟨fun ⟨_, hp, h, hno⟩ => ⟨h ▸ hp, hno⟩, fun ⟨hp, hno⟩ => ⟨_, hp, rfl, hno⟩⟩

theorem setsWithoutPaths_mem_iff (h : c.issues d = .ok issues) :
    .setsWithoutPaths ∈ issues ↔ c.schemaSets ≠ [] ∧ c.schemaPaths = [] := by
  obtain ⟨-, -, rfl⟩ := issues_eq_ok_iff.1 h
  have hmode : .setsWithoutPaths ∉ c.modeVerdict := by
    intro hmem
    cases unknownMode_of_mem hmem
  have hverdict (p : String × Nat) : .setsWithoutPaths ∉ verdict d p := by
    unfold verdict
    split <;> simp
  rw [List.mem_append, List.mem_append, List.mem_flatMap]
  simp only [hmode, hverdict, and_false, exists_false, false_or, setIssues]
  cases c.schemaSets <;> cases c.schemaPaths <;> simp

end

/-! What is left. -/

theorem any_isAbout_iff : issues.any (·.isAbout index) = true ↔
    ∃ path, .missingDirectory index path ∈ issues := by
  rw [List.any_eq_true]
  constructor
  · rintro ⟨issue, hissue, h⟩
    cases issue with
    | missingDirectory i path =>
      obtain rfl : i = index := eq_of_beq h
      exact ⟨path, hissue⟩
    | _ => cases h
  · rintro ⟨path, h⟩
    exact ⟨_, h, beq_self_eq_true index⟩

theorem any_isAboutSets_iff : issues.any (·.isAboutSets) = true ↔ .setsWithoutPaths ∈ issues := by
  rw [List.any_eq_true]
  constructor
  · rintro ⟨issue, hissue, h⟩
    cases issue with
    | setsWithoutPaths => exact hissue
    | _ => cases h
  · exact fun h => ⟨_, h, rfl⟩

theorem heeding_schemaPaths [Host] (h : c.issues d = .ok issues) :
    (c.heeding issues).schemaPaths = c.schemaPaths.filter (isFound d) := by
  have hkept : ∀ p ∈ c.schemaPaths.zipIdx, (!issues.any (·.isAbout p.2)) = isFound d p.1 := by
    rintro ⟨path, i⟩ hp
    rw [Bool.not_eq_eq_eq_not, Bool.eq_iff_iff, any_isAbout_iff, Bool.not_eq_true']
    simp only [missing_mem_iff h]
    constructor
    · rintro ⟨other, hother, hno⟩
      rw [List.mem_zipIdx_iff_getElem?] at hp hother
      obtain rfl := Option.some.inj (hp.symm.trans hother)
      exact hno
    · exact fun hno => ⟨path, hp, hno⟩
  rw [heeding, List.filter_congr hkept]
  show _ = c.schemaPaths.filter (isFound d)
  conv => rhs; rw [← List.zipIdx_map_fst 0 c.schemaPaths]
  rw [List.filter_map]
  rfl

theorem heeding_schemaSets (h : .setsWithoutPaths ∉ issues) :
    (c.heeding issues).schemaSets = c.schemaSets :=
  if_neg (mt any_isAboutSets_iff.1 h)

theorem heeding_schemaSets_of_mem (h : .setsWithoutPaths ∈ issues) :
    (c.heeding issues).schemaSets = [] :=
  if_pos (any_isAboutSets_iff.2 h)

/-- What is left has only directories that are found, and no error that was not there before. -/
theorem issues_heeding [Host] (h : c.issues d = .ok issues)
    (hno : ∀ i ∈ issues, i.isError = false) :
    ∃ left, (c.heeding issues).issues d = .ok left ∧ ∀ i ∈ left, i.isError = false := by
  have hfound : ∀ p ∈ (c.heeding issues).schemaPaths, isFound d p = true := by
    rw [heeding_schemaPaths h]
    exact fun p hp => (List.mem_filter.1 hp).2
  obtain ⟨hjudged, -, hissues⟩ := issues_eq_ok_iff.1 h
  refine ⟨_, issues_eq_ok_iff.2 ⟨hjudged, fun p hp => ?_, rfl⟩, fun i hi => ?_⟩
  · rw [hfound p hp]
    exact isFound_iff.1 (hfound p hp)
  · have hverdict : (c.heeding issues).schemaPaths.zipIdx.flatMap (verdict d) = [] :=
      List.flatMap_eq_nil_iff.2 fun p hp => if_pos (hfound _ (List.fst_mem_of_mem_zipIdx hp))
    rw [hverdict, List.append_nil] at hi
    rcases List.mem_append.1 hi with hi | hi
    · rw [← hissues] at hno
      exact hno i (List.mem_append_left _ (List.mem_append_left _ hi))
    · unfold setIssues at hi
      split at hi
      · rw [List.mem_singleton.1 hi]
        rfl
      · cases hi

end Config

end PathPolicy
