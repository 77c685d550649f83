import PathPolicy.Proofs.PolicyFile.Entry

/-! The first parts of an entry: its keys, and the selector with the flags of a pattern. -/

namespace PathPolicy

theorem Value.same_str_iff {v : Value} {s : String} : v.same (.str s) = true ↔ v = .str s := by
  cases v <;> simp [same, integral?]

namespace Schema.Entry

theorem isKnown_iff {k : Value} :
    (knownKeys.any fun word => k.same (.str word)) = true ↔ ∃ word ∈ knownKeys, k = .str word := by
  simp [Value.same_str_iff]

/-- Keys that are all texts are accepted or reported. -/
theorem unknownKeys_of_text {keys : List Value} (h : ∀ k ∈ keys, k.isText = true) :
    unknownKeys keys = .ok () ∧ (∀ k ∈ keys, ∃ word ∈ knownKeys, k = .str word) ∨
      (∃ d, unknownKeys keys = .error (.definition d)) ∧
        ¬∀ k ∈ keys, ∃ word ∈ knownKeys, k = .str word := by
  unfold unknownKeys
  cases hu : keys.filter fun k => !knownKeys.any fun word => k.same (.str word) with
  | nil =>
    left
    refine ⟨rfl, fun k hk => ?_⟩
    have hknown := List.filter_eq_nil_iff.1 hu k hk
    simpa [Value.same_str_iff] using hknown
  | cons first rest =>
    right
    have hmem (k : Value) (hk : k ∈ first :: rest) :
        k ∈ keys ∧ ¬∃ word ∈ knownKeys, k = .str word := by
      rw [← hu, List.mem_filter] at hk
      exact ⟨hk.1, fun hknown => by simp [isKnown_iff.2 hknown] at hk⟩
    have htext : (first :: rest).all Value.isText = true :=
      List.all_eq_true.2 fun k hk => h k (hmem k hk).1
    have hfirst := hmem first (by simp)
    exact ⟨⟨_, if_pos htext⟩, fun hall => hfirst.2 (hall first hfirst.1)⟩

/-- The letters are read from the left and each adds its flag. -/
theorem flagsOfText_eq_ok_iff {s : String} {w : Regex.Flags} :
    flagsOfText s = .ok w ↔ ∃ fs : List Regex.Flag,
      (Text.lower s).toList.map flagOfLetter? = fs.map some ∧ w = Regex.Flags.addAll 0 fs := by
  unfold flagsOfText Regex.Flags.addAll
  generalize (0 : Regex.Flags) = start
  induction (Text.lower s).toList generalizing start with
  | nil =>
    constructor
    · intro h
      cases h
      exact ⟨[], rfl, rfl⟩
    · rintro ⟨fs, hfs, rfl⟩
      cases List.map_eq_nil_iff.1 hfs.symm
      rfl
  | cons c rest ih =>
    rw [List.foldlM_cons]
    cases hc : flagOfLetter? c with
    | none =>
      constructor
      · intro h
        cases h
      · rintro ⟨_ | ⟨f, fs⟩, hfs, -⟩ <;> simp [hc] at hfs
    | some f =>
      refine (ih (start.add f)).trans ⟨fun ⟨fs, hfs, hw⟩ => ⟨f :: fs, ?_, hw⟩, ?_⟩
      · rw [List.map_cons, List.map_cons, hc, hfs]
      · rintro ⟨_ | ⟨g, fs⟩, hfs, hw⟩
        · cases hfs
        · rw [List.map_cons, List.map_cons, hc] at hfs
          obtain ⟨hg, hrest⟩ := List.cons_eq_cons.1 hfs
          cases hg
          exact ⟨fs, hrest, hw⟩

variable [Host]

theorem flags_eq_ok_iff {v : Value} {w : Regex.Flags} : flags v = .ok w ↔ Flagged v w := by
  constructor
  · intro h
    unfold flags at h
    split at h
    · cases h
      exact .number _
    · rename_i s
      cases hs : flagsOfText s with
      | error e => simp [hs, Except.mapError] at h
      | ok u =>
        rw [hs] at h
        cases h
        obtain ⟨fs, hfs, rfl⟩ := flagsOfText_eq_ok_iff.1 hs
        exact .letters hfs
    · cases h
  · intro h
    cases h with
    | number n => rfl
    | letters hfs => simp only [flags, flagsOfText_eq_ok_iff.2 ⟨_, hfs, rfl⟩, Except.mapError]

theorem Flagged.unique {v : Value} {w u : Regex.Flags} (hw : Flagged v w) (hu : Flagged v u) :
    w = u := Except.ok.inj ((flags_eq_ok_iff.2 hw).symm.trans (flags_eq_ok_iff.2 hu))

end Schema.Entry

end PathPolicy
