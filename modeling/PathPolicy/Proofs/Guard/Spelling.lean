import PathPolicy.Host.Standard
import PathPolicy.Proofs.Guard.Decision

/-! The spellings of a create request. Two flags, the mode that they make, and the word of that mode
in letters of either case with white space around it are one request; and what is answered is what
the schema that governs the path says about the two flags. -/

namespace PathPolicy

namespace CreateMode

variable {m : CreateMode} {s : String}

theorem isEphemeral_ofFlags (isEphemeral isSequential : Bool) :
    (ofFlags isEphemeral isSequential).isEphemeral = isEphemeral := by
  cases isEphemeral <;> cases isSequential <;> rfl

theorem isSequential_ofFlags (isEphemeral isSequential : Bool) :
    (ofFlags isEphemeral isSequential).isSequential = isSequential := by
  cases isEphemeral <;> cases isSequential <;> rfl

/-- The word of the mode in ASCII letters of either case, with any white space around it. -/
inductive Spells (m : CreateMode) : String → Prop
  | word {front word back : String} : Text.isBlankText front = true → word.toLower = m.word →
    Text.isBlankText back = true → Spells m (front ++ (word ++ back))

theorem plain_word (m : CreateMode) : ∀ c ∈ m.word.toList, Text.Plain c := by
  cases m <;> simp [word, Text.Plain]

theorem Spells.lower_trim (h : m.Spells s) : Text.lower (Text.trim s) = m.word := by
  obtain ⟨hfront, hword, hback⟩ := h
  exact Text.Spells.lower_trim m.plain_word (.padded hfront hword hback)

end CreateMode

namespace Guard

section

variable [Host]

theorem checkCreate_of_names {mode : CreateMode.Given} {sequential : Bool} {m : CreateMode}
    (h : mode.Names sequential m) (r : Registry) (path : Value) (data : Content) :
    checkCreate r path mode data sequential =
      check r .create path fun s => s.checkCreate m.isEphemeral m.isSequential data := by
  simp only [checkCreate, CreateMode.Given.parse_eq_ok_iff.2 h]
  rfl

/-- However the flags of a creation are given, the guard does the same and leaves the same notices;
and its answer is the schema for the path, if it accepts these flags and the data. -/
theorem checkCreate_spellings (r : Registry) (path : Value) (data : Content)
    (isEphemeral isSequential : Bool) :
    let m := CreateMode.ofFlags isEphemeral isSequential
    let asked := checkCreate r path (.value (.bool isEphemeral)) data isSequential
    (∀ anyway, checkCreate r path (.mode m) data anyway = asked) ∧
      (∀ s, m.Spells s → ∀ anyway, checkCreate r path (.value (.str s)) data anyway = asked) ∧
      asked.outcome = ((r.lookup path).mapError fun f => .failure (.fault f)).bind fun s =>
        (s.checkCreate isEphemeral isSequential data).map fun _ => s := by
  intro m asked
  have hasked : asked =
      check r .create path fun s => s.checkCreate m.isEphemeral m.isSequential data :=
    checkCreate_of_names (.flag isEphemeral) r path data
  refine ⟨fun anyway => ?_, fun s hs anyway => ?_, ?_⟩
  · rw [hasked, checkCreate_of_names (.mode m)]
  · rw [hasked, checkCreate_of_names (.word hs.lower_trim)]
  · rw [hasked, check_outcome_lookup, CreateMode.isEphemeral_ofFlags,
      CreateMode.isSequential_ofFlags]

end

/-- A word in two cases, with a tab and a wide space before it. -/
theorem checkCreate_spellings_mixedCase :
    let r := Registry.empty DefaultMode.strict.schema
    let s := "\t\u2003" ++ ("Ephemeral_SEQUENTIAL" ++ "\n")
    CreateMode.ephemeralSequential.Spells s ∧
      checkCreate r (.str "/a") (.value (.str s)) none false =
        checkCreate r (.str "/a") (.value (.bool true)) none true ∧
      (checkCreate r (.str "/a") (.value (.bool true)) none true).outcome =
        .error (.violation ⟨DefaultMode.strict.schema, .dataNotValid⟩) := by
  intro r s
  have hs : CreateMode.ephemeralSequential.Spells s :=
    .word (by decide +kernel) (by decide +kernel) (by decide +kernel)
  obtain ⟨-, hword, houtcome⟩ := checkCreate_spellings r (.str "/a") none true true
  exact ⟨hs, hword s hs false, houtcome⟩

end Guard

end PathPolicy
