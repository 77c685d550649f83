import PathPolicy.Host.Standard
import PathPolicy.Proofs.PolicyFile.Letters
import PathPolicy.Proofs.Regex.Flags

/-! Texts of flags as sets of flags. A text is accepted for its characters one by one, and what it
stands for is the bitwise or of their flags. -/

namespace PathPolicy.Schema.Entry

variable {s t : String} {w : Regex.Flags}

/-- The flags of the letters of a text. -/
def flagsIn (s : String) : List Regex.Flag := s.toList.filterMap flagOfAnyCase?

theorem isSome_flagOfAnyCase?_iff {c : Char} :
    (flagOfAnyCase? c).isSome = true ↔ c ∈ "imsxIMSX".toList := by
  unfold flagOfAnyCase?
  split <;> simp_all

theorem flagOfLetter?_eq_none_iff {c : Char} : flagOfLetter? c = none ↔ c ∉ "imsx".toList := by
  unfold flagOfLetter?
  split <;> simp_all

theorem flagOfLetter?_toLower (c : Char) : flagOfLetter? c.toLower = flagOfAnyCase? c := by
  by_cases hascii : c.toNat < 0x80
  · have hlower := flagOfLetter?_of_ascii _ hascii
    rwa [Text.lowerCode_of_ascii _ hascii, Char.ofNat_toNat] at hlower
  · -- a letter of a flag, or its lower-case letter, would be ASCII
    have hlower : flagOfLetter? c.toLower = none := by
      refine Option.eq_none_iff_forall_ne_some.2 fun f hf => hascii ?_
      exact Text.ascii_of_toLower (ascii_of_flagOfLetter? hf)
    have hany : flagOfAnyCase? c = none :=
      Option.eq_none_iff_forall_ne_some.2 fun f hf => hascii (ascii_of_flagOfAnyCase? hf)
    rw [hlower, hany]

theorem map_eq_map_some_iff {α β : Type} {f : α → Option β} {as : List α} {bs : List β} :
    as.map f = bs.map some ↔ (∀ a ∈ as, (f a).isSome = true) ∧ bs = as.filterMap f := by
  induction as generalizing bs with
  | nil => cases bs <;> simp
  | cons a as ih =>
    cases ha : f a with
    | none => cases bs <;> simp [ha]
    | some b => cases bs <;> simp [ha, ih, and_left_comm, eq_comm (a := b)]

theorem flagsIn_append (s t : String) : flagsIn (s ++ t) = flagsIn s ++ flagsIn t := by
  rw [flagsIn, String.toList_append, List.filterMap_append, flagsIn, flagsIn]

theorem forall_mem_iff_toLower :
    (∀ c ∈ s.toList, c ∈ "imsxIMSX".toList) ↔
      ∀ c ∈ s.toList.map Char.toLower, c ∈ "imsx".toList := by
  rw [List.forall_mem_map]
  refine forall₂_congr fun c _ => ?_
  rw [← isSome_flagOfAnyCase?_iff, ← flagOfLetter?_toLower, Option.isSome_iff_ne_none, ne_eq,
    flagOfLetter?_eq_none_iff, not_not]

theorem mem_flagsIn_iff_toLower {f : Regex.Flag} :
    f ∈ flagsIn s ↔ ∃ c ∈ s.toList.map Char.toLower, flagOfLetter? c = some f := by
  simp [flagsIn, flagOfLetter?_toLower]

theorem flagsOfText_eq_error_iff {e : DefinitionError} :
    flagsOfText s = .error e ↔
      ∃ c, (Text.lower s).toList.find? (fun c => (flagOfLetter? c).isNone) = some c ∧
        e = .unknownFlag c s := by
  unfold flagsOfText
  generalize (0 : Regex.Flags) = start
  induction (Text.lower s).toList generalizing start with
  | nil => simp [pure, Except.pure]
  | cons c rest ih =>
    rw [List.foldlM_cons, List.find?_cons]
    cases hc : flagOfLetter? c with
    | none => simp [bind, Except.bind, eq_comm]
    | some f => exact ih (start.add f)

section

variable [Host]

theorem flags_str_eq_ok_iff :
    flags (.str s) = .ok w ↔
      (∀ c ∈ s.toList, c ∈ "imsxIMSX".toList) ∧ w = (Regex.Flags.orAll (flagsIn s) : Int) := by
  have hfs (fs : List Regex.Flag) : s.toList.map flagOfAnyCase? = fs.map some ↔
      (∀ c ∈ s.toList, c ∈ "imsxIMSX".toList) ∧ fs = flagsIn s := by
    simp only [map_eq_map_some_iff, isSome_flagOfAnyCase?_iff, flagsIn]
  rw [flags_eq_ok_iff, flagged_iff]
  constructor
  · intro h
    cases h with
    | letters h =>
      obtain ⟨hall, rfl⟩ := (hfs _).1 h
      exact ⟨hall, Regex.Flags.addAll_zero _⟩
  · rintro ⟨hall, rfl⟩
    rw [← Regex.Flags.addAll_zero]
    exact .letters ((hfs _).2 ⟨hall, rfl⟩)

theorem flags_append_eq_ok_iff :
    flags (.str (s ++ t)) = .ok w ↔
      ∃ m n : Nat, flags (.str s) = .ok m ∧ flags (.str t) = .ok n ∧ w = (m ||| n : Nat) := by
  simp only [flags_str_eq_ok_iff, String.toList_append, List.forall_mem_append, flagsIn_append,
    Regex.Flags.orAll_append, Int.natCast_inj]
  constructor
  · rintro ⟨⟨hs, ht⟩, hw⟩
    exact ⟨_, _, ⟨hs, rfl⟩, ⟨ht, rfl⟩, hw⟩
  · rintro ⟨m, n, ⟨hs, rfl⟩, ⟨ht, rfl⟩, hw⟩
    exact ⟨⟨hs, ht⟩, hw⟩

/-- A text says no more than which flags are in it. -/
theorem flags_eq_ok_iff_of_ok (h : flags (.str s) = .ok w) :
    flags (.str t) = .ok w ↔
      (∀ c ∈ t.toList, c ∈ "imsxIMSX".toList) ∧ ∀ f, f ∈ flagsIn s ↔ f ∈ flagsIn t := by
  obtain ⟨-, rfl⟩ := flags_str_eq_ok_iff.1 h
  rw [flags_str_eq_ok_iff, Int.natCast_inj, Regex.Flags.orAll_eq_iff]

theorem flags_eq_ok_congr
    (h : ∀ c, c ∈ s.toList.map Char.toLower ↔ c ∈ t.toList.map Char.toLower) :
    flags (.str s) = .ok w ↔ flags (.str t) = .ok w := by
  have hsame : Regex.Flags.orAll (flagsIn s) = Regex.Flags.orAll (flagsIn t) :=
    Regex.Flags.orAll_eq_iff.2 fun f => by simp only [mem_flagsIn_iff_toLower, h]
  simp only [flags_str_eq_ok_iff, forall_mem_iff_toLower, h, hsame]

theorem flags_str_eq_error_iff {e : Failure} :
    flags (.str s) = .error e ↔
      ∃ c, (Text.lower s).toList.find? (· ∉ "imsx".toList) = some c ∧
        e = .definition (.unknownFlag c s) := by
  have hletter : (fun c => decide (c ∉ "imsx".toList)) = fun c => (flagOfLetter? c).isNone := by
    funext c
    rw [Bool.eq_iff_iff, decide_eq_true_eq, ← flagOfLetter?_eq_none_iff, Option.isNone_iff_eq_none]
  rw [hletter]
  cases h : flagsOfText s with
  | ok w =>
    have hno (c : Char) :
        (Text.lower s).toList.find? (fun c => (flagOfLetter? c).isNone) ≠ some c := fun hc => by
      have herror := flagsOfText_eq_error_iff.2 ⟨c, hc, rfl⟩
      rw [h] at herror
      cases herror
    simp [flags, h, Except.mapError, hno]
  | error d =>
    obtain ⟨c, hc, rfl⟩ := flagsOfText_eq_error_iff.1 h
    simp [flags, h, Except.mapError, hc, eq_comm]

/-- A text is accepted just if its characters are the four letters in either case, and is then the
bitwise or of their flags: two texts agree just if the same flags are in them, and texts that are
put together are the or of their words. Otherwise the first character in lower case that is none of
the letters is named. -/
theorem flags_denotes (s t : String) :
    (∀ w, flags (.str s) = .ok w ↔
        (∀ c ∈ s.toList, c ∈ "imsxIMSX".toList) ∧ w = (Regex.Flags.orAll (flagsIn s) : Int)) ∧
      (∀ w, flags (.str s) = .ok w → (flags (.str t) = .ok w ↔
        (∀ c ∈ t.toList, c ∈ "imsxIMSX".toList) ∧ ∀ f, f ∈ flagsIn s ↔ f ∈ flagsIn t)) ∧
      ((∀ c, c ∈ s.toList.map Char.toLower ↔ c ∈ t.toList.map Char.toLower) →
        ∀ w, flags (.str s) = .ok w ↔ flags (.str t) = .ok w) ∧
      (∀ w, flags (.str (s ++ t)) = .ok w ↔
        ∃ m n : Nat, flags (.str s) = .ok m ∧ flags (.str t) = .ok n ∧ w = (m ||| n : Nat)) ∧
      (∀ e, flags (.str s) = .error e ↔
        ∃ c, (Text.lower s).toList.find? (· ∉ "imsx".toList) = some c ∧
          e = .definition (.unknownFlag c s)) ∧
      ∀ c, (DefinitionError.unknownFlag c s).message =
        "unknown regex flag " ++ Text.quote (String.singleton c) ++ " (expected any of: imsx)" :=
  ⟨fun _ => flags_str_eq_ok_iff, fun _ => flags_eq_ok_iff_of_ok, fun h _ => flags_eq_ok_congr h,
    fun _ => flags_append_eq_ok_iff, fun _ => flags_str_eq_error_iff, fun _ => rfl⟩

end

/-- Letters in another order and case, one of them twice. -/
theorem flags_denotes_mixedCase :
    flags (.str "mSm") = .ok 24 ∧
      (∀ c, c ∈ "mSm".toList.map Char.toLower ↔ c ∈ "sM".toList.map Char.toLower) ∧
      flags (.str "sM") = .ok 24 ∧ ∀ f, f ∈ flagsIn "mSm" ↔ f ∈ flagsIn "sM" := by
  obtain ⟨hok, hflags, hletters, -⟩ := flags_denotes "mSm" "sM"
  have hfirst : flags (.str "mSm") = .ok 24 := (hok 24).2 ⟨by simp, by decide +kernel⟩
  have hsame : ∀ c, c ∈ "mSm".toList.map Char.toLower ↔ c ∈ "sM".toList.map Char.toLower := by
    simp [or_comm]
  have hsecond := (hletters hsame 24).1 hfirst
  exact ⟨hfirst, hsame, hsecond, ((hflags 24 hfirst).1 hsecond).2⟩

end PathPolicy.Schema.Entry
