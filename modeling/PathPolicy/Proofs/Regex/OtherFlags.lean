import PathPolicy.Proofs.Regex.GlobalFlags

/-! A text that compiles is read in the same way under other flags, as long as they agree with it on
whether spaces count and whether it is a template: only the flags of the program are settled anew.
The flags of a program are such flags for its own text. -/

namespace PathPolicy.Regex

namespace Flags

variable {w v : Flags} {f g : Flag} {on : List Flag}

theorem has_remove_of_ne (h : g ≠ f) : (w.remove f).has g = w.has g := by
  rw [Bool.eq_iff_iff, has_remove, and_iff_left h]

theorem eq_of_settle (h : w.settle = .ok v) : v = if w.has .ascii then w else w.add .unicode := by
  unfold settle at h
  split_ifs at h with hlocale hascii hunicode
  · rw [if_neg (by simpa using hascii)]
    exact (Except.ok.inj h).symm
  · rw [if_pos (by simpa using hascii)]
    exact (Except.ok.inj h).symm

/-- Nothing but an alphabet is added. -/
theorem has_settle (h : w.settle = .ok v) (hf : f ≠ .unicode) : v.has f = w.has f := by
  unfold settle at h
  split_ifs at h <;> cases h
  · rw [Bool.eq_iff_iff, has_add, or_iff_left hf]
  · rfl

/-- There is one alphabet, and no other than the two that a text can have. -/
structure Settled (w : Flags) : Prop where
  locale : w.has .locale = false
  alphabet : w.has .unicode = !w.has .ascii

theorem settled_of_settle (h : w.settle = .ok v) : v.Settled := by
  have hlocale : v.has .locale = w.has .locale := has_settle h (by decide)
  have hascii : v.has .ascii = w.has .ascii := has_settle h (by decide)
  unfold settle at h
  split_ifs at h with hl ha hu <;> cases h
  · have hu : (w.add .unicode).has .unicode = true := has_add.2 (.inr rfl)
    exact ⟨by simp [hlocale, hl], by simpa [hascii, hu] using ha⟩
  · exact ⟨by simp [hl], by simp_all⟩

theorem Settled.settle (h : w.Settled) : w.settle = .ok w := by
  unfold Flags.settle
  rw [h.locale, h.alphabet]
  cases hascii : w.has .ascii with
  | true => rfl
  | false =>
    have hunicode : w.has .unicode = true := by rw [h.alphabet, hascii]; rfl
    exact congrArg Except.ok (if_pos hunicode)

theorem Settled.known (h : w.Settled) : w.known.Settled :=
  ⟨has_known.trans h.locale, by rw [has_known, has_known, h.alphabet]⟩

/-- The usual alphabet comes back by itself. -/
theorem Settled.settle_remove (h : w.Settled) : (w.remove .unicode).settle = .ok w := by
  by_cases hunicode : w.has .unicode = true
  · have hascii : w.has .ascii = false := by simpa [hunicode] using h.alphabet
    unfold Flags.settle
    rw [has_remove_of_ne (by decide), h.locale, has_remove_of_ne (by decide), hascii]
    exact congrArg Except.ok (add_remove hunicode)
  · rw [remove_of_not_has hunicode, h.settle]

/-- Flags that hold already, given once more beside the flags of a program. -/
theorem Settled.settle_addAll (h : w.Settled) (hon : ∀ f ∈ on, w.has f = true) :
    ((w.remove .unicode).addAll on).settle = .ok w := by
  by_cases hmem : .unicode ∈ on
  · have hadd : (w.remove .unicode).addAll on = (w.remove .unicode).add .unicode := by
      refine addAll_eq_add (fun g hg => ?_) hmem
      by_cases hgu : g = .unicode
      · exact .inl hgu
      · exact .inr ((has_remove_of_ne hgu).trans (hon g hg))
    rw [hadd, add_remove (hon _ hmem), h.settle]
  · have hsame : (w.remove .unicode).addAll on = w.remove .unicode :=
      addAll_of_has fun f hf =>
        (has_remove_of_ne (ne_of_mem_of_not_mem hf hmem)).trans (hon f hf)
    rw [hsame, h.settle_remove]

theorem known_settle (h : w.settle = .ok v) (hw : w.known = w) : v.known = v := by
  unfold settle at h
  split_ifs at h <;> cases h
  · exact known_add hw
  · exact hw

theorem fits_known : w.known.fits = true := by
  have hrange (v : Int) : -0x80000000 ≤ v % 0x200 ∧ v % 0x200 < 0x80000000 := by omega
  obtain ⟨hlow, hhigh⟩ := hrange w
  exact Bool.and_eq_true_iff.2 ⟨decide_eq_true hlow, decide_eq_true hhigh⟩

end Flags

/-- After its branches the text has to end, and its conditions ask about groups that it has. -/
def conclude (t : ReadState) (parts : List Node) (flags : Flags) : Except Fault Program :=
  if t.next.isSome then .error (.malformed .unbalancedParenthesis)
  else if t.conditions.any (Reading.groupCount t ≤ ·) then .error (.malformed .unknownGroup)
  else .ok ⟨flags, Reading.groupCount t - 1, Node.ofList parts⟩

theorem conclude_under {t : ReadState} {parts : List Node} {flags : Flags} {p : Program}
    (h : conclude t parts flags = .ok p) (w : Flags) :
    conclude t parts w = .ok { p with flags := w } := by
  unfold conclude at h ⊢
  split_ifs at h ⊢
  cases h
  rfl

theorem Program.check_under {p : Program} {w : Flags} (h : p.check = .ok p)
    (hw : w.has .template = p.flags.has .template) :
    check { p with flags := w } =
      if w.fits then .ok { p with flags := w } else .error .flagsOutOfRange := by
  unfold check at h ⊢
  rw [hw]
  cases hfault : p.node.fault? (p.flags.has .template) with
  | some reason =>
    rw [hfault] at h
    cases h
  | none =>
    simp only [hfault] at h ⊢
    split_ifs at h with hfits hwide
    cases hw : w.fits with
    | true => simp [hwide]
    | false => rfl

section

variable [CharacterNames]

theorem readAll_of_alternation {s t : ReadState} {parts : List Node}
    (hadvance : Reading.advance s = .ok ((), s.at s.rest))
    (halternation : Reading.alternation 0 (s.flags.has .verbose) []
      (3 * (s.at s.rest).rest.length + 8) (s.at s.rest) = .ok (parts, t)) :
    (readAll s).map (·.1) = t.flags.settle.bind (conclude t parts) := by
  have hflags : (s.at s.rest).flags = s.flags := rfl
  rw [readAll, Reading.bind_ok hadvance, Reading.bind_ok Reading.get_ok]
  dsimp only
  rw [hflags, Reading.bind_ok halternation, Reading.bind_ok Reading.get_ok]
  cases t.flags.settle with
  | error e => rfl
  | ok flags =>
    show Except.map _ ((if _ then _ else _ : Reading Program) t) = conclude t parts flags
    unfold conclude
    split
    · rfl
    · split <;> rfl

/-- Under other flags that suit it the text is read as before, and the flags are settled anew. -/
theorem readAll_under {s t : ReadState} {p : Program} {w : Flags} (h : readAll s = .ok (p, t))
    (hw : Suits w (s.flags.has .verbose) s.rest) :
    (readAll (s.withFlags w)).map (·.1) =
      (w.addAll (globalFlags (s.flags.has .verbose) s.rest)).settle.map fun flags =>
        { p with flags := flags } := by
  obtain ⟨hadvance, parts, halternation, hsettle, -⟩ := readAll_eq_ok_iff.1 h
  have hplain := readAll_of_alternation hadvance halternation
  rw [h, hsettle] at hplain
  have hread := readAll_of_alternation (Reading.indifferent_advance.ok_of_blind hadvance w)
    (Reading.alternation_withFlags halternation rfl hw)
  rw [hread]
  show (w.addAll (globalFlags (s.flags.has .verbose) s.rest)).settle.bind (conclude t parts) = _
  cases (w.addAll (globalFlags (s.flags.has .verbose) s.rest)).settle with
  | error e => rfl
  | ok flags => exact conclude_under hplain.symm flags

/-- A text that compiles is refused under other flags that suit it for the flags alone. -/
theorem compile_under {source : String} {v w : Flags} {p : Program}
    (h : compile source v = .ok p) (hw : Suits w (v.has .verbose) source.toList)
    (htemplate : (w.addAll (globalFlags (v.has .verbose) source.toList)).has .template =
      p.flags.has .template) :
    compile source w =
      (w.addAll (globalFlags (v.has .verbose) source.toList)).settle.bind fun flags =>
        if flags.fits then .ok { p with flags := flags } else .error .flagsOutOfRange := by
  obtain ⟨hcheck, t, hread⟩ := compile_eq_ok_iff.1 h
  have hread' : read source w = _ := readAll_under hread hw
  rw [compile, hread']
  cases hsettle : (w.addAll (globalFlags (v.has .verbose) source.toList)).settle with
  | error e => rfl
  | ok flags =>
    exact Program.check_under hcheck ((Flags.has_settle hsettle (by decide)).trans htemplate)

/-- Compiled again under the flags of its program, the usual alphabet apart, a text gives the same
program, which keeps the flags with a meaning. -/
theorem compile_own {source : String} {w : Flags} {p : Program} (h : compile source w = .ok p) :
    compile source ((Flags.known p.flags).remove .unicode) =
      .ok { p with flags := Flags.known p.flags } := by
  have hsettle := settle_of_compile h
  have hsettled := (Flags.settled_of_settle hsettle).known
  have hverbose : ((Flags.known p.flags).remove .unicode).has .verbose =
      (w.addAll (globalFlags (w.has .verbose) source.toList)).has .verbose := by
    rw [Flags.has_remove_of_ne (by decide), Flags.has_known, Flags.has_settle hsettle (by decide)]
  have hsuits : Suits ((Flags.known p.flags).remove .unicode) (w.has .verbose) source.toList := by
    refine ⟨fun hv => ?_, fun hv => ?_⟩
    · rw [hverbose]
      exact Flags.has_addAll.2 (.inl hv)
    · rw [hverbose] at hv
      exact Flags.has_addAll.1 hv
  have hon : ∀ f ∈ globalFlags (w.has .verbose) source.toList,
      (Flags.known p.flags).has f = true := fun f hf => by
    rw [Flags.has_known]
    exact Flags.has_of_settle hsettle (Flags.has_addAll.2 (.inr hf))
  have hsame := hsettled.settle_addAll hon
  have htemplate := (Flags.has_settle hsame (f := .template) (by decide)).symm.trans Flags.has_known
  rw [compile_under h hsuits htemplate, hsame]
  exact if_pos Flags.fits_known

/-- Of a text compiled under no flags the program is the same. -/
theorem compile_again {source : String} {p : Program} (h : compile source 0 = .ok p) :
    compile source ((Flags.known p.flags).remove .unicode) = .ok p := by
  have hknown : Flags.known p.flags = p.flags :=
    Flags.known_settle (settle_of_compile h) (Flags.known_addAll rfl)
  have hown := compile_own h
  rwa [hknown] at hown ⊢

end

end PathPolicy.Regex
