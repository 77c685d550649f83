import PathPolicy.Proofs.Regex.OtherFlags
import PathPolicy.Proofs.Regex.Reading

/-! Programs of spelled expressions: they pass every check, and the texts that they match as a
whole are the words of the expression. -/

namespace PathPolicy.Regex

variable {e : Expr} {source : String} {dotAll : Bool}

namespace Node

variable {n : Node}

theorem Regular.fault? (h : n.Regular) : n.fault? false = none := by
  induction h with
  | cat _ _ iha ihb => simp [Node.fault?, iha, ihb]
  | alt _ _ iha ihb => simp [Node.fault?, iha, ihb]
  | group _ _ _ ih => exact ih
  | loop _ _ _ ih => exact ih
  | _ => rfl

theorem Regular.hasWideLookbehind (h : n.Regular) : n.hasWideLookbehind = false := by
  induction h with
  | cat _ _ iha ihb => simp [Node.hasWideLookbehind, iha, ihb]
  | alt _ _ iha ihb => simp [Node.hasWideLookbehind, iha, ihb]
  | group _ _ _ ih => exact ih
  | loop _ _ _ ih => exact ih
  | _ => rfl

end Node

/-- No flags, or only that a dot means every character. -/
def dotFlags (dotAll : Bool) : Flags := if dotAll then Flag.dotAll.value else 0

theorem dotFlags_verbose : (dotFlags dotAll).has .verbose = false := by cases dotAll <;> rfl

theorem dotFlags_settle :
    (dotFlags dotAll).settle = .ok ((dotFlags dotAll).add .unicode) := by
  cases dotAll <;> rfl

theorem dotFlags_mode : ((dotFlags dotAll).add .unicode).mode = { dotAll := dotAll } := by
  cases dotAll <;> rfl

theorem dotFlags_template : ((dotFlags dotAll).add .unicode).has .template = false := by
  cases dotAll <;> rfl

theorem dotFlags_fits : ((dotFlags dotAll).add .unicode).fits = true := by cases dotAll <;> rfl

/-- The reader before the first step. -/
def ReadState.start (source : String) (flags : Flags) : ReadState where
  next := none
  rest := source.toList
  flags := flags

theorem conclude_ok {t : ReadState} (hend : t.next = none) (hconditions : t.conditions = [])
    (parts : List Node) (flags : Flags) : conclude t parts flags =
      .ok ⟨flags, Reading.groupCount t - 1, Node.ofList parts⟩ := by
  rw [conclude, hend, hconditions]
  rfl

variable [CharacterNames]

theorem read_spelled (dotAll : Bool) (hw : e.WrittenAs source) (hm : e.Modest) :
    ∃ p : Program, read source (dotFlags dotAll) = .ok p ∧
      p.flags = (dotFlags dotAll).add .unicode ∧ p.node.Regular ∧
      p.node.language { dotAll := dotAll } = e.language dotAll := by
  have hadvance : Reading.advance (ReadState.start source (dotFlags dotAll)) =
      .ok ((), (ReadState.start source (dotFlags dotAll)).at source.toList) :=
    Reading.advance_ok (hw.spells.whole trivial)
  have hroom : (ReadState.start source (dotFlags dotAll)).Room e :=
    ⟨dotFlags_verbose, hm.counts, by simpa [ReadState.start] using hm.captures,
      by simpa [ReadState.start, ReadState.keys] using hw.names⟩
  have hfuel : 3 * source.toList.length + 2 ≤
      3 * ((ReadState.start source (dotFlags dotAll)).at source.toList).rest.length + 8 := by
    have := Reading.length_afterToken source.toList
    rw [ReadState.at_rest]
    omega
  obtain ⟨s, bs, hgrown, hbs, halt⟩ := Reading.reads_of_spells dotAll hw.spells trivial
    (by simp [Reading.Closes]) [] _ hroom hfuel
  obtain ⟨hregular, hlanguage⟩ := (Reading.means_branches hbs).ofList
  have hflags : (s.at []).flags = dotFlags dotAll := hgrown.flags
  have hconditions : (s.at []).conditions = [] := hgrown.conditions
  have hread := readAll_of_alternation hadvance (hroom.verbose ▸ halt)
  rw [hflags, dotFlags_settle] at hread
  exact ⟨_, hread.trans (conclude_ok rfl hconditions _ _), rfl, hregular, hlanguage⟩

/-- Every expression inside the limits compiles, and what it matches is its language. -/
theorem compile_spelled (dotAll : Bool) (hw : e.WrittenAs source) (hm : e.Modest) :
    ∃ p : Program, compile source (dotFlags dotAll) = .ok p ∧
      ∀ path : String, p.fullMatch path = true ↔ path.toList ∈ e.language dotAll := by
  obtain ⟨p, hread, hflags, hregular, hlanguage⟩ := read_spelled dotAll hw hm
  refine ⟨p, ?_, fun path => ?_⟩
  · show (read source (dotFlags dotAll)).bind Program.check = .ok p
    rw [hread]
    simp only [Except.bind, Program.check, hflags, dotFlags_template, hregular.fault?,
      hregular.hasWideLookbehind, dotFlags_fits]
    rfl
  · rw [Program.fullMatch, hflags, dotFlags_mode, hregular.matchesAll_iff, hlanguage]

end PathPolicy.Regex
