import PathPolicy.Proofs.Regex.OtherFlags
import PathPolicy.Proofs.Selector
import PathPolicy.Selector.Given

/-! An expression that was compiled beforehand is taken as a pattern for the same paths. Its text is
compiled once more, under the flags that it reports, and whether spaces count in the text is then
known from the start. -/

namespace PathPolicy

open Regex

variable {source : String} {w : Flags} {e : Expression}

theorem Regex.Flags.mode_known : (Flags.known w).mode = w.mode := by
  simp only [Flags.mode, Flags.has_known]

section

variable [Host]

namespace Expression

theorem make_eq_ok_iff :
    make source w = .ok e ↔ e.source = source ∧ Host.compile .caller source w = .ok e.program := by
  obtain ⟨source', program⟩ := e
  unfold make
  cases Host.compile .caller source w with
  | error fault => simp [Except.map]
  | ok program' => simp [Except.map, eq_comm]

theorem compile_of_make (h : make source w = .ok e) : Regex.compile source w = .ok e.program :=
  (Host.compile_eq_ok_iff.1 (make_eq_ok_iff.1 h).2).2

/-- An expression reports the flags that were given, those that its text turns on for the whole of
itself, and the usual alphabet if there is no other. -/
theorem flags_of_make (h : make source w = .ok e) :
    e.program.flags =
      let flags := w.addAll (globalFlags (w.has .verbose) source.toList)
      if flags.has .ascii then flags else flags.add .unicode :=
  Flags.eq_of_settle (settle_of_compile (compile_of_make h))

end Expression

namespace PathPattern

/-- The compiled expression that a pattern holds. -/
def expression (p : PathPattern) : Expression := ⟨p.source, p.program⟩

/-- An expression is taken under its own flags, and of those that have a meaning none is lost. -/
theorem ofGiven_expression (hb : Text.isBlankText e.source = false)
    (hc : Regex.compile e.source w = .ok e.program)
    (hown : Host.hasRoom .pattern e.source ((Flags.known e.program.flags).remove .unicode) = true) :
    ∃ q, ofGiven (.expression e) = .ok q ∧ q.source = e.source ∧
      q.flags = (Flags.known e.program.flags).remove .unicode ∧
      q.program = { e.program with flags := Flags.known e.program.flags } :=
  ⟨_, make_of_compile hb ((Host.compile_of_room hown).trans (compile_own hc)), rfl, rfl, rfl⟩

/-- What an expression is taken as has an expression that is taken as the same. -/
theorem ofGiven_again {q : PathPattern} (h : ofGiven (.expression e) = .ok q)
    (hc : Regex.compile e.source w = .ok e.program) :
    ofGiven (.expression q.expression) = .ok q := by
  obtain ⟨hsource, hflags⟩ := eq_of_make h
  have hq := (Host.compile_eq_ok_iff.1 q.compiled).2
  rw [hsource, hflags, compile_own hc] at hq
  have hprogram : q.program.flags = Flags.known e.program.flags := by rw [← Except.ok.inj hq]
  have hknown : Flags.known (Flags.known e.program.flags) = Flags.known e.program.flags :=
    Int.emod_emod_of_dvd _ (dvd_refl _)
  have hagain : (Flags.known q.program.flags).remove .unicode = q.flags := by
    rw [hprogram, hknown, hflags]
  show make q.source ((Flags.known q.program.flags).remove .unicode) = .ok q
  rw [hagain, make_source]

/-- Where there is room for its text under both flags, a compiled expression makes a pattern for
exactly the paths of the pattern with its text and the flags that it was compiled under, and the
expression of that pattern makes it again. -/
theorem ofGiven_compiled (hb : Text.isBlankText source = false)
    (he : Expression.make source w = .ok e)
    (hroom : Host.hasRoom .pattern source w = true)
    (hown : Host.hasRoom .pattern source ((Flags.known e.program.flags).remove .unicode) = true) :
    ∃ p q, make source w = .ok p ∧ ofGiven (.expression e) = .ok q ∧
      (∀ path, q.isMatch path = p.isMatch path) ∧
      ofGiven (.expression q.expression) = .ok q ∧
      e.program.flags =
        let flags := w.addAll (globalFlags (w.has .verbose) source.toList)
        if flags.has .ascii then flags else flags.add .unicode := by
  have hflags := Expression.flags_of_make he
  have hc := Expression.compile_of_make he
  obtain rfl := (Expression.make_eq_ok_iff.1 he).1
  obtain ⟨q, hq, -, -, hprogram⟩ := ofGiven_expression hb hc hown
  have hp := make_of_compile hb ((Host.compile_of_room hroom).trans hc)
  refine ⟨_, q, hp, hq, fun path => ?_, ofGiven_again hq hc, hflags⟩
  rw [isMatch, hprogram, Program.fullMatch, Flags.mode_known]
  rfl

end PathPattern

end

/-- Spaces that count for nothing, small letters for large ones and a bit without a meaning: the
pattern is taken under other flags than those given and selects the same paths. -/
theorem PathPattern.ofGiven_compiled_spaced :
    let e : Expression :=
      ⟨"(?x) /A b", ⟨610, 0, .cat (.char 0x2F) (.cat (.char 0x41) (.char 0x62))⟩⟩
    (Text.isBlankText e.source = false ∧ Expression.make e.source 514 = .ok e) ∧
      ∃ p q, make e.source 514 = .ok p ∧ ofGiven (.expression e) = .ok q ∧
        (∀ path, q.isMatch path = p.isMatch path) ∧ p.flags = 514 ∧ q.flags = 66 := by
  intro e
  have hblank : Text.isBlankText e.source = false := by decide
  have hcompile : Host.compile .caller e.source 514 = .ok e.program := by decide +kernel
  have hmake : Expression.make e.source 514 = .ok e := Expression.make_eq_ok_iff.2 ⟨rfl, hcompile⟩
  obtain ⟨p, q, hp, hq, hsame, -⟩ :=
    ofGiven_compiled hblank hmake (by decide +kernel) (by decide +kernel)
  have hflags : q.flags = (Flags.known 610).remove .unicode := (eq_of_make hq).2
  exact ⟨⟨hblank, hmake⟩, p, q, hp, hq, hsame, (eq_of_make hp).2, hflags⟩

end PathPolicy
