import PathPolicy.Host.Standard
import PathPolicy.Proofs.Regex.Program
import PathPolicy.Selector

/-! Which paths a pattern selects: for a regular expression, those that are its words as a
whole. Which alternative comes first and which rounds are lazy makes no difference. -/

namespace PathPolicy

open Regex

namespace PathPattern

section

variable [Host] {source : String} {flags : Flags}

theorem make_source (p : PathPattern) : make p.source p.flags = .ok p := by
  unfold make
  rw [dif_pos p.notBlank]
  split
  · rename_i program hc
    obtain rfl : program = p.program := Except.ok.inj (hc.symm.trans p.compiled)
    rfl
  · rename_i reason hc
    cases hc.symm.trans p.compiled
  · rename_i fault _ hc
    cases hc.symm.trans p.compiled

theorem eq_of_make {p : PathPattern}
    (h : make source flags = .ok p) : p.source = source ∧ p.flags = flags := by
  unfold make at h
  split at h
  · split at h
    · cases h
      exact ⟨rfl, rfl⟩
    · cases h
    · cases h
  · cases h

theorem make_of_compile {program : Program} (hb : Text.isBlankText source = false)
    (hc : Host.compile .pattern source flags = .ok program) :
    make source flags = .ok ⟨source, flags, program, hb, hc⟩ :=
  make_source ⟨source, flags, program, hb, hc⟩

/-- A pattern for every expression inside the limits whose text there is room for, that selects
the words of the expression and nothing else, and what rearranging does to it. -/
theorem isMatch_iff_mem_language {e : Expr} (hw : e.WrittenAs source) (hm : e.Modest)
    (hb : Text.isBlankText source = false) (dotAll : Bool)
    (hroom : Host.hasRoom .pattern source (dotFlags dotAll) = true) :
    ∃ p, make source (dotFlags dotAll) = .ok p ∧
      (∀ path : String, p.isMatch path = true ↔ path.toList ∈ e.language dotAll) ∧
      ∀ (f : Expr) (source' : String), e.Rearranged f →
        Spells .branches f source'.toList [] → Text.isBlankText source' = false →
          Host.hasRoom .pattern source' (dotFlags dotAll) = true →
          ∃ q, make source' (dotFlags dotAll) = .ok q ∧
            ∀ path : String, q.isMatch path = p.isMatch path := by
  obtain ⟨program, hc, hmatch⟩ := compile_spelled dotAll hw hm
  refine ⟨_, make_of_compile hb ((Host.compile_of_room hroom).trans hc), hmatch, ?_⟩
  intro f source' hf hs hb' hroom'
  obtain ⟨program', hc', hmatch'⟩ :=
    compile_spelled dotAll ⟨hs, hf.names.nodup_iff.1 hw.names⟩ (hf.modest hm)
  refine ⟨_, make_of_compile hb' ((Host.compile_of_room hroom').trans hc'), fun path => ?_⟩
  rw [Bool.eq_iff_iff]
  exact (hmatch' path).trans (hf.language dotAll ▸ (hmatch path).symm)

end

/-- Two alternatives, the shorter one first, in lazy rounds. -/
def shortFirst : Expr :=
  .cat (.char (Char.toNat '/'))
    (.cat
      (.loop true .star
        (.group .plain
          (.alt (.cat (.char (Char.toNat 'a')) .empty)
            (.cat (.char (Char.toNat 'a')) (.cat (.char (Char.toNat 'b')) .empty)))))
      (.cat (.char (Char.toNat 'c')) .empty))

theorem shortFirst_writtenAs : shortFirst.WrittenAs "/(?:a|ab)*?c" := by
  have ha (r : List Char) : Spells .piece (.char (Char.toNat 'a')) ('a' :: r) r :=
    .once (.char r (by decide))
  have hb (r : List Char) : Spells .piece (.char (Char.toNat 'b')) ('b' :: r) r :=
    .once (.char r (by decide))
  have hc (r : List Char) : Spells .piece (.char (Char.toNat 'c')) ('c' :: r) r :=
    .once (.char r (by decide))
  have hslash (r : List Char) : Spells .piece (.char (Char.toNat '/')) ('/' :: r) r :=
    .once (.char r (by decide))
  have hgroup := Spells.group (r := ['*', '?', 'c']) .plain trivial
    (.or (.cons (ha _) (.nil _)) (.last (.cons (ha _) (.cons (hb _) (.nil _)))))
  have hloop := Spells.lazy (q := .star) (r := ['c']) ⟨by simp [Quantifier.counts], by simp⟩
    (by simp [Quantifier.most]) hgroup
  exact ⟨.last (.cons (hslash _) (.cons hloop (.cons (hc _) (.nil _)))), List.nodup_nil⟩

theorem shortFirst_modest : shortFirst.Modest where
  counts := by simp [shortFirst, Expr.ModestCounts, Quantifier.Modest, Quantifier.counts]
  captures := by decide

/-- The longer alternative is found although the shorter one is tried first. -/
theorem isMatch_shortFirst :
    ∃ p, make "/(?:a|ab)*?c" (dotFlags false) = .ok p ∧
      (∀ path : String, p.isMatch path = true ↔ path.toList ∈ shortFirst.language false) ∧
      ∀ (f : Expr) (source' : String), shortFirst.Rearranged f →
        Spells .branches f source'.toList [] → Text.isBlankText source' = false →
          Host.hasRoom .pattern source' (dotFlags false) = true →
          ∃ q, make source' (dotFlags false) = .ok q ∧
            ∀ path : String, q.isMatch path = p.isMatch path :=
  isMatch_iff_mem_language shortFirst_writtenAs shortFirst_modest (by decide +kernel) false
    (by decide +kernel)

/-- A count that no repeat can have. -/
def hugeCount : Quantifier := .counted (List.replicate 11 '9') none

theorem hugeCount_writtenAs :
    (Expr.cat (.loop false hugeCount (.char (Char.toNat 'a'))) .empty).WrittenAs
      "a\x7b99999999999\x7d" := by
  have hatom : Spells .atom (.char (Char.toNat 'a')) "a\x7b99999999999\x7d".toList
      (hugeCount.text ++ []) := .char _ (by decide)
  have hwritten : hugeCount.Written := by
    refine ⟨?_, by simp [hugeCount]⟩
    simp [hugeCount, Quantifier.counts]
  have hpiece := Spells.greedy (r := []) hwritten (by simp [hugeCount, Quantifier.most, Quantifier.least])
    (by simp) (by simp) hatom
  exact ⟨.last (.cons hpiece (.nil _)), List.nodup_nil⟩

theorem compile_hugeCount : Host.compile .pattern "a\x7b99999999999\x7d" (dotFlags false) =
    .error .repeatTooLarge := by
  cbv

/-- The text is an expression, and there is no pattern for it. -/
theorem not_make_of_large_count :
    ¬∀ (e : Expr) (source : String), e.WrittenAs source → Text.isBlankText source = false →
      ∀ dotAll, ∃ p, make source (dotFlags dotAll) = .ok p ∧
        ∀ path : String, p.isMatch path = true ↔ path.toList ∈ e.language dotAll := by
  intro h
  obtain ⟨p, hp, -⟩ := h _ _ hugeCount_writtenAs (by decide +kernel) false
  obtain ⟨hsource, hflags⟩ := eq_of_make hp
  have hc := p.compiled
  rw [hsource, hflags, compile_hugeCount] at hc
  cases hc

end PathPattern

end PathPolicy
