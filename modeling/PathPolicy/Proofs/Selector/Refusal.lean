import PathPolicy.Proofs.Regex.Faults
import PathPolicy.Proofs.Selector
import PathPolicy.Schema.Builder

/-! What becomes of a text as a pattern. It makes one, or is refused as an invalid argument, unless
it asks for too much, there is no room for it or its flags are not in order; that alone is a
fault. -/

namespace PathPolicy

open Regex

/-- Something was made, or a definition was refused as an invalid argument. -/
def MadeOrRefused {α : Type} (x : Except Failure α) : Prop :=
  (∃ a, x = .ok a) ∨ ∃ d, x = .error (.definition d) ∧ d.code = .invalidArgument

variable {α β : Type} {x : Except Failure α} {f : Regex.Fault} {source : String} {w : Flags}

theorem MadeOrRefused.map (h : MadeOrRefused x) (g : α → β) : MadeOrRefused (x.map g) := by
  rcases h with ⟨a, rfl⟩ | ⟨d, rfl, hd⟩
  · exact .inl ⟨g a, rfl⟩
  · exact .inr ⟨d, rfl, hd⟩

theorem not_madeOrRefused_fault {fault : Fault} :
    ¬MadeOrRefused (.error (.fault fault) : Except Failure α) := by
  rintro (⟨a, ha⟩ | ⟨d, hd, -⟩)
  · cases ha
  · cases hd

namespace PathPattern

section

variable [Host]

/-- Why a text under flags makes no pattern although it is not malformed. -/
inductive Cause (source : String) (w : Flags) : Regex.Fault → Prop
  | room : Host.hasRoom .pattern source w = false → Cause source w .tooDeep
  | text {f : Regex.Fault} : Regex.Cause source w f → Cause source w f

theorem make_blank (h : Text.isBlankText source = true) :
    make source w = .error (.definition (.blankText .pattern (.str source))) := by
  unfold make
  rw [dif_neg (by simp [h])]

theorem make_malformed {reason : Malformed} (hb : Text.isBlankText source = false)
    (hc : Host.compile .pattern source w = .error (.malformed reason)) :
    make source w = .error (.definition (.invalidPattern source reason)) := by
  unfold make
  rw [dif_pos hb]
  split
  · next program h => cases h.symm.trans hc
  · next other h =>
    cases h.symm.trans hc
    rfl
  · next fault hother h => exact absurd (Except.error.inj (h.symm.trans hc)) (hother reason)

theorem make_fault (hb : Text.isBlankText source = false)
    (hc : Host.compile .pattern source w = .error f) (hf : ∀ reason, f ≠ .malformed reason) : make source w = .error (.fault (.pattern f)) := by
  unfold make
  rw [dif_pos hb]
  split
  · next program h => cases h.symm.trans hc
  · next reason h => exact absurd (Except.error.inj (hc.symm.trans h)) (hf reason)
  · next fault _ h =>
    cases h.symm.trans hc
    rfl

theorem cause_of_compile (h : Host.compile .pattern source w = .error f) :
    (∃ reason, f = .malformed reason) ∨ Cause source w f := by
  unfold Host.compile at h
  split at h
  · exact (Regex.cause_of_compile h).imp_right .text
  · next hroom =>
    cases h
    exact .inr (.room (by simpa using hroom))

/-- Each way in which making a pattern ends. -/
theorem make_cases (source : String) (w : Flags) :
    MadeOrRefused (make source w) ∨
      ∃ f, Cause source w f ∧ make source w = .error (.fault (.pattern f)) := by
  by_cases hb : Text.isBlankText source = true
  · exact .inl (.inr ⟨_, make_blank hb, rfl⟩)
  rw [Bool.not_eq_true] at hb
  cases hc : Host.compile .pattern source w with
  | ok program => exact .inl (.inl ⟨_, make_of_compile hb hc⟩)
  | error f =>
    by_cases hf : ∃ reason, f = .malformed reason
    · obtain ⟨reason, rfl⟩ := hf
      exact .inl (.inr ⟨_, make_malformed hb hc, rfl⟩)
    · have hcause := (cause_of_compile hc).resolve_left hf
      exact .inr ⟨f, hcause, make_fault hb hc fun reason hreason => hf ⟨reason, hreason⟩⟩

/-- Of a text that is right the room and the flags decide. -/
theorem madeOrRefused_iff {v : Flags} {p : Program} (hb : Text.isBlankText source = false)
    (hc : Regex.compile source v = .ok p) (hv : v.has .verbose = w.has .verbose)
    (htemplate : v.has .template = w.has .template) : MadeOrRefused (make source w) ↔
      Host.hasRoom .pattern source w = true ∧ w.InOrder source := by
  rw [← exists_compile_iff hc hv htemplate]
  constructor
  · intro h
    cases hw : Host.compile .pattern source w with
    | ok q =>
      obtain ⟨hroom, hq⟩ := Host.compile_eq_ok_iff.1 hw
      exact ⟨hroom, q, hq⟩
    | error f =>
      have hf (reason : Malformed) : f ≠ .malformed reason := by
        rintro rfl
        unfold Host.compile at hw
        split at hw
        · exact compile_ne_malformed hc hv htemplate reason hw
        · cases hw
      rw [make_fault hb hw hf] at h
      exact absurd h not_madeOrRefused_fault
  · rintro ⟨hroom, q, hq⟩
    exact .inl ⟨_, make_of_compile hb (Host.compile_eq_ok_iff.2 ⟨hroom, hq⟩)⟩

/-- A builder for the pattern that a text makes under flags. -/
def build (source : String) (w : Flags) : Except Failure Schema.Builder := do
  let p ← make source w
  Schema.Builder.start .null (some (.pattern p))

/-- A builder for a text that is given as a pattern. -/
def buildText (source : String) : Except Failure Schema.Builder :=
  Schema.Builder.start .null (some (.value (.str source)))

theorem build_eq_map (source : String) (w : Flags) :
    build source w = (make source w).map ({ selector := .pattern · }) := by
  unfold build
  cases make source w <;> rfl

theorem buildText_eq_build (source : String) : buildText source = build source 0 := by
  rw [build_eq_map]
  show ((make source 0).map Selector.pattern).map _ = _
  cases make source 0 <;> rfl

/-- A text makes a pattern and a builder for it or is refused as an invalid argument, unless there
is a cause that it cannot be used, and then both end in that fault. Of a text that is right this is
so if and only if there is room for it and the flags are in order. -/
theorem make_or_cause (source : String) (w : Flags) :
    (MadeOrRefused (make source w) ∧ MadeOrRefused (build source w) ∨
      ∃ f, Cause source w f ∧ make source w = .error (.fault (.pattern f)) ∧
        build source w = .error (.fault (.pattern f))) ∧
      (MadeOrRefused (buildText source) ∨
        ∃ f, Cause source 0 f ∧ buildText source = .error (.fault (.pattern f))) ∧
      ∀ v p, Text.isBlankText source = false → Regex.compile source v = .ok p →
        v.has .verbose = w.has .verbose → v.has .template = w.has .template →
          (MadeOrRefused (make source w) ↔
            Host.hasRoom .pattern source w = true ∧ w.InOrder source) := by
  have hboth (w : Flags) : MadeOrRefused (make source w) ∧ MadeOrRefused (build source w) ∨
      ∃ f, Cause source w f ∧ make source w = .error (.fault (.pattern f)) ∧
        build source w = .error (.fault (.pattern f)) := by
    rw [build_eq_map]
    rcases make_cases source w with hmade | ⟨f, hcause, hf⟩
    · exact .inl ⟨hmade, hmade.map _⟩
    · exact .inr ⟨f, hcause, hf, by rw [hf]; rfl⟩
  refine ⟨hboth w, ?_, fun v p hb hc hv ht => madeOrRefused_iff hb hc hv ht⟩
  rw [buildText_eq_build]
  exact (hboth 0).imp And.right fun ⟨f, hcause, _, hf⟩ => ⟨f, hcause, hf⟩

end

/-- Under one flag the text is a pattern, and under two alphabets it is a fault. -/
theorem make_or_cause_alphabets :
    let p : Program := ⟨32, 0, .cat (.char 0x2F) (.char 0x61)⟩
    (Text.isBlankText "/a" = false ∧ Regex.compile "/a" 0 = .ok p) ∧
      MadeOrRefused (make "/a" 2) ∧ ¬MadeOrRefused (make "/a" 288) := by
  intro p
  have hblank : Text.isBlankText "/a" = false := by decide
  have hcompile : Regex.compile "/a" 0 = .ok p := by decide +kernel
  have hflags : globalFlags false "/a".toList = [] := by cbv
  obtain ⟨-, -, hgood⟩ := make_or_cause "/a" 2
  obtain ⟨-, -, hbad⟩ := make_or_cause "/a" 288
  refine ⟨⟨hblank, hcompile⟩, (hgood 0 p hblank hcompile rfl rfl).2 ?_, fun h => ?_⟩
  · refine ⟨by decide +kernel, rfl, ?_, rfl⟩
    rw [show Flags.has 2 .verbose = false from rfl, hflags]
    decide
  · have horder := ((hbad 0 p hblank hcompile rfl rfl).1 h).2.alphabets
    rw [show Flags.has 288 .verbose = false from rfl, hflags] at horder
    exact horder ⟨rfl, rfl⟩

/-- The flag for the locale is no flag for a text, and the pattern is not refused for it. -/
theorem not_madeOrRefused_locale : ¬∀ source w, MadeOrRefused (make source w) := by
  intro h
  have hcompile : Host.compile .pattern "/a" 4 = .error .localeFlag := by decide +kernel
  have hfault := make_fault (by decide) hcompile (by simp)
  have hmade := h "/a" 4
  rw [hfault] at hmade
  exact not_madeOrRefused_fault hmade

end PathPattern

end PathPolicy
