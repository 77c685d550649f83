import PathPolicy.Proofs.Regex.OtherFlags
import PathPolicy.Proofs.Registry.Order
import PathPolicy.Proofs.Selector.Compiled
import PathPolicy.Proofs.Schema.Built

/-! Schemas that are one entry. A pattern given as text and the same text compiled beforehand make
one schema if and only if the text turns on no flag for the whole of itself but the usual
alphabet: the compiled one reports such flags, and they count as given. -/

namespace PathPolicy

open Regex

/-- The flags that a compiled expression is taken with. -/
theorem Expression.flags_eq_zero_iff [CharacterNames] {source : String} {p : Program}
    (h : Regex.compile source 0 = .ok p) : (Flags.known p.flags).remove .unicode = 0 ↔
      ∀ f ∈ globalFlags false source.toList, f = .unicode := by
  have hsettle : (Flags.addAll 0 (globalFlags false source.toList)).settle = .ok p.flags :=
    settle_of_compile h
  constructor
  · intro hzero f hf
    by_contra hne
    have hon : Flags.has p.flags f = true :=
      Flags.has_of_settle hsettle (Flags.has_addAll.2 (.inr hf))
    have hleft : ((Flags.known p.flags).remove .unicode).has f = true :=
      Flags.has_remove.2 ⟨by rwa [Flags.has_known], hne⟩
    rw [hzero] at hleft
    revert hleft
    cases f <;> decide
  · intro hall
    rw [Flags.settle_addAll_unicode hall] at hsettle
    rw [← Except.ok.inj hsettle]
    rfl

namespace Roster

variable [Host] {l : Roster} {s t : Schema}

/-- Of two schemas with one selector the later one is left, in the place of the earlier. -/
theorem enter_enter (h : t.selector = s.selector) : (l.enter s).enter t = l.enter t := by
  have hhas : (l.enter s).has t.selector = true := by
    rw [h, has_enter]
    simp
  have hmap : (fun u : Schema => if u.selector = t.selector then t else u) ∘
      (fun u => if u.selector = s.selector then s else u) =
        fun u => if u.selector = t.selector then t else u := by
    funext u
    by_cases hu : u.selector = s.selector <;> simp [hu, h]
  rw [enter, if_pos hhas]
  by_cases hs : l.has s.selector = true
  · rw [enter, if_pos hs, List.map_map, hmap, enter, if_pos (by rwa [h])]
  · rw [enter, if_neg hs, List.map_append, enter, if_neg (by rwa [h])]
    rw [Bool.not_eq_true, ← h] at hs
    rw [replace_eq_self hs]
    simp [h]

end Roster

namespace Schema

section

variable [Host]

/-- Registered later, the schema stands for the other one: nothing tells that that one was ever
registered, and there is one entry for both. -/
structure Replaces (t s : Schema) : Prop where
  schemas : ∀ r : Registry, ((r.register s).register t).schemas = (r.register t).schemas
  count : ∀ fallback, (((Registry.empty fallback).register s).register t).count = 1

/-- Two schemas are one to every comparison and every registry. -/
structure Coincides (s t : Schema) : Prop where
  selector : s.selector = t.selector
  beq : s == t
  hash : hash s = hash t
  replaced : t.Replaces s
  replaces : s.Replaces t

/-- Two schemas are two to every comparison, and two entries. -/
structure Apart (s t : Schema) : Prop where
  selector : s.selector ≠ t.selector
  beq : (s == t) = false
  count : ∀ fallback, (((Registry.empty fallback).register s).register t).count = 2

variable {s t : Schema} {given : PathPattern.Given} {d : String} {p : PathPattern}

theorem replaces_of_selector (h : t.selector = s.selector) : t.Replaces s where
  schemas r := by
    have hboth := ((r.represents_schemas.register s).register t).shows.schemas
    rw [Roster.enter_enter h] at hboth
    rw [hboth, (r.represents_schemas.register t).shows.schemas]
  count fallback := by
    have hboth := (((Registry.Represents.empty fallback).register s).register t).shows.count
    rw [Roster.enter_enter h] at hboth
    exact hboth

theorem coincides_of_selector (h : s.selector = t.selector) : s.Coincides t where
  selector := h
  beq := beq_iff.2 h
  hash := LawfulHashable.hash_eq s t (beq_iff.2 h)
  replaced := replaces_of_selector h.symm
  replaces := replaces_of_selector h

theorem apart_of_selector (h : s.selector ≠ t.selector) : s.Apart t where
  selector := h
  beq := Bool.eq_false_iff.2 fun he => h (beq_iff.1 he)
  count fallback := by
    have hboth := (((Registry.Represents.empty fallback).register s).register t).shows.count
    rw [hboth]
    simp [Roster.enter, Roster.has, h]

/-- What is built for a pattern from nothing but a documentation. -/
def ofPattern (given : PathPattern.Given) (d : String) : Except Failure Schema := do
  let b ← Builder.start .null (some given)
  let b ← b.set (.documentation (.str d))
  b.build

/-- The schema for a pattern that has all defaults. -/
def forPattern (p : PathPattern) (d : String) (hd : Text.isBlankText d = false) : Schema where
  selector := .pattern p
  documentation := d
  documented := hd
  validator := .acceptAll
  ephemeral := .can
  sequential := .can
  watched := .can
  canBeDeleted := true
  name := .str p.source
  metadata := []

theorem ofPattern_eq (hd : Text.isBlankText d = false) :
    ofPattern given d = (PathPattern.ofGiven given).map (forPattern · d hd) := by
  have hchoose : Selector.choose .null (some given) =
      (PathPattern.ofGiven given).map .pattern := rfl
  rw [ofPattern, Builder.start, hchoose]
  cases PathPattern.ofGiven given with
  | error e => rfl
  | ok p =>
    have hdocumentation : Draft.checkDocumentation (.str d) p.source = .ok ⟨d, hd⟩ := dif_pos hd
    have hbuild : Builder.build { selector := .pattern p, documentation := .str d } =
        .ok (forPattern p d hd) := by
      have hdraft := Entry.draft_build_eq { selector := .pattern p, documentation := .str d }
      simp only [Selector.raw, hdocumentation] at hdraft
      exact hdraft
    show (liftM (Builder.build _) : Except Failure Schema) = _
    rw [hbuild]
    rfl

theorem ofPattern_eq_ok_iff (hd : Text.isBlankText d = false) :
    ofPattern given d = .ok s ↔ ∃ p, PathPattern.ofGiven given = .ok p ∧ s = forPattern p d hd := by
  rw [ofPattern_eq hd]
  cases PathPattern.ofGiven given with
  | error e => simp [Except.map]
  | ok p => simp [Except.map, eq_comm]

/-- Where there is room for the text under both flags, a pattern given as text and the same text
compiled make schemas that coincide, if the text turns on no flag for the whole of itself but the
usual alphabet, and are two entries else. -/
theorem coincides_compiled_iff {source d : String} {e : Expression}
    (hsource : Text.isBlankText source = false) (hd : Text.isBlankText d = false)
    (he : Expression.make source 0 = .ok e) (hroom : Host.hasRoom .pattern source 0 = true)
    (hown : Host.hasRoom .pattern source ((Flags.known e.program.flags).remove .unicode) = true) :
    ∃ s t, ofPattern (.value (.str source)) d = .ok s ∧ ofPattern (.expression e) d = .ok t ∧
      (s.Coincides t ↔ ∀ f ∈ globalFlags false source.toList, f = .unicode) ∧
      (s.Apart t ↔ ∃ f ∈ globalFlags false source.toList, f ≠ .unicode) := by
  have hcompile := Expression.compile_of_make he
  obtain rfl := (Expression.make_eq_ok_iff.1 he).1
  have hc := (Host.compile_of_room hroom).trans hcompile
  have hagain := (Host.compile_of_room hown).trans (compile_again hcompile)
  refine ⟨forPattern ⟨e.source, _, e.program, hsource, hc⟩ d hd,
    forPattern ⟨e.source, _, e.program, hsource, hagain⟩ d hd,
    (ofPattern_eq_ok_iff hd).2 ⟨_, PathPattern.make_of_compile hsource hc, rfl⟩,
    (ofPattern_eq_ok_iff hd).2 ⟨_, PathPattern.make_of_compile hsource hagain, rfl⟩, ?_⟩
  -- the two differ in nothing but the flags that come with the compiled text
  have hselector : (forPattern ⟨e.source, _, e.program, hsource, hc⟩ d hd).selector =
      (forPattern ⟨e.source, _, e.program, hsource, hagain⟩ d hd).selector ↔
        ∀ f ∈ globalFlags false e.source.toList, f = .unicode := by
    rw [← Expression.flags_eq_zero_iff hcompile]
    exact ⟨fun h => (congrArg Selector.flags h).symm, fun h => by simp [forPattern, h]⟩
  refine ⟨⟨fun h => hselector.1 h.selector, fun h => coincides_of_selector (hselector.2 h)⟩, ?_⟩
  constructor
  · intro h
    by_contra hnone
    push Not at hnone
    exact h.selector (hselector.2 hnone)
  · rintro ⟨f, hf, hne⟩
    exact apart_of_selector fun hsame => hne (hselector.1 hsame f hf)

end

/-- A comment and the usual alphabet change nothing. -/
theorem coincides_compiled_usualAlphabet :
    let e : Expression := ⟨"(?#!)(?u)/a", ⟨32, 0, .cat (.char 0x2F) (.char 0x61)⟩⟩
    (Text.isBlankText e.source = false ∧ Text.isBlankText "d" = false ∧
        Expression.make e.source 0 = .ok e) ∧
      ∃ s t, ofPattern (.value (.str e.source)) "d" = .ok s ∧
        ofPattern (.expression e) "d" = .ok t ∧ s.Coincides t := by
  intro e
  have hblank : Text.isBlankText e.source = false := by decide
  have hd : Text.isBlankText "d" = false := by decide
  have hcompile : Host.compile .caller e.source 0 = .ok e.program := by decide +kernel
  have hmake : Expression.make e.source 0 = .ok e := Expression.make_eq_ok_iff.2 ⟨rfl, hcompile⟩
  have hall : ∀ f ∈ globalFlags false e.source.toList, f = .unicode := by
    have hflags : globalFlags false e.source.toList = [.unicode] := by cbv
    simp [hflags]
  obtain ⟨s, t, hs, ht, hiff, -⟩ := coincides_compiled_iff hblank hd hmake (by decide +kernel)
    (by decide +kernel)
  exact ⟨⟨hblank, hd, hmake⟩, s, t, hs, ht, hiff.2 hall⟩

/-- One text, two entries: the flag that it turns on counts as given where it was compiled. -/
theorem not_coincides_anyCase :
    let e : Expression := ⟨"(?i)/a", ⟨34, 0, .cat (.char 0x2F) (.char 0x61)⟩⟩
    ∃ s t, Expression.make "(?i)/a" 0 = .ok e ∧
      ofPattern (.value (.str "(?i)/a")) "d" = .ok s ∧ ofPattern (.expression e) "d" = .ok t ∧
      ¬s.Coincides t ∧ s.Apart t := by
  intro e
  have hblank : Text.isBlankText "(?i)/a" = false := by decide
  have hd : Text.isBlankText "d" = false := by decide
  have hcompile : Host.compile .caller "(?i)/a" 0 = .ok e.program := by decide +kernel
  have hmake : Expression.make "(?i)/a" 0 = .ok e := Expression.make_eq_ok_iff.2 ⟨rfl, hcompile⟩
  have hplain : Host.compile .pattern "(?i)/a" 0 = .ok e.program := by decide +kernel
  have hagain : Host.compile .pattern "(?i)/a" 2 = .ok e.program := by decide +kernel
  have hne : (forPattern ⟨"(?i)/a", 0, e.program, hblank, hplain⟩ "d" hd).selector ≠
      (forPattern ⟨"(?i)/a", 2, e.program, hblank, hagain⟩ "d" hd).selector := fun h =>
    absurd (show (0 : Flags) = 2 from congrArg Selector.flags h) (by decide)
  exact ⟨_, _, hmake,
    (ofPattern_eq_ok_iff hd).2 ⟨_, PathPattern.make_of_compile hblank hplain, rfl⟩,
    (ofPattern_eq_ok_iff hd).2 ⟨_, PathPattern.make_of_compile hblank hagain, rfl⟩,
    fun h => hne h.selector, apart_of_selector hne⟩

end Schema

end PathPolicy
