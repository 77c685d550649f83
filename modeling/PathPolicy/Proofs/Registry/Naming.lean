import PathPolicy.Proofs.Registry.Order
import PathPolicy.Proofs.PolicyFile.Start
import Mathlib.Data.List.Pairwise

/-! Names of schemas. A registry looks for a name among the exact schemas first and then among the
patterns, and a set in the order of its file; where no two schemas share a name both find the same
one, and schemas with other selectors and other names do not come between. -/

namespace PathPolicy

/-- The schemas share neither their selector nor their name. -/
structure Schema.Unrelated [Host] (s t : Schema) : Prop where
  selector : s.selector ≠ t.selector
  name : s.name.same t.name = false

namespace Roster

variable [Host] {l : Roster} {schemas : List Schema} {s : Schema} {p : Schema → Bool}

/-- A schema that is not looked for, and replaces none that is, does not change what is found. -/
theorem find?_enter_of_not (hs : p s = false)
    (hl : ∀ t ∈ l, t.selector = s.selector → p t = false) : (l.enter s).find? p = l.find? p := by
  unfold enter
  split
  · have hkept : l.find? (p ∘ fun t => if t.selector = s.selector then s else t) = l.find? p := by
      refine List.find?_congr fun t ht => ?_
      rw [Function.comp_apply]
      split
      · next he => rw [hs, hl t ht he]
      · rfl
    rw [List.find?_map, hkept]
    cases hfound : l.find? p with
    | none => rfl
    | some t =>
      have ht : t.selector ≠ s.selector := fun he => by
        simpa [hl t (List.mem_of_find?_eq_some hfound) he] using List.find?_some hfound
      rw [Option.map_some, if_neg ht]
  · rw [List.find?_append, List.find?_singleton, hs]
    exact Option.or_none

theorem find?_enterAll_of_not (hs : ∀ s ∈ schemas, p s = false)
    (hl : ∀ s ∈ schemas, ∀ t ∈ l, t.selector = s.selector → p t = false) :
    (schemas.foldl enter l).find? p = l.find? p := by
  induction schemas generalizing l with
  | nil => rfl
  | cons s rest ih =>
    obtain ⟨hone, hrest⟩ := List.forall_mem_cons.1 hs
    obtain ⟨hold, hlrest⟩ := List.forall_mem_cons.1 hl
    rw [List.foldl_cons, ih hrest, find?_enter_of_not hone hold]
    -- what the rest replaces was there before, or is the schema that has just come
    intro u hu t ht he
    rcases mem_enter ht with rfl | ⟨ht, -⟩
    · exact hone
    · exact hlrest u hu t ht he

theorem enterAll_nil (h : Distinct schemas) : schemas.foldl enter [] = schemas := by
  rw [enterAll_eq [] h]
  simp [has]

end Roster

namespace Registry

section

variable [Host] {r : Registry} {l : Roster}

/-- Names are looked for among the exact entries, then among the pattern entries. -/
theorem Represents.named? (h : r.Represents l) (name : Value) : r.named? name =
    (l.find? fun s => s.isExact && s.name.same name).or
      (l.find? fun s => !s.isExact && s.name.same name) := by
  simp only [Registry.named?, h.shows.schemas, List.find?_append, List.find?_filter,
    Bool.decide_and, Bool.decide_eq_true]

theorem Represents.perm (h : r.Represents l) : r.schemas.Perm l := by
  rw [h.shows.schemas]
  exact List.filter_append_perm (·.isExact) l

theorem subsingleton_name {schemas : List Schema} (h : schemas.Pairwise Schema.Unrelated)
    (n : String) : {s ∈ schemas | s.name.same (.str n)}.Subsingleton := by
  have hnames : schemas.Pairwise fun s t => s.name = .str n → t.name ≠ .str n := by
    refine h.imp fun {s t} hst hs ht => ?_
    have hsame : s.name.same t.name = true := by rw [hs, ht, Value.same_str_iff]
    simp [hst.name] at hsame
  have hsymm : Std.Symm fun s t : Schema => s.name = .str n → t.name ≠ .str n :=
    ⟨fun _ _ hst ht hs => hst hs ht⟩
  rintro s ⟨hs, hsn⟩ t ⟨ht, htn⟩
  by_contra hne
  exact List.Pairwise.forall hnames hs ht hne (Value.same_str_iff.1 hsn) (Value.same_str_iff.1 htn)

/-- A set whose schemas share neither selectors nor names finds under every name what the registry
finds that it was loaded into, and schemas that share none with it change nothing of that. -/
theorem named?_registerSet (fallback : Schema) (set : SchemaSet)
    (h : set.schemas.Pairwise Schema.Unrelated) :
    let r := (empty fallback).registerSet set
    (∀ n : String, r.named? (.str n) = set.find? (.str n)) ∧
      ∀ later : List Schema, (∀ t ∈ later, ∀ s ∈ set.schemas, t.Unrelated s) →
        ∀ s ∈ set.schemas, (r.registerAll later).named? s.name = r.named? s.name := by
  intro r
  have hrep : r.Represents set.schemas := by
    have hdistinct : Roster.Distinct set.schemas := h.imp fun hst => hst.selector
    have hall := (Represents.empty fallback).registerAll set.schemas
    rwa [Roster.enterAll_nil hdistinct] at hall
  refine ⟨fun n => ?_, fun later hlater s hs => ?_⟩
  · exact (List.find?_eq_find?_of_perm hrep.perm.symm (subsingleton_name h n)).symm
  · have hkept (q : Schema → Bool) :
        (later.foldl Roster.enter set.schemas).find? (fun t => q t && t.name.same s.name) =
          set.schemas.find? fun t => q t && t.name.same s.name := by
      refine Roster.find?_enterAll_of_not (fun t ht => ?_) fun t ht u hu he => ?_
      · rw [(hlater t ht s hs).name, Bool.and_false]
      · exact absurd he.symm (hlater t ht u hu).selector
    rw [(hrep.registerAll later).named?, hrep.named?, hkept, hkept (!·.isExact)]

end

/-- A pattern before an exact path in the file, and an exact path that comes later. -/
theorem named?_registerSet_patternFirst :
    let pattern := { permitting (.pattern oneSign) with name := .str "signs" }
    let exact := { permitting (.exact ⟨"/b", by rfl⟩) with name := .str "/b" }
    let other := { permitting (.exact ⟨"/c", by rfl⟩) with name := .str "/c" }
    let set : SchemaSet := { name := .str "s", schemas := [pattern, exact] }
    let r := (empty DefaultMode.strict.schema).registerSet set
    (set.schemas.Pairwise Schema.Unrelated ∧ ∀ t ∈ [other], ∀ s ∈ set.schemas, t.Unrelated s) ∧
      r.named? (.str "signs") = some pattern ∧ r.named? (.str "/c") = none ∧
      (r.registerAll [other]).named? (.str "signs") = r.named? (.str "signs") := by
  intro pattern exact other set r
  have hnames {m n : String} (h : m ≠ n) : (Value.str m).same (.str n) = false := by
    rw [← Bool.not_eq_true, Value.same_str_iff]
    exact fun he => h (Value.str.inj he)
  have hapart : set.schemas.Pairwise Schema.Unrelated := by
    simpa [set] using ⟨by decide, hnames (by decide)⟩
  have hother : ∀ t ∈ [other], ∀ s ∈ set.schemas, t.Unrelated s := by
    simpa [set] using ⟨⟨by decide, hnames (by decide)⟩, ⟨by decide, hnames (by decide)⟩⟩
  obtain ⟨hfind, hkept⟩ := named?_registerSet DefaultMode.strict.schema set hapart
  have hin : pattern ∈ set.schemas := List.mem_cons_self ..
  refine ⟨⟨hapart, hother⟩, ?_, ?_, hkept [other] hother pattern hin⟩
  · rw [hfind]
    simp [SchemaSet.find?, set, pattern, Value.same_str_iff]
  · rw [hfind]
    simp [SchemaSet.find?, set, pattern, exact, Value.same_str_iff]

end Registry

end PathPolicy
