import PathPolicy.Schema

/-! A shelf holds schemas under keys that are read off their selectors, in the order in
which the keys came. A schema put under a key that is taken stands in the old place. -/

namespace PathPolicy

variable [Host]

namespace Selector

/-- The key of a schema for one path. -/
def path? : Selector → Option String
  | exact e => some e.path
  | pattern _ => none

/-- The key of a schema for a pattern. -/
def pattern? : Selector → Option PathPattern
  | exact _ => none
  | pattern p => some p

end Selector

variable {κ : Type} [DecidableEq κ]

/-- Every schema stands under the key of its own selector, and no key is there twice. -/
structure Shelf (key? : Selector → Option κ) where
  slots : List (κ × Schema) := []
  keyed : ∀ e ∈ slots, key? e.2.selector = some e.1 := by simp
  nodup : (slots.map (·.1)).Nodup := by simp

namespace Shelf

/-- A key that is there keeps its place and takes the new schema. -/
def putIn (k : κ) (s : Schema) : List (κ × Schema) → List (κ × Schema)
  | [] => [(k, s)]
  | e :: rest => if e.1 = k then (e.1, s) :: rest else e :: putIn k s rest

def removeFrom (k : κ) (slots : List (κ × Schema)) : List (κ × Schema) := slots.eraseP (·.1 = k)

theorem mem_putIn {k : κ} {s : Schema} {slots : List (κ × Schema)} {e : κ × Schema}
    (h : e ∈ putIn k s slots) : e = (k, s) ∨ e ∈ slots := by
  induction slots with
  | nil => simpa [putIn] using h
  | cons f rest ih =>
    unfold putIn at h
    split at h
    · next hk =>
      rcases List.mem_cons.1 h with rfl | h
      · exact .inl (by rw [hk])
      · exact .inr (List.mem_cons_of_mem _ h)
    · rcases List.mem_cons.1 h with rfl | h
      · exact .inr (List.mem_cons_self ..)
      · exact (ih h).imp id (List.mem_cons_of_mem _)

theorem keys_putIn (k : κ) (s : Schema) (slots : List (κ × Schema)) :
    (putIn k s slots).map (·.1) =
      if k ∈ slots.map (·.1) then slots.map (·.1) else slots.map (·.1) ++ [k] := by
  induction slots with
  | nil => simp [putIn]
  | cons e rest ih =>
    unfold putIn
    by_cases hk : e.1 = k
    · simp [hk]
    · have hk' : ¬k = e.1 := fun h => hk h.symm
      rw [if_neg hk, List.map_cons, ih]
      by_cases hm : k ∈ rest.map (·.1)
      · rw [if_pos hm, if_pos (by simpa using Or.inr hm), List.map_cons]
      · rw [if_neg hm, if_neg (by simpa [hk'] using hm), List.map_cons, List.cons_append]

theorem nodup_putIn {k : κ} {s : Schema} {slots : List (κ × Schema)}
    (h : (slots.map (·.1)).Nodup) : ((putIn k s slots).map (·.1)).Nodup := by
  rw [keys_putIn]
  split
  · exact h
  · next hk =>
    refine List.nodup_append.2 ⟨h, by simp, fun a ha b hb => ?_⟩
    rw [List.mem_singleton.1 hb]
    exact fun he => hk (he ▸ ha)

variable {key? : Selector → Option κ}

def keys (l : Shelf key?) : List κ := l.slots.map (·.1)

def schemas (l : Shelf key?) : List Schema := l.slots.map (·.2)

def size (l : Shelf key?) : Nat := l.slots.length

def isEmpty (l : Shelf key?) : Bool := l.slots.isEmpty

def get? (l : Shelf key?) (k : κ) : Option Schema := (l.slots.find? (·.1 = k)).map (·.2)

def put (l : Shelf key?) (k : κ) (s : Schema) (h : key? s.selector = some k) : Shelf key? where
  slots := putIn k s l.slots
  keyed := fun e he => (mem_putIn he).elim (fun he => he ▸ h) (l.keyed e)
  nodup := nodup_putIn l.nodup

def remove (l : Shelf key?) (k : κ) : Shelf key? where
  slots := removeFrom k l.slots
  keyed := fun e he => l.keyed e (List.mem_of_mem_eraseP he)
  nodup := l.nodup.sublist (List.eraseP_sublist.map _)

end Shelf

end PathPolicy
