/-!
# Association lists sorted by key

Objects, registries and configuration sections are lists of key and value in
ascending key order, each key once. `insert` keeps that order and overwrites
the value of a key that is already there, so the last writer wins.
-/

namespace TreeSchema.Assoc

variable {β : Type}

def insert (key : String) (value : β) : List (String × β) → List (String × β)
  | [] => [(key, value)]
  | (other, kept) :: rest =>
    if key < other then (key, value) :: (other, kept) :: rest
    else if key = other then (key, value) :: rest
    else (other, kept) :: insert key value rest

/-- Later pairs overwrite earlier ones. -/
def ofList (pairs : List (String × β)) : List (String × β) :=
  pairs.foldl (fun entries pair => insert pair.1 pair.2 entries) []

def contains (entries : List (String × β)) (key : String) : Bool := (entries.lookup key).isSome

def keys (entries : List (String × β)) : List String := entries.map Prod.fst

def Sorted (entries : List (String × β)) : Prop := entries.Pairwise (·.1 < ·.1)

theorem lookup_insert (key other : String) (value : β) (entries : List (String × β)) :
    (insert key value entries).lookup other =
      if other = key then some value else entries.lookup other := by
  induction entries with
  | nil => by_cases h : other = key <;> simp [insert, List.lookup_cons, h, beq_eq_false_iff_ne.mpr]
  | cons entry rest ih =>
    obtain ⟨name, kept⟩ := entry
    unfold insert
    by_cases hlt : key < name
    · by_cases h : other = key <;> simp [hlt, List.lookup_cons, h, beq_eq_false_iff_ne.mpr]
    · by_cases heq : key = name
      · subst heq
        by_cases h : other = key <;> simp [List.lookup_cons, h, beq_eq_false_iff_ne.mpr]
      · simp only [hlt, heq, if_false, List.lookup_cons]
        by_cases hname : other = name
        · subst hname
          have : other ≠ key := fun h => heq h.symm
          simp [this]
        · simp [beq_eq_false_iff_ne.mpr hname, ih]

theorem key_lt_of_not_lt {a b : String} (h : ¬a < b) (hne : a ≠ b) : b < a := by
  by_cases hlt : b < a
  · exact hlt
  · exact absurd (String.le_antisymm (String.not_lt.mp hlt) (String.not_lt.mp h)) hne

theorem mem_insert {key : String} {value : β} {entries : List (String × β)}
    {entry : String × β} (h : entry ∈ insert key value entries) :
    entry = (key, value) ∨ entry ∈ entries := by
  induction entries with
  | nil => simpa [insert] using h
  | cons other rest ih =>
    obtain ⟨name, kept⟩ := other
    unfold insert at h
    split at h
    · simpa using h
    · split at h
      · rcases List.mem_cons.mp h with rfl | h
        · exact .inl rfl
        · exact .inr (List.mem_cons_of_mem _ h)
      · rcases List.mem_cons.mp h with rfl | h
        · exact .inr List.mem_cons_self
        · exact (ih h).imp id (List.mem_cons_of_mem _)

theorem sorted_insert (key : String) (value : β) {entries : List (String × β)}
    (h : Sorted entries) : Sorted (insert key value entries) := by
  induction entries with
  | nil => simp [Sorted, insert]
  | cons entry rest ih =>
    obtain ⟨name, kept⟩ := entry
    obtain ⟨hhead, htail⟩ := List.pairwise_cons.mp h
    unfold insert
    split
    · rename_i hlt
      refine List.pairwise_cons.mpr ⟨fun entry hmem => ?_, h⟩
      rcases List.mem_cons.mp hmem with rfl | hmem
      · exact hlt
      · exact String.lt_trans hlt (hhead entry hmem)
    · rename_i hnot
      split
      · rename_i heq
        subst heq
        exact List.pairwise_cons.mpr ⟨hhead, htail⟩
      · rename_i hne
        refine List.pairwise_cons.mpr ⟨fun entry hmem => ?_, ih htail⟩
        rcases mem_insert hmem with rfl | hmem
        · exact key_lt_of_not_lt hnot hne
        · exact hhead entry hmem

end TreeSchema.Assoc
