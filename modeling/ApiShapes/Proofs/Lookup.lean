/-!
# Lookup in a list of entries

The keys of the entries decide what is found: a list without the key has nothing for it, and the
first entry with the key is the one that counts.
-/

namespace ApiShapes

variable {κ ν : Type} [BEq κ] [LawfulBEq κ]

/-- The first entry is found under its own key, and hides what is behind it. -/
theorem lookup_cons_eq_ite [DecidableEq κ] (key other : κ) (value : ν) (entries : List (κ × ν)) :
    ((other, value) :: entries).lookup key =
      if key = other then some value else entries.lookup key := by
  rw [List.lookup_cons]
  by_cases same : key = other
  · rw [beq_iff_eq.mpr same, if_pos same]
  · rw [beq_false_of_ne same, if_neg same]

variable {key : κ} {entries : List (κ × ν)}

/-- Nothing is found under a key that no entry has. -/
theorem lookup_eq_none (missing : key ∉ entries.map (·.1)) : entries.lookup key = none := by
  rw [List.lookup_eq_none_iff]
  intro entry member
  refine bne_iff_ne.mpr ?_
  rintro rfl
  exact missing (List.mem_map_of_mem member)

/-- Where the entries in front have other keys, the value in the middle is found. -/
theorem lookup_middle
    (missing : key ∉ entries.map (·.1)) (value : ν) (behind : List (κ × ν)) :
    (entries ++ (key, value) :: behind).lookup key = some value := by
  rw [List.lookup_append, lookup_eq_none missing, Option.none_or, List.lookup_cons_self]

end ApiShapes
