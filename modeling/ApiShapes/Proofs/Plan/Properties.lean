import ApiShapes.Plan.Properties
import ApiShapes.Proofs.Schema.Content
import Mathlib.Data.List.Find

/-!
# Properties and their definitions

The properties of a class have different names, and each is defined by the last entry with its field
name.  Main statement: a property of the class that entries describe is what the last entry with its
name comes to, as long as no entry is malformed.
-/

namespace ApiShapes

/-- A property whose name is known keeps its position, a new one comes last. -/
theorem Property.map_name_insert (property : Property) (known : List Property) :
    (property.insert known).map (·.name) =
      if property.name ∈ known.map (·.name) then known.map (·.name)
      else known.map (·.name) ++ [property.name] := by
  induction known with
  | nil => simp [Property.insert]
  | cons first others ih =>
      rw [Property.insert]
      split
      · rename_i same
        simp [same]
      · rename_i different
        have notFirst : property.name ≠ first.name := fun equal => different equal.symm
        simp only [List.map_cons, ih, List.mem_cons, notFirst, false_or]
        split <;> rfl

/-- Names that differ go on differing. -/
theorem Property.nodup_insert
    {property : Property} {known : List Property}
    (nodup : (known.map (·.name)).Nodup) :
    ((property.insert known).map (·.name)).Nodup := by
  rw [Property.map_name_insert]
  split
  · exact nodup
  · rename_i isNew
    refine List.nodup_append.mpr ⟨nodup, List.pairwise_singleton _ _, ?_⟩
    intro name member other otherMember equal
    rw [List.mem_singleton.mp otherMember] at equal
    exact isNew (equal ▸ member)

/-- The inserted property replaces the one of its name and leaves the others. -/
theorem Property.mem_insert
    {property member : Property} {known : List Property}
    (nodup : (known.map (·.name)).Nodup)
    (isMember : member ∈ property.insert known) :
    member = property ∨ (member ∈ known ∧ property.name ≠ member.name) := by
  induction known with
  | nil => exact .inl (List.mem_singleton.mp isMember)
  | cons first others ih =>
      rw [List.map_cons, List.nodup_cons] at nodup
      rw [Property.insert] at isMember
      split at isMember
      · rename_i same
        rcases List.mem_cons.mp isMember with isProperty | later
        · exact .inl isProperty
        · refine .inr ⟨List.mem_cons_of_mem first later, ?_⟩
          intro equal
          exact nodup.1 (List.mem_map.mpr ⟨member, later, equal.symm.trans same.symm⟩)
      · rename_i different
        rcases List.mem_cons.mp isMember with rfl | later
        · exact .inr ⟨List.mem_cons_self, fun equal => different equal.symm⟩
        · rcases ih nodup.2 later with isProperty | ⟨old, otherName⟩
          · exact .inl isProperty
          · exact .inr ⟨List.mem_cons_of_mem first old, otherName⟩

/-- A property of a new name comes last. -/
theorem Property.insert_of_notMem
    {property : Property} {known : List Property}
    (isNew : property.name ∉ known.map (·.name)) :
    property.insert known = known ++ [property] := by
  induction known with
  | nil => rfl
  | cons first others ih =>
      rw [List.map_cons, List.mem_cons, not_or] at isNew
      rw [Property.insert, if_neg (Ne.symm isNew.1), ih isNew.2, List.cons_append]

/-- Properties with different names are inserted one behind the other. -/
theorem Property.foldl_insert
    {known properties : List Property}
    (distinct : ((known ++ properties).map (·.name)).Nodup) :
    properties.foldl (fun known property => property.insert known) known =
      known ++ properties := by
  induction properties generalizing known with
  | nil => rw [List.foldl_nil, List.append_nil]
  | cons first others ih =>
      have isNew : first.name ∉ known.map (·.name) := by
        rw [List.map_append, List.map_cons] at distinct
        intro member
        exact (List.nodup_append.mp distinct).2.2 _ member _ List.mem_cons_self rfl
      rw [List.append_cons] at distinct
      rw [List.foldl_cons, Property.insert_of_notMem isNew, ih distinct, ← List.append_cons]

theorem Property.nodup_foldr_insert (latest : List Property) :
    ((latest.foldr Property.insert []).map (·.name)).Nodup := by
  induction latest with
  | nil => exact List.nodup_nil
  | cons first others ih => exact Property.nodup_insert ih

/-- Inserting properties, the first of a list last, keeps of every name the first in the list. -/
theorem Property.mem_foldr_insert
    {latest : List Property} {property : Property}
    (member : property ∈ latest.foldr Property.insert []) :
    latest.find? (·.name = property.name) = some property := by
  induction latest with
  | nil => simp at member
  | cons first others ih =>
      rcases Property.mem_insert (Property.nodup_foldr_insert others) member with
        rfl | ⟨old, otherName⟩
      · simp
      · rw [List.find?_cons_of_neg (by simpa using otherName)]
        exact ih old

/-- The last entry with a field name, which defines the field. -/
def definition? (entries : Entries) (field : String) : Option (String × Node) :=
  entries.reverse.find? fun entry => fieldName entry.1 = field

namespace Plan

/-- The name of a property is made of its key alone. -/
theorem property?_name
    {parent ns key : String} {content : Content} {property : Property}
    (isProperty : property? parent ns key content = some property) :
    property.name = fieldName key := by
  cases content <;> simp only [property?, Option.some.injEq, reduceCtorEq] at isProperty <;>
    rw [← isProperty]

/-- A field that is not malformed gives a property. -/
theorem property?_isSome
    (parent ns key : String) {content : Content}
    (wellFormed : ¬ content.IsMalformed) :
    ∃ property, property? parent ns key content = some property := by
  cases content with
  | malformed place problem => exact absurd trivial wellFormed
  | _ => exact ⟨_, rfl⟩

/-- Where every field has one entry, every entry has its own property. -/
theorem properties_of_nodup
    (parent ns : String) {fields : Fields}
    (distinct : (fields.map fun field => fieldName field.1).Nodup) :
    properties parent ns fields =
      fields.filterMap fun (key, content) => property? parent ns key content := by
  have names : ((fields.filterMap fun (key, content) => property? parent ns key content).map
      (·.name)).Sublist (fields.map fun field => fieldName field.1) := by
    clear distinct
    induction fields with
    | nil => exact .slnil
    | cons field fields ih =>
        rcases field with ⟨key, content⟩
        cases comesTo : property? parent ns key content with
        | none =>
            simp only [List.filterMap_cons, comesTo, List.map_cons]
            exact ih.cons _
        | some property =>
            simp only [List.filterMap_cons, comesTo, List.map_cons, property?_name comesTo]
            exact ih.cons_cons _
  exact Property.foldl_insert (distinct.sublist names)

/-- A property is what the last entry with its field name comes to. -/
theorem mem_properties
    {parent ns : String} {entries : Entries} {property : Property}
    (wellFormed : ∀ entry ∈ entries, ¬ (Content.ofNode entry.2).IsMalformed)
    (member : property ∈ properties parent ns (Content.ofEntries entries)) :
    ∃ key node, definition? entries property.name = some (key, node) ∧
      property? parent ns key (Content.ofNode node) = some property := by
  rw [properties, List.foldl_eq_foldr_reverse, Content.ofEntries_eq_map, List.filterMap_map]
    at member
  have isLatest := Property.mem_foldr_insert member
  rw [← List.filterMap_reverse, List.find?_filterMap, Option.bind_eq_some_iff] at isLatest
  rcases isLatest with ⟨⟨key, node⟩, found, comesTo⟩
  refine ⟨key, node, ?_, comesTo⟩
  rw [definition?, ← found]
  refine List.find?_congr fun entry entryMember => ?_
  obtain ⟨other, otherComesTo⟩ :=
    property?_isSome parent ns entry.1 (wellFormed entry (List.mem_reverse.mp entryMember))
  simp [otherComesTo, property?_name otherComesTo]

end Plan

end ApiShapes
