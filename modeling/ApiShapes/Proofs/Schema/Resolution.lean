import ApiShapes.Proofs.Pointer.Reading
import ApiShapes.Schema.Node

/-!
# The node that a pointer leads to

A pointer is followed from a node inwards, one segment after the other: in a map a segment is a key,
in a list it is a position in decimal digits.  Main statements: pointers put together are followed
one after the other, and in a map with different keys the pointer to an entry leads to its node.
-/

namespace ApiShapes.Node

/-- The item of a list at the position that is written as `segment`. -/
def item? (items : List Node) (segment : String) : Option Node :=
  (items.zipIdx.find? fun item => toString item.2 = segment).map (·.1)

/-- The node inside a map or a list that a segment leads to. -/
def child? (node : Node) (segment : String) : Option Node :=
  match node with
  | map entries => entries.lookup segment
  | list items => item? items segment
  | _ => none

/-- The node that segments lead to, one after the other. -/
def follow? (node : Node) : List String → Option Node
  | [] => some node
  | segment :: segments => (node.child? segment).bind fun inner => inner.follow? segments

/-- The node at the place that the text of a pointer gives. -/
def at? (node : Node) (place : String) : Option Node :=
  (Pointer.read? place).bind fun pointer => node.follow? pointer.segments

mutual

/-- Whether no map in the node has a key twice. -/
def hasDistinctKeys : Node → Bool
  | map entries => decide (entries.map (·.1)).Nodup && entriesHaveDistinctKeys entries
  | list items => itemsHaveDistinctKeys items
  | _ => true

/-- Whether no map in the nodes of some entries has a key twice. -/
def entriesHaveDistinctKeys : Entries → Bool
  | [] => true
  | (_, node) :: entries => node.hasDistinctKeys && entriesHaveDistinctKeys entries

/-- Whether no map in some nodes has a key twice. -/
def itemsHaveDistinctKeys : List Node → Bool
  | [] => true
  | node :: items => node.hasDistinctKeys && itemsHaveDistinctKeys items

end

/-- The text of a pointer leads where the segments of the pointer lead. -/
theorem at?_text (node : Node) (pointer : Pointer) :
    node.at? pointer.text = node.follow? pointer.segments := by
  rw [at?, Pointer.read?_text, Option.bind_some]

/-- Segments in two parts are followed one part after the other. -/
theorem follow?_append (node : Node) (first second : List String) :
    node.follow? (first ++ second) =
      (node.follow? first).bind fun inner => inner.follow? second := by
  induction first generalizing node with
  | nil => rfl
  | cons segment segments ih =>
      rw [List.cons_append, follow?, follow?]
      cases node.child? segment with
      | none => rfl
      | some inner => exact ih inner

/-- From a node that was found, more segments lead on. -/
theorem follow?_within
    {node inner : Node} {first : List String} (found : node.follow? first = some inner)
    (second : List String) :
    node.follow? (first ++ second) = inner.follow? second := by
  rw [follow?_append, found, Option.bind_some]

theorem follow?_of_get? {node inner : Node} {key : String} (found : node.get? key = some inner) :
    node.follow? [key] = some inner := by
  cases node with
  | map entries => simpa [follow?, child?, get?] using found
  | _ => cases found

theorem get?_of_present? {node inner : Node} {key : String}
    (found : node.present? key = some inner) : node.get? key = some inner :=
  (Option.filter_eq_some_iff.mp found).1

/-- An entry that is present is found under its key. -/
theorem follow?_of_present?
    {node inner : Node} {key : String} (found : node.present? key = some inner) :
    node.follow? [key] = some inner :=
  follow?_of_get? (get?_of_present? found)

/-- The first item of a list is found at the position zero. -/
theorem follow?_first (item : Node) (items : List Node) :
    (list (item :: items)).follow? ["0"] = some item := by
  have isFirst : toString 0 = "0" := by decide
  simp only [follow?, child?, item?, List.zipIdx_cons, List.find?_cons, isFirst, decide_true]
  rfl

theorem entriesHaveDistinctKeys_iff {entries : Entries} :
    entriesHaveDistinctKeys entries = true ↔
      ∀ entry ∈ entries, entry.2.hasDistinctKeys = true := by
  induction entries with
  | nil => simp [entriesHaveDistinctKeys]
  | cons entry entries ih =>
      rw [entriesHaveDistinctKeys, Bool.and_eq_true, ih, List.forall_mem_cons]

theorem itemsHaveDistinctKeys_iff {items : List Node} :
    itemsHaveDistinctKeys items = true ↔ ∀ item ∈ items, item.hasDistinctKeys = true := by
  induction items with
  | nil => simp [itemsHaveDistinctKeys]
  | cons item items ih =>
      rw [itemsHaveDistinctKeys, Bool.and_eq_true, ih, List.forall_mem_cons]

/-- What a node without repeated keys has inside has none either. -/
theorem distinct_of_present?
    {node inner : Node} {key : String}
    (distinct : node.hasDistinctKeys = true) (found : node.present? key = some inner) :
    inner.hasDistinctKeys = true := by
  have isEntry := get?_of_present? found
  cases node with
  | map entries =>
      rcases List.lookup_eq_some_iff.mp isEntry with ⟨before, after, rfl, -⟩
      rw [hasDistinctKeys, Bool.and_eq_true] at distinct
      exact entriesHaveDistinctKeys_iff.mp distinct.2 (key, inner) (by simp)
  | _ => cases isEntry

section Map

variable {entries : Entries} (distinct : (map entries).hasDistinctKeys = true)

include distinct

/-- A map without repeated keys has different keys. -/
theorem nodup_of_distinct : (entries.map (·.1)).Nodup := by
  rw [hasDistinctKeys, Bool.and_eq_true] at distinct
  exact of_decide_eq_true distinct.1

theorem distinct_of_mem {entry : String × Node} (member : entry ∈ entries) :
    entry.2.hasDistinctKeys = true := by
  rw [hasDistinctKeys, Bool.and_eq_true] at distinct
  exact entriesHaveDistinctKeys_iff.mp distinct.2 entry member

/-- With different keys the pointer to an entry leads to its node. -/
theorem follow?_of_mem {key : String} {inner : Node} (member : (key, inner) ∈ entries) :
    (map entries).follow? [key] = some inner := by
  apply follow?_of_get?
  rcases List.append_of_mem member with ⟨before, after, rfl⟩
  refine List.lookup_eq_some_iff.mpr ⟨before, after, rfl, ?_⟩
  intro entry isBefore
  have nodup := nodup_of_distinct distinct
  rw [List.map_append, List.map_cons] at nodup
  refine bne_iff_ne.mpr ?_
  rintro rfl
  exact (List.nodup_append.mp nodup).2.2 _ (List.mem_map_of_mem isBefore) _
    List.mem_cons_self rfl

end Map

end ApiShapes.Node
