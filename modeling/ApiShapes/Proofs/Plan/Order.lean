import ApiShapes.Proofs.Plan.Translation
import Mathlib.Data.List.Forall2
import Mathlib.Data.List.Perm.Basic

/-!
# The order of documents and statuses

All documents share one plan and one test for names that are taken, and of two classes with one name
it is always the later one that is refused.  Still the order of documents and statuses only decides
where classes stand.  A plan is put together from blocks, one for each request and one for each
status, and a block depends on its part of its document alone; whether the names of all blocks
differ does not depend on their order.  Main statement: a schema whose documents and statuses are
reordered has a plan exactly if the schema has one, and it consists of the same blocks in the new
order.
-/

namespace ApiShapes

/-- Entries with the same keys in the same order, whose nodes are related key by key. -/
def EntriesAlike (related : String → Node → Node → Prop) (entries others : Entries) : Prop :=
  List.Forall₂ (fun entry other => entry.1 = other.1 ∧ related entry.1 entry.2 other.2)
    entries others

namespace Node

/-- Two nodes at a key of a document differ at most in the order of the statuses of a response. -/
inductive StatusesReordered (key : String) : Node → Node → Prop where
  | same (node : Node) : StatusesReordered key node node
  | response {statuses others : Entries}
      (isResponse : key = "response") (reordered : statuses.Perm others) :
      StatusesReordered key (.map statuses) (.map others)

/-- Two documents differ at most in the order of statuses. -/
inductive Reordered : Node → Node → Prop where
  | same (node : Node) : Reordered node node
  | map {entries others : Entries} (alike : EntriesAlike StatusesReordered entries others) :
      Reordered (.map entries) (.map others)

end Node

namespace Schema

/-- The documents of two schemas differ in their order and in the order of statuses alone. -/
def Reordered (schema other : Schema) : Prop :=
  ∃ documents, schema.documents.Perm documents ∧
    EntriesAlike (fun _ => Node.Reordered) documents other.documents

/-- The parts of a schema with the names of their documents: requests and statuses, in order. -/
def parts (schema : Schema) : List (String × Part) :=
  schema.documents.flatMap fun (document, node) =>
    (Part.ofDocument node).map fun part => (document, part)

end Schema

/-! ## The parts of reordered documents -/

/-- What is found under a key in entries that are alike is related, or missing in both. -/
theorem lookup_alike
    {related : String → Node → Node → Prop} {entries others : Entries}
    (alike : EntriesAlike related entries others) (key : String) :
    Option.Rel (related key) (entries.lookup key) (others.lookup key) := by
  induction alike with
  | nil => exact .none
  | @cons entry other _ _ first rest ih =>
      rw [List.lookup_cons, List.lookup_cons, ← first.1]
      by_cases isFirst : key = entry.1
      · subst key
        rw [beq_self_eq_true]
        exact .some first.2
      · rw [beq_false_of_ne isFirst]
        exact ih

/-- What a document says under a key differs at most in the order of statuses. -/
theorem Node.present?_alike
    {entries others : Entries} (alike : EntriesAlike StatusesReordered entries others)
    (key : String) :
    Option.Rel (StatusesReordered key) ((map entries).present? key)
      ((map others).present? key) := by
  have found := lookup_alike alike key
  rw [present?, present?, get?, get?]
  generalize entries.lookup key = node at found
  generalize others.lookup key = other at found
  cases found with
  | none => exact .none
  | @some node other reordered =>
      have sameNull : node.isNull = other.isNull := by cases reordered <;> rfl
      rw [Option.filter_some, Option.filter_some, ← sameNull]
      split
      · exact .some reordered
      · exact .none

namespace Part

/-- A request stays as it is. -/
theorem ofRequest_alike
    {request other : Option Node}
    (alike : Option.Rel (Node.StatusesReordered "request") request other) :
    request = other := by
  cases alike with
  | none => rfl
  | some reordered =>
      cases reordered with
      | same => rfl
      | response isResponse => exact absurd isResponse (by decide)

/-- The parts of a response are reordered with its statuses. -/
theorem ofResponse_alike
    {response other : Option Node} {key : String}
    (alike : Option.Rel (Node.StatusesReordered key) response other) :
    ((response.map ofResponse).getD []).Perm ((other.map ofResponse).getD []) := by
  cases alike with
  | none => exact .refl _
  | some reordered =>
      cases reordered with
      | same => exact .refl _
      | response isResponse statuses => exact (statuses.filter _).map _

/-- The parts of a document are reordered with its statuses. -/
theorem ofDocument_reordered {document other : Node} (reordered : document.Reordered other) :
    (ofDocument document).Perm (ofDocument other) := by
  cases reordered with
  | same => exact .refl _
  | map alike =>
      rw [ofDocument, ofDocument, ofRequest_alike (Node.present?_alike alike "request")]
      exact .append_left _ (ofResponse_alike (Node.present?_alike alike "response"))

end Part

/-- The parts of a schema are reordered with its documents and statuses. -/
theorem Schema.parts_reordered {schema other : Schema} (reordered : schema.Reordered other) :
    schema.parts.Perm other.parts := by
  rcases reordered with ⟨documents, isPerm, alike⟩
  refine (isPerm.flatMap_right _).trans ?_
  rw [Schema.parts]
  clear isPerm
  generalize other.documents = others at alike
  induction alike with
  | nil => exact .refl _
  | @cons document other _ _ first rest ih =>
      rcases document with ⟨name, node⟩
      rcases other with ⟨otherName, otherNode⟩
      rcases first with ⟨rfl, reordered⟩
      rw [List.flatMap_cons, List.flatMap_cons]
      exact ((Part.ofDocument_reordered reordered).map _).append ih

namespace Plan

/-! ## Plans from blocks -/

/-- The block of classes that a part of a document makes. -/
def block (ns : String) (part : String × Part) : List Artifact :=
  (partClasses part.1 ns part.2).getD []

/-- Putting lists together that may be missing works exactly if none of them is missing. -/
theorem flatten_mapM_eq_some_iff
    {α : Type} {classes : α → Option (List Artifact)} {items : List α} {all : List Artifact} :
    (items.mapM classes).map List.flatten = some all ↔
      (∀ item ∈ items, classes item ≠ none) ∧
        all = items.flatMap fun item => (classes item).getD [] := by
  induction items generalizing all with
  | nil => simp [eq_comm]
  | cons item items ih =>
      have step : ((item :: items).mapM classes).map List.flatten = some all ↔
          ∃ first, classes item = some first ∧
            ∃ others, (items.mapM classes).map List.flatten = some others ∧
              all = first ++ others := by
        rw [List.mapM_cons]
        cases classes item <;> cases items.mapM classes <;> simp [eq_comm]
      simp only [step, ih, List.forall_mem_cons, List.flatMap_cons]
      constructor
      · rintro ⟨first, isFirst, others, ⟨notMissing, rfl⟩, rfl⟩
        rw [isFirst]
        exact ⟨⟨Option.some_ne_none _, notMissing⟩, rfl⟩
      · rintro ⟨⟨isThere, notMissing⟩, rfl⟩
        rcases Option.ne_none_iff_exists'.mp isThere with ⟨first, isFirst⟩
        rw [isFirst]
        exact ⟨first, rfl, _, ⟨notMissing, rfl⟩, rfl⟩

/-- The translation of a schema goes part by part. -/
theorem schemaClasses_eq_parts (schema : Schema) (ns : String) :
    schemaClasses schema ns =
      (schema.parts.mapM fun part => partClasses part.1 ns part.2).map List.flatten := by
  rw [schemaClasses, Schema.parts]
  induction schema.documents with
  | nil => rfl
  | cons document documents ih =>
      rcases document with ⟨document, node⟩
      have ofCons (first : Option (List Artifact)) (rest : Option (List (List Artifact))) :
          Option.map List.flatten (do return (← first) :: (← rest)) =
            first.bind fun classes => (rest.map List.flatten).map (classes ++ ·) := by
        cases first <;> cases rest <;> rfl
      have ofAppend (first rest : Option (List (List Artifact))) :
          Option.map List.flatten (do return (← first) ++ (← rest)) =
            (first.map List.flatten).bind fun classes =>
              (rest.map List.flatten).map (classes ++ ·) := by
        cases first <;> cases rest <;> simp
      rw [List.mapM_cons, List.flatMap_cons, List.mapM_append, List.mapM_map, ofCons, ofAppend, ih]
      rfl

/-- A plan is made of the blocks of the parts, which have no two classes of one name. -/
theorem ofSchema_eq_ok_iff_blocks {schema : Schema} {ns : String} {classes : List Artifact} :
    ofSchema schema ns = .ok classes ↔
      classes = schema.parts.flatMap (block ns) ∧
        (∀ part ∈ schema.parts, partClasses part.1 ns part.2 ≠ none) ∧
        (schema.parts.flatMap (block ns)).Pairwise fun left right => ¬ left.SameClass right := by
  rw [ofSchema_eq_ok_iff_translation, schemaClasses_eq_parts, flatten_mapM_eq_some_iff]
  constructor
  · rintro ⟨⟨notMissing, rfl⟩, apart⟩
    exact ⟨rfl, notMissing, apart⟩
  · rintro ⟨rfl, notMissing, apart⟩
    exact ⟨⟨notMissing, rfl⟩, apart⟩

/--
If the parts of a schema are put in another order, the plan is made of the same blocks in that
order.  That the names of its classes differ does not depend on the order.
-/
theorem ofSchema_of_parts_perm
    {schema other : Schema} {ns : String} {classes : List Artifact}
    (isPerm : schema.parts.Perm other.parts) (success : ofSchema schema ns = .ok classes) :
    ofSchema other ns = .ok (other.parts.flatMap (block ns)) := by
  rcases ofSchema_eq_ok_iff_blocks.mp success with ⟨-, notMissing, apart⟩
  refine ofSchema_eq_ok_iff_blocks.mpr ⟨rfl, ?_, ?_⟩
  · intro part member
    exact notMissing part (isPerm.mem_iff.mpr member)
  · refine apart.perm (isPerm.flatMap_right _) ?_
    intro left right different same
    exact different ⟨same.1.symm, same.2.symm⟩

/--
The order of documents and statuses only decides where classes stand.  A reordered schema has a plan
exactly if the schema has one.  Both plans are put together from blocks, one for each request and
one for each status in the order of the schema, and the blocks are the same: a block depends on its
part alone, and the parts are the same up to their order.
-/
theorem reordered_plan
    {schema other : Schema} (reordered : schema.Reordered other) (ns : String) :
    ((∃ classes, ofSchema schema ns = .ok classes) ↔
      ∃ classes, ofSchema other ns = .ok classes) ∧
    schema.parts.Perm other.parts ∧
    ∀ classes, ofSchema schema ns = .ok classes →
      classes = schema.parts.flatMap (block ns) ∧
        ofSchema other ns = .ok (other.parts.flatMap (block ns)) := by
  have isPerm := Schema.parts_reordered reordered
  refine ⟨⟨?_, ?_⟩, isPerm, ?_⟩
  · rintro ⟨classes, success⟩
    exact ⟨_, ofSchema_of_parts_perm isPerm success⟩
  · rintro ⟨classes, success⟩
    exact ⟨_, ofSchema_of_parts_perm isPerm.symm success⟩
  · intro classes success
    exact ⟨(ofSchema_eq_ok_iff_blocks.mp success).1, ofSchema_of_parts_perm isPerm success⟩

/-- A schema of two documents, the first with two statuses. -/
def shopSchema : Schema :=
  ⟨none,
    [("order", .map [("response", .map [("200", .map [("items", .list [.map []])]),
        ("404", .map [])])]),
      ("cart", .map [("request", .map [("body", .map [])])])]⟩

/-- The schema `shopSchema` with its documents and its statuses the other way round. -/
def reorderedShopSchema : Schema :=
  ⟨none,
    [("cart", .map [("request", .map [("body", .map [])])]),
      ("order", .map [("response", .map [("404", .map []),
        ("200", .map [("items", .list [.map []])])])])]⟩

theorem shopSchema_reordered : shopSchema.Reordered reorderedShopSchema := by
  refine ⟨_, .swap _ _ _, .cons ⟨rfl, .same _⟩ (.cons ⟨rfl, .map (.cons ⟨rfl, ?_⟩ .nil)⟩ .nil)⟩
  exact .response rfl (.swap _ _ _)

set_option maxRecDepth 20000 in
theorem shop_reordered_plan :
    shopSchema.Reordered reorderedShopSchema ∧
    ∃ classes, ofSchema reorderedShopSchema "App" = .ok classes ∧
      classes.map (·.name) =
        ["CartDtoRequestBody", "CartDtoRequest", "OrderDtoResponse404", "OrderDtoResponse200Items",
          "OrderDtoResponse200ItemsCollection", "OrderDtoResponse200"] := by
  rcases reordered_plan shopSchema_reordered "App" with ⟨-, -, sameBlocks⟩
  rcases sameBlocks _ rfl with ⟨-, success⟩
  exact ⟨shopSchema_reordered, _, success, rfl⟩

end Plan

end ApiShapes
