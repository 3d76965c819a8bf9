import ApiShapes.Proofs.Output.Writing
import ApiShapes.Proofs.Path.Below
import ApiShapes.Proofs.Plan.Sources

/-!
# The files of the classes of a plan

The file of a class should lie in the directory of the class, under the name of the class.  All that
can go wrong is a slash in the name.  Names of documents and fields are camel-cased, so they bring
in none, but a status goes into a name as it stands.  Main statement: every class of a plan has a
file of its own exactly if no status has a slash in it.  With such statuses two classes can share
their file, and a file can lie outside the output directory.
-/

namespace ApiShapes

open Unicode

/-- The statuses of a document that have a response. -/
def Node.statuses (document : Node) : List String :=
  match document.present? "response" with
  | some (.map entries) => (entries.filter (!·.2.isNull)).map (·.1)
  | _ => []

/-- The statuses of a schema that have a response. -/
def Schema.statuses (schema : Schema) : List String :=
  schema.documents.flatMap fun (_, document) => document.statuses

/-- The statuses of a document are the keys of its response that are not null. -/
theorem Node.mem_statuses {document : Node} {status : String} :
    status ∈ document.statuses ↔
      ∃ entries inner, document.present? "response" = some (.map entries) ∧
        (status, inner) ∈ entries ∧ inner.isNull = false := by
  rw [statuses]
  split
  · rename_i entries isResponse
    simp [isResponse]
  · rename_i notMap
    constructor
    · intro member
      cases member
    · rintro ⟨entries, inner, isResponse, -⟩
      exact absurd isResponse (notMap entries)

/-! ## The place of a file -/

/-- The place of nested classes, `depth` levels below a base. -/
def nestedPlace (base : Location) (depth : Nat) : Location :=
  base ++ List.replicate depth (.normal nestedSegment)

/-- The name of the file of a class. -/
def Artifact.fileName (artifact : Artifact) : String :=
  artifact.name ++ "." ++ Php.fileExtension

/-- The file of a class lies `depth` directories of nested classes down, under the class name. -/
structure Artifact.HasOwnFile (artifact : Artifact) (depth : Nat) : Prop where
  dir_eq : artifact.dir.components = nestedPlace [] depth
  file_eq : (artifact.relativePath Php.fileExtension).components =
    artifact.dir.components ++ [.normal artifact.fileName]

/-- A name at the place of nested classes gives away how deep the place is. -/
theorem nestedPlace_inj
    {base : Location} {leftDepth rightDepth : Nat} {left right : String}
    (equal : nestedPlace base leftDepth ++ [.normal left] =
      nestedPlace base rightDepth ++ [.normal right]) :
    leftDepth = rightDepth ∧ left = right := by
  rcases List.append_inj' equal rfl with ⟨samePlace, sameName⟩
  constructor
  · simpa [nestedPlace] using congrArg List.length samePlace
  · simpa using sameName

/-- Classes whose files have one name have one name. -/
theorem Artifact.name_eq_of_fileName
    {left right : Artifact} (equal : left.fileName = right.fileName) : left.name = right.name := by
  rw [fileName, fileName, String.append_assoc, String.append_assoc] at equal
  exact (String.append_left_inj _).mp equal

/-- Joining the directory of a nested class goes down as many levels. -/
theorem join_directoryBelow (base : Path) (depth : Nat) :
    (base.join (directoryBelow .empty depth)).components = nestedPlace base.components depth := by
  have isName : Path.IsName nestedSegment := ⟨by decide, by decide, by decide, by decide⟩
  induction depth with
  | zero =>
      have isRelative := directoryBelow_isRelative 0
      have nothing : Path.empty.components = [] ∧ Path.empty.addedComponents = [] := by decide
      rw [directoryBelow] at isRelative ⊢
      rw [Path.components_join_eq base isRelative, nothing.1, nothing.2, ite_self]
      rfl
  | succ depth ih =>
      have joined := isName.components_join (base.join (directoryBelow .empty depth))
      rw [ih, ← Path.join_assoc base (directoryBelow_isRelative depth) isName.isRelative] at joined
      rw [nestedPlace, List.replicate_succ', ← List.append_assoc]
      exact joined

/-- The name of a file is a single part of a path unless the class name has a slash in it. -/
theorem fileName_isName_iff {artifact : Artifact} :
    Path.IsName artifact.fileName ↔ '/' ∉ artifact.name.toList := by
  have noSlash : '/' ∉ ".".toList ∧ '/' ∉ Php.fileExtension.toList := by decide
  have hasSlash : '/' ∈ artifact.fileName.toList ↔ '/' ∈ artifact.name.toList := by
    simp only [Artifact.fileName, String.toList_append, List.mem_append, noSlash, or_false]
  have long : 4 ≤ artifact.fileName.length := by
    have ending : ".".length + Php.fileExtension.length = 4 := by decide
    rw [Artifact.fileName, String.length_append, String.length_append]
    omega
  rw [Path.IsName, hasSlash, and_iff_left]
  refine ⟨?_, ?_, ?_⟩ <;>
  · intro isShort
    rw [isShort] at long
    exact absurd long (by decide)

/-- The file of a class lies where its namespace says unless the class name has a slash in it. -/
theorem Artifact.hasOwnFile_iff
    {artifact : Artifact} {ns : String} {depth : Nat}
    (below : artifact.LiesBelow ns .empty depth) :
    artifact.HasOwnFile depth ↔ '/' ∉ artifact.name.toList := by
  rw [← fileName_isName_iff]
  constructor
  · intro own
    have isLast :
        .normal artifact.fileName ∈ (artifact.relativePath Php.fileExtension).components := by
      rw [own.file_eq]
      exact List.mem_append_right _ (List.mem_singleton_self _)
    exact Path.isName_of_mem_components isLast
  · intro isName
    refine ⟨?_, isName.components_join artifact.dir⟩
    rw [below.dir_eq, ← Path.empty_join (directoryBelow .empty depth), join_directoryBelow]
    rfl

/-! ## Slashes in names -/

/-- A slash is not plain. -/
theorem not_slash_of_plain {text : String} (plain : ∀ c ∈ text.toList, IsPlain c) :
    '/' ∉ text.toList := by
  intro hasSlash
  exact absurd (plain '/' hasSlash) (by decide)

theorem not_slash_append {first second : String} :
    '/' ∉ (first ++ second).toList ↔ '/' ∉ first.toList ∧ '/' ∉ second.toList := by
  rw [String.toList_append, List.mem_append, not_or]

/-- All characters of a name are plain, except in one of the texts `inner` that may stand in it. -/
def PlainAround (inner : List String) (name : String) : Prop :=
  ∃ before between after, name = before ++ between ++ after ∧
    (∀ c ∈ before.toList, IsPlain c) ∧ (∀ c ∈ after.toList, IsPlain c) ∧
    (between = "" ∨ between ∈ inner)

theorem plain_append
    {first second : String} (plainFirst : ∀ c ∈ first.toList, IsPlain c)
    (plainSecond : ∀ c ∈ second.toList, IsPlain c) : ∀ c ∈ (first ++ second).toList, IsPlain c := by
  rw [String.toList_append]
  exact List.forall_mem_append.mpr ⟨plainFirst, plainSecond⟩

/-- A plain ending keeps a name plain around the texts in it. -/
theorem PlainAround.append
    {inner : List String} {name ending : String} (plainAround : PlainAround inner name)
    (plainEnding : ∀ c ∈ ending.toList, IsPlain c) : PlainAround inner (name ++ ending) := by
  rcases plainAround with ⟨before, between, after, rfl, plainBefore, plainAfter, isInner⟩
  exact ⟨before, between, after ++ ending, String.append_assoc, plainBefore,
    plain_append plainAfter plainEnding, isInner⟩

/-- In the name of a shape all is plain but the status of the response it belongs to, if any. -/
theorem Describes.plainAround
    {schema : Schema} {root ns name : String} {entries : Entries}
    (describes : Describes schema root ns name entries) : PlainAround schema.statuses name := by
  induction describes with
  | @request document _ _ isDocument isRequest =>
      refine ⟨documentClass document ++ "Request", "", "", ?_, ?_, by simp, .inl rfl⟩
      · rw [String.append_empty, String.append_empty]
      · exact plain_append (documentClass_plain document) (isPlain_of_all rfl)
  | @response document status node statuses entries isDocument isResponse isStatus =>
      have hasResponse : status ∈ schema.statuses :=
        List.mem_flatMap.mpr ⟨(document, node), isDocument,
          Node.mem_statuses.mpr ⟨statuses, _, isResponse, isStatus, rfl⟩⟩
      refine ⟨documentClass document ++ "Response", status, "", ?_, ?_, by simp, .inr hasResponse⟩
      · rw [String.append_empty, String.append_assoc]
      · exact plain_append (documentClass_plain document) (isPlain_of_all rfl)
  | shape outer isEntry isShape ih => exact ih.append (Text.upperCamel_plain _)
  | element outer isEntry isElement ih => exact ih.append (Text.upperCamel_plain _)

/-- Only a status can bring a slash into the name of a shape. -/
theorem Describes.not_slash
    {schema : Schema} {root ns name : String} {entries : Entries}
    (noSlash : ∀ status ∈ schema.statuses, '/' ∉ status.toList)
    (describes : Describes schema root ns name entries) :
    '/' ∉ name.toList := by
  rcases describes.plainAround with
    ⟨before, status, after, rfl, plainBefore, plainAfter, isStatus⟩
  have notInStatus : '/' ∉ status.toList := by
    rcases isStatus with rfl | isStatus
    · decide
    · exact noSlash status isStatus
  exact not_slash_append.mpr
    ⟨not_slash_append.mpr ⟨not_slash_of_plain plainBefore, notInStatus⟩,
      not_slash_of_plain plainAfter⟩

namespace Plan

variable {schema : Schema} {ns : String} {classes : List Artifact}

/--
Without slashes in the statuses there are none in the names of classes.  The name of a collection is
that of the shape in front of it with an ending.
-/
theorem name_not_slash
    (noSlash : ∀ status ∈ schema.statuses, '/' ∉ status.toList) :
    ∀ artifact ∈ emitted (schemaSteps schema ns), '/' ∉ artifact.name.toList := by
  have ofShape {shape : Shape} (member : .shape shape ∈ emitted (schemaSteps schema ns)) :
      '/' ∉ shape.name.toList := by
    rcases schemaSteps_described member with ⟨entries, describes⟩
    exact describes.not_slash noSlash
  intro artifact member
  cases artifact with
  | shape shape => exact ofShape member
  | collection collection =>
      rcases (schemaSteps_collectionsFollow schema ns).exists_collected member with
        ⟨shape, isShape, collects⟩
      rw [Artifact.name, collects.name_eq]
      exact not_slash_append.mpr ⟨ofShape isShape, by decide⟩

/-- In a plan every status has a shape, and the name of the shape ends with the status. -/
theorem shape_of_status
    (success : ofSchema schema ns = .ok classes)
    {status : String} (isStatus : status ∈ schema.statuses) :
    ∃ artifact ∈ classes, ∃ before, artifact.name = before ++ status := by
  rcases List.mem_flatMap.mp isStatus with ⟨⟨document, node⟩, isDocument, inDocument⟩
  rcases Node.mem_statuses.mp inDocument with ⟨entries, inner, isResponse, isEntry, notNull⟩
  have isPart : Part.ofStatus status inner ∈ Part.ofDocument node := by
    rw [Part.ofDocument, isResponse]
    refine List.mem_append_right _ (List.mem_map.mpr ⟨(status, inner), ?_, rfl⟩)
    exact List.mem_filter.mpr ⟨isEntry, (Bool.not_eq_true' _).mpr notNull⟩
  have within :
      partSteps document ns (Pointer.root.child document) (Part.ofStatus status inner) <:+:
        schemaSteps schema ns :=
    partSteps_within isDocument isPart
  rcases ofSchema_eq_ok_iff_accepted.mp success with ⟨isAccepted, -⟩
  rcases accepted_within within isAccepted with ⟨own, ownAccepted⟩
  cases inner with
  | map fields =>
      obtain rfl := ofSchema_emitted success
      have isEmitted :
          shapeArtifact (documentClass document ++ ("Response" ++ status))
              ⟨ns, .empty, (Pointer.root.child document).append ["response", status]⟩
              (Content.ofEntries fields) ∈
            emitted (schemaSteps schema ns) := by
        refine (emitted_within within).subset ?_
        rw [Part.ofStatus, partSteps, emitted_shapeSteps]
        exact List.mem_append_right _ (List.mem_singleton_self _)
      exact ⟨_, isEmitted, documentClass document ++ "Response", String.append_assoc.symm⟩
  | _ => simp [Part.ofStatus, partSteps, accepted] at ownAccepted

/-- Every class has a file of its own, as deep as its namespace, and no two classes share one. -/
structure FilesApart (classes : List Artifact) (ns : String) : Prop where
  own : ∀ artifact ∈ classes, ∃ depth,
    artifact.ns = namespaceBelow ns depth ∧ artifact.HasOwnFile depth
  apart : classes.Pairwise fun left right =>
    (left.relativePath Php.fileExtension).components ≠
      (right.relativePath Php.fileExtension).components

/-- Every class is written below the output directory, into the directory that is made for it. -/
structure WrittenApart (classes : List Artifact) (settings : Settings) : Prop where
  below : ∀ artifact ∈ classes, ∃ depth,
    (Output.classDir settings artifact).components =
      nestedPlace settings.outputDir.components depth
  inDir : ∀ artifact ∈ classes,
    (Output.classPath settings artifact).components =
      (Output.classDir settings artifact).components ++ [.normal artifact.fileName]
  apart : classes.Pairwise fun left right =>
    (Output.classPath settings left).components ≠ (Output.classPath settings right).components

/-- Classes of different names are told apart by where their files are. -/
theorem places_apart
    {place : Artifact → Location} (base : Location) (ns : String)
    (apart : classes.Pairwise fun left right => ¬ left.SameClass right)
    (isPlace : ∀ artifact ∈ classes, ∃ depth, artifact.ns = namespaceBelow ns depth ∧
      place artifact = nestedPlace base depth ++ [.normal artifact.fileName]) :
    classes.Pairwise fun left right => place left ≠ place right := by
  refine apart.imp_of_mem ?_
  intro left right isLeft isRight different samePlace
  rcases isPlace left isLeft with ⟨leftDepth, leftNs, left_eq⟩
  rcases isPlace right isRight with ⟨rightDepth, rightNs, right_eq⟩
  rw [left_eq, right_eq] at samePlace
  rcases nestedPlace_inj samePlace with ⟨rfl, sameName⟩
  exact different ⟨leftNs.trans rightNs.symm, Artifact.name_eq_of_fileName sameName⟩

/-- If all classes have files of their own, no status has a slash in it. -/
theorem not_slash_of_filesApart
    (success : ofSchema schema ns = .ok classes) (filesApart : FilesApart classes ns) :
    ∀ status ∈ schema.statuses, '/' ∉ status.toList := by
  intro status isStatus
  rcases shape_of_status success isStatus with ⟨artifact, member, before, name_eq⟩
  obtain rfl := ofSchema_emitted success
  rcases schemaSteps_layout schema ns artifact member with ⟨depth, below⟩
  rcases filesApart.own artifact member with ⟨_, ns_eq, ownFile⟩
  obtain rfl := namespaceBelow_inj.mp (ns_eq.symm.trans below.ns_eq)
  have notInName := (Artifact.hasOwnFile_iff below).mp ownFile
  rw [name_eq] at notInName
  exact (not_slash_append.mp notInName).2

section NoSlash

variable (success : ofSchema schema ns = .ok classes)
  (noSlash : ∀ status ∈ schema.statuses, '/' ∉ status.toList)

include success noSlash

/-- If no status has a slash in it, all classes have files of their own. -/
theorem filesApart_of_not_slash : FilesApart classes ns := by
  rcases ofSchema_eq_ok_iff_accepted.mp success with ⟨-, apart⟩
  obtain rfl := ofSchema_emitted success
  have hasOwnFile : ∀ artifact ∈ emitted (schemaSteps schema ns), ∃ depth,
      artifact.ns = namespaceBelow ns depth ∧ artifact.HasOwnFile depth := by
    intro artifact member
    rcases schemaSteps_layout schema ns artifact member with ⟨depth, below⟩
    exact ⟨depth, below.ns_eq,
      (Artifact.hasOwnFile_iff below).mpr (name_not_slash noSlash artifact member)⟩
  refine ⟨hasOwnFile, places_apart [] ns apart ?_⟩
  intro artifact member
  rcases hasOwnFile artifact member with ⟨depth, ns_eq, ownFile⟩
  exact ⟨depth, ns_eq, by rw [ownFile.file_eq, ownFile.dir_eq]⟩

/-- If no status has a slash in it, all files are written below the output directory. -/
theorem writtenApart_of_not_slash (settings : Settings) : WrittenApart classes settings := by
  rcases ofSchema_eq_ok_iff_accepted.mp success with ⟨-, apart⟩
  obtain rfl := ofSchema_emitted success
  have dir_eq {artifact : Artifact} {depth : Nat} (below : artifact.LiesBelow ns .empty depth) :
      (Output.classDir settings artifact).components =
        nestedPlace settings.outputDir.components depth := by
    rw [Output.classDir, below.dir_eq, join_directoryBelow]
  have path_eq : ∀ artifact ∈ emitted (schemaSteps schema ns),
      (Output.classPath settings artifact).components =
        (Output.classDir settings artifact).components ++ [.normal artifact.fileName] := by
    intro artifact member
    exact (fileName_isName_iff.mpr (name_not_slash noSlash artifact member)).components_join _
  refine ⟨?_, path_eq, places_apart settings.outputDir.components ns apart ?_⟩
  · intro artifact member
    rcases schemaSteps_layout schema ns artifact member with ⟨depth, below⟩
    exact ⟨depth, dir_eq below⟩
  · intro artifact member
    rcases schemaSteps_layout schema ns artifact member with ⟨depth, below⟩
    exact ⟨depth, below.ns_eq, by rw [path_eq artifact member, dir_eq below]⟩

end NoSlash

/--
The classes of a plan have files of their own exactly if no status has a slash in it.  Then, under
any settings, no file of a class replaces another one, leaves the output directory, or needs a
directory that is not made for it.
-/
theorem own_files_iff (success : ofSchema schema ns = .ok classes) :
    (FilesApart classes ns ↔ ∀ status ∈ schema.statuses, '/' ∉ status.toList) ∧
      (FilesApart classes ns → ∀ settings, WrittenApart classes settings) := by
  refine ⟨⟨not_slash_of_filesApart success, filesApart_of_not_slash success⟩, ?_⟩
  intro filesApart
  exact writtenApart_of_not_slash success (not_slash_of_filesApart success filesApart)

/-- A schema of one response, for a status that is no number, with a map in it. -/
def answerSchema : Schema :=
  ⟨none, [("order", .map [("response", .map [("not-found", .map [("item", .map [])])])])]⟩

/-- The classes of `answerSchema` in the namespace `App`. -/
def answerClasses : List Artifact :=
  [.shape ⟨"OrderDtoResponsenot-foundItem", "App\\Nested", ⟨"Nested"⟩, []⟩,
    .shape ⟨"OrderDtoResponsenot-found", "App", .empty,
      [⟨"item", "\\App\\Nested\\OrderDtoResponsenot-foundItem", none, none⟩]⟩]

set_option maxRecDepth 20000 in
theorem answer_own_files :
    FilesApart answerClasses "App" ∧ ∀ settings, WrittenApart answerClasses settings := by
  have success : ofSchema answerSchema "App" = .ok answerClasses := by rfl
  have noSlash : ∀ status ∈ answerSchema.statuses, '/' ∉ status.toList := by decide
  rcases own_files_iff success with ⟨ownFiles, written⟩
  exact ⟨ownFiles.mpr noSlash, written (ownFiles.mpr noSlash)⟩

/-- A schema of two responses, for statuses that lead out of a directory to one file. -/
def escapingSchema : Schema :=
  ⟨none, [("order", .map [("response",
    .map [("/../../a", .map []), ("//../../a", .map [])])])]⟩

set_option maxRecDepth 20000 in
/-- Two classes of different names may be written to one file outside the output directory. -/
theorem escaping_classes_share_file :
    ∃ first second, ofSchema escapingSchema "App" = .ok [first, second] ∧ first ≠ second ∧
      (first.relativePath Php.fileExtension).components =
        (second.relativePath Php.fileExtension).components ∧
      .parent ∈ (first.relativePath Php.fileExtension).components := by
  refine ⟨.shape ⟨"OrderDtoResponse/../../a", "App", .empty, []⟩,
    .shape ⟨"OrderDtoResponse//../../a", "App", .empty, []⟩, ?_, ?_, ?_, ?_⟩
  · rfl
  · decide
  · decide
  · decide

end Plan

end ApiShapes
