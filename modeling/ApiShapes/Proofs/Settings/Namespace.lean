import ApiShapes.Command.Run
import ApiShapes.Proofs.Php.ClassFile
import ApiShapes.Proofs.Plan.References
import ApiShapes.Proofs.Plan.RootNamespace
import ApiShapes.Proofs.Text.Trim
import Mathlib.Data.List.DropRight

/-!
# Two ways to choose the namespace

The namespace of the options is taken as it is, the one that a schema asks for loses the backslashes
at both of its ends.  Files never show the first backslashes of a namespace, neither in a header nor
in a reference, so these make no difference.  Backslashes at the end of a namespace are shown, in
front of the semicolon or of the next segment.  Main statement: the two ways lead to the same files
exactly if the namespace has no segment with a backslash at the end behind it, or if there are no
files.
-/

namespace ApiShapes

/-- A namespace has something to show, and it ends with a backslash. -/
def TrailsOff (ns : String) : Prop :=
  (∃ c ∈ ns.toList, c ≠ '\\') ∧ ns.toList.getLast? = some '\\'

section Trimming

/-- Trimming at both ends is trimming at the start and then at the end. -/
theorem toList_trimEnds (ns : String) :
    (Text.trimEnds '\\' ns).toList = (Text.trimStart '\\' ns).toList.rdropWhile (· = '\\') := by
  simp only [Text.trimEnds, Text.trimStart, String.toList_ofList, List.rdropWhile]

/-- What is trimmed at the end is a number of backslashes. -/
theorem trimStart_eq_trimEnds_append (ns : String) :
    ∃ count, (Text.trimStart '\\' ns).toList =
      (Text.trimEnds '\\' ns).toList ++ List.replicate count '\\' := by
  rw [toList_trimEnds, List.rdropWhile]
  generalize (Text.trimStart '\\' ns).toList = text
  have isBackslash :
      ∀ c ∈ text.reverse.takeWhile (· = '\\'), c = '\\' := by
    intro c member
    simpa using List.mem_takeWhile_imp member
  refine ⟨(text.reverse.takeWhile (· = '\\')).length, ?_⟩
  rw [← List.reverse_replicate, ← List.eq_replicate_of_mem isBackslash, ← List.reverse_append,
    List.takeWhile_append_dropWhile, List.reverse_reverse]

theorem trimStart_trimEnds (ns : String) :
    Text.trimStart '\\' (Text.trimEnds '\\' ns) = Text.trimEnds '\\' ns := by
  rcases trimStart_eq_trimEnds_append ns with ⟨count, isAppend⟩
  have notFirst := Text.head?_trimStart_ne '\\' ns
  rw [← String.toList_inj, Text.trimStart, String.toList_ofList]
  cases shown : (Text.trimEnds '\\' ns).toList with
  | nil => rfl
  | cons first rest =>
      rw [isAppend, shown] at notFirst
      exact List.dropWhile_cons_of_neg (by simpa using notFirst)

/-- Trimming at the end as well makes a difference exactly if the namespace trails off. -/
theorem trimStart_eq_trimEnds_iff (ns : String) :
    Text.trimStart '\\' ns = Text.trimEnds '\\' ns ↔ ¬ TrailsOff ns := by
  have isLast (shown : (Text.trimStart '\\' ns).toList ≠ []) :
      ns.toList.getLast? = some ((Text.trimStart '\\' ns).toList.getLast shown) := by
    simp only [Text.trimStart, String.toList_ofList] at shown ⊢
    rw [← List.getLast?_eq_some_getLast shown]
    conv_lhs => rw [← List.takeWhile_append_dropWhile (p := (· = '\\')) (l := ns.toList)]
    rw [List.getLast?_append_of_ne_nil _ shown]
  rw [← String.toList_inj, toList_trimEnds, eq_comm, List.rdropWhile_eq_self_iff, TrailsOff,
    ← Text.trimStart_ne_nil_iff]
  constructor
  · rintro noBackslash ⟨shown, isBackslash⟩
    rw [isLast shown] at isBackslash
    exact noBackslash shown (decide_eq_true (Option.some.inj isBackslash))
  · intro notTrailing shown isBackslash
    refine notTrailing ⟨shown, ?_⟩
    rw [isLast shown, of_decide_eq_true isBackslash]

end Trimming

section Alike

variable {left right : String}
  (sameShown : Text.trimStart '\\' left = Text.trimStart '\\' right)

include sameShown

/-- Namespaces that are shown alike have nested namespaces that are shown alike. -/
theorem trimStart_namespaceBelow (depth : Nat) :
    Text.trimStart '\\' (namespaceBelow left depth) =
      Text.trimStart '\\' (namespaceBelow right depth) := by
  have sameChars := congrArg String.toList sameShown
  simp only [Text.trimStart, String.toList_ofList] at sameChars
  have below (ns : String) := namespaceBelow_toList ns 0 depth
  simp only [Nat.zero_add, namespaceBelow] at below
  simp only [Text.trimStart, below, List.dropWhile_append, sameChars]

theorem ReferencesAlike.eq_of_sameShown
    {first second : String} (alike : ReferencesAlike left right first second) : first = second := by
  rcases alike with rfl | ⟨depth, className, rfl, rfl⟩
  · rfl
  · rw [classReference, classReference, trimStart_namespaceBelow sameShown]

theorem Property.Alike.eq_of_sameShown
    {first second : Property} (alike : first.Alike left right second) : first = second := by
  cases first
  cases second
  cases alike.name_eq
  cases alike.default_eq
  cases alike.required_eq
  cases alike.type_alike.eq_of_sameShown sameShown
  rfl

/-- Properties that agree but for the namespace are equal if the namespaces are shown alike. -/
theorem properties_eq_of_sameShown
    {first second : List Property} (alike : List.Forall₂ (Property.Alike left right) first second) :
    first = second := by
  rw [← List.forall₂_eq_eq_eq]
  exact alike.imp fun _ _ each => each.eq_of_sameShown sameShown

/-- Classes that differ in the root namespace alone have one file, if that is shown alike. -/
theorem Artifact.Alike.file_eq
    {first second : Artifact} (alike : first.Alike left right second) (settings : Settings) :
    settings.file first = settings.file second := by
  cases alike with
  | shape depth properties =>
      have sameProperties := properties_eq_of_sameShown sameShown properties
      simp only [Settings.file, Php.shapeFile, Php.preamble, sameProperties,
        trimStart_namespaceBelow sameShown depth]
  | collection depth elements =>
      have sameElements := elements.eq_of_sameShown sameShown
      simp only [Settings.file, Php.collectionFile, Php.preamble, sameElements,
        trimStart_namespaceBelow sameShown depth]

end Alike

/-- The namespace plays no part in where the file of a class lies. -/
theorem Artifact.Alike.relativePath_eq
    {left right : String} {first second : Artifact} (alike : first.Alike left right second)
    (extension : String) : first.relativePath extension = second.relativePath extension := by
  cases alike <;> rfl

/-- Classes that agree but for the namespace lie equally deep below their roots. -/
theorem Artifact.Alike.exists_depth
    {left right : String} {first second : Artifact} (alike : first.Alike left right second) :
    ∃ depth, first.ns = namespaceBelow left depth ∧ second.ns = namespaceBelow right depth := by
  cases alike with
  | shape depth properties => exact ⟨depth, rfl, rfl⟩
  | collection depth elements => exact ⟨depth, rfl, rfl⟩

section TrailsOff

/-- A class file shows its namespace behind its opening, up to the semicolon. -/
theorem Php.Declares.shows {text ns name : String} (declares : Declares text ns name) :
    ∃ rest, text.toList = opening.toList ++ (ns.toList ++ ';' :: rest) := by
  rcases declares with ⟨imported, base, body, rfl⟩
  have semicolon : ";".toList = [';'] := rfl
  refine ⟨'\n' :: (unlines (["", "use " ++ imported ++ ";", "",
    "class " ++ name ++ " extends " ++ base] ++ body)).toList, ?_⟩
  simp only [opening, toList_unlines, List.cons_append, List.nil_append, List.flatMap_cons,
    List.flatMap_nil, String.toList_append, List.append_assoc, semicolon]

theorem toList_trimStart_namespaceBelow
    {ns : String} (shown : (Text.trimStart '\\' ns).toList ≠ []) (depth : Nat) :
    (Text.trimStart '\\' (namespaceBelow ns depth)).toList =
      (Text.trimStart '\\' ns).toList ++ nestedSegments depth := by
  have below := namespaceBelow_toList ns 0 depth
  simp only [Nat.zero_add, namespaceBelow] at below
  simp only [Text.trimStart, String.toList_ofList] at shown ⊢
  rw [below, List.dropWhile_append, if_neg]
  simpa using shown

variable {ns : String} (trailsOff : TrailsOff ns)

include trailsOff

/-- A namespace that trails off is shown with backslashes behind its trimmed form. -/
theorem exists_trailing :
    (Text.trimEnds '\\' ns).toList ≠ [] ∧
      ∃ more, (Text.trimStart '\\' ns).toList =
        (Text.trimEnds '\\' ns).toList ++ '\\' :: List.replicate more '\\' := by
  rcases trimStart_eq_trimEnds_append ns with ⟨_ | more, isAppend⟩
  · have same : Text.trimStart '\\' ns = Text.trimEnds '\\' ns := by
      rwa [List.replicate_zero, List.append_nil, String.toList_inj] at isAppend
    exact absurd trailsOff ((trimStart_eq_trimEnds_iff ns).mp same)
  · refine ⟨?_, more, isAppend⟩
    intro isEmpty
    have notFirst := Text.head?_trimStart_ne '\\' ns
    rw [isAppend, isEmpty] at notFirst
    exact notFirst rfl

/--
Behind backslashes at its end a namespace goes on differently than without them: there it is the
semicolon or the first letter of the next segment that comes.
-/
theorem Artifact.Alike.file_ne
    {first second : Artifact} (alike : first.Alike ns (Text.trimEnds '\\' ns) second)
    (settings : Settings) : settings.file first ≠ settings.file second := by
  intro equal
  rcases exists_trailing trailsOff with ⟨nonempty, more, isAppend⟩
  rcases alike.exists_depth with ⟨depth, firstNs, secondNs⟩
  rcases (settings.file_declares first).shows with ⟨rest, firstShown⟩
  rcases (settings.file_declares second).shows with ⟨otherRest, secondShown⟩
  have firstStart : (Text.trimStart '\\' ns).toList ≠ [] := by
    rw [isAppend]
    exact List.append_ne_nil_of_left_ne_nil nonempty _
  have secondStart :
      (Text.trimStart '\\' (Text.trimEnds '\\' ns)).toList ≠ [] := by
    rw [trimStart_trimEnds]
    exact nonempty
  rw [declaredNs, firstNs, toList_trimStart_namespaceBelow firstStart, isAppend] at firstShown
  rw [declaredNs, secondNs, toList_trimStart_namespaceBelow secondStart, trimStart_trimEnds]
    at secondShown
  rw [equal, secondShown] at firstShown
  have differ := List.append_cancel_left firstShown
  simp only [List.append_assoc, List.append_cancel_left_eq] at differ
  cases depth with
  | zero => simp [nestedSegments] at differ
  | succ depth =>
      rw [nestedSegments_succ] at differ
      cases more with
      | zero => simp at differ
      | succ more => simp [List.replicate_succ] at differ

end TrailsOff

namespace Plan

/-- In two namespaces a schema has either no plan or two that agree class by class. -/
theorem ofSchema_alike (schema : Schema) (left right : String) :
    Option.Rel (List.Forall₂ (Artifact.Alike left right))
      (ofSchema schema left).toOption (ofSchema schema right).toOption := by
  have run := perform_alike (schemaSteps_alike schema left right) .nil
  rw [ofSchema, ofSchema]
  generalize perform [] (schemaSteps schema left) = leftRun at run
  generalize perform [] (schemaSteps schema right) = rightRun at run
  rcases leftRun with ⟨first, leftError⟩
  rcases rightRun with ⟨second, rightError⟩
  rcases run with ⟨classesAlike, errorsAlike⟩
  cases errorsAlike with
  | none => exact .some classesAlike
  | some errors => exact .none

end Plan

namespace Settings

/-- The file of a class, with its path below the output directory. -/
def placedFile (settings : Settings) (artifact : Artifact) : Path × String :=
  (artifact.relativePath Php.fileExtension, settings.file artifact)

/-- The files that are generated for a schema under settings. -/
def files? (settings : Settings) (schema : Schema) : Option (List (Path × String)) :=
  (Plan.ofSchema schema settings.ns).toOption.map fun classes => classes.map settings.placedFile

/-- Namespaces that are shown alike give the same files at the same places. -/
theorem placedFiles_eq
    {left right : String} (sameShown : Text.trimStart '\\' left = Text.trimStart '\\' right)
    (settings : Settings) {classes others : List Artifact}
    (alike : List.Forall₂ (Artifact.Alike left right) classes others) :
    classes.map settings.placedFile = others.map settings.placedFile := by
  induction alike with
  | nil => rfl
  | cons first rest ih =>
      rw [List.map_cons, List.map_cons, ih, placedFile, placedFile, first.relativePath_eq,
        first.file_eq sameShown]

/--
The files in a namespace are those in the namespace without the backslashes at its ends, unless
there is one to show backslashes at its end.
-/
theorem files?_trimEnds_iff (settings : Settings) (schema : Schema) :
    settings.files? schema = { settings with ns := Text.trimEnds '\\' settings.ns }.files? schema ↔
      (TrailsOff settings.ns → ∀ files, settings.files? schema = some files → files = []) := by
  have alike := Plan.ofSchema_alike schema settings.ns (Text.trimEnds '\\' settings.ns)
  have samePlaced :
      { settings with ns := Text.trimEnds '\\' settings.ns }.placedFile = settings.placedFile := by
    funext artifact
    cases artifact <;> rfl
  simp only [files?, samePlaced]
  generalize (Plan.ofSchema schema settings.ns).toOption = plan at alike
  generalize (Plan.ofSchema schema (Text.trimEnds '\\' settings.ns)).toOption = other at alike
  cases alike with
  | none => simp
  | @some classes others classesAlike =>
      simp only [Option.map_some, Option.some.injEq, forall_eq', List.map_eq_nil_iff]
      constructor
      · intro same trailsOff
        cases classesAlike with
        | nil => rfl
        | cons first rest =>
            have sameText := congrArg Prod.snd (List.cons.inj same).1
            exact absurd sameText (first.file_ne trailsOff settings)
      · intro hidden
        by_cases trailsOff : TrailsOff settings.ns
        · cases classesAlike with
          | nil => rfl
          | cons first rest => cases hidden trailsOff
        · have sameShown := (trimStart_eq_trimEnds_iff settings.ns).mpr trailsOff
          rw [← trimStart_trimEnds] at sameShown
          exact placedFiles_eq sameShown settings classesAlike

end Settings

namespace Command

/-- The files that are generated for a schema under the options of an invocation. -/
def Invocation.files? (invocation : Invocation) (base : Path) (schema : Schema) :
    Option (List (Path × String)) :=
  (invocation.settings base >>= fun settings =>
    settings.forSchema schema base).toOption.bind fun chosen => chosen.files? schema

end Command

/-- A schema that asks for a namespace in addition to what it asks for. -/
def Schema.asking (schema : Schema) (ns : String) : Schema where
  settings := some ⟨schema.settings.bind (·.path), some ns⟩
  documents := schema.documents

namespace Settings

variable {schema : Schema} (asksForNone : ∀ asked, schema.settings = some asked → asked.ns = none)

include asksForNone

/-- What a schema asks for besides a namespace is taken whatever the namespace is. -/
theorem forSchema_eq (settings : Settings) (base : Path) :
    settings.forSchema schema base =
      match schema.settings.bind (·.path) with
      | some path => settings.withPath base path
      | none => .ok settings := by
  rcases schema with ⟨_ | ⟨path, ns⟩, documents⟩
  · rfl
  · obtain rfl : ns = none := asksForNone _ rfl
    cases path with
    | none => rfl
    | some path =>
        simp only [forSchema, withSchema, Option.bind_some]
        cases settings.withPath base path <;> rfl

theorem ns_of_forSchema
    {settings chosen : Settings} {base : Path}
    (isChosen : settings.forSchema schema base = .ok chosen) : chosen.ns = settings.ns := by
  rw [forSchema_eq asksForNone] at isChosen
  split at isChosen
  · rw [withPath] at isChosen
    split at isChosen
    · obtain rfl := Except.ok.inj isChosen
      rfl
    · cases isChosen
  · obtain rfl := Except.ok.inj isChosen
    rfl

/-- A schema that asks for a namespace besides gets it without the backslashes at its ends. -/
theorem forSchema_asking (settings : Settings) (base : Path) (ns other : String) :
    { settings with ns := other }.forSchema (schema.asking ns) base =
      (settings.forSchema schema base).map fun chosen =>
        { chosen with ns := Text.trimEnds '\\' ns } := by
  rw [forSchema_eq asksForNone]
  simp only [forSchema, Schema.asking, withSchema]
  cases schema.settings.bind (·.path) with
  | none => rfl
  | some path =>
      simp only [withPath]
      cases outputDirBelow? base ⟨Text.trimStart '/' path⟩ <;> rfl

end Settings

namespace Command

/--
A namespace can be chosen by an option, or by a schema whatever the option is.  For a schema that
asks for no other namespace, both ways lead to the same files exactly if the namespace does not
have backslashes at the end behind something else, or no file is generated.
-/
theorem files_of_option_iff
    (invocation : Invocation) (base : Path) (schema : Schema) (ns : String)
    (asksForNone : ∀ asked, schema.settings = some asked → asked.ns = none) :
    { invocation with ns }.files? base schema = invocation.files? base (schema.asking ns) ↔
      (TrailsOff ns → ∀ files, { invocation with ns }.files? base schema = some files →
        files = []) := by
  simp only [Invocation.files?, Invocation.settings]
  cases Settings.outputDirBelow? base invocation.output with
  | none => simp [Except.toOption, bind, Except.bind]
  | some outputDir =>
      have byOption :
          (Except.ok { Settings.standard with outputDir, ns } >>= fun settings =>
            settings.forSchema schema base) =
          { Settings.standard with outputDir, ns }.forSchema schema base := rfl
      have bySchema :
          (Except.ok { Settings.standard with outputDir, ns := invocation.ns } >>= fun settings =>
            settings.forSchema (schema.asking ns) base) =
          _ := Settings.forSchema_asking asksForNone
            { Settings.standard with outputDir, ns } base ns invocation.ns
      rw [byOption, bySchema]
      cases isChosen : { Settings.standard with outputDir, ns }.forSchema schema base with
      | error error => simp [Except.toOption, Except.map]
      | ok chosen =>
          have sameNs : chosen.ns = ns := Settings.ns_of_forSchema asksForNone isChosen
          have sameFiles := chosen.files?_trimEnds_iff schema
          rw [sameNs] at sameFiles
          exact sameFiles

/-- Generating for a schema when no option is given. -/
def withoutOptions : Invocation :=
  ⟨.generate ⟨"api.json"⟩, none, Settings.defaultOutputDir, Settings.defaultNamespace⟩

/-- A schema of one request without fields. -/
def requestSchema : Schema :=
  ⟨none, [("order", .map [("request", .map [])])]⟩

/-- The file of the class of `requestSchema` in a namespace. -/
def requestFile (ns : String) : Path × String :=
  (⟨"OrderDtoRequest.php"⟩,
    Php.shapeFile ⟨"OrderDtoRequest", ns, .empty, []⟩ Settings.standard.shapeBase)

set_option maxRecDepth 20000 in
theorem request_file_either_way :
    { withoutOptions with ns := "\\Shop\\Dto" }.files? .empty requestSchema =
        some [requestFile "\\Shop\\Dto"] ∧
      withoutOptions.files? .empty (requestSchema.asking "\\Shop\\Dto") =
        some [requestFile "\\Shop\\Dto"] := by
  have byOption :
      { withoutOptions with ns := "\\Shop\\Dto" }.files? .empty requestSchema =
        some [requestFile "\\Shop\\Dto"] := by rfl
  have asksForNone : ∀ asked, requestSchema.settings = some asked → asked.ns = none := by
    rintro asked ⟨⟩
  have notTrailing : ¬ TrailsOff "\\Shop\\Dto" := by
    rintro ⟨-, ends⟩
    simp at ends
  refine ⟨byOption, ?_⟩
  rw [← byOption]
  exact ((files_of_option_iff withoutOptions .empty requestSchema "\\Shop\\Dto" asksForNone).mpr
    fun trailsOff => absurd trailsOff notTrailing).symm

set_option maxRecDepth 20000 in
theorem trailing_backslash_kept_by_option :
    { withoutOptions with ns := "App\\" }.files? .empty requestSchema =
        some [requestFile "App\\"] ∧
      withoutOptions.files? .empty (requestSchema.asking "App\\") = some [requestFile "App"] ∧
      requestFile "App\\" ≠ requestFile "App" := by
  refine ⟨by rfl, by rfl, ?_⟩
  decide

end Command

end ApiShapes
