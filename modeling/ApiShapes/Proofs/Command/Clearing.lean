import ApiShapes.Proofs.Command.Choice
import ApiShapes.Proofs.Output.Clearing
import ApiShapes.Proofs.Schema.Reading
import ApiShapes.Proofs.Settings.OutputDir

/-!
# Clearing undoes generating

Clearing for a schema chooses its settings from what generating has left.  The schema that both read
lies outside the output directory, and there generating has changed no file, so both choose the same
settings.  Main statement: clearing for the schema of a successful run, under the same options,
removes what lies at the output directory of that run and below it, keeps all that was there before
the run elsewhere, and leaves nothing to do for clearing a second time.
-/

namespace ApiShapes

open Workspace

/-- An outcome that is a success was preceded by one. -/
theorem ok_of_bind
    {α β : Type} {outcome : Except Error α} {next : α → Except Error β} {answer : β}
    (succeeds : outcome >>= next = .ok answer) :
    ∃ result, outcome = .ok result ∧ next result = .ok answer := by
  cases outcome with
  | error error => cases succeeds
  | ok result => exact ⟨result, rfl, succeeds⟩

/-- The schema of the bytes of a file, which must be text. -/
def Schema.ofBytes (path : Path) (content : ByteArray) : Except Error Schema :=
  match String.fromUTF8? content with
  | some text => Schema.ofText text
  | none => .error (.storage path .invalidText)

/-- The bytes of a text are read as the schema in the text. -/
theorem Schema.ofBytes_toUTF8 (path : Path) (text : String) :
    Schema.ofBytes path text.toUTF8 = Schema.ofText text := by
  have isText : String.fromUTF8? text.toUTF8 = some text := dif_pos text.isValidUTF8
  rw [Schema.ofBytes, isText]

/-- A schema is read from the bytes of its file, and nothing changes. -/
theorem Schema.ofFile_answers
    {memory : Memory} {path : Path} {content : ByteArray}
    (holds : memory.contents.files path.components = some content) :
    Answers memory (Schema.ofFile path) (Schema.ofBytes path content) := by
  have readsFile :
      Answers memory (Storage.attempt path (Workspace.read path)) (.ok content) := by
    have reads := Memory.run_attempt memory path (Workspace.read path)
    rw [Memory.read_of_file holds] at reads
    exact reads
  have isRead (content : ByteArray) :
      Answers memory
        (match String.fromUTF8? content with
          | some text => Schema.ofText text
          | none => throw (.storage path .invalidText))
        (ofBytes path content) := by
    rw [ofBytes]
    cases String.fromUTF8? content with
    | none => rfl
    | some text => exact .ofExcept memory _
  exact readsFile.bind isRead

namespace Settings

theorem components_ne_nil_of_forSchema
    {settings chosen : Settings} {schema : Schema} {base : Path}
    (hasComponents : settings.outputDir.components ≠ [])
    (isChosen : settings.forSchema schema base = .ok chosen) :
    chosen.outputDir.components ≠ [] := by
  rw [forSchema] at isChosen
  rcases schema with ⟨_ | ⟨path, ns⟩, documents⟩
  · obtain rfl := Except.ok.inj isChosen
    exact hasComponents
  · cases path with
    | none =>
        cases ns <;> obtain rfl := Except.ok.inj isChosen <;> exact hasComponents
    | some path =>
        have isTaken : settings.withSchema ⟨some path, ns⟩ base = .ok chosen := isChosen
        rw [withSchema_path] at isTaken
        split at isTaken
        · rename_i below
          obtain rfl := Except.ok.inj isTaken
          exact components_ne_nil_of_outputDirBelow? below
        · cases isTaken

end Settings

namespace Command

/-- The invocation that clears for the schema in a file, under the same options. -/
def Invocation.toClear (invocation : Invocation) (path : Path) : Invocation :=
  { invocation with task := .clear (some path) }

/-- What an invocation comes to for a schema with some bytes, where relative paths stay relative. -/
def Invocation.choice (invocation : Invocation) (path : Path) (content : ByteArray) :
    Except Error (Settings × Schema) := do
  let base ← .ok (invocation.baseDir.getD .empty)
  let settings ← invocation.settings base
  let schema ← Schema.ofBytes path content
  let chosen ← settings.forSchema schema base
  .ok (chosen, schema)

variable {invocation : Invocation} {path : Path}

/-- Of a memory, choosing sees no more than the bytes of the schema. -/
theorem choose_answers
    {memory : Memory} {content : ByteArray}
    (holds : memory.contents.files path.components = some content) :
    Answers memory (invocation.choose path) (invocation.choice path content) := by
  have startsAt : Answers memory invocation.base (.ok (invocation.baseDir.getD .empty)) := by
    rw [Invocation.base]
    cases invocation.baseDir <;> rfl
  refine startsAt.bind fun base => (Answers.ofExcept memory _).bind fun settings => ?_
  refine (Schema.ofFile_answers holds).bind fun schema => ?_
  exact (Answers.ofExcept memory _).bind fun chosen => rfl

theorem components_ne_nil_of_settings
    {base : Path} {settings : Settings} (isSet : invocation.settings base = .ok settings) :
    settings.outputDir.components ≠ [] := by
  rw [Invocation.settings] at isSet
  split at isSet
  · rename_i below
    obtain rfl := Except.ok.inj isSet
    exact Settings.components_ne_nil_of_outputDirBelow? below
  · cases isSet

/-- A run never works at the path without components. -/
theorem components_ne_nil_of_choice
    {content : ByteArray} {settings : Settings} {schema : Schema}
    (isChosen : invocation.choice path content = .ok (settings, schema)) :
    settings.outputDir.components ≠ [] := by
  rcases ok_of_bind isChosen with ⟨base, -, isChosen⟩
  rcases ok_of_bind isChosen with ⟨given, isSet, isChosen⟩
  rcases ok_of_bind isChosen with ⟨schema, -, isChosen⟩
  rcases ok_of_bind isChosen with ⟨chosen, isFor, ⟨⟩⟩
  exact Settings.components_ne_nil_of_forSchema (components_ne_nil_of_settings isSet) isFor

/-- Settings that were chosen for a schema were chosen from a file that is there. -/
theorem file_of_choose
    {memory now : Memory} {chosen : Settings × Schema}
    (isChosen : run memory (invocation.choose path) = (.ok chosen, now)) :
    ∃ content, memory.contents.files path.components = some content := by
  cases isFile : memory.contents.files path.components with
  | some content => exact ⟨content, rfl⟩
  | none =>
      rcases Memory.read_of_no_file isFile with ⟨fault, isRefused⟩
      have isUnreadable : Schema.Unreadable path memory fault := by
        rw [Schema.Unreadable, isRefused]
      rcases choose_fails memory_questionsKeep invocation isUnreadable with ⟨error, isError⟩
      rw [isChosen] at isError
      cases isError

/-- A run that clears chooses its settings and then removes their output directory. -/
theorem run_toClear
    {memory now done : Memory} {settings : Settings} {schema : Schema}
    (isChosen : run memory (invocation.choose path) = (.ok (settings, schema), now))
    (isCleared : run now (Output.clear settings) = (.ok (), done)) :
    run memory (invocation.toClear path).run = (.ok "", done) := by
  have isTask : (invocation.toClear path).task = .clear (some path) := rfl
  have sameChoice : (invocation.toClear path).choose (m := StateM Memory) path =
      invocation.choose path := rfl
  rw [run_of_clear isTask, run_bind, sameChoice, isChosen]
  simp only [clearReport]
  rw [run_bind, isCleared]
  rfl

/--
Clearing undoes generating.  Let generating for the schema in a file succeed on a memory that
refuses no call.  Its settings are those that were chosen for the schema, and unless the file lies
at their output directory or below it, clearing for it under the same options chooses them again and
succeeds by one call, the removal of the output directory.  Nothing is left there or below, outside
it everything is as before generating but for directories around it, and clearing a second time
makes no call at all.
-/
theorem clear_undoes_generate
    {start done : Memory} {report : String} (willing : start.refusal = none)
    (isTask : invocation.task = .generate path)
    (generated : run start invocation.run = (.ok report, done)) :
    ∃ settings schema,
      run start (invocation.choose path) = (.ok (settings, schema), start) ∧
      (∃ paths, run start (Output.generate settings schema) = (.ok paths, done)) ∧
      (¬ settings.outputDir.components <+: path.components →
        ∃ cleared,
          run done ((invocation.toClear path).choose path) = (.ok (settings, schema), done) ∧
          run done (invocation.toClear path).run = (.ok "", cleared) ∧
          cleared.log = done.log ++ [.removeDir settings.outputDir] ∧
          cleared.contents.EmptyBelow settings.outputDir.components ∧
          start.contents.KeepsOutside settings.outputDir.components cleared.contents ∧
          run cleared (invocation.toClear path).run = (.ok "", cleared)) := by
  rw [run_of_generate isTask] at generated
  rcases run_bind_eq_ok generated with ⟨⟨settings, schema⟩, now, isChosen, reported⟩
  obtain rfl : now = start := by
    have keeps := choose_onlyAsks memory_questionsKeep invocation path start
    rwa [isChosen] at keeps
  rcases run_bind_eq_ok reported with ⟨paths, written, isWritten, counted⟩
  obtain rfl : written = done := congrArg Prod.snd counted
  rcases file_of_choose isChosen with ⟨content, atStart⟩
  have isChoice : invocation.choice path content = .ok (settings, schema) := by
    have answers : Answers now (invocation.choose path) _ := choose_answers atStart
    rw [Answers, isChosen] at answers
    exact (Prod.mk.inj answers).1.symm
  have hasComponents := components_ne_nil_of_choice isChoice
  refine ⟨settings, schema, isChosen, ⟨paths, isWritten⟩, ?_⟩
  intro outside
  rcases Output.clear_generated willing hasComponents isWritten with ⟨isCleared, isEmpty, keeps⟩
  have chosenAgain {memory : Memory}
      (holds : memory.contents.files path.components = some content) :
      run memory (invocation.choose path) = (.ok (settings, schema), memory) :=
    isChoice ▸ choose_answers holds
  have inWritten : written.contents.files path.components = some content := by
    have standing := Output.standing_of_generated hasComponents isWritten
    rw [standing.outside.file_eq _ outside, atStart]
  have inCleared :
      (Output.cleared settings written).contents.files path.components = some content := by
    rw [keeps.file_eq _ outside, atStart]
  have nothingThere : ¬ (Output.cleared settings written).contents.dirs _ :=
    (isEmpty _ (List.prefix_refl _)).1
  exact ⟨_, chosenAgain inWritten, run_toClear (chosenAgain inWritten) isCleared, rfl, isEmpty,
    keeps, run_toClear (chosenAgain inCleared) (Output.run_clear_of_missing nothingThere)⟩

/-- The text of a schema that asks for a directory. -/
def orderText : String :=
  "\x7b\"settings\":\x7b\"path\":\"gen\"\x7d,\"order\":\x7b\"request\":\x7b\"body\":[\x7b\x7d]\x7d\x7d\x7d"

/-- A memory with a schema, and with a file in the directory that it asks for. -/
def orderMemory : Memory where
  dirs := [[.normal "gen"]]
  files := [([.normal "api.json"], orderText.toUTF8), ([.normal "gen", .normal "Old.php"], .empty)]
  log := []
  refusal := none

/-- Generating for the schema of `orderMemory`. -/
def generateOrders : Invocation := ⟨.generate ⟨"api.json"⟩, none, ⟨"out"⟩, "App"⟩

/-- What `generateOrders` comes to: the directory of the schema and the namespace of the options. -/
def orderChoice : Settings × Schema :=
  ({ Settings.standard with outputDir := ⟨"gen"⟩, ns := "App" },
    ⟨some ⟨some "gen", none⟩, Plan.orderSchema.documents⟩)

open Json in
theorem orderText_read : Schema.ofText orderText = .ok orderChoice.2 := by
  have asks : (SchemaSettings.mk (some "gen") none).HeldBy [("path", .string "gen")] :=
    ⟨rfl, .inl rfl⟩
  have held := Schema.HeldBy.settings [] Plan.orderSchema.documents asks
  have asked : EntryWrittenAs "path" _ _ :=
    .tight (.plain (by simp)) (.string (s := "gen") (.plain (by simp)))
  have settings : EntryWrittenAs "settings" _ _ :=
    .tight (.plain (by simp)) (.entries (.last asked))
  have body : EntryWrittenAs "body" _ _ :=
    .tight (.plain (by simp)) (.items (.last (Value.WrittenAs.noEntries .nil).alone))
  have request : EntryWrittenAs "request" _ _ :=
    .tight (.plain (by simp)) (.entries (.last body))
  have order : EntryWrittenAs "order" _ _ :=
    .tight (.plain (by simp)) (.entries (.last request))
  have written := (Value.WrittenAs.entries (.comma settings (.last order))).alone
  exact held.ofText_eq (by decide) (by decide) (by decide) written

theorem generateOrders_choice :
    generateOrders.choice ⟨"api.json"⟩ orderText.toUTF8 = .ok orderChoice := by
  rw [Invocation.choice, Schema.ofBytes_toUTF8, orderText_read]
  rfl

set_option maxRecDepth 20000 in
theorem orders_cleared :
    ∃ done cleared,
      run orderMemory generateOrders.run = (.ok "Generated 3 files\n", done) ∧
      run done (generateOrders.toClear ⟨"api.json"⟩).run = (.ok "", cleared) ∧
      cleared.contents.EmptyBelow [.normal "gen"] ∧
      orderMemory.contents.KeepsOutside [.normal "gen"] cleared.contents := by
  have holds : orderMemory.contents.files (Path.components ⟨"api.json"⟩) =
      some orderText.toUTF8 := by rfl
  have isChosen : run orderMemory (generateOrders.choose ⟨"api.json"⟩) = _ :=
    choose_answers holds
  rw [generateOrders_choice] at isChosen
  have generated : ∃ done,
      run orderMemory generateOrders.run = (.ok "Generated 3 files\n", done) := by
    rw [run_of_generate rfl, run_bind, isChosen]
    exact ⟨_, Prod.ext (by rfl) rfl⟩
  rcases generated with ⟨done, generated⟩
  rcases clear_undoes_generate rfl rfl generated with ⟨settings, schema, chosen, -, undoes⟩
  obtain ⟨rfl, rfl⟩ : orderChoice.1 = settings ∧ orderChoice.2 = schema := by
    rw [isChosen] at chosen
    cases chosen
    exact ⟨rfl, rfl⟩
  have isGen : orderChoice.1.outputDir.components = [.normal "gen"] := by decide
  have outside : ¬ orderChoice.1.outputDir.components <+: Path.components ⟨"api.json"⟩ := by
    decide
  rcases undoes outside with ⟨cleared, -, isCleared, -, isEmpty, keeps, -⟩
  rw [isGen] at isEmpty keeps
  exact ⟨done, cleared, generated, isCleared, isEmpty, keeps⟩

end Command

end ApiShapes
