import ApiShapes.Proofs.Json.Reading
import ApiShapes.Proofs.Lookup
import ApiShapes.Schema.Basic

/-!
# Reading a schema that was written

A schema is written as a JSON object with one entry for each document, in order, and with its
settings anywhere between them.  Nodes become JSON values of the same kinds.  Main statement: in
whatever way such an object is written, the schema that is read has the same documents in the same
order, with the same nodes, and asks for the same.
-/

namespace ApiShapes

namespace Node

/-- An integer as a JSON number, by its sign. -/
def toNumber (i : Int64) : Json.Number :=
  if 0 ≤ i.toInt then .natural (.ofNat i.toInt.toNat) else .negative i

mutual

/-- The JSON value of a node. -/
def toJson : Node → Json.Value
  | null => .null
  | bool b => .bool b
  | integer i => .number (toNumber i)
  | float x => .number (.real x)
  | string s => .string s
  | list items => .array (toItems items)
  | map entries => .object (toEntries entries)

/-- The JSON values of nodes. -/
def toItems : List Node → List Json.Value
  | [] => []
  | node :: nodes => node.toJson :: toItems nodes

/-- The JSON values of the nodes of entries, under the same keys. -/
def toEntries : Entries → List (String × Json.Value)
  | [] => []
  | (key, node) :: entries => (key, node.toJson) :: toEntries entries

end

/-- An integer is read back from its JSON number, whatever its sign. -/
theorem ofNumber_toNumber (i : Int64) : ofNumber (toNumber i) = integer i := by
  have high := i.toInt_lt
  rw [toNumber]
  split
  · have fits : i.toInt.toNat < Json.signedBound := by
      rw [Json.signedBound]
      omega
    have same : (UInt64.ofNat i.toInt.toNat).toNat = i.toInt.toNat :=
      UInt64.toNat_ofNat_of_lt' (by rw [UInt64.size]; omega)
    have isSelf : Int64.ofNat i.toInt.toNat = i := by
      rw [← Int64.ofInt_eq_ofNat, Int.toNat_of_nonneg (by assumption), Int64.ofInt_toInt]
    rw [ofNumber, same, if_pos fits, isSelf]
  · rfl

mutual

/--
A node is read back from its JSON value.  The induction is over nodes, items and entries together.
-/
theorem ofJson_toJson : ∀ node : Node, ofJson node.toJson = node
  | null | bool _ | float _ | string _ => rfl
  | integer i => ofNumber_toNumber i
  | list items => congrArg list (ofItems_toItems items)
  | map entries => congrArg map (ofEntries_toEntries entries)

theorem ofItems_toItems : ∀ items : List Node, ofItems (toItems items) = items
  | [] => rfl
  | node :: nodes => by
      rw [toItems, ofItems, ofJson_toJson node, ofItems_toItems nodes]

/-- Entries are read back in their order. -/
theorem ofEntries_toEntries : ∀ entries : Entries, ofEntries (toEntries entries) = entries
  | [] => rfl
  | (key, node) :: entries => by
      rw [toEntries, ofEntries, ofJson_toJson node, ofEntries_toEntries entries]

end

theorem map_key_toEntries (entries : Entries) :
    (toEntries entries).map (·.1) = entries.map (·.1) := by
  induction entries with
  | nil => rfl
  | cons entry entries ih => rw [toEntries, List.map_cons, List.map_cons, ih]

/-- Entries are read one by one. -/
theorem ofEntries_append (first second : List (String × Json.Value)) :
    ofEntries (first ++ second) = ofEntries first ++ ofEntries second := by
  induction first with
  | nil => rfl
  | cons entry entries ih => rw [List.cons_append, ofEntries, ofEntries, ih, List.cons_append]

end Node

namespace SchemaSettings

/-- What a JSON object says of a setting: it is a string, or else it is null or left out. -/
def Gives (asked : Option String) (found : Option Json.Value) : Prop :=
  match asked with
  | some text => found = some (.string text)
  | none => found = none ∨ found = some .null

/-- The entries of a JSON object ask for settings; those under other keys mean nothing. -/
structure HeldBy (settings : SchemaSettings) (entries : List (String × Json.Value)) : Prop where
  path : Gives settings.path (entries.lookup "path")
  ns : Gives settings.ns (entries.lookup "namespace")

/-- A setting is that of an entry, or it stays what it was. -/
def Becomes (known asked : Option String) (found : Option Json.Value) : Prop :=
  match found with
  | some value => optionalText value = .ok asked
  | none => asked = known

/-- What an object says of a setting is what it becomes, if nothing was known of it before. -/
theorem Gives.becomes {asked : Option String} {found : Option Json.Value} (given : Gives asked found) :
    Becomes none asked found := by
  cases asked with
  | some text =>
      obtain rfl : found = some (.string text) := given
      rfl
  | none => rcases given with rfl | rfl <;> rfl

/--
Among entries with different keys, each setting becomes what its entry says, wherever that stands.
-/
theorem ofEntries_eq
    {entries : List (String × Json.Value)} (distinct : (entries.map (·.1)).Nodup)
    {known asked : SchemaSettings} (path : Becomes known.path asked.path (entries.lookup "path"))
    (ns : Becomes known.ns asked.ns (entries.lookup "namespace")) :
    ofEntries known entries = .ok asked := by
  induction entries generalizing known with
  | nil =>
      rcases known with ⟨knownPath, knownNs⟩
      obtain rfl : asked.path = knownPath := path
      obtain rfl : asked.ns = knownNs := ns
      rfl
  | cons entry entries ih =>
      rcases entry with ⟨key, value⟩
      rw [List.map_cons, List.nodup_cons] at distinct
      have gone := lookup_eq_none distinct.1
      rw [lookup_cons_eq_ite] at path ns
      by_cases isPath : key = "path"
      · subst isPath
        rw [if_pos rfl] at path
        rw [if_neg (by decide)] at ns
        have taken : optionalText value = .ok asked.path := path
        rw [ofEntries, if_pos rfl, taken]
        refine ih distinct.2 ?_ ns
        rw [gone, Becomes]
      · by_cases isNs : key = "namespace"
        · subst isNs
          rw [if_pos rfl] at ns
          rw [if_neg (by decide)] at path
          have taken : optionalText value = .ok asked.ns := ns
          rw [ofEntries, if_neg isPath, if_pos rfl, taken]
          refine ih distinct.2 path ?_
          rw [gone, Becomes]
        · rw [if_neg (Ne.symm isPath)] at path
          rw [if_neg (Ne.symm isNs)] at ns
          rw [ofEntries, if_neg isPath, if_neg isNs]
          exact ih distinct.2 path ns

/-- Settings are read from an object that asks for them. -/
theorem HeldBy.ofJson_eq
    {settings : SchemaSettings} {entries : List (String × Json.Value)}
    (held : settings.HeldBy entries) (distinct : (entries.map (·.1)).Nodup) :
    ofJson (.object entries) = .ok settings :=
  ofEntries_eq distinct held.path.becomes held.ns.becomes

end SchemaSettings

namespace Schema

/--
The entries of a JSON object hold a schema: its documents in order, and what it asks for, if there
is anything, anywhere between them.
-/
inductive HeldBy : Schema → List (String × Json.Value) → Prop
  | documents (documents : Entries) : HeldBy ⟨none, documents⟩ (Node.toEntries documents)
  | settings (front behind : Entries) {settings : SchemaSettings}
      {entries : List (String × Json.Value)} (held : settings.HeldBy entries) :
      HeldBy ⟨some settings, front ++ behind⟩
        (Node.toEntries front ++ (settingsKey, .object entries) :: Node.toEntries behind)

theorem isRegular_of_mem
    {entries : List (String × Json.Value)} (areRegular : Json.entriesAreRegular entries = true)
    {key : String} {value : Json.Value} (member : (key, value) ∈ entries) :
    value.isRegular = true := by
  induction entries with
  | nil => cases member
  | cons entry entries ih =>
      rcases Bool.and_eq_true_iff.mp areRegular with ⟨isRegular, othersRegular⟩
      rcases List.mem_cons.mp member with rfl | isOther
      · exact isRegular
      · exact ih othersRegular isOther

/-- No document is left out for the settings, since none has their key. -/
theorem filter_documents {documents : Entries} (named : settingsKey ∉ documents.map (·.1)) :
    documents.filter (·.1 ≠ settingsKey) = documents := by
  rw [List.filter_eq_self]
  rintro ⟨name, node⟩ member
  refine decide_eq_true ?_
  rintro rfl
  exact named (List.mem_map_of_mem member)

/--
A schema is read from an object that holds it, wherever the settings stand between the documents.
-/
theorem HeldBy.ofJson_eq
    {schema : Schema} {entries : List (String × Json.Value)} (held : schema.HeldBy entries)
    (named : settingsKey ∉ schema.documents.map (·.1))
    (isRegular : (Json.Value.object entries).isRegular = true) :
    ofJson (.object entries) = .ok schema := by
  rw [ofJson]
  cases held with
  | documents documents =>
      have missing : settingsKey ∉ (Node.toEntries documents).map (·.1) := by
        rwa [Node.map_key_toEntries]
      rw [lookup_eq_none missing, Node.ofEntries_toEntries, filter_documents named]
      rfl
  | @settings front behind settings entries held =>
      rw [List.map_append, List.mem_append, not_or] at named
      have missing : settingsKey ∉ (Node.toEntries front).map (·.1) := by
        rw [Node.map_key_toEntries]
        exact named.1
      have areRegular := (Bool.and_eq_true_iff.mp isRegular).2
      have inMiddle : (settingsKey, Json.Value.object entries) ∈
          Node.toEntries front ++ (settingsKey, .object entries) :: Node.toEntries behind :=
        List.mem_append_right _ List.mem_cons_self
      have settingsRegular := isRegular_of_mem areRegular inMiddle
      have distinct := of_decide_eq_true (Bool.and_eq_true_iff.mp settingsRegular).1
      rw [lookup_middle missing, Node.ofEntries_append, Node.ofEntries_toEntries, Node.ofEntries,
        Node.ofEntries_toEntries, List.filter_append, List.filter_cons_of_neg (by simp),
        filter_documents named.1, filter_documents named.2]
      simp only [held.ofJson_eq distinct]
      rfl

/--
A schema is read from every text of an object that holds it, if the text is not nested too deep.
-/
theorem HeldBy.ofText_eq
    {schema : Schema} {entries : List (String × Json.Value)} (held : schema.HeldBy entries)
    (named : settingsKey ∉ schema.documents.map (·.1))
    (isRegular : (Json.Value.object entries).isRegular = true)
    (fits : (Json.Value.object entries).depth ≤ 127) {text : String}
    (written : (Json.Value.object entries).SpacedAs text.toList) :
    Schema.ofText text = .ok schema := by
  have isValue := Json.Value.ofText_eq written isRegular fits
  rw [ofText, Json.parse, isValue]
  exact held.ofJson_eq named isRegular

/--
Reading loses nothing and reorders nothing.  Let a JSON object hold a schema whose documents are not
named like the settings; let its numbers be integers, no object in it have a key twice and at most
127 containers lie in each other.  Then there are texts that write the object, and reading any of
them, with any escapes and blanks, gives exactly the schema.
-/
theorem read_written
    {schema : Schema} {entries : List (String × Json.Value)} (held : schema.HeldBy entries)
    (named : settingsKey ∉ schema.documents.map (·.1))
    (isRegular : (Json.Value.object entries).isRegular = true)
    (fits : (Json.Value.object entries).depth ≤ 127) :
    (∃ text : String, (Json.Value.object entries).SpacedAs text.toList) ∧
      ∀ text : String, (Json.Value.object entries).SpacedAs text.toList →
        Schema.ofText text = .ok schema := by
  constructor
  · rcases Json.Value.exists_text _ isRegular with ⟨text, written⟩
    refine ⟨String.ofList text, ?_⟩
    rw [String.toList_ofList]
    exact written.alone
  · intro text written
    exact held.ofText_eq named isRegular fits written

/-- A schema that asks for a namespace, with a document before its settings and one behind. -/
def spacedSchema : Schema where
  settings := some ⟨none, some "App"⟩
  documents := [("a", .integer (-1)), ("b", .list [.string "A"])]

/-- A text of `spacedSchema` with some blanks and an escape. -/
def spacedText : String :=
  "\x7b\"a\" :\n-1,\"settings\":\x7b\"namespace\":\"App\"\x7d,\"b\":[\"\\u0041\"]\x7d"

open Json in
theorem spacedSchema_read : Schema.ofText spacedText = .ok spacedSchema := by
  have asks : (SchemaSettings.mk none (some "App")).HeldBy [("namespace", .string "App")] :=
    ⟨.inl rfl, rfl⟩
  have held := HeldBy.settings [("a", .integer (-1))] [("b", .list [.string "A"])] asks
  have space : Blanks [' '] := by simp [Blanks]
  have lineBreak : Blanks ['\n'] := by simp [Blanks]
  have isMinusOne := Number.WrittenAs.negative (i := -1) (by decide)
  have first : EntryWrittenAs "a" _ _ :=
    .entry .nil (.plain (by simp)) space (.spaced lineBreak (.number isMinusOne) .nil)
  have asked : EntryWrittenAs "namespace" _ _ :=
    .tight (.plain (by simp)) (.string (s := "App") (.plain (by simp)))
  have second : EntryWrittenAs "settings" _ _ :=
    .tight (.plain (by simp)) (.entries (.last asked))
  have escaped : AllStandFor "A".toList ("\\u0041".toList ++ []) :=
    .cons (.code (by decide) (.digits (.inl rfl) (.inl rfl) (.inl rfl) (.inl rfl))) .nil
  have third : EntryWrittenAs "b" _ _ :=
    .tight (.plain (by simp)) (.items (.last (Value.WrittenAs.string escaped).alone))
  have written := (Value.WrittenAs.entries (.comma first (.comma second (.last third)))).alone
  have read := (read_written held (by decide) (by decide) (by decide)).2 spacedText
  exact read written

end Schema

end ApiShapes
