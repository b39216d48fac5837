import Mathlib.Data.List.Forall2
import CredentialReach.Analysis.Result
import CredentialReach.Mysql.Snapshot
import CredentialReach.Proofs.Traversals

/-! Documents are read back as what was written. A value is written from the writings of its parts, and
so is what reads it back; the chains of containing resources and of broader permissions are written
one in the other and read by induction on the chain. -/

namespace CredentialReach

namespace Json

variable {α : Type} {write : α → Json} {read : Decoder α}

def ReadsBack (write : α → Json) (read : Decoder α) : Prop := ∀ value, read (write value) = .ok value

private theorem readsBack_text : ReadsBack string asText := fun _ => rfl

private theorem readsBack_count : ReadsBack ofNat asCount := fun _ => rfl

private theorem readsBack_map : ReadsBack ofMap asMap := fun members => congrArg Except.ok members.ofList_entries

theorem ReadsBack.list (back : ReadsBack write read) :
    ReadsBack (fun values => array (values.map write)) (asList read) :=
  fun _ => mapM_map_ok fun value _ => back value

/-- No value is taken for an absent one. -/
theorem ReadsBack.option (back : ReadsBack write read) (some : ∀ value, write value ≠ null) :
    ReadsBack (ofOption write) (asOptional read) := by
  rintro (_ | value)
  · rfl
  · have read : asOptional read (write value) = Option.some <$> read (write value) := by
      cases written : write value with
      | null => exact absurd written (some value)
      | _ => rfl
    rw [ofOption, read, back value]
    rfl

private theorem readsBack_name {name : α → String} {ofName? : String → Option α}
    (known : ∀ value, ofName? (name value) = some value) :
    ReadsBack (fun value => string (name value)) (asName ofName?) := fun value => by
  rw [asName, known value]

theorem asRecord_object (fields : List String) (members : List (String × Json)) :
    asRecord fields (object members) = .ok members := rfl

theorem required_of_lookup {members : List (String × Json)} {name : String} {value : Json}
    (found : NameMap.lookup name members = some value) : required members name read = read value := by
  rw [required, found]

private theorem optional_of_lookup {members : List (String × Json)} {name : String} {value : Json} (absent : α)
    (found : NameMap.lookup name members = some value) :
    optional members name absent read = read value := by
  rw [optional, found]

private theorem optional_of_absent {members : List (String × Json)} {name : String} (absent : α)
    (missing : NameMap.lookup name members = none) :
    optional members name absent read = .ok absent := by
  rw [optional, missing]

private theorem chain_of_absent {document : Json} {fields : List String} {name : String}
    (absent : document.part? fields name = none) : document.chain fields name = [document] := by
  rw [chain]
  split
  next => rfl
  next => rfl
  next found => simp [absent] at found

private theorem chain_of_part {document next : Json} {fields : List String} {name : String}
    (found : document.part? fields name = some next) (some : next ≠ null) :
    document.chain fields name = document :: next.chain fields name := by
  rw [chain]
  split
  next absent => simp [absent] at found
  next blank => exact absurd (Option.some.inj (found.symm.trans blank)) some
  next other _ same => rw [Option.some.inj (found.symm.trans same)]

/-- Chains are written one record in the other: each has members of its own, and the next one in its
member `name`. -/
structure Nested (write : α → List α → Json) (members : α → List (String × Json)) (name : String) :
    Prop where
  last head : write head [] = object (members head)
  cons head next rest : write head (next :: rest) = object (members head ++ [(name, write next rest)])
  free head : NameMap.lookup name (members head) = none

namespace Nested

variable {write : α → List α → Json} {members : α → List (String × Json)} {name : String}

private theorem ne_null (nested : Nested write members name) (head : α) (rest : List α) :
    write head rest ≠ null := by
  cases rest with
  | nil => rw [nested.last]; exact nofun
  | cons next rest => rw [nested.cons]; exact nofun

theorem member? (nested : Nested write members name) (head : α) (rest : List α) :
    (write head rest).member? name = match rest with
      | [] => none
      | next :: rest => some (write next rest) := by
  cases rest with
  | nil => rw [nested.last]; exact nested.free head
  | cons next rest =>
    rw [nested.cons, Json.member?, NameMap.lookup_append, nested.free head]
    simp [NameMap.lookup]

/-- The other members of a record are its own. -/
theorem member?_other (nested : Nested write members name) {key : String} (other : key ≠ name)
    (head : α) (rest : List α) :
    (write head rest).member? key = NameMap.lookup key (members head) := by
  cases rest with
  | nil => rw [nested.last]; rfl
  | cons next rest =>
    rw [nested.cons, Json.member?, NameMap.lookup_append]
    simp [NameMap.lookup, other]

theorem part? (nested : Nested write members name) (fields : List String) (head : α) (rest : List α) :
    (write head rest).part? fields name = (write head rest).member? name := by
  cases rest with
  | nil => rw [nested.last]; rfl
  | cons next rest => rw [nested.cons]; rfl

/-- A chain is read record by record. -/
theorem mapM_chain (nested : Nested write members name) (fields : List String)
    (last : ∀ head, read (object (members head)) = .ok head)
    (cons : ∀ head next, read (object (members head ++ [(name, next)])) = .ok head)
    (head : α) (rest : List α) : ((write head rest).chain fields name).mapM read = .ok (head :: rest) := by
  induction rest generalizing head with
  | nil =>
    rw [chain_of_absent ((nested.part? fields head []).trans (nested.member? head [])), nested.last,
      List.mapM_cons, last]
    rfl
  | cons next rest ih =>
    have above := (nested.part? fields head (next :: rest)).trans (nested.member? head (next :: rest))
    rw [chain_of_part above (nested.ne_null next rest), nested.cons, List.mapM_cons, cons, ih next]
    rfl

end Nested

end Json

open Json

namespace Permission

def members (value : String) : List (String × Json) := [("value", .string value)]

theorem nested : Nested encodeChain members "parent" where
  last _ := rfl
  cons _ _ _ := rfl
  free _ := by simp [members, NameMap.lookup]

theorem readsBack : ReadsBack toJson ofJson := fun ⟨value, impliedBy⟩ => by
  rw [ofJson, toJson, nested.mapM_chain]
  · rfl
  · intro value
    simp [members, asRecord_object, required, NameMap.lookup, asText, bind, Except.bind]
  · intro value next
    simp [members, asRecord_object, required, NameMap.lookup, asText, bind, Except.bind]

end Permission

namespace Resource

theorem nested : Nested encodeChain draftMembers "parent" where
  last _ := rfl
  cons _ _ _ := rfl
  free draft := by
    rw [draftMembers, NameMap.lookup_append]
    split <;> simp [NameMap.lookup]

private theorem decodeDraft_draftMembers (draft : Draft) (more : List (String × Json))
    (plain : NameMap.lookup "metadata" more = none) :
    decodeDraft (.object (draftMembers draft ++ more)) = .ok draft := by
  have name : NameMap.lookup "name" (draftMembers draft ++ more) = some (.string draft.name) := by
    simp [draftMembers, NameMap.lookup]
  have fullName : NameMap.lookup "fully_qualified_name" (draftMembers draft ++ more) =
      some (.string draft.fullName) := by
    simp [draftMembers, NameMap.lookup]
  have type : NameMap.lookup "type" (draftMembers draft ++ more) = some (.string draft.type) := by
    simp [draftMembers, NameMap.lookup]
  have metadata : optional (draftMembers draft ++ more) "metadata" ∅ asMap = .ok draft.metadata := by
    cases bare : draft.metadata.isEmpty with
    | true =>
      rw [optional_of_absent, NameMap.eq_empty_of_isEmpty bare]
      simp [draftMembers, bare, NameMap.lookup, plain]
    | false =>
      have found : NameMap.lookup "metadata" (draftMembers draft ++ more) =
          some (.ofMap draft.metadata) := by simp [draftMembers, bare, NameMap.lookup]
      rw [optional_of_lookup ∅ found, readsBack_map]
  rw [decodeDraft, asRecord_object]
  simp [required_of_lookup name, required_of_lookup fullName, required_of_lookup type, metadata, asText,
    bind, Except.bind]
  rfl

theorem readsBack : ReadsBack toJson ofJson := fun ⟨draft, owners⟩ => by
  rw [ofJson, toJson, nested.mapM_chain]
  · rfl
  · intro draft
    simpa using decodeDraft_draftMembers draft [] rfl
  · intro draft next
    exact decodeDraft_draftMembers draft _ (by simp [NameMap.lookup])

end Resource

namespace Mysql

theorem SchemaTable.readsBack : ReadsBack toJson ofJson := fun table => by
  have bytes := readsBack_count.option (fun _ => nofun) table.bytes
  simp [toJson, ofJson, asRecord_object, required, Json.optional, NameMap.lookup, asText, bytes, bind,
    Except.bind, pure, Except.pure]

private theorem RoutineKind.ofName?_name (kind : RoutineKind) : ofName? kind.name = some kind := by
  cases kind <;> simp [ofName?, name]

theorem SchemaRoutine.readsBack : ReadsBack toJson ofJson
  | .bare name => rfl
  | .typed name kind => by
    have tag := readsBack_name RoutineKind.ofName?_name kind
    simp [toJson, ofJson, occurrences, required, Json.optional, NameMap.lookup, asText, tag, bind,
      Except.bind, pure, Except.pure]

theorem SchemaDatabase.readsBack : ReadsBack toJson ofJson := fun schema => by
  have tables := SchemaTable.readsBack.list schema.tables
  have routines := SchemaRoutine.readsBack.list schema.routines
  simp [toJson, ofJson, asRecord_object, required, Json.optional, NameMap.lookup, asText, tables, routines,
    bind, Except.bind, pure, Except.pure]

theorem Snapshot.readsBack : ReadsBack toJson ofJson := fun snapshot => by
  have databases := SchemaDatabase.readsBack.list snapshot.databases
  have grants := readsBack_text.list snapshot.grants
  simp [toJson, ofJson, asRecord_object, Json.optional, NameMap.lookup, databases, ofTexts, grants,
    bind, Except.bind, pure, Except.pure]

end Mysql

namespace AnalysisResult

def encodeBinding (binding : Binding) : Json :=
  .object [("resource", binding.resource.toJson), ("permission", binding.permission.toJson)]

theorem toJson_eq (result : AnalysisResult) : result.toJson = .object
    [("analyzer_type", .string result.kind.name), ("metadata", .ofMap result.metadata),
      ("bindings", .array (result.bindings.map encodeBinding)),
      ("unbounded_resources", .array (result.unbounded.map Resource.toJson))] := rfl

private theorem readsBack_binding : ReadsBack encodeBinding decodeBinding := fun binding => by
  have resource := Resource.readsBack binding.resource
  have permission := Permission.readsBack binding.permission
  simp [encodeBinding, decodeBinding, asRecord_object, required, NameMap.lookup, resource, permission,
    bind, Except.bind, pure, Except.pure]

private theorem readsBack_kind :
    ReadsBack (fun kind : AnalyzerKind => string kind.name)
      (asName fun name => AnalyzerKind.all.find? (·.name == name)) :=
  readsBack_name fun kind => by cases kind <;> simp [AnalyzerKind.all, AnalyzerKind.name]

theorem readsBack : ReadsBack toJson ofJson := fun result => by
  have kind := readsBack_kind result.kind
  have metadata := readsBack_map result.metadata
  have bindings := readsBack_binding.list result.bindings
  have unbounded := Resource.readsBack.list result.unbounded
  simp only at kind bindings unbounded
  simp [toJson_eq, ofJson, asRecord_object, required, Json.optional, NameMap.lookup, kind, metadata,
    bindings, unbounded, bind, Except.bind, pure, Except.pure]

end AnalysisResult

/-- Without metadata there is no member for it, and without a containing resource none for that. -/
structure Resource.WrittenAs (resource : Resource) (document : Json) : Prop where
  name : document.member? "name" = some (.string resource.name)
  fullName : document.member? "fully_qualified_name" = some (.string resource.fullName)
  type : document.member? "type" = some (.string resource.type)
  metadata : document.member? "metadata" =
    if resource.metadata.isEmpty then none else some (.ofMap resource.metadata)
  parent : document.member? "parent" = resource.parent?.map toJson

theorem Resource.writtenAs_toJson (resource : Resource) : resource.WrittenAs resource.toJson := by
  obtain ⟨draft, owners⟩ := resource
  have own {key : String} (other : key ≠ "parent") :
      (toJson ⟨draft, owners⟩).member? key = NameMap.lookup key (draftMembers draft) :=
    nested.member?_other other draft owners
  constructor
  case parent =>
    rw [toJson, nested.member?]
    cases owners <;> rfl
  all_goals
    rw [own (by decide), draftMembers]
    cases bare : draft.metadata.isEmpty <;> simp [NameMap.lookup]

structure Permission.WrittenAs (permission : Permission) (document : Json) : Prop where
  value : document.member? "value" = some (.string permission.value)
  parent : document.member? "parent" = match permission.impliedBy with
    | [] => none
    | broader :: rest => some (toJson ⟨broader, rest⟩)

theorem Permission.writtenAs_toJson (permission : Permission) :
    permission.WrittenAs permission.toJson where
  value := by
    rw [toJson, nested.member?_other (by decide)]
    simp [members, NameMap.lookup]
  parent := by
    rw [toJson, nested.member?]
    cases permission.impliedBy <;> rfl

structure AnalysisResult.WrittenAs (result : AnalysisResult) (document : Json) : Prop where
  kind : document.member? "analyzer_type" = some (.string result.kind.name)
  inLowerCase : Text.lower result.kind.name.toList = result.kind.name.toList
  metadata : document.member? "metadata" = some (.ofMap result.metadata)
  bindings : ∃ documents, document.member? "bindings" = some (.array documents) ∧
    List.Forall₂ (fun binding document =>
      (∃ part, document.member? "resource" = some part ∧ binding.resource.WrittenAs part) ∧
        ∃ part, document.member? "permission" = some part ∧ binding.permission.WrittenAs part)
      result.bindings documents
  unbounded : ∃ documents, document.member? "unbounded_resources" = some (.array documents) ∧
    List.Forall₂ Resource.WrittenAs result.unbounded documents

theorem AnalysisResult.writtenAs_toJson (result : AnalysisResult) :
    result.WrittenAs result.toJson where
  kind := by simp [toJson_eq, member?, NameMap.lookup]
  inLowerCase := by cases result.kind <;> decide
  metadata := by simp [toJson_eq, member?, NameMap.lookup]
  bindings := by
    refine ⟨result.bindings.map encodeBinding, by simp [toJson_eq, member?, NameMap.lookup], ?_⟩
    rw [List.forall₂_map_right_iff, List.forall₂_same]
    intro binding _
    have resource : (encodeBinding binding).member? "resource" = some binding.resource.toJson := by
      simp [encodeBinding, member?, NameMap.lookup]
    have permission : (encodeBinding binding).member? "permission" = some binding.permission.toJson := by
      simp [encodeBinding, member?, NameMap.lookup]
    exact ⟨⟨_, resource, binding.resource.writtenAs_toJson⟩, _, permission,
      binding.permission.writtenAs_toJson⟩
  unbounded := by
    refine ⟨result.unbounded.map Resource.toJson, by simp [toJson_eq, member?, NameMap.lookup], ?_⟩
    rw [List.forall₂_map_right_iff, List.forall₂_same]
    exact fun resource _ => resource.writtenAs_toJson

inductive Mysql.SchemaRoutine.WrittenAs : SchemaRoutine → Json → Prop
  | bare (name : String) : WrittenAs (.bare name) (.string name)
  | typed {name : String} {kind : RoutineKind} {document : Json}
      (named : document.member? "name" = some (.string name))
      (tagged : document.member? "kind" = some (.string kind.name))
      (inLowerCase : Text.lower kind.name.toList = kind.name.toList) : WrittenAs (.typed name kind) document

theorem Mysql.SchemaRoutine.writtenAs_toJson (routine : SchemaRoutine) :
    routine.WrittenAs routine.toJson := by
  cases routine with
  | bare name => exact .bare name
  | typed name kind =>
    refine .typed ?_ ?_ (by cases kind <;> decide)
    all_goals simp [toJson, member?, NameMap.lookup]

/-- Every result and every snapshot is read back from its document as it was, and so is every part of
them. -/
theorem documents_read_back :
    (∀ result : AnalysisResult, AnalysisResult.ofJson result.toJson = .ok result ∧
      result.WrittenAs result.toJson) ∧
    (∀ resource : Resource, Resource.ofJson resource.toJson = .ok resource ∧
      resource.WrittenAs resource.toJson) ∧
    (∀ permission : Permission, Permission.ofJson permission.toJson = .ok permission ∧
      permission.WrittenAs permission.toJson) ∧
    (∀ snapshot : Mysql.Snapshot, Mysql.Snapshot.ofJson snapshot.toJson = .ok snapshot) ∧
    ∀ routine : Mysql.SchemaRoutine, Mysql.SchemaRoutine.ofJson routine.toJson = .ok routine ∧
      routine.WrittenAs routine.toJson :=
  ⟨fun result => ⟨AnalysisResult.readsBack result, result.writtenAs_toJson⟩,
    fun resource => ⟨Resource.readsBack resource, resource.writtenAs_toJson⟩,
    fun permission => ⟨Permission.readsBack permission, permission.writtenAs_toJson⟩,
    Mysql.Snapshot.readsBack,
    fun routine => ⟨Mysql.SchemaRoutine.readsBack routine, routine.writtenAs_toJson⟩⟩

end CredentialReach
