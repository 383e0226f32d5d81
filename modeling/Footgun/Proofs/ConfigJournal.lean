import Footgun.Proofs.ConfigSchema
import Mathlib.Data.List.Nodup

/-! # What loading the configuration tells

Loading reports every field of a file that it leaves out and every variable of the environment that
it cannot read, and each of them once. Whether it does so depends on the field or the variable
alone, and not on what was put in place before. Main definitions:

* `Shape.takes` — a value is one of a type, or passes for one;
* `Config.Supplies` — the document that a directory supplies, or none;
* `Config.Settles` — what an entry is set to, as far as the document and the environment tell;
* `Config.Warns` — what is to be reported.

The main statement is `Config.load_settles_each_entry`. -/

namespace Footgun

open Journal (Event)

/-! ## Types -/

/-- Whether a value is one of a type or passes for one: a truth value is a number as well, and a
list may hold anything. -/
def Shape.takes : Shape → Json → Bool
  | flag, .bool _ => true
  | count, .int _ => true
  | count, .bool _ => true
  | texts, .arr _ => true
  | text, .str _ => true
  | _, _ => false

namespace Config

/-- The standard value of an entry takes a `value` by `accept?` exactly if `key.shape.takes` it. -/
theorem accept?_standard (key : Key) (value : Json) :
    ((standard key).accept? value).map Setting.toJson =
      if key.shape.takes value then some value else none := by
  cases key <;> cases value <;> rfl

/-- The standard value of an entry refuses a `value` exactly if `key.shape.takes value = false`. -/
theorem accept?_standard_eq_none_iff (key : Key) (value : Json) :
    (standard key).accept? value = none ↔ key.shape.takes value = false := by
  rw [← Option.map_eq_none_iff (f := Setting.toJson), accept?_standard]
  cases key.shape.takes value <;> simp

/-! ## Fields that are left out -/

/-- Whether a field of `group` is left out: no entry of the group has its name, or the `shape` of
the entry does not take its value. -/
def refuses (group : String) (field : String × Json) : Bool :=
  !(Key.find? group field.1).any fun key => key.shape.takes field.2

/-- A field `refuses group` exactly if no entry of its group and name `takes` its value. -/
theorem refuses_iff {group name : String} {value : Json} :
    refuses group (name, value) ↔
      ∀ key : Key, key.group = group → key.name = name → key.shape.takes value = false := by
  rw [refuses, Bool.not_eq_true', ← Bool.not_eq_true, Option.any_eq_true]
  constructor
  · intro noEntry key inGroup named
    by_contra taken
    exact noEntry ⟨key, Key.find?_eq_some_iff.mpr ⟨inGroup, named⟩, Bool.of_not_eq_false taken⟩
  · rintro none ⟨key, found, taken⟩
    obtain ⟨inGroup, named⟩ := Key.find?_eq_some_iff.mp found
    rw [none key inGroup named] at taken
    cases taken

/-- The report of a field that is left out. -/
def ignored (path group : String) (field : String × Json) : Event :=
  .keyIgnored group field.1 path

/-- After `mergeField`, `ignored` is told about a field that `refuses group`, and nothing about
another, provided that the entry it names is still the standard one. -/
theorem mergeField_events {path group : String} {state : Config × List Event}
    {field : String × Json}
    (untouched : ∀ key : Key, key.group = group → key.name = field.1 → state.1 key = standard key) :
    (mergeField path group state field).2 =
      state.2 ++ ([field].filter (refuses group)).map (ignored path group) := by
  rw [mergeField]
  cases found : Key.find? group field.1 with
  | none =>
      -- No entry takes the field, so it is ignored and reported.
      have refused : refuses group field = true := by simp [refuses, found]
      simp [refused, ignored]
  | some key =>
      obtain ⟨inGroup, named⟩ := Key.find?_eq_some_iff.mp found
      -- The entry still has its standard value, which decides on the types it takes.
      have current := untouched key inGroup named
      cases taken : key.shape.takes field.2 with
      | false =>
          have refused : refuses group field = true := by simp [refuses, found, taken]
          have noSetting := (accept?_standard_eq_none_iff key field.2).mpr taken
          simp [current, noSetting, refused, ignored]
      | true =>
          have kept : refuses group field = false := by simp [refuses, found, taken]
          have accepted := accept?_standard key field.2
          rw [taken, if_pos rfl] at accepted
          obtain ⟨setting, isSetting, _⟩ := Option.map_eq_some_iff.mp accepted
          simp [current, isSetting, kept]

/-- After all `fields` of a group, `ignored` is told about those that `refuses group`, in order. -/
theorem foldl_mergeField_events {path group : String} {fields : List (String × Json)}
    (names : (fields.map Prod.fst).Nodup) {state : Config × List Event}
    (untouched : ∀ key : Key, key.group = group → key.name ∈ fields.map Prod.fst →
      state.1 key = standard key) :
    (fields.foldl (mergeField path group) state).2 =
      state.2 ++ (fields.filter (refuses group)).map (ignored path group) := by
  induction fields generalizing state with
  | nil => simp
  | cons field rest ih =>
      rw [List.map_cons, List.nodup_cons] at names
      have here : (mergeField path group state field).2 =
          state.2 ++ ([field].filter (refuses group)).map (ignored path group) := by
        refine mergeField_events fun key inGroup named => untouched key inGroup ?_
        rw [named]
        exact List.mem_cons_self
      -- The field changes no entry that a later field names, since no name is repeated.
      have later : ∀ key : Key, key.group = group → key.name ∈ rest.map Prod.fst →
          (mergeField path group state field).1 key = standard key := by
        intro key inGroup named
        have other : ¬ (key.group = group ∧ key.name = field.1) := by
          rintro ⟨_, same⟩
          exact names.1 (same ▸ named)
        rw [mergeField_apply, if_neg other]
        exact untouched key inGroup (List.mem_cons_of_mem _ named)
      rw [List.foldl_cons, ih names.2 later, here, List.append_assoc, ← List.map_append,
        ← List.filter_append]
      rfl

/-- The fields that `document` has for `group`. -/
def fieldsOf (document : Json) (group : String) : List (String × Json) :=
  match document.get? group with
  | some (.obj fields) => fields
  | _ => []

/-- Merging a group is merging its `fieldsOf document group` one after the other. -/
theorem mergeGroup_eq_foldl (path : String) (document : Json) (state : Config × List Event)
    (group : String) :
    mergeGroup path document state group =
      (fieldsOf document group).foldl (mergeField path group) state := by
  rw [mergeGroup, fieldsOf]
  cases document.get? group with
  | none => rfl
  | some value => cases value <;> rfl

/-- In a document with `UniqueNames`, the names of `fieldsOf document group` are distinct. -/
theorem nodup_fieldsOf {document : Json} (unique : document.UniqueNames) (group : String) :
    ((fieldsOf document group).map Prod.fst).Nodup := by
  rw [fieldsOf]
  split
  · rename_i fields isGroup
    exact (Json.uniqueNames_obj_iff.mp (unique.of_get? isGroup)).names
  · exact List.nodup_nil

/-- The reports of the fields that `document` has for `group` and that are left out. -/
def groupReports (path : String) (document : Json) (group : String) : List Event :=
  ((fieldsOf document group).filter (refuses group)).map (ignored path group)

/-- After `mergeDocument`, the events are the `groupReports` of the groups, one group after the
other. -/
theorem mergeDocument_events {document : Json} (unique : document.UniqueNames) (path : String) :
    (mergeDocument path document standard).2 = Key.groups.flatMap (groupReports path document) := by
  have scan :
      (mergeGroup path document (standard, []) "scan").2 = groupReports path document "scan" := by
    rw [mergeGroup_eq_foldl]
    exact foldl_mergeField_events (nodup_fieldsOf unique "scan") fun key _ _ => rfl
  -- The first group leaves the entries of the second one as they are.
  have rules :
      (mergeGroup path document (mergeGroup path document (standard, []) "scan") "rules").2 =
      groupReports path document "scan" ++ groupReports path document "rules" := by
    have untouched : ∀ key : Key, key.group = "rules" →
        (mergeGroup path document (standard, []) "scan").1 key = standard key := by
      intro key inGroup
      rw [mergeGroup_apply unique, inGroup, if_neg (by decide)]
    rw [mergeGroup_eq_foldl, foldl_mergeField_events (nodup_fieldsOf unique "rules")
      fun key inGroup _ => untouched key inGroup, scan]
    rfl
  rw [mergeDocument, Key.groups, List.foldl_cons, List.foldl_cons, List.foldl_nil, rules]
  simp

/-! ## Variables that cannot be read -/

/-- The report of the variable of `key`, if it is set in `environment` and cannot be read. -/
def misspelt? (environment : Environment) (config : Config) (key : Key) : Option Event :=
  (environment.lookup key.environmentName).bind fun value =>
    if ((config key).coerce? value).isNone then
      some (.variableInvalid key.environmentName (config key).number)
    else none

/-- After `mergeVariable`, what `misspelt?` gives for the entry is told in addition. -/
theorem mergeVariable_events (environment : Environment) (state : Config × List Event) (key : Key) :
    (mergeVariable environment state key).2 =
      state.2 ++ (misspelt? environment state.1 key).toList := by
  rw [mergeVariable, misspelt?]
  cases environment.lookup key.environmentName with
  | none => simp
  | some value =>
      cases read : (state.1 key).coerce? value with
      | none => simp [read]
      | some setting => simp [read]

/-- After the variables of distinct `keys`, what `misspelt?` gives for each of them is told, in
order. -/
theorem foldl_mergeVariable_events (environment : Environment) {keys : List Key}
    (unique : keys.Nodup) (state : Config × List Event) :
    (keys.foldl (mergeVariable environment) state).2 =
      state.2 ++ keys.filterMap (misspelt? environment state.1) := by
  induction keys generalizing state with
  | nil => simp
  | cons first rest ih =>
      rw [List.nodup_cons] at unique
      -- The first variable changes no entry whose variable comes later.
      have later :
          rest.filterMap (misspelt? environment (mergeVariable environment state first).1) =
          rest.filterMap (misspelt? environment state.1) := by
        refine List.filterMap_congr fun key member => ?_
        have other : key ≠ first := by
          rintro rfl
          exact unique.1 member
        rw [misspelt?, misspelt?, mergeVariable_apply, if_neg other]
      rw [List.foldl_cons, ih unique.2, mergeVariable_events, later, List.append_assoc]
      cases reported : misspelt? environment state.1 first with
      | none => rw [List.filterMap_cons_none reported, Option.toList_none, List.nil_append]
      | some event =>
          rw [List.filterMap_cons_some reported, Option.toList_some, List.singleton_append]

/-! ## Both together -/

/-- The configuration `config` with the variables of `environment` in place. -/
def overridden (environment : Environment) (config : Config) : Config :=
  fun key => (config key).override (environment.lookup key.environmentName)

/-- The reports of the variables that cannot be read. -/
def misspellings (environment : Environment) (config : Config) : List Event :=
  Key.all.filterMap (misspelt? environment config)

/-- The configuration file of a directory. -/
def filePath (root : String) : Path :=
  (Path.ofText root).child fileName

/-- Loading is `loadFile`, then `overridden` by the environment, with the `misspellings` told at the
end. -/
theorem load_eq (disk : Disk) (environment : Environment) (root : String) :
    load disk environment root = (loadFile disk (filePath root)).map fun state =>
      (overridden environment state.1, state.2 ++ misspellings environment state.1) := by
  rw [load, ← filePath]
  cases loadFile disk (filePath root) with
  | error failure => rfl
  | ok state =>
      have settings : (Key.all.foldl (mergeVariable environment) state).1 =
          overridden environment state.1 := by
        funext key
        rw [foldl_mergeVariable_apply Key.nodup_all, if_pos key.mem_all]
        rfl
      have events := foldl_mergeVariable_events environment Key.nodup_all state
      exact congrArg Except.ok (Prod.ext settings events)

/-! ## Documents -/

/-- The document that the directory `root` supplies: what its configuration file is read as, or
`none` if there is no such file. -/
def Supplies (disk : Disk) (root : String) : Option Json → Prop
  | none => disk.probe (filePath root) = .ok none
  | some document => ∃ bytes text, disk.read (filePath root) = .ok bytes ∧
      Text.decode? bytes = some text ∧ Json.read text = .ok document

/-- The configuration of a document before the environment is looked at, and the reports about
it. -/
def merged (path : String) : Option Json → Config × List Event
  | none => (standard, [])
  | some document => mergeDocument path document standard

/-- The value that `document?` gives for `key`, if there is a document. -/
def valueIn? (document? : Option Json) (key : Key) : Option Json :=
  document?.bind fun document => given? document key

namespace Supplies

variable {disk : Disk} {root : String} {document? : Option Json}

/-- A document that a directory `Supplies` has `UniqueNames`. -/
theorem uniqueNames (supplied : Supplies disk root document?) {document : Json}
    (isDocument : document? = some document) : document.UniqueNames := by
  subst isDocument
  obtain ⟨_, _, _, _, read⟩ := supplied
  exact Json.uniqueNames_of_read read

/-- From `Supplies disk root document?` follows that `loadFile` gives `merged` of the document. -/
theorem loadFile_eq (supplied : Supplies disk root document?) :
    loadFile disk (filePath root) = .ok (merged (filePath root).text document?) := by
  rw [loadFile]
  cases document? with
  | none =>
      have absent : disk.probe (filePath root) = .ok none := supplied
      rw [absent]
      rfl
  | some document =>
      obtain ⟨bytes, text, found, decoded, read⟩ := supplied
      rw [Disk.probe_of_read found]
      simp only [found, decoded, read]
      rfl

/-- Before the environment is looked at, an entry is the standard one, replaced by
`valueIn? document?`. -/
theorem merged_apply (supplied : Supplies disk root document?) (path : String) (key : Key) :
    (merged path document?).1 key = (standard key).replace (valueIn? document? key) := by
  cases document? with
  | none => rfl
  | some document => exact mergeDocument_apply (supplied.uniqueNames rfl) path standard key

end Supplies

/-! ## What an entry is set to -/

/-- The setting of `key` before the environment is looked at, if a document gives `given?` for
it. -/
inductive Underlies (given? : Option Json) (key : Key) : Setting → Prop where
  /-- A value of the document counts if the type of the entry takes it. -/
  | document {setting : Setting} (given : given? = some setting.toJson)
      (taken : key.shape.takes setting.toJson) : Underlies given? key setting
  /-- Otherwise the standard value counts. -/
  | standard (refused : ∀ value, given? = some value → key.shape.takes value = false) :
      Underlies given? key (Config.standard key)

/-- What `key` is set to, if a document gives `given?` for it and `text?` is the value of its
variable. -/
inductive Settles (given? : Option Json) (text? : Option String) (key : Key) : Setting → Prop where
  /-- A variable counts if it can be read as a value of the type that it replaces. -/
  | replaced {before setting : Setting} {value : String} (underlies : Underlies given? key before)
      (isSet : text? = some value) (read : before.coerce? value = some setting) :
      Settles given? text? key setting
  /-- Otherwise the value stays. -/
  | kept {before : Setting} (underlies : Underlies given? key before)
      (unread : ∀ value, text? = some value → before.coerce? value = none) :
      Settles given? text? key before

/-- Settings with the same `toJson` are the same. -/
theorem toJson_injective : Function.Injective Setting.toJson := by
  intro first second same
  cases first <;> cases second <;> simp_all [Setting.toJson]

variable {given? : Option Json} {text? : Option String} {key : Key}

/-- The standard value, replaced by what is given, is the one that `Underlies` asks for. -/
theorem underlies_replace (given? : Option Json) (key : Key) :
    Underlies given? key ((standard key).replace given?) := by
  cases given? with
  | none => exact .standard fun value given => by cases given
  | some value =>
      have accepted := accept?_standard key value
      rw [Setting.replace, Option.bind_some]
      cases taken : key.shape.takes value with
      | false =>
          -- The value is of another type, and the standard stays.
          rw [(accept?_standard_eq_none_iff key value).mpr taken, Option.getD_none]
          refine .standard fun other given => ?_
          cases given
          exact taken
      | true =>
          rw [taken, if_pos rfl] at accepted
          obtain ⟨setting, isSetting, same⟩ := Option.map_eq_some_iff.mp accepted
          rw [isSetting, Option.getD_some]
          subst same
          exact .document rfl taken

/-- From `Underlies given? key before` follows `Settles` for `before.override text?`. -/
theorem Underlies.settles_override {before : Setting} (underlies : Underlies given? key before)
    (text? : Option String) : Settles given? text? key (before.override text?) := by
  cases text? with
  | none => exact .kept underlies fun value isSet => by cases isSet
  | some value =>
      rw [Setting.override, Option.bind_some]
      cases read : before.coerce? value with
      | none =>
          refine .kept underlies fun other isSet => ?_
          cases isSet
          exact read
      | some setting => exact .replaced underlies rfl read

/-- For what is given there is only one value with `Underlies given? key`. -/
theorem Underlies.unique {first second : Setting} (left : Underlies given? key first)
    (right : Underlies given? key second) : first = second := by
  cases left with
  | document given taken =>
      cases right with
      | document other _ => exact toJson_injective (Option.some.inj (given.symm.trans other))
      | standard refused =>
          rw [refused _ given] at taken
          cases taken
  | standard refused =>
      cases right with
      | document given taken =>
          rw [refused _ given] at taken
          cases taken
      | standard => rfl

/-- For what is given and the text of the variable there is only one value with
`Settles given? text? key`. -/
theorem Settles.unique {first second : Setting} (left : Settles given? text? key first)
    (right : Settles given? text? key second) : first = second := by
  -- What underlies is the same, so the variable is read both times or never.
  cases left with
  | replaced underlies isSet read =>
      cases right with
      | replaced others alsoSet alsoRead =>
          cases underlies.unique others
          cases isSet.symm.trans alsoSet
          exact Option.some.inj (read.symm.trans alsoRead)
      | kept others unread =>
          cases underlies.unique others
          rw [unread _ isSet] at read
          cases read
  | kept underlies unread =>
      cases right with
      | replaced others isSet read =>
          cases underlies.unique others
          rw [unread _ isSet] at read
          cases read
      | kept others => exact underlies.unique others

/-! ## What is to be reported -/

/-- What is to be reported about `document?`, read from the file `path`, and about `environment`. -/
inductive Warns (path : String) (document? : Option Json) (environment : Environment) :
    Event → Prop where
  /-- A field of a known group that no entry takes. -/
  | field {document : Json} {fields : List (String × Json)} {group name : String} {value : Json}
      (isDocument : document? = some document) (known : group ∈ Key.groups)
      (isGroup : document.get? group = some (.obj fields)) (member : (name, value) ∈ fields)
      (refused : ∀ key : Key, key.group = group → key.name = name → key.shape.takes value = false) :
      Warns path document? environment (.keyIgnored group name path)
  /-- A variable that cannot be read as a value of the type that it is to replace. -/
  | misspelling {key : Key} {before : Setting} {value : String}
      (underlies : Underlies (valueIn? document? key) key before)
      (isSet : environment.lookup key.environmentName = some value)
      (unread : before.coerce? value = none) :
      Warns path document? environment (.variableInvalid key.environmentName before.number)

/-- An event with `Warns` has the level `.warning`. -/
theorem Warns.level_eq {path : String} {document? : Option Json} {environment : Environment}
    {event : Event} (warns : Warns path document? environment event) : event.level = .warning := by
  cases warns with
  | field => rfl
  | misspelling => rfl

/-- The members of `fieldsOf document group` are the fields of the object that the document has as
`group`. -/
theorem mem_fieldsOf {document : Json} {group : String} {field : String × Json} :
    field ∈ fieldsOf document group ↔
      ∃ fields, document.get? group = some (.obj fields) ∧ field ∈ fields := by
  rw [fieldsOf]
  split
  · rename_i fields isGroup
    simp [isGroup]
  · rename_i noGroup
    constructor
    · intro member
      cases member
    · rintro ⟨fields, isGroup, _⟩
      exact absurd isGroup (noGroup fields)

/-- In a document with `UniqueNames`, `groupReports` tells nothing twice. -/
theorem nodup_groupReports {document : Json} (unique : document.UniqueNames) (path group : String) :
    (groupReports path document group).Nodup := by
  have names : (((fieldsOf document group).filter (refuses group)).map Prod.fst).Nodup :=
    (nodup_fieldsOf unique group).sublist (List.filter_sublist.map _)
  have byName : groupReports path document group =
      (((fieldsOf document group).filter (refuses group)).map Prod.fst).map
        fun name => .keyIgnored group name path := by
    rw [groupReports, List.map_map]
    rfl
  rw [byName]
  refine names.map fun first second same => ?_
  cases same
  rfl

/-- The members of `groupReports` are `.keyIgnored` for the fields that `refuses group`. -/
theorem mem_groupReports {path : String} {document : Json} {group : String} {event : Event} :
    event ∈ groupReports path document group ↔
      ∃ name value, (name, value) ∈ fieldsOf document group ∧ refuses group (name, value) ∧
        event = .keyIgnored group name path := by
  rw [groupReports, List.mem_map]
  constructor
  · rintro ⟨⟨name, value⟩, member, rfl⟩
    obtain ⟨isField, refused⟩ := List.mem_filter.mp member
    exact ⟨name, value, isField, refused, rfl⟩
  · rintro ⟨name, value, isField, refused, rfl⟩
    exact ⟨(name, value), List.mem_filter.mpr ⟨isField, refused⟩, rfl⟩

/-- The members of `misspellings` are `.variableInvalid` for the variables that `coerce?` cannot
read. -/
theorem mem_misspellings {environment : Environment} {config : Config} {event : Event} :
    event ∈ misspellings environment config ↔
      ∃ key value, environment.lookup key.environmentName = some value ∧
        (config key).coerce? value = none ∧
        event = .variableInvalid key.environmentName (config key).number := by
  rw [misspellings, List.mem_filterMap]
  constructor
  · rintro ⟨key, _, reported⟩
    obtain ⟨value, isSet, reported⟩ := Option.bind_eq_some_iff.mp reported
    split at reported
    · rename_i unread
      cases reported
      exact ⟨key, value, isSet, Option.isNone_iff_eq_none.mp unread, rfl⟩
    · cases reported
  · rintro ⟨key, value, isSet, unread, rfl⟩
    refine ⟨key, key.mem_all, ?_⟩
    simp [misspelt?, isSet, unread]

/-- Different entries have different variables. -/
theorem environmentName_injective : Function.Injective Key.environmentName := by
  have names : (Key.all.map Key.environmentName).Nodup := by decide +kernel
  intro first second same
  exact List.inj_on_of_nodup_map names first.mem_all second.mem_all same

/-- No event is repeated in `misspellings`. -/
theorem nodup_misspellings (environment : Environment) (config : Config) :
    (misspellings environment config).Nodup := by
  refine Key.nodup_all.filterMap fun first second event isFirst isSecond => ?_
  -- A report names the variable, and the variable gives the entry away.
  have named : ∀ {key : Key}, event ∈ misspelt? environment config key →
      ∃ kept, event = .variableInvalid key.environmentName kept := by
    intro key reported
    obtain ⟨value, _, reported⟩ := Option.bind_eq_some_iff.mp reported
    split at reported
    · cases reported
      exact ⟨_, rfl⟩
    · cases reported
  obtain ⟨kept, rfl⟩ := named isFirst
  obtain ⟨other, same⟩ := named isSecond
  exact environmentName_injective (Event.variableInvalid.inj same).1

/-- All reports about `document?` and `environment`, in the order in which they are made. -/
def reports (path : String) (document? : Option Json) (environment : Environment) : List Event :=
  (merged path document?).2 ++ misspellings environment (merged path document?).1

namespace Supplies

variable {disk : Disk} {root : String} {document? : Option Json}

/-- The events of `merged` are the `groupReports` of the groups of the document. -/
theorem mem_merged_iff (supplied : Supplies disk root document?) {path : String} {event : Event} :
    event ∈ (merged path document?).2 ↔
      ∃ document, document? = some document ∧
        ∃ group ∈ Key.groups, event ∈ groupReports path document group := by
  cases document? with
  | none => simp [merged]
  | some document =>
      rw [merged, mergeDocument_events (supplied.uniqueNames rfl), List.mem_flatMap]
      constructor
      · intro reported
        exact ⟨document, rfl, reported⟩
      · rintro ⟨other, same, reported⟩
        cases same
        exact reported

/-- No event is repeated in what `merged` tells. -/
theorem nodup_merged (supplied : Supplies disk root document?) (path : String) :
    (merged path document?).2.Nodup := by
  cases document? with
  | none => exact List.nodup_nil
  | some document =>
      have unique := supplied.uniqueNames rfl
      rw [merged, mergeDocument_events unique, List.nodup_flatMap]
      refine ⟨fun group _ => nodup_groupReports unique path group, ?_⟩
      -- A report names the group, so two groups have no report in common.
      have different : Key.groups.Nodup := by decide
      refine List.Pairwise.imp ?_ different
      intro first second notSame event isFirst isSecond
      obtain ⟨name, value, _, _, rfl⟩ := mem_groupReports.mp isFirst
      obtain ⟨other, _, _, _, same⟩ := mem_groupReports.mp isSecond
      exact notSame (Event.keyIgnored.inj same).1

/-- No event is repeated in `reports`. -/
theorem nodup_reports (supplied : Supplies disk root document?) (path : String)
    (environment : Environment) : (reports path document? environment).Nodup := by
  rw [reports, List.nodup_append]
  refine ⟨supplied.nodup_merged path, nodup_misspellings _ _, ?_⟩
  -- What is said about a field is never what is said about a variable.
  intro event ofField other ofVariable same
  obtain ⟨_, _, _, _, reported⟩ := supplied.mem_merged_iff.mp ofField
  obtain ⟨_, _, _, _, rfl⟩ := mem_groupReports.mp reported
  obtain ⟨_, _, _, _, rfl⟩ := mem_misspellings.mp ofVariable
  cases same

/-- The members of `reports` are exactly the events with `Warns`. -/
theorem mem_reports_iff (supplied : Supplies disk root document?) {path : String}
    {environment : Environment} {event : Event} :
    event ∈ reports path document? environment ↔ Warns path document? environment event := by
  rw [reports, List.mem_append, supplied.mem_merged_iff, mem_misspellings]
  constructor
  · rintro (⟨document, isDocument, group, known, reported⟩ | ⟨key, value, isSet, unread, rfl⟩)
    · obtain ⟨name, value, isField, refused, rfl⟩ := mem_groupReports.mp reported
      obtain ⟨fields, isGroup, member⟩ := mem_fieldsOf.mp isField
      exact .field isDocument known isGroup member (refuses_iff.mp refused)
    · rw [supplied.merged_apply] at unread ⊢
      exact .misspelling (underlies_replace _ key) isSet unread
  · intro warns
    cases warns with
    | field isDocument known isGroup member refused =>
        rename_i document fields group name value
        have isField : (name, value) ∈ fieldsOf document group :=
          mem_fieldsOf.mpr ⟨fields, isGroup, member⟩
        have reported : Event.keyIgnored group name path ∈ groupReports path document group :=
          mem_groupReports.mpr ⟨name, value, isField, refuses_iff.mpr refused, rfl⟩
        exact .inl ⟨document, isDocument, group, known, reported⟩
    | misspelling underlies isSet unread =>
        -- Only one value counts before the environment, so it is the one that loading has there.
        rename_i key before value
        have same := underlies.unique (underlies_replace (valueIn? document? key) key)
        rw [← supplied.merged_apply path] at same
        subst same
        exact .inr ⟨key, value, isSet, unread, rfl⟩

/-- From `Supplies disk root document?` follows that `load` gives `overridden` of what is `merged`,
and tells the `reports`. -/
theorem load_eq_ok (supplied : Supplies disk root document?) (environment : Environment) :
    load disk environment root =
      .ok (overridden environment (merged (filePath root).text document?).1,
        reports (filePath root).text document? environment) := by
  rw [load_eq, supplied.loadFile_eq]
  rfl

/-- Each entry of what is `merged` and `overridden` has `Settles` with the value of the document and
the variable. -/
theorem settles_overridden (supplied : Supplies disk root document?) (environment : Environment)
    (path : String) (key : Key) :
    Settles (valueIn? document? key) (environment.lookup key.environmentName) key
      (overridden environment (merged path document?).1 key) := by
  rw [overridden, supplied.merged_apply]
  exact (underlies_replace _ key).settles_override _

end Supplies

/-! ## Disks with and without a file -/

/-- If `text` is read as `document`, `diskOf text` has `Supplies` with it. -/
theorem supplies_diskOf {text : String} {document : Json} (read : Json.read text = .ok document) :
    Supplies (diskOf text) "." (some document) := by
  refine ⟨text.toByteArray, text, ?_, Text.decode?_eq_some_iff.mpr rfl, read⟩
  rw [filePath, Disk.read, find_diskOf]
  rfl

/-- The empty disk has `Supplies` with no document. -/
theorem supplies_empty : Supplies Disk.empty "." none := by
  show Disk.empty.probe (filePath ".") = .ok none
  rw [show filePath "." = ⟨"", [fileName]⟩ by decide, Disk.probe, Disk.empty,
    Disk.find_name (by decide) (fun target => by simp)]
  rfl

/-! ## Loading -/

/-- The names in the section `group` of a configuration, in order. -/
def sectionNames (config : Config) (group : String) : List String :=
  match config.groupJson group with
  | .obj fields => fields.map Prod.fst
  | _ => []

/-- Loading goes entry by entry. If a directory `Supplies` a document of whatever shape, or none:

(1) `load` gives a configuration whose groups have the standard `sectionNames`;

(2) each entry has `Settles` with `valueIn? document?` and its variable;

(3) nothing else has an influence on an entry: two directories and environments that agree on its
value and its variable give it the same value;

(4) every event with `Warns` has the level `.warning` and is told exactly once, and no other event
is. -/
theorem load_settles_each_entry {disk : Disk} {root : String} {document? : Option Json}
    (supplied : Supplies disk root document?) (environment : Environment) :
    ∃ config events, load disk environment root = .ok (config, events) ∧
      (∀ group, config.sectionNames group = standard.sectionNames group) ∧
      (∀ key, Settles (valueIn? document? key) (environment.lookup key.environmentName) key
        (config key)) ∧
      (∀ otherDisk otherRoot otherDocument? otherEnvironment,
        Supplies otherDisk otherRoot otherDocument? →
        ∃ otherConfig otherEvents,
          load otherDisk otherEnvironment otherRoot = .ok (otherConfig, otherEvents) ∧
          ∀ key, valueIn? otherDocument? key = valueIn? document? key →
            otherEnvironment.lookup key.environmentName = environment.lookup key.environmentName →
            otherConfig key = config key) ∧
      (∀ event, Warns (filePath root).text document? environment event →
        event.level = .warning ∧ events.count event = 1) ∧
      ∀ event ∈ events, Warns (filePath root).text document? environment event := by
  refine ⟨_, _, supplied.load_eq_ok environment, fun group => ?_, fun key => ?_, ?_, ?_, ?_⟩
  -- Merging changes values, and never the names of a group.
  · rw [sectionNames, sectionNames, groupJson, groupJson]
    simp only [List.map_map]
    rfl
  · exact supplied.settles_overridden environment _ key
  · intro otherDisk otherRoot otherDocument? otherEnvironment otherSupplied
    refine ⟨_, _, otherSupplied.load_eq_ok otherEnvironment, fun key sameValue sameText => ?_⟩
    -- Both entries settle the same value and the same text, which leaves one setting.
    have left := otherSupplied.settles_overridden otherEnvironment (filePath otherRoot).text key
    rw [sameValue, sameText] at left
    exact left.unique (supplied.settles_overridden environment _ key)
  · intro event warns
    refine ⟨warns.level_eq, ?_⟩
    exact List.count_eq_one_of_mem (supplied.nodup_reports _ environment)
      (supplied.mem_reports_iff.mpr warns)
  · intro event reported
    exact supplied.mem_reports_iff.mp reported

/-- A variable is read by the type of the value that it replaces: `7` means no where the file gives
a truth value, and is the number without a file. A misspelt one is reported once. -/
theorem load_settles_each_entry_switchText :
    (∃ document, Supplies (diskOf switchText) "." (some document) ∧
      valueIn? (some document) .maxFileSize = some (.bool true) ∧
      ∃ config events,
        load (diskOf switchText) [("HAZARDOUS_SCAN_MAX_FILE_SIZE", "7")] "." =
          .ok (config, events) ∧
        config .maxFileSize = .flag false) ∧
    Supplies Disk.empty "." none ∧
      (∃ config events,
        load Disk.empty [("HAZARDOUS_SCAN_MAX_FILE_SIZE", "7")] "." = .ok (config, events) ∧
        config .maxFileSize = .count 7) ∧
      ∃ config events,
        load Disk.empty [("HAZARDOUS_SCAN_MAX_FILE_SIZE", "lots")] "." = .ok (config, events) ∧
        config .maxFileSize = standard .maxFileSize ∧
        events.count (.variableInvalid "HAZARDOUS_SCAN_MAX_FILE_SIZE" 2097152) = 1 := by
  have name : Key.maxFileSize.environmentName = "HAZARDOUS_SCAN_MAX_FILE_SIZE" := by decide +kernel
  have isSet : ∀ text : String, [("HAZARDOUS_SCAN_MAX_FILE_SIZE", text)].lookup
      Key.maxFileSize.environmentName = some text := by
    intro text
    rw [name]
    rfl
  have underlies : Underlies (valueIn? none .maxFileSize) .maxFileSize (standard .maxFileSize) :=
    .standard fun value given => by cases given
  refine ⟨?_, supplies_empty, ?_, ?_⟩
  · obtain ⟨document, read, given⟩ := exists_read_switchText
    obtain ⟨config, events, loaded, _, settles, _⟩ :=
      load_settles_each_entry (supplies_diskOf read) [("HAZARDOUS_SCAN_MAX_FILE_SIZE", "7")]
    refine ⟨document, supplies_diskOf read, given, config, events, loaded, ?_⟩
    -- The document makes a switch of the entry, and `7` is no word for yes.
    have isNo : (Setting.flag true).coerce? "7" = some (.flag false) := by
      rw [Setting.coerce?, show Setting.isYes "7" = false by decide]
    have switched : Underlies (valueIn? (some document) .maxFileSize) .maxFileSize (.flag true) :=
      .document given rfl
    exact (settles .maxFileSize).unique (.replaced switched (isSet "7") isNo)
  · obtain ⟨config, events, loaded, _, settles, _⟩ :=
      load_settles_each_entry supplies_empty [("HAZARDOUS_SCAN_MAX_FILE_SIZE", "7")]
    -- Without a document the standard is a number, and so is the variable.
    have isSeven : (standard .maxFileSize).coerce? "7" = some (.count 7) := by
      rw [standard, Setting.coerce?, show Text.readInteger "7" = some 7 by decide,
        Option.map_some]
    exact ⟨config, events, loaded,
      (settles .maxFileSize).unique (.replaced underlies (isSet "7") isSeven)⟩
  · obtain ⟨config, events, loaded, _, settles, _, once, _⟩ :=
      load_settles_each_entry supplies_empty [("HAZARDOUS_SCAN_MAX_FILE_SIZE", "lots")]
    -- A text that is no number leaves the standard, and is reported once.
    have unread : (standard .maxFileSize).coerce? "lots" = none := by
      rw [standard, Setting.coerce?, show Text.readInteger "lots" = none by decide,
        Option.map_none]
    refine ⟨config, events, loaded, ?_, ?_⟩
    · refine (settles .maxFileSize).unique (.kept underlies fun value other => ?_)
      cases (isSet "lots").symm.trans other
      exact unread
    · have counted := (once _ (.misspelling underlies (isSet "lots") unread)).2
      rw [name] at counted
      exact counted

end Config

end Footgun
