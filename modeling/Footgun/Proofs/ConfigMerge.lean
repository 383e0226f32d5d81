import Footgun.Config.Load
import Footgun.Proofs.JsonNames

/-! # The configuration, entry by entry

Loading goes over the fields of a file and over the variables of an environment, and changes one
entry at a time. Here the outcome is told for each entry on its own. Main definitions:

* `Config.given?` — the value that a document gives for an entry;
* `Config.document?` — the document that a path leads to, if there is one that can be read;
* `Setting.replace` — a value with one of a document in its place;
* `Setting.override` — a value with a variable in its place.

The main statement is `Config.load_apply`. -/

namespace Footgun

/-! ## Entries and their names -/

namespace Key

/-- Looking for an entry by `find?` gives the one with that `group` and `name`. -/
theorem find?_eq_some_iff {group name : String} {key : Key} :
    find? group name = some key ↔ key.group = group ∧ key.name = name := by
  constructor
  · intro found
    have fits := List.find?_some found
    rw [Bool.and_eq_true] at fits
    exact ⟨eq_of_beq fits.1, eq_of_beq fits.2⟩
  · rintro ⟨rfl, rfl⟩
    cases key <;> decide

/-- Every entry is in `Key.all`. -/
theorem mem_all (key : Key) : key ∈ all := by
  cases key <;> decide

/-- No entry is repeated in `Key.all`. -/
theorem nodup_all : all.Nodup := by
  decide

/-- The group of an entry is `"scan"` or `"rules"`. -/
theorem group_eq_or (key : Key) : key.group = "scan" ∨ key.group = "rules" := by
  cases key <;> decide

end Key

namespace Setting

/-- The setting `current`, or the value that a document has in its place, if that is of its type. -/
def replace (current : Setting) (given? : Option Json) : Setting :=
  (given?.bind current.accept?).getD current

/-- The setting `current`, or the value of a variable in its place, if that can be read. -/
def override (current : Setting) (value? : Option String) : Setting :=
  (value?.bind current.coerce?).getD current

/-- Replacing by nothing changes nothing. -/
@[simp] theorem replace_none (current : Setting) : current.replace none = current := rfl

/-- Overriding by nothing changes nothing. -/
@[simp] theorem override_none (current : Setting) : current.override none = current := rfl

end Setting

namespace Config

open Journal (Event)

/-- After `config.set key setting`, only `key` has another value. -/
@[simp] theorem set_apply (config : Config) (key other : Key) (setting : Setting) :
    config.set key setting other = if other = key then setting else config other := rfl

/-! ## The file -/

/-- The value that `document` gives for `key`. -/
def given? (document : Json) (key : Key) : Option Json :=
  (document.get? key.group).bind (Json.get? key.name)

/-- After `mergeField`, the entry of the field is replaced by its value, and the others are as
before. -/
theorem mergeField_apply (path group : String) (state : Config × List Event) (field : String × Json)
    (key : Key) :
    (mergeField path group state field).1 key =
      if key.group = group ∧ key.name = field.1 then (state.1 key).replace (some field.2)
      else state.1 key := by
  rw [mergeField]
  by_cases named : key.group = group ∧ key.name = field.1
  · rw [if_pos named, Key.find?_eq_some_iff.mpr named, Setting.replace]
    cases accepted : (state.1 key).accept? field.2 with
    | none => simp [accepted]
    | some setting => simp [accepted]
  · rw [if_neg named]
    split
    · rename_i found setting isFound
      -- The field names an entry, but not this one.
      obtain ⟨other, isOther, accepted⟩ := Option.bind_eq_some_iff.mp isFound
      obtain ⟨_, _, same⟩ := Option.map_eq_some_iff.mp accepted
      cases same
      show state.1.set found setting key = state.1 key
      rw [set_apply, if_neg]
      rintro rfl
      exact named (Key.find?_eq_some_iff.mp isOther)
    · rfl

/-- After all `fields` of a group, the entries of the group are replaced by what `lookup` finds for
them. -/
theorem foldl_mergeField_apply {path group : String} {fields : List (String × Json)}
    (names : (fields.map Prod.fst).Nodup) (state : Config × List Event) (key : Key) :
    (fields.foldl (mergeField path group) state).1 key =
      if key.group = group then (state.1 key).replace (fields.lookup key.name)
      else state.1 key := by
  induction fields generalizing state with
  | nil => simp
  | cons field rest ih =>
      obtain ⟨name, value⟩ := field
      rw [List.map_cons, List.nodup_cons] at names
      rw [List.foldl_cons, ih names.2, mergeField_apply]
      by_cases inGroup : key.group = group
      · rw [if_pos inGroup, if_pos inGroup]
        by_cases named : key.name = name
        · -- The name is not given again, so the fields behind leave the entry alone.
          have noMore : rest.lookup key.name = none := by
            rw [List.lookup_eq_none_iff]
            intro other later
            rw [bne_iff_ne, named]
            intro same
            exact names.1 (List.mem_map.mpr ⟨other, later, same.symm⟩)
          rw [if_pos ⟨inGroup, named⟩, noMore, Setting.replace_none, List.lookup_cons,
            beq_iff_eq.mpr named]
        · rw [if_neg fun both => named both.2, List.lookup_cons, beq_eq_false_iff_ne.mpr named]
      · rw [if_neg inGroup, if_neg inGroup, if_neg fun both => inGroup both.1]

/-- After `mergeGroup`, the entries of the group are replaced by what is `given?` for them. -/
theorem mergeGroup_apply {document : Json} (unique : document.UniqueNames) (path : String)
    (state : Config × List Event) (group : String) (key : Key) :
    (mergeGroup path document state group).1 key =
      if key.group = group then (state.1 key).replace (given? document key) else state.1 key := by
  rw [mergeGroup]
  split
  · rename_i fields isGroup
    have fieldsUnique := Json.uniqueNames_obj_iff.mp (unique.of_get? isGroup)
    rw [foldl_mergeField_apply fieldsUnique.names]
    by_cases inGroup : key.group = group
    · rw [if_pos inGroup, if_pos inGroup, given?, inGroup, isGroup]
      rfl
    · rw [if_neg inGroup, if_neg inGroup]
  · rename_i noGroup
    -- What is no object gives no value for any name.
    by_cases inGroup : key.group = group
    · have none : given? document key = none := by
        rw [given?, inGroup]
        cases isGroup : document.get? group with
        | none => rfl
        | some value =>
            cases value with
            | obj fields => exact absurd isGroup (noGroup fields)
            | null | bool | int | real | str | arr => rfl
      rw [if_pos inGroup, none, Setting.replace_none]
    · rw [if_neg inGroup]

/-- After `mergeDocument`, each entry is replaced by what is `given?` for it. The two groups are
disjoint, so their order does not matter. -/
theorem mergeDocument_apply {document : Json} (unique : document.UniqueNames) (path : String)
    (config : Config) (key : Key) :
    (mergeDocument path document config).1 key = (config key).replace (given? document key) := by
  rw [mergeDocument, Key.groups, List.foldl_cons, List.foldl_cons, List.foldl_nil,
    mergeGroup_apply unique, mergeGroup_apply unique]
  -- Each group leaves the entries of the other one alone.
  obtain scan | rules := key.group_eq_or
  · rw [scan, if_neg (by decide), if_pos rfl]
  · rw [rules, if_pos rfl, if_neg (by decide)]

/-- The document that `path` leads to, if there is one that can be read. -/
def document? (disk : Disk) (path : Path) : Option Json :=
  match disk.probe path with
  | .ok (some _) => do
    let bytes ← (disk.read path).toOption
    let text ← Text.decode? bytes
    (Json.read text).toOption
  | _ => none

/-- After `loadFile`, each entry is the standard one, replaced by what is `given?` in the
`document?`. -/
theorem loadFile_apply {disk : Disk} {path : Path} {state : Config × List Event}
    (loaded : loadFile disk path = .ok state) (key : Key) :
    state.1 key = (standard key).replace ((document? disk path).bind (given? · key)) := by
  rw [loadFile] at loaded
  rw [document?]
  -- Whatever keeps the file from being read as a document leaves the standard configuration.
  split at loaded
  · cases loaded
    simp_all [withoutFile]
  · cases loaded
    simp_all
  · rename_i entry probed
    rw [probed]
    split at loaded
    · rename_i error failed
      cases loaded
      simp [failed, withoutFile, Except.toOption]
    · rename_i bytes read
      split at loaded
      · cases loaded
      · rename_i text decoded
        split at loaded
        · rename_i malformed
          cases loaded
          simp [read, decoded, malformed, withoutFile, Except.toOption]
        · cases loaded
        · cases loaded
        · rename_i document isDocument
          cases loaded
          rw [mergeDocument_apply (Json.uniqueNames_of_read isDocument)]
          simp [read, decoded, isDocument, Except.toOption]

/-! ## The environment -/

/-- After `mergeVariable … changed`, the entry `changed` is overridden by its variable. -/
theorem mergeVariable_apply (environment : Environment) (state : Config × List Event)
    (changed key : Key) :
    (mergeVariable environment state changed).1 key =
      if key = changed then (state.1 key).override (environment.lookup key.environmentName)
      else state.1 key := by
  rw [mergeVariable]
  by_cases same : key = changed
  · subst same
    rw [if_pos rfl]
    cases environment.lookup key.environmentName with
    | none => rfl
    | some value =>
        rw [Setting.override, Option.bind_some]
        cases read : (state.1 key).coerce? value with
        | none => simp [read]
        | some setting => simp [read]
  -- Another entry is set, or none.
  · rw [if_neg same]
    split
    · rfl
    · split
      · show state.1.set changed _ key = state.1 key
        rw [set_apply, if_neg same]
      · rfl

/-- After the variables of distinct `keys`, the entries among them are overridden by their
variables. -/
theorem foldl_mergeVariable_apply {environment : Environment} {keys : List Key}
    (unique : keys.Nodup) (state : Config × List Event) (key : Key) :
    (keys.foldl (mergeVariable environment) state).1 key =
      if key ∈ keys then (state.1 key).override (environment.lookup key.environmentName)
      else state.1 key := by
  induction keys generalizing state with
  | nil => simp
  | cons first rest ih =>
      rw [List.nodup_cons] at unique
      rw [List.foldl_cons, ih unique.2, mergeVariable_apply]
      by_cases same : key = first
      · subst same
        rw [if_neg unique.1, if_pos rfl, if_pos List.mem_cons_self]
      · simp [same]

/-! ## Both together -/

/-- The value that the configuration file of the directory `root` gives for `key`. -/
def fileValue? (disk : Disk) (root : String) (key : Key) : Option Json :=
  (document? disk ((Path.ofText root).child fileName)).bind (given? · key)

/-- Each entry of a loaded configuration is the standard one, replaced by `fileValue?` and then
overridden by its variable. -/
theorem load_apply {disk : Disk} {environment : Environment} {root : String} {config : Config}
    {events : List Event} (loaded : load disk environment root = .ok (config, events)) (key : Key) :
    config key = ((standard key).replace (fileValue? disk root key)).override
      (environment.lookup key.environmentName) := by
  rw [load] at loaded
  obtain ⟨state, fromFile, loaded⟩ := exists_of_bind_eq_ok loaded
  have result : Key.all.foldl (mergeVariable environment) state = (config, events) :=
    Except.ok.inj loaded
  calc
    config key = (Key.all.foldl (mergeVariable environment) state).1 key := by rw [result]
    _ = (state.1 key).override (environment.lookup key.environmentName) := by
      rw [foldl_mergeVariable_apply Key.nodup_all, if_pos key.mem_all]
    _ = ((standard key).replace (fileValue? disk root key)).override
        (environment.lookup key.environmentName) := by
      rw [loadFile_apply fromFile, fileValue?]

end Config

end Footgun
