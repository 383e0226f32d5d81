import Footgun.Proofs.ConfigMerge
import Footgun.Proofs.DiskLookup
import Footgun.Rule.Definition

/-! # The types of configured values

Every entry of the configuration is declared with a type. A file may give a value of another type,
which is then left out, with two exceptions: a truth value passes for a number, and nobody looks at
the items of a list. Main definitions:

* `Shape` — the types of the entries, with `Key.shape` for the one that an entry is declared with;
* `Shape.admits` — a value is one of a type;
* `Shape.mistakes` — a value is none of a type, but passes for one;
* `Config.Conforms` — every entry has a value of its type.

The main statement is `Config.conforms_iff_of_load`. -/

namespace Footgun

/-- The types that entries are declared with. -/
inductive Shape where
  /-- A truth value. -/
  | flag
  /-- An integer. -/
  | count
  /-- A list of texts. -/
  | texts
  /-- A text. -/
  | text
  deriving DecidableEq, Repr

/-- The type that an entry is declared with. -/
def Key.shape : Key → Shape
  | .allowExtensions | .excludeDirs | .flags | .unsafePaths => .texts
  | .resolvePaths => .flag
  | .maxFileSize => .count
  | .command | .label => .text

namespace Shape

/-- Whether a value is one of a type. -/
def admits : Shape → Json → Bool
  | flag, .bool _ => true
  | count, .int _ => true
  | texts, .arr items => items.all fun item => item.text?.isSome
  | text, .str _ => true
  | _, _ => false

/-- Whether a value passes for one of a type without being one: a truth value where a number is
asked for, and a list that does not hold texts only where a list of texts is asked for. -/
def mistakes : Shape → Json → Bool
  | count, .bool _ => true
  | texts, .arr items => items.any fun item => item.text?.isNone
  | _, _ => false

variable {shape : Shape} {value : Json}

/-- What a type `mistakes` for its own it does not `admits`. -/
theorem admits_eq_false_of_mistakes (mistaken : shape.mistakes value) :
    shape.admits value = false := by
  fun_cases mistakes shape value with
  | case1 on => rfl
  | case2 items =>
      obtain ⟨item, member, noText⟩ := List.any_eq_true.mp mistaken
      rw [admits, List.all_eq_false]
      exact ⟨item, member, by rw [Option.isNone_iff_eq_none.mp noText]; decide⟩
  | case3 => simp_all [mistakes]

end Shape

namespace Setting

variable {shape : Shape} {current : Setting}

/-- A current value of a type takes by `accept?` what the type `admits` or `mistakes`, and nothing
else. -/
theorem toJson_accept? (typed : shape.admits current.toJson) (value : Json) :
    (current.accept? value).map toJson =
      if shape.admits value || shape.mistakes value then some value else none := by
  -- The type settles of which kind the current value is.
  cases shape with
  | flag =>
      cases current with
      | flag => cases value <;> rfl
      | count | items | text => cases typed
  | count =>
      cases current with
      | count => cases value <;> rfl
      | flag | items | text => cases typed
  | text =>
      cases current with
      | text => cases value <;> rfl
      | flag | count | items => cases typed
  | texts =>
      cases current with
      | items =>
          cases value with
          | arr items =>
              have either :
                  (Shape.texts.admits (.arr items) || Shape.texts.mistakes (.arr items)) := by
                rw [Shape.admits, Shape.mistakes, List.any_eq_not_all_not]
                simp
              rw [if_pos either]
              rfl
          | null | bool | int | real | str | obj => rfl
      | flag | count | text => cases typed

/-- A current value of a type is replaced by what the type `admits` or `mistakes`, and stays
otherwise. -/
theorem toJson_replace (typed : shape.admits current.toJson) (value : Json) :
    (current.replace (some value)).toJson =
      if shape.admits value || shape.mistakes value then value else current.toJson := by
  have taken := toJson_accept? typed value
  rw [replace, Option.bind_some]
  cases accepted : current.accept? value with
  | none =>
      rw [accepted] at taken
      split at taken
      · cases taken
      · rw [if_neg (by assumption)]
        rfl
  | some setting =>
      rw [accepted] at taken
      split at taken
      · rw [if_pos (by assumption)]
        exact Option.some.inj taken
      · cases taken

/-- A list of texts is admitted as `Shape.texts`. -/
theorem admits_texts_map_str (texts : List String) :
    Shape.texts.admits (.arr (texts.map .str)) := by
  rw [Shape.admits, List.all_map, List.all_eq_true]
  intro text _
  rfl

/-- After `override` a setting is admitted exactly if it was before, or if a list of texts is asked
for and there is a variable: a list of texts takes the place of any list. -/
theorem admits_override_iff
    (taken : shape.admits current.toJson || shape.mistakes current.toJson)
    (value? : Option String) :
    shape.admits (current.override value?).toJson ↔
      shape.admits current.toJson ∨ shape = .texts ∧ value?.isSome := by
  cases value? with
  | none => simp
  | some value =>
      cases current with
      | flag on =>
          cases shape <;> simp_all [override, coerce?, toJson, Shape.admits, Shape.mistakes]
      | count number =>
          -- A misspelt number leaves the one before.
          have kept : ∃ other, (count number).override (some value) = count other := by
            rw [override, Option.bind_some, coerce?]
            cases Text.readInteger value with
            | none => exact ⟨number, rfl⟩
            | some other => exact ⟨other, rfl⟩
          obtain ⟨other, isOther⟩ := kept
          rw [isOther]
          cases shape <;> simp_all [toJson, Shape.admits, Shape.mistakes]
      | items values =>
          -- Whatever the list holds, the variable is read as a list of texts.
          have isTexts : shape = .texts := by
            cases shape <;> simp_all [toJson, Shape.admits, Shape.mistakes]
          subst isTexts
          have listed : Shape.texts.admits ((items values).override (some value)).toJson :=
            admits_texts_map_str _
          simp [listed]
      | text before =>
          cases shape <;> simp_all [override, coerce?, toJson, Shape.admits, Shape.mistakes]

/-- After `replace` and `override`, `items` are still `items`. -/
theorem exists_items_replace_override (values : List Json) (given? : Option Json)
    (value? : Option String) :
    ∃ others, ((items values).replace given?).override value? = items others := by
  have replaced : ∃ others, (items values).replace given? = items others := by
    rw [replace]
    cases given? with
    | none => exact ⟨values, rfl⟩
    | some given =>
        cases given with
        | arr others => exact ⟨others, rfl⟩
        | null | bool | int | real | str | obj => exact ⟨values, rfl⟩
  obtain ⟨others, isOthers⟩ := replaced
  rw [isOthers, override]
  cases value? with
  | none => exact ⟨others, rfl⟩
  | some value => exact ⟨_, rfl⟩

end Setting

namespace Config

open Journal (Event)

/-- Every entry has a value of the type that it is declared with: its `shape` `admits` the value. -/
def Conforms (config : Config) : Prop :=
  ∀ key : Key, key.shape.admits (config key).toJson

/-- The standard configuration has `Conforms`. -/
theorem conforms_standard : standard.Conforms := by
  intro key
  cases key <;> decide

/-! ## Rules of a configuration -/

/-- The group `"rules"` of a configuration as an object, with its four fields in order. -/
theorem groupJson_rules (config : Config) :
    config.groupJson "rules" = .obj [("command", (config .command).toJson),
      ("label", (config .label).toJson), ("flags", (config .flags).toJson),
      ("unsafe_paths", (config .unsafePaths).toJson)] := rfl

/-- The values of a list are `members` of a set exactly if each of them `isScalar`. -/
theorem exists_members_iff (values fallback : List Json) :
    (∃ set, Definition.members (some (.arr values)) fallback = .ok set) ↔
      ∀ value ∈ values, value.isScalar := by
  rw [← List.all_eq_true]
  cases scalars : values.all Json.isScalar with
  | true => simp [Definition.members, Json.elements?, scalars]
  | false => simp [Definition.members, Json.elements?, scalars]

/-- The rules of a configuration can be built by `Definition.ofJson` exactly if all values of both
of its lists are `isScalar`. -/
theorem exists_ofJson_iff {config : Config} {flags paths : List Json}
    (isFlags : config .flags = .items flags) (isPaths : config .unsafePaths = .items paths) :
    (∃ definition, Definition.ofJson (config.groupJson "rules") = .ok definition) ↔
      (∀ value ∈ flags, value.isScalar) ∧ ∀ value ∈ paths, value.isScalar := by
  -- The group is read back from the entries that it was written from.
  have getFlags : (config.groupJson "rules").get? "flags" = some (.arr flags) := by
    rw [groupJson_rules, isFlags]
    rfl
  have getPaths : (config.groupJson "rules").get? "unsafe_paths" = some (.arr paths) := by
    rw [groupJson_rules, isPaths]
    rfl
  rw [← exists_members_iff flags Definition.standard.flags,
    ← exists_members_iff paths Definition.standard.unsafePaths]
  rw [groupJson_rules] at getFlags getPaths ⊢
  rw [Definition.ofJson, if_neg (by simp [Json.isTruthy])]
  simp only [getFlags, getPaths]
  constructor
  · -- A definition is built only if both lists could be read, one after the other.
    rintro ⟨definition, built⟩
    obtain ⟨set, areFlags, built⟩ := exists_of_bind_eq_ok built
    obtain ⟨others, arePaths, _⟩ := exists_of_bind_eq_ok built
    exact ⟨⟨set, areFlags⟩, others, arePaths⟩
  · rintro ⟨⟨set, areFlags⟩, others, arePaths⟩
    rw [areFlags, arePaths]
    exact ⟨_, rfl⟩

/-- A setting that is admitted as `Shape.texts` is a list, and all of its values are `isScalar`. -/
theorem exists_items_of_admits {setting : Setting} (isTexts : Shape.texts.admits setting.toJson) :
    ∃ values, setting = .items values ∧ ∀ value ∈ values, value.isScalar := by
  cases setting with
  | items values =>
      refine ⟨values, rfl, ?_⟩
      intro value member
      have isText := List.all_eq_true.mp isTexts value member
      cases value with
      | str => rfl
      | null | bool | int | real | arr | obj => cases isText
  | flag | count | text => cases isTexts

/-- From `Conforms` follows that the rules can be built by `Definition.ofJson`. -/
theorem Conforms.exists_ofJson {config : Config} (conforms : config.Conforms) :
    ∃ definition, Definition.ofJson (config.groupJson "rules") = .ok definition := by
  obtain ⟨flags, isFlags, areFlags⟩ := exists_items_of_admits (conforms .flags)
  obtain ⟨paths, isPaths, arePaths⟩ := exists_items_of_admits (conforms .unsafePaths)
  exact (exists_ofJson_iff isFlags isPaths).mpr ⟨areFlags, arePaths⟩

/-! ## A disk with a configuration file -/

/-- A disk with nothing but a configuration file on it. -/
def diskOf (text : String) : Disk :=
  .ofFile fileName text.toByteArray

/-- The file of `diskOf text` is found under `fileName`. -/
theorem find_diskOf (text : String) : (diskOf text).find true ((Path.ofText ".").child fileName) =
    .ok ⟨[fileName], some (.file text.toByteArray), Disk.maxLinks⟩ := by
  rw [show (Path.ofText ".").child fileName = ⟨"", [fileName]⟩ by decide]
  exact Disk.find_ofFile_self (by decide) text.toByteArray true

/-- The `document?` of `diskOf text` is what `text` is read as. -/
theorem document?_diskOf {text : String} {document : Json} (read : Json.read text = .ok document) :
    document? (diskOf text) ((Path.ofText ".").child fileName) = some document := by
  rw [document?, Disk.probe, Disk.read, find_diskOf]
  have decoded : Text.decode? text.toByteArray = some text := Text.decode?_eq_some_iff.mpr rfl
  simp [bind, Except.bind, pure, Except.pure, Except.toOption, decoded, read]

/-- If `text` is read as a document, `diskOf text` is loaded. -/
theorem exists_load_diskOf {text : String} {document : Json} (read : Json.read text = .ok document)
    (environment : Environment) :
    ∃ config events, load (diskOf text) environment "." = .ok (config, events) := by
  have decoded : Text.decode? text.toByteArray = some text := Text.decode?_eq_some_iff.mpr rfl
  rw [load, loadFile, Disk.probe, Disk.read, find_diskOf]
  simp only [bind, Except.bind, pure, Except.pure, decoded, read]
  exact ⟨_, _, rfl⟩

/-- A file with a truth value where a number is asked for. -/
def switchText : String :=
  "\x7b\"scan\": \x7b\"max_file_size\": true\x7d\x7d"

/-- In the document of `switchText`, the size limit is `true`. -/
theorem exists_read_switchText : ∃ document, Json.read switchText = .ok document ∧
    given? document .maxFileSize = some (.bool true) := by
  have test : ((Json.read switchText).toOption.bind (given? · .maxFileSize)).any
      (fun value => value.isTruthy && Shape.flag.admits value) := by
    decide +kernel
  cases read : Json.read switchText with
  | error error =>
      rw [read] at test
      cases test
  | ok document =>
      rw [read, Except.toOption, Option.bind_some, Option.any_eq_true] at test
      obtain ⟨value, given, isSwitch⟩ := test
      cases value with
      | bool on =>
          cases on with
          | true => exact ⟨document, rfl, given⟩
          | false => cases isSwitch
      | null | int | real | str | arr | obj => simp [Shape.admits] at isSwitch

/-- A file with a number where texts are asked for, and with a text where a number is. -/
def numberText : String :=
  "\x7b\"rules\": \x7b\"flags\": [1]\x7d, \"scan\": \x7b\"max_file_size\": \"big\"\x7d\x7d"

/-- In `numberText` only the flags pass for what they are not, and the size limit is refused. -/
theorem exists_read_numberText : ∃ document, Json.read numberText = .ok document ∧
    (∃ value, given? document .flags = some value ∧ Shape.texts.mistakes value) ∧
    (∃ value, given? document .maxFileSize = some value ∧ Shape.count.admits value = false ∧
      Shape.count.mistakes value = false) ∧
    ∀ key value, key ≠ .flags → given? document key = some value →
      key.shape.mistakes value = false := by
  -- All that is said about the document is one test, which can be evaluated.
  have test : (Json.read numberText).toOption.any fun document =>
      (given? document .flags).any Shape.texts.mistakes &&
      ((given? document .maxFileSize).any fun value =>
        !Shape.count.admits value && !Shape.count.mistakes value) &&
      Key.all.all fun key => decide (key = .flags) || (given? document key).all fun value =>
        !key.shape.mistakes value := by
    decide +kernel
  cases read : Json.read numberText with
  | error error =>
      rw [read] at test
      cases test
  | ok document =>
      rw [read, Except.toOption, Option.any_some, Bool.and_eq_true, Bool.and_eq_true,
        Option.any_eq_true, Option.any_eq_true, List.all_eq_true] at test
      obtain ⟨⟨flags, ⟨limit, given, refused⟩⟩, others⟩ := test
      rw [Bool.and_eq_true, Bool.not_eq_true', Bool.not_eq_true'] at refused
      refine ⟨document, rfl, flags, ⟨limit, given, refused⟩, fun key value different isGiven => ?_⟩
      have held := others key key.mem_all
      rw [isGiven, Option.all_some, decide_eq_false different, Bool.false_or,
        Bool.not_eq_true'] at held
      exact held

/-! ## Loaded configurations -/

section

variable {disk : Disk} {environment : Environment} {root : String} {config : Config}
  {events : List Event} {key : Key}

/-- A loaded entry of the shape `.texts` is a list. -/
theorem apply_eq_items_of_load (loaded : load disk environment root = .ok (config, events))
    (isTexts : key.shape = .texts) : config key = .items (config.list key) := by
  obtain ⟨values, isStandard, _⟩ := exists_items_of_admits (isTexts ▸ conforms_standard key)
  obtain ⟨others, isOthers⟩ := Setting.exists_items_replace_override values
    (fileValue? disk root key) (environment.lookup key.environmentName)
  rw [← isStandard, ← load_apply loaded] at isOthers
  rw [list, isOthers]

/-- A value of the file that its entry neither `admits` nor `mistakes` is left out: the entry is the
standard one, overridden by its variable. -/
theorem apply_of_load_of_wrong (loaded : load disk environment root = .ok (config, events))
    {value : Json} (given : fileValue? disk root key = some value)
    (wrong : key.shape.admits value = false) (refused : key.shape.mistakes value = false) :
    config key = (standard key).override (environment.lookup key.environmentName) := by
  have noSetting := Setting.toJson_accept? (conforms_standard key) value
  rw [wrong, refused, Bool.or_false, if_neg Bool.false_ne_true, Option.map_eq_none_iff] at noSetting
  rw [load_apply loaded, given, Setting.replace, Option.bind_some, noSetting, Option.getD_none]

/-- A loaded entry is admitted exactly if the file has no value for it that its shape `mistakes`,
unless a variable takes the place of a list. -/
theorem admits_of_load_iff (loaded : load disk environment root = .ok (config, events))
    (key : Key) :
    key.shape.admits (config key).toJson ↔
      ∀ value, fileValue? disk root key = some value → key.shape.mistakes value →
        key.shape = .texts ∧ (environment.lookup key.environmentName).isSome := by
  have typed := conforms_standard key
  rw [load_apply loaded]
  cases given : fileValue? disk root key with
  | none =>
      have taken : key.shape.admits (standard key).toJson ||
          key.shape.mistakes (standard key).toJson := by
        rw [typed, Bool.true_or]
      rw [Setting.replace_none, Setting.admits_override_iff taken]
      simp [typed]
  | some value =>
      have replaced := Setting.toJson_replace typed value
      cases mistaken : key.shape.mistakes value with
      | true =>
          -- The value is taken and is of a wrong type, so it is up to the variable.
          have wrong := Shape.admits_eq_false_of_mistakes mistaken
          rw [mistaken, Bool.or_true, if_pos rfl] at replaced
          rw [Setting.admits_override_iff (by rw [replaced, mistaken, Bool.or_true]),
            replaced, wrong]
          simp [mistaken]
      | false =>
          -- The value is taken and right, or it is refused and the standard one stays.
          have right : key.shape.admits ((standard key).replace (some value)).toJson := by
            rw [replaced, mistaken, Bool.or_false]
            split
            · assumption
            · exact typed
          rw [Setting.admits_override_iff (by rw [right, Bool.true_or])]
          simp [right, mistaken]

/-- When a loaded configuration has the declared types.

(1) It `Conforms` exactly if the file has no value that the shape of its entry `mistakes`, apart
from lists that a variable takes the place of.

(2) If it `Conforms`, its rules can be built by `Definition.ofJson`.

(3) Its rules can be built exactly if all flags and all unsafe paths are `isScalar`.

(4) A value of the file that its entry neither `admits` nor `mistakes` is as if it were not
there. -/
theorem conforms_iff_of_load (loaded : load disk environment root = .ok (config, events)) :
    (config.Conforms ↔ ∀ key value, fileValue? disk root key = some value →
      key.shape.mistakes value →
        key.shape = .texts ∧ (environment.lookup key.environmentName).isSome) ∧
    (config.Conforms →
      ∃ definition, Definition.ofJson (config.groupJson "rules") = .ok definition) ∧
    ((∃ definition, Definition.ofJson (config.groupJson "rules") = .ok definition) ↔
      (∀ value ∈ config.list .flags, value.isScalar) ∧
        ∀ value ∈ config.list .unsafePaths, value.isScalar) ∧
    ∀ key value, fileValue? disk root key = some value → key.shape.admits value = false →
      key.shape.mistakes value = false →
        config key = (standard key).override (environment.lookup key.environmentName) := by
  have isFlags := apply_eq_items_of_load loaded (rfl : Key.flags.shape = .texts)
  have isPaths := apply_eq_items_of_load loaded (rfl : Key.unsafePaths.shape = .texts)
  refine ⟨forall_congr' fun key => admits_of_load_iff loaded key, Conforms.exists_ofJson,
    exists_ofJson_iff isFlags isPaths, ?_⟩
  intro key value given wrong refused
  exact apply_of_load_of_wrong loaded given wrong refused

end

/-- A list of flags that holds a number keeps `Conforms` from holding, unless a variable takes its
place; then the rules can be built. A text in place of the size limit is as if it were not there. -/
theorem conforms_iff_of_load_numberText :
    (∃ config events, load (diskOf numberText) [] "." = .ok (config, events) ∧ ¬ config.Conforms ∧
      config .maxFileSize = standard .maxFileSize) ∧
    ∃ config events,
      load (diskOf numberText) [("HAZARDOUS_RULES_FLAGS", "-r, -f")] "." = .ok (config, events) ∧
      config.Conforms ∧
      (∃ definition, Definition.ofJson (config.groupJson "rules") = .ok definition) ∧
      config .maxFileSize = standard .maxFileSize := by
  obtain ⟨document, read, ⟨flags, isFlags, mistaken⟩, ⟨limit, isLimit, wrong, refused⟩, right⟩ :=
    exists_read_numberText
  have value : ∀ key, fileValue? (diskOf numberText) "." key = given? document key := by
    intro key
    rw [fileValue?, document?_diskOf read, Option.bind_some]
  constructor
  · obtain ⟨config, events, loaded⟩ := exists_load_diskOf read []
    obtain ⟨conforms, _, _, apart⟩ := conforms_iff_of_load loaded
    refine ⟨config, events, loaded, fun holds => ?_,
      apart .maxFileSize limit ((value _).trans isLimit) wrong refused⟩
    -- No variable replaces the flags, so the number among them stays.
    cases (conforms.mp holds .flags flags ((value _).trans isFlags) mistaken).2
  · obtain ⟨config, events, loaded⟩ := exists_load_diskOf read [("HAZARDOUS_RULES_FLAGS", "-r, -f")]
    obtain ⟨conforms, buildable, _, apart⟩ := conforms_iff_of_load loaded
    -- The variable replaces the flags, and no other value is mistaken for one of its type.
    have holds : config.Conforms := by
      refine conforms.mpr fun key other given mistaken => ?_
      by_cases isKey : key = .flags
      · subst isKey
        exact ⟨rfl, by decide +kernel⟩
      · rw [right key other isKey ((value key).symm.trans given)] at mistaken
        cases mistaken
    have unset :
        [("HAZARDOUS_RULES_FLAGS", "-r, -f")].lookup Key.maxFileSize.environmentName = none := by
      decide +kernel
    have limited := apart .maxFileSize limit ((value _).trans isLimit) wrong refused
    rw [unset] at limited
    exact ⟨config, events, loaded, holds, buildable holds, limited⟩

/-- The truth value of `switchText` becomes the size limit, so the configuration has not
`Conforms`. -/
theorem not_conforms_of_load_switchText :
    ∃ config events, load (diskOf switchText) [] "." = .ok (config, events) ∧
      config .maxFileSize = .flag true ∧ ¬config.Conforms := by
  obtain ⟨document, read, given⟩ := exists_read_switchText
  obtain ⟨config, events, loaded⟩ := exists_load_diskOf read []
  have limit : config .maxFileSize = .flag true := by
    rw [load_apply loaded, fileValue?, document?_diskOf read, Option.bind_some, given]
    rfl
  refine ⟨config, events, loaded, limit, ?_⟩
  intro conforms
  have admitted := conforms .maxFileSize
  rw [limit] at admitted
  cases admitted

end Config

end Footgun
