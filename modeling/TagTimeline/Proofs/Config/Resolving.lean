import Mathlib
import TagTimeline.Proofs.Config.Layering

/-!
# Resolving Settings

Which configuration the program loads from a file with defaults, a file for its environment and the
variables. Each setting is taken on its own from the variables, else from the file for the
environment, else from the defaults, else it has the default that is built in; a table without
members gives a setting nothing where a lower layer gives it something. There is no configuration
exactly if the address of the database is given nowhere, or if a value that counts cannot be
converted. What is given below a value that counts does not matter.

## Main results

* `Config.Resolves` — how the settings make the configuration.
* `Config.resolves_load` — what is loaded, setting by setting.
-/

namespace TagTimeline

open Text

namespace Path

/-- Whether a text ends in a name, which is neither empty nor leads back. -/
def endsInName (text : String) : Bool :=
  (parts text).getLast?.any fun last => !isIdle last && last != back

/-- Every text has a piece. -/
theorem splitAt_ne_nil (separator : Char) (cs : List Char) : splitAt separator cs ≠ [] := by
  cases cs with
  | nil => exact List.cons_ne_nil _ _
  | cons c cs =>
      rw [splitAt]
      split
      · exact List.cons_ne_nil _ _
      · split <;> exact List.cons_ne_nil _ _

/-- The pieces of a text with the separator between them are the text. -/
theorem intercalate_splitAt (separator : Char) (cs : List Char) :
    [separator].intercalate (splitAt separator cs) = cs := by
  induction cs with
  | nil => rfl
  | cons c cs ih =>
      rw [splitAt]
      split
      · next heq =>
          obtain ⟨piece, pieces, hpieces⟩ :=
            List.exists_cons_of_ne_nil (splitAt_ne_nil separator cs)
          rw [hpieces] at ih ⊢
          rw [List.intercalate_cons_cons, ih, heq]
          rfl
      · split
        · next hnone => exact absurd hnone (splitAt_ne_nil separator cs)
        · next piece pieces hpieces =>
            rw [hpieces] at ih
            rw [← ih]
            cases pieces with
            | nil => rfl
            | cons other pieces => rw [List.intercalate_cons_cons, List.intercalate_cons_cons]; rfl

/-- The parts of a text with slashes between them are the text. -/
theorem intercalate_parts (text : String) : "/".intercalate (parts text) = text := by
  refine String.toList_inj.mp ?_
  have hparts : (parts text).map String.toList = splitAt '/' text.toList := by
    rw [parts, List.map_map]
    exact (List.map_congr_left fun cs _ => String.toList_ofList).trans (List.map_id _)
  rw [String.toList_intercalate, hparts]
  exact intercalate_splitAt '/' text.toList

/-- A text that ends in a name has an extension put behind it. -/
theorem withExtension?_eq {text : String} (h : endsInName text = true) (extension : String) :
    withExtension? extension text = some (text ++ "." ++ extension) := by
  obtain ⟨last, hlast, hname⟩ := (Option.any_eq_true _ _).mp h
  rw [Bool.and_eq_true, Bool.not_eq_true', bne_iff_ne] at hname
  have hkept : withoutIdleEnd (parts text) = parts text := by
    obtain ⟨init, hinit⟩ := List.getLast?_eq_some_iff.mp hlast
    rw [withoutIdleEnd, hinit, List.reverse_concat, List.dropWhile_cons_of_neg (by simp [hname.1]),
      List.reverse_cons, List.reverse_reverse]
  rw [withExtension?, hkept, hlast]
  simp only [if_neg hname.2, intercalate_parts]

end Path

namespace Config

/-! ### Files -/

/-- The extensions of all files in which settings are looked for, in no order that one could rely
on. Only the first two formats are read here. -/
def settingsExtensions : List String := ["toml", "json", "yaml", "yml", "ini", "ron", "json5"]

/-- **That no file competes for a name** with the one that has an extension: none has just the name,
and none has another extension under which settings are looked for. -/
structure IsUnrivalled (files : FileReader) (name extension : String) : Prop where
  exact : files name = none
  others : ∀ other ∈ settingsExtensions, other ≠ extension → files (name ++ "." ++ other) = none

/-- **The layer in the file that a name stands for**, a TOML or a JSON file that no other file
competes with, or no file at all. That there is no competing file is assumed: which of several
would be found first is not fixed. -/
inductive IsLayer (files : FileReader) (name : String) : List (String × Value) → Prop where
  | toml {text : String} {layer : List (String × Value)} (alone : IsUnrivalled files name "toml")
      (file : files (name ++ ".toml") = some text)
      (read : Format.toml.read? text = some layer) : IsLayer files name layer
  | json {text : String} {layer : List (String × Value)} (alone : IsUnrivalled files name "json")
      (file : files (name ++ ".json") = some text)
      (read : Format.json.read? text = some layer) : IsLayer files name layer
  | absent (alone : IsUnrivalled files name "") : IsLayer files name []

/-- A file is laid over the settings as its layer. -/
theorem IsLayer.layFile_eq {files : FileReader} {name : String} {layer : List (String × Value)}
    (h : IsLayer files name layer) (hname : Path.endsInName name = true) (lower : Value) :
    layFile files lower name = lay lower layer := by
  have htoml : Path.withExtension? Format.toml.extension name = some (name ++ ".toml") := by
    rw [Path.withExtension?_eq hname, String.append_assoc]
    rfl
  have hjson : Path.withExtension? Format.json.extension name = some (name ++ ".json") := by
    rw [Path.withExtension?_eq hname, String.append_assoc]
    rfl
  have hlocate : files name = none → locate files name =
      ((files (name ++ ".toml")).map (Format.toml, ·)).or
        ((files (name ++ ".json")).map (Format.json, ·)) := by
    intro hexact
    rw [locate, hexact]
    simp only [Format.all, List.findSome?_cons, List.findSome?_nil, htoml, hjson, Option.bind_some]
    cases files (name ++ ".toml") <;> cases files (name ++ ".json") <;> rfl
  rw [layFile]
  cases h with
  | toml alone file read =>
      rw [hlocate alone.exact, file]
      simp only [Option.map_some, Option.some_or, layerOf, read]
      rfl
  | json alone file read =>
      have noToml : files (name ++ ".toml") = none := by
        rw [← alone.others "toml" (by decide) (by decide), String.append_assoc]
        rfl
      rw [hlocate alone.exact, noToml, file]
      simp only [Option.map_none, Option.none_or, Option.map_some, layerOf, read]
      rfl
  | absent alone =>
      have noToml : files (name ++ ".toml") = none := by
        rw [← alone.others "toml" (by decide) (by decide), String.append_assoc]
        rfl
      have noJson : files (name ++ ".json") = none := by
        rw [← alone.others "json" (by decide) (by decide), String.append_assoc]
        rfl
      rw [hlocate alone.exact, noToml, noJson]
      rfl

/-- A layer over settings gives its values to them, unless one of its entries has no position. -/
theorem lay_cases {root : Value} {values : Setting → Option Value} (h : IsLaid root values)
    {layer : List (String × Value)} (hregular : ∀ entry ∈ layer, IsRegular entry) :
    (∃ root', lay root layer = .ok root' ∧
      IsLaid root' fun setting => Value.orBelow (setting.value? layer) (values setting)) ∨
    lay root layer = .error .noPosition ∧ ∃ entry ∈ layer, IsAstray entry := by
  rcases h.merge?_cases hregular with ⟨root', hmerge, hlaid⟩ | ⟨hmerge, hastray⟩
  · exact .inl ⟨root', by rw [lay, hmerge], hlaid⟩
  · exact .inr ⟨by rw [lay, hmerge], hastray⟩

/-! ### Conversions -/

namespace Setting

/-- Whether a value can be converted for a setting. -/
def converts : Setting → Value → Bool
  | url, value => value.text?.isSome
  | maxConnections, value | minConnections, value => value.count?.isSome
  | requiredTag, value => value.flag?.isSome

end Setting

/-- The value of a setting converted, or its default if it has no value. -/
def taken {α : Type} (conversion : Value → Option α) (default : α) : Option Value → Option α
  | none => some default
  | some value => conversion value

/-- **How the settings make the configuration**, by the value that counts for each. -/
structure Resolves (values : Setting → Option Value) (result : Except ConfigError Config) :
    Prop where
  /-- The configuration has what the values are converted to, and else the defaults. -/
  config : ∀ config, result = .ok config →
    (values .url).bind Value.text? = some config.database.url ∧
    taken Value.count? 100 (values .maxConnections) = some config.database.maxConnections ∧
    taken Value.count? 5 (values .minConnections) = some config.database.minConnections ∧
    taken Value.flag? false (values .requiredTag) = some config.requiredTag
  /-- There is none exactly if the address has no value, or some value cannot be converted. -/
  fails_iff : (∃ error, result = .error error) ↔
    values .url = none ∨ ∃ setting value, values setting = some value ∧
      setting.converts value = false
  /-- If all values can be converted, but the address has none, something is missing. -/
  missing : (∀ setting value, values setting = some value → setting.converts value = true) →
    values .url = none → result = .error .missing
  /-- If some values cannot be converted, the key of one of them is reported. -/
  unconvertible : (∃ setting value, values setting = some value ∧ setting.converts value = false) →
    ∃ setting value, values setting = some value ∧ setting.converts value = false ∧
      result = .error (.unconvertible setting.key)

namespace Resolves

variable {values : Setting → Option Value}

/-- A value that cannot be converted is reported. -/
theorem of_unconvertible {setting : Setting} {value : Value} (hvalue : values setting = some value)
    (hbad : setting.converts value = false) :
    Resolves values (.error (.unconvertible setting.key)) where
  config := nofun
  fails_iff := ⟨fun _ => .inr ⟨setting, value, hvalue, hbad⟩, fun _ => ⟨_, rfl⟩⟩
  missing hgood := by
    rw [hgood setting value hvalue] at hbad
    cases hbad
  unconvertible _ := ⟨setting, value, hvalue, hbad, rfl⟩

section

variable
  (hgood : ∀ setting value, values setting = some value → setting.converts value = true)

include hgood

/-- No value is found that cannot be converted, if all can be. -/
theorem not_unconvertible :
    ¬ ∃ setting value, values setting = some value ∧ setting.converts value = false := by
  rintro ⟨setting, value, hvalue, hbad⟩
  rw [hgood setting value hvalue] at hbad
  cases hbad

/-- Without an address something is missing. -/
theorem of_missing (hurl : values .url = none) : Resolves values (.error .missing) where
  config := nofun
  fails_iff := ⟨fun _ => .inl hurl, fun _ => ⟨_, rfl⟩⟩
  missing _ _ := rfl
  unconvertible hbad := absurd hbad (not_unconvertible hgood)

/-- With an address the configuration has what the settings are converted to. -/
theorem of_address {address : String} {most least : UInt32} {required : Bool}
    (haddress : (values .url).bind Value.text? = some address)
    (hmost : taken Value.count? 100 (values .maxConnections) = some most)
    (hleast : taken Value.count? 5 (values .minConnections) = some least)
    (hrequired : taken Value.flag? false (values .requiredTag) = some required) :
    Resolves values (.ok ⟨⟨address, most, least⟩, required⟩) := by
  have hurl : values .url ≠ none := by
    intro hnone
    rw [hnone] at haddress
    cases haddress
  exact {
    config := by
      rintro _ ⟨⟩
      exact ⟨haddress, hmost, hleast, hrequired⟩
    fails_iff := ⟨nofun, fun h => (h.elim hurl (not_unconvertible hgood)).elim⟩
    missing := fun _ hnone => absurd hnone hurl
    unconvertible := fun hbad => absurd hbad (not_unconvertible hgood) }

end

/-- **Reading a setting** reports it, or goes on with what its value is converted to. -/
theorem convert_bind {α : Type} {conversion : Value → Option α} {setting : Setting}
    (hconverts : ∀ value, setting.converts value = (conversion value).isSome)
    {rest : Option α → Except ConfigError Config}
    (hrest : (∀ value, values setting = some value → (conversion value).isSome = true) →
      Resolves values (rest ((values setting).bind conversion))) :
    Resolves values
      (convert conversion ((values setting).map (setting.key, ·)) >>= rest) := by
  cases hvalue : values setting with
  | none =>
      rw [hvalue] at hrest
      exact hrest nofun
  | some value =>
      cases hconversion : conversion value with
      | none =>
          simp only [Option.map_some, convert, hconversion]
          exact .of_unconvertible hvalue (by rw [hconverts, hconversion]; rfl)
      | some a =>
          simp only [Option.map_some, convert, hconversion]
          have hnext := hrest (by simp [hvalue, hconversion])
          rw [hvalue, Option.bind_some, hconversion] at hnext
          exact hnext

end Resolves

/-- Where a value can be converted, what is taken is what it converts to, or else the default. -/
theorem taken_eq {α : Type} {conversion : Value → Option α} {value? : Option Value}
    (h : ∀ value, value? = some value → (conversion value).isSome = true) (default : α) :
    taken conversion default value? = some ((value?.bind conversion).getD default) := by
  cases value? with
  | none => rfl
  | some value =>
      obtain ⟨a, ha⟩ := Option.isSome_iff_exists.mp (h value rfl)
      rw [taken, Option.bind_some, ha, Option.getD_some]

/-- What is read of alike values is the same, as no table can be converted. -/
theorem convert_alike {α : Type} {conversion : Value → Option α}
    (htable : ∀ members, conversion (.table members) = none) {a b : Option Value}
    (h : Value.Alike a b) (key : String) :
    convert conversion (a.map (key, ·)) = convert conversion (b.map (key, ·)) := by
  rcases h with rfl | ⟨members, members', rfl, rfl⟩
  · rfl
  · simp [convert, htable]

section

variable {root : Value} {values : Setting → Option Value}

/-- **A setting is read** from under its key in its section, which is a table. -/
theorem IsLaid.convert_setting? (h : IsLaid root values) {α : Type} {conversion : Value → Option α}
    (htable : ∀ members, conversion (.table members) = none) (setting : Setting)
    (fields : List String) :
    convert conversion
        (setting? (member? root setting.group) setting.group fields setting.field) =
      convert conversion ((values setting).map (setting.key, ·)) := by
  have hfound : setting? (member? root setting.group) setting.group fields setting.field =
      (setting.at? root).map (setting.key, ·) := by
    rw [Setting.at?, member?]
    cases hgroup : root.members.lookup setting.group with
    | none => rfl
    | some group =>
        obtain ⟨members, rfl⟩ := h.groups setting group hgroup
        rfl
  rw [hfound, convert_alike htable (h.settings setting)]

/-- The section of the site can be read. -/
theorem IsLaid.isGroup_site (h : IsLaid root values) :
    (member? root "site").all isGroup = true := by
  rw [Option.all_eq_true]
  intro group hgroup
  obtain ⟨members, rfl⟩ := h.groups .requiredTag group hgroup
  rfl

/-- **The configuration that a value describes** follows from the values of its settings. -/
theorem resolves_ofValue (h : IsLaid root values) : Resolves values (ofValue root) := by
  have hurl := h.convert_setting? (fun _ => rfl : ∀ ms, Value.text? (.table ms) = none)
    .url databaseFields
  have hmost := h.convert_setting? (fun _ => rfl : ∀ ms, Value.count? (.table ms) = none)
    .maxConnections databaseFields
  have hleast := h.convert_setting? (fun _ => rfl : ∀ ms, Value.count? (.table ms) = none)
    .minConnections databaseFields
  have hrequired := h.convert_setting? (fun _ => rfl : ∀ ms, Value.flag? (.table ms) = none)
    .requiredTag siteFields
  simp only [Setting.group, Setting.field] at hurl hmost hleast hrequired
  simp only [ofValue, hurl, hmost, hleast, hrequired, h.isGroup_site, if_true]
  refine .convert_bind (fun _ => rfl) fun hurl => ?_
  refine .convert_bind (fun _ => rfl) fun hmost => ?_
  refine .convert_bind (fun _ => rfl) fun hleast => ?_
  refine .convert_bind (fun _ => rfl) fun hrequired => ?_
  have hgood : ∀ setting value, values setting = some value → setting.converts value = true := by
    intro setting
    cases setting with
    | url => exact hurl
    | maxConnections => exact hmost
    | minConnections => exact hleast
    | requiredTag => exact hrequired
  cases haddress : (values .url).bind Value.text? with
  | none =>
      refine .of_missing hgood (Option.eq_none_iff_forall_ne_some.mpr fun value hvalue => ?_)
      have htext := hurl value hvalue
      rw [hvalue, Option.bind_some] at haddress
      rw [haddress] at htext
      cases htext
  | some address =>
      exact .of_address hgood haddress (taken_eq hmost _) (taken_eq hleast _)
        (taken_eq hrequired _)

end

/-! ### The whole configuration -/

/-- Nothing is given at first. -/
theorem IsLaid.emptyTable : IsLaid .emptyTable fun _ => none where
  groups _ _ := nofun
  settings _ := .inl rfl

/-- **The value that counts for a setting**: that of its variable, over that of the file for the
environment, over that of the defaults. -/
def effective (defaults own : List (String × Value)) (env : Environment) (setting : Setting) :
    Option Value :=
  Value.orBelow (setting.valueIn? env)
    (Value.orBelow (setting.value? own) (setting.value? defaults))

/-- A layer over another counts setting by setting. -/
theorem Setting.value?_append (setting : Setting) (lower upper : List (String × Value)) :
    setting.value? (lower ++ upper) =
      Value.orBelow (setting.value? upper) (setting.value? lower) := by
  rw [value?, List.flatMap_append, Value.orBelowAll, List.foldl_append]
  exact Value.orBelowAll_eq _ _

/-- What counts is what all layers give one after the other. -/
theorem value?_append_append (defaults own : List (String × Value)) (env : Environment)
    (setting : Setting) :
    setting.value? (defaults ++ own ++ env.settings) = effective defaults own env setting := by
  rw [Setting.value?_append, Setting.value?_append, Setting.value?_settings, effective]

/-- Layers are laid one after the other. -/
theorem lay_append (root : Value) (lower upper : List (String × Value)) :
    lay root (lower ++ upper) = lay root lower >>= fun root => lay root upper := by
  simp only [lay, Value.merge?, List.foldlM_append]
  cases List.foldlM (fun lower (x : String × Value) => Value.put? (Place.ofName x.1) x.2 lower)
    root lower <;> rfl

variable {files : FileReader} {env : Environment} {defaults own : List (String × Value)}

/-- The configuration is made of its layers one after the other. -/
theorem load_eq (hname : Path.endsInName (environmentFile env) = true)
    (hdefaults : IsLayer files defaultFile defaults)
    (hown : IsLayer files (environmentFile env) own) :
    load files env = lay .emptyTable (defaults ++ own ++ env.settings) >>= ofValue := by
  have hdefaultName : Path.endsInName defaultFile = true := by decide
  rw [load, hdefaults.layFile_eq hdefaultName, lay_append, lay_append]
  simp only [hown.layFile_eq hname, bind_assoc]

/-- **Each setting is resolved on its own** when the configuration is loaded, unless the program is
stopped by an entry without a position. It is assumed that each of the two names has one file at
most (`IsUnrivalled`). -/
theorem resolves_load (hname : Path.endsInName (environmentFile env) = true)
    (hdefaults : IsLayer files defaultFile defaults)
    (hown : IsLayer files (environmentFile env) own)
    (hregular : ∀ entry ∈ defaults ++ own ++ env.settings, IsRegular entry) :
    Resolves (effective defaults own env) (load files env) ∨
      load files env = .error .noPosition ∧
        ∃ entry ∈ defaults ++ own ++ env.settings, IsAstray entry := by
  rw [load_eq hname hdefaults hown]
  rcases lay_cases IsLaid.emptyTable hregular with ⟨root, hlay, hlaid⟩ | ⟨hlay, hastray⟩
  · rw [hlay]
    simp only [value?_append_append, Value.orBelow_none] at hlaid
    exact .inl (resolves_ofValue hlaid)
  · rw [hlay]
    exact .inr ⟨rfl, hastray⟩

/-- Files of which the one for the environment `test` gives a number. -/
def filesForTest : FileReader := fun name =>
  List.lookup name
    [("config/default.toml", "[database]\nurl = \"sqlite::memory:\""),
      ("config/test.toml", "[database]\nmin_connections = 2")]

/-- Variables that name the environment `test`, with two settings and something unknown. -/
def variablesForTest : Environment :=
  [("QANDA_ENV", "test"), ("Qanda__Database__Min_Connections", "3"),
    ("QANDA__SITE__REQUIRED_TAG", "yes"), ("QANDA__LOG", "all")]

/-- The address comes from the defaults, and a variable overrides a number of the file. -/
theorem resolves_load_test :
    ∃ defaults own, Path.endsInName (environmentFile variablesForTest) = true ∧
      IsLayer filesForTest defaultFile defaults ∧
      IsLayer filesForTest (environmentFile variablesForTest) own ∧
      (∀ entry ∈ defaults ++ own ++ variablesForTest.settings, IsRegular entry) ∧
      Resolves (effective defaults own variablesForTest) (load filesForTest variablesForTest) ∧
      load filesForTest variablesForTest = .ok ⟨⟨"sqlite::memory:", 100, 3⟩, true⟩ := by
  have hname : Path.endsInName (environmentFile variablesForTest) = true := by decide
  have hreadDefaults : Format.toml.read? "[database]\nurl = \"sqlite::memory:\"" =
      some [("database", .table [("url", .text "sqlite::memory:")])] := by
    cbv
  have hreadOwn : Format.toml.read? "[database]\nmin_connections = 2" =
      some [("database", .table [("min_connections", .whole 2)])] := by
    cbv
  have hdefaults : IsLayer filesForTest defaultFile
      [("database", .table [("url", .text "sqlite::memory:")])] :=
    .toml ⟨rfl, by decide⟩ rfl hreadDefaults
  have hown : IsLayer filesForTest (environmentFile variablesForTest)
      [("database", .table [("min_connections", .whole 2)])] :=
    .toml ⟨rfl, by decide⟩ rfl hreadOwn
  have hsettings : variablesForTest.settings =
      [("database.min_connections", .whole 3), ("site.required_tag", .text "yes"),
        ("log", .text "all")] := by
    cbv
  have hregular : ∀ entry ∈ [("database", Value.table [("url", .text "sqlite::memory:")])] ++
      [("database", .table [("min_connections", .whole 2)])] ++ variablesForTest.settings,
      IsRegular entry := by
    rw [hsettings]
    simp only [List.cons_append, List.nil_append, List.forall_mem_cons]
    refine ⟨.whole .url _ rfl rfl, .whole .url _ rfl rfl, .own .minConnections rfl,
      .own .requiredTag rfl, .outside "log" [] (by decide) ?_, ?_⟩
    · intro setting
      cases setting <;> decide
    · exact fun _ h => absurd h List.not_mem_nil
  have hlay : lay .emptyTable ([("database", .table [("url", .text "sqlite::memory:")])] ++
      [("database", .table [("min_connections", .whole 2)])] ++ variablesForTest.settings) =
      .ok (.table [("database", .table [("url", .text "sqlite::memory:"),
        ("min_connections", .whole 3)]), ("site", .table [("required_tag", .text "yes")]),
        ("log", .text "all")]) := by
    rw [hsettings]
    cbv
  have hload : load filesForTest variablesForTest = .ok ⟨⟨"sqlite::memory:", 100, 3⟩, true⟩ := by
    rw [load_eq hname hdefaults hown, hlay]
    rfl
  exact ⟨_, _, hname, hdefaults, hown, hregular,
    (resolves_load hname hdefaults hown hregular).resolve_right (by simp [hload]), hload⟩

/-- Files of which the one for the environment gives the address as a table without members. -/
def filesWithEmptyAddress : FileReader := fun name =>
  List.lookup name
    [("config/default.toml", "[database]\nurl = \"sqlite::memory:\""),
      ("config/development.toml", "[database]\nurl = \x7b\x7d")]

/-- **A table without members does not count** where a lower layer gives the setting: the address is
that of the defaults, although the one in the file for the environment cannot be converted. -/
theorem not_resolves_load_emptyAddress :
    ∃ defaults own, Path.endsInName (environmentFile []) = true ∧
      IsLayer filesWithEmptyAddress defaultFile defaults ∧
      IsLayer filesWithEmptyAddress (environmentFile []) own ∧
      (∀ entry ∈ defaults ++ own ++ Environment.settings [], IsRegular entry) ∧
      ¬ Resolves
        (fun setting =>
          (setting.valueIn? []).or ((setting.value? own).or (setting.value? defaults)))
        (load filesWithEmptyAddress []) := by
  have hload : load filesWithEmptyAddress [] = .ok ⟨⟨"sqlite::memory:", 100, 5⟩, false⟩ := by cbv
  refine ⟨[("database", .table [("url", .text "sqlite::memory:")])],
    [("database", .table [("url", .table [])])], by decide,
    .toml ⟨rfl, by decide⟩ rfl (by cbv), .toml ⟨rfl, by decide⟩ rfl (by cbv), ?_, fun h => ?_⟩
  · simp only [List.cons_append, List.nil_append, List.forall_mem_cons]
    exact ⟨.whole .url _ rfl rfl, .whole .url _ rfl rfl, fun _ h => absurd h List.not_mem_nil⟩
  · obtain ⟨haddress, -⟩ := h.config _ hload
    have htext : (Value.table []).text? = some "sqlite::memory:" := haddress
    cases htext

end Config

end TagTimeline
