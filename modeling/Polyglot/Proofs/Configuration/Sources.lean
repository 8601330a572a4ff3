import Mathlib.Tactic.SplitIfs
import Polyglot.Configuration.File

/-!
# Where settings come from

A variable for a language gives one if its value is one, without the blanks around it
(`Environment.setting?_eq_languageIn?`). The configuration file is the one that is asked for,
or else the first that is there (`Configuration.sought_source?`). It gives the texts that its
record has under the names of the fields, and leaves out the others, the encoding being
UTF-8 then (`Configuration.GivenBy.states`).
-/

set_option autoImplicit false

namespace Polyglot

/-! ## The environment -/

theorem languageOf_eq_ok_iff {value setting : Text} :
    languageOf value = .ok setting ↔
      Text.trim value ≠ [] ∧ (Text.trim value).all isTagChar = true ∧
        Text.trim value = setting := by
  simp only [languageOf, List.isEmpty_iff]
  split_ifs with empty tag
  · simp [empty]
  · simp [empty, tag]
  · simp [tag]

namespace Environment

theorem setting?_eq_bind (environment : Environment) (var : Variable) :
    environment.setting? var =
      (environment.get? var.name).bind fun value => (environment.interpret var value).toOption := by
  rw [setting?, optional]
  cases environment.get? var.name with
  | none => rfl
  | some value =>
    simp only [Option.bind_some]
    cases environment.interpret var value with
    | error fault => rfl
    | ok setting => rfl

theorem setting?_eq_some_iff_interpret {environment : Environment} {var : Variable}
    {setting : Text} : environment.setting? var = some setting ↔
    ∃ value, environment.get? var.name = some value ∧
      environment.interpret var value = .ok setting := by
  rw [setting?_eq_bind, Option.bind_eq_some_iff]
  apply exists_congr
  intro value
  apply and_congr_right
  intro _
  cases environment.interpret var value with
  | error fault => exact iff_of_false nofun nofun
  | ok found => rw [Except.toOption, Option.some.injEq, Except.ok.injEq]

/-- The values of the variables for languages are read in one way. -/
theorem interpret_of_language (environment : Environment) {var : Variable}
    (kind : var ∈ [Variable.language, .htmlLanguage, .fallback]) (value : Text) :
    environment.interpret var value = languageOf value := by
  simp only [List.mem_cons, List.not_mem_nil, or_false] at kind
  rcases kind with rfl | rfl | rfl <;> rfl

/-- The language that a variable gives: what its value is without the blanks around it, if
that is not empty and made of nothing but letters, digits, hyphens and underscores. -/
def languageIn? (environment : Environment) (var : Variable) : Option Text :=
  (environment.get? var.name).bind fun value =>
    if Text.trim value ≠ [] ∧ (Text.trim value).all isTagChar = true then
      some (Text.trim value)
    else none

/-- The variables for languages give languages. -/
theorem setting?_eq_languageIn? (environment : Environment) {var : Variable}
    (kind : var ∈ [Variable.language, .htmlLanguage, .fallback]) :
    environment.setting? var = environment.languageIn? var := by
  apply Option.ext
  intro setting
  rw [setting?_eq_some_iff_interpret, languageIn?, Option.bind_eq_some_iff]
  apply exists_congr
  intro value
  rw [interpret_of_language environment kind, languageOf_eq_ok_iff, Option.ite_none_right_eq_some,
    Option.some.injEq, and_assoc]

end Environment

/-! ## Configuration files -/

/-- A field that may be left out gives its text, if it has one. -/
theorem Setting.text?_of_given {field : Option Setting} {text? : Option Text}
    (given : Setting.given? none Setting.optionalText? field = some text?) :
    text? = field.bind Setting.text? := by
  cases field with
  | none => exact (Option.some.inj given).symm
  | some setting =>
    cases setting with
    | nothing => exact (Option.some.inj given).symm
    | text content? =>
      obtain ⟨content, present, rfl⟩ := Option.map_eq_some_iff.mp given
      exact present.symm
    | _ => cases given

/-- A text that may be left out is the default then. -/
theorem Setting.eq_getD_of_given {field : Option Setting} {default text : Text}
    (given : Setting.given? default Setting.text? field = some text) :
    text = (field.bind Setting.text?).getD default := by
  cases field with
  | none => exact (Option.some.inj given).symm
  | some setting =>
    rw [Option.bind_some, show setting.text? = some text from given]
    rfl

/-- What comes of two steps comes of both of them. -/
theorem exists_ok_of_bind {ε α β : Type} {first : Except ε α} {next : α → Except ε β} {result : β}
    (done : (first >>= next) = .ok result) :
    ∃ value, first = .ok value ∧ next value = .ok result := by
  cases first with
  | error problem => cases done
  | ok value => exact ⟨value, rfl, done⟩

namespace Configuration

/-- The record of settings that a text in some format writes. -/
def recordOf? (text : Text) : ConfigurationFormat → Option Setting
  | .toml => Toml.read? text
  | .json => (JsonForm.read? text).map JsonForm.toSetting

/-- The text that a record, if there is one, has under the name of a field. -/
def stated? (record? : Option Setting) (name : Text) : Option Text :=
  record?.bind fun record =>
    (record.fields? fieldNames).bind fun fields =>
      ((fieldNames.zip fields).lookup name).join.bind Setting.text?

/-- What a configuration has of the languages and the encoding is what a record states. -/
structure States (record? : Option Setting) (configuration : Configuration) : Prop where
  language? : configuration.language? = stated? record? "language".toList
  htmlLanguage? : configuration.htmlLanguage? = stated? record? "html_language".toList
  fallback? : configuration.fallback? = stated? record? "fallback_lng".toList
  encoding : configuration.encoding = (stated? record? "encoding".toList).getD "utf-8".toList

/-- Where there is no record, nothing is stated. -/
theorem states_default : States none default := ⟨rfl, rfl, rfl, rfl⟩

/-- What a record has in the field of a name. -/
def inField? (record : Setting) (name : Text) : Option Setting :=
  (record.fields? fieldNames).bind fun fields => ((fieldNames.zip fields).lookup name).join

theorem stated?_some (record : Setting) (name : Text) :
    stated? (some record) name = (inField? record name).bind Setting.text? := by
  rw [stated?, Option.bind_some, inField?, Option.bind_assoc]

/-- A configuration whose settings are those in the fields of a record. -/
structure Reads (record : Setting) (configuration : Configuration) : Prop where
  language? : Setting.given? none Setting.optionalText? (inField? record "language".toList) =
    some configuration.language?
  htmlLanguage? : Setting.given? none Setting.optionalText?
    (inField? record "html_language".toList) = some configuration.htmlLanguage?
  fallback? : Setting.given? none Setting.optionalText? (inField? record "fallback_lng".toList) =
    some configuration.fallback?
  catalog? : Setting.given? none Setting.optionalText? (inField? record "resource".toList) =
    some configuration.catalog?
  encoding : Setting.given? "utf-8".toList Setting.text? (inField? record "encoding".toList) =
    some configuration.encoding
  logLevel : Setting.given? LogLevel.info.name Setting.text? (inField? record "log_level".toList) =
    some configuration.logLevel

/-- The fields of a record are read one by one. -/
theorem reads_of_read? {record : Setting} {configuration : Configuration}
    (read : read? record = some configuration) : Reads record configuration := by
  rw [read?] at read
  split at read
  · next language htmlLanguage fallback catalog encoding logLevel detection fields =>
    obtain ⟨language?, givenLanguage, read⟩ := Option.bind_eq_some_iff.mp read
    obtain ⟨htmlLanguage?, givenHtmlLanguage, read⟩ := Option.bind_eq_some_iff.mp read
    obtain ⟨fallback?, givenFallback, read⟩ := Option.bind_eq_some_iff.mp read
    obtain ⟨catalog?, givenCatalog, read⟩ := Option.bind_eq_some_iff.mp read
    obtain ⟨label, givenEncoding, read⟩ := Option.bind_eq_some_iff.mp read
    obtain ⟨level, givenLevel, read⟩ := Option.bind_eq_some_iff.mp read
    obtain ⟨_, _, read⟩ := Option.bind_eq_some_iff.mp read
    cases read
    have field : ∀ name, inField? record name =
        ((fieldNames.zip [language, htmlLanguage, fallback, catalog, encoding, logLevel,
          detection]).lookup name).join := by
      intro name
      rw [inField?, fields, Option.bind_some]
    constructor <;> rw [field]
    · exact givenLanguage
    · exact givenHtmlLanguage
    · exact givenFallback
    · exact givenCatalog
    · exact givenEncoding
    · exact givenLevel
  · cases read

/-- **A record gives the texts that it states**, and the encoding is UTF-8 otherwise. -/
theorem Reads.states {record : Setting} {configuration : Configuration}
    (reads : Reads record configuration) : States (some record) configuration := by
  refine ⟨?_, ?_, ?_, ?_⟩ <;> rw [stated?_some]
  · exact Setting.text?_of_given reads.language?
  · exact Setting.text?_of_given reads.htmlLanguage?
  · exact Setting.text?_of_given reads.fallback?
  · exact Setting.eq_getD_of_given reads.encoding

/-- The configuration that a text writes is that of the record in it. -/
theorem exists_record_of_ofText {text : Text} {format : ConfigurationFormat}
    {configuration : Configuration} (written : ofText text format = .ok configuration) :
    ∃ record, recordOf? text format = some record ∧ read? record = some configuration := by
  cases format with
  | toml =>
    rw [ofText] at written
    split at written
    · next found =>
      cases written
      exact Option.bind_eq_some_iff.mp found
    · cases written
  | json =>
    rw [ofText] at written
    split at written
    · next found =>
      cases written
      obtain ⟨form, here, read⟩ := Option.bind_eq_some_iff.mp found
      exact ⟨form.toSetting, by rw [recordOf?, here, Option.map_some], read⟩
    · cases written

/-- The configuration file that is to be read, if there is one: the one that is asked for, or
else the first of the places where there is anything, a tilde at the beginning of a path being
the home directory. -/
inductive Sought (files : Files) (environment : Environment) :
    (asked? source? : Option Path) → Prop where
  | asked (path : Path) :
      Sought files environment (some path) (some (Path.fromHome environment.home? path))
  | found {front back : List Path} {place : Path} (split : places = front ++ place :: back)
      (here : files.contains (Path.fromHome environment.home? place) = true)
      (earlier : ∀ other ∈ front,
        files.contains (Path.fromHome environment.home? other) = false) :
      Sought files environment none (some (Path.fromHome environment.home? place))
  | nowhere (missing : ∀ place ∈ places,
      files.contains (Path.fromHome environment.home? place) = false) :
      Sought files environment none none

/-- **The file that is read is the one that is to be read.** -/
theorem sought_source? (files : Files) (environment : Environment) (asked? : Option Path) :
    Sought files environment asked? (source? files environment asked?) := by
  cases asked? with
  | some path => exact .asked path
  | none =>
    rw [source?, found?, List.find?_map]
    cases first : places.find? (files.contains ∘ Path.fromHome environment.home?) with
    | none =>
      rw [List.find?_eq_none] at first
      exact .nowhere fun place listed => Bool.eq_false_iff.mpr (first place listed)
    | some place =>
      obtain ⟨here, front, back, split, earlier⟩ := List.find?_eq_some_iff_append.mp first
      exact .found split here fun other listed => by simpa using earlier other listed

/-- A configuration that is given by a file, if there is one, together with the record in the
file. -/
def GivenBy (files : Files) (record? : Option Setting) (given : Configuration) :
    Option Path → Prop
  | none => record? = none ∧ given = default
  | some path => ofFile files path = .ok given ∧
      ∃ text, files.readText path = .ok text ∧ record? = recordOf? text (.ofPath path)

/-- A configuration file has a record in it, and a path to a catalog leads from its directory. -/
theorem exists_record_of_ofFile {files : Files} {path : Path} {given : Configuration}
    (loaded : ofFile files path = .ok given) :
    ∃ text record configuration, files.readText path = .ok text ∧
      recordOf? text (.ofPath path) = some record ∧ Reads record configuration ∧
        given = configuration.within path.directory := by
  rw [ofFile] at loaded
  cases readable : files.readText path with
  | error fault =>
    rw [readable] at loaded
    cases loaded
  | ok text =>
    rw [readable] at loaded
    simp only at loaded
    cases written : ofText text (.ofPath path) with
    | error problem =>
      rw [written] at loaded
      cases loaded
    | ok configuration =>
      rw [written] at loaded
      cases loaded
      obtain ⟨record, here, read⟩ := exists_record_of_ofText written
      exact ⟨text, record, configuration, rfl, here, reads_of_read? read, rfl⟩

/-- **A configuration file gives the texts that its record states.** -/
theorem GivenBy.states {files : Files} {record? : Option Setting} {given : Configuration}
    {source? : Option Path} (givenBy : GivenBy files record? given source?) :
    States record? given := by
  cases source? with
  | none =>
    obtain ⟨rfl, rfl⟩ := givenBy
    exact states_default
  | some path =>
    obtain ⟨loaded, text, readable, rfl⟩ := givenBy
    obtain ⟨text', record, configuration, readable', here, reads, rfl⟩ :=
      exists_record_of_ofFile loaded
    obtain rfl := Except.ok.inj (readable.symm.trans readable')
    rw [here]
    exact ⟨reads.states.language?, reads.states.htmlLanguage?, reads.states.fallback?,
      reads.states.encoding⟩

/-! ## What is settled -/

/-- What is settled with a file is what the file gives, with the settings of the environment in
place of its own, and it is sound. -/
theorem settle_eq_ok_iff {files : Files} {environment : Environment} {source : Path}
    {loaded : Loaded} :
    settle files environment (some source) = .ok loaded ↔
      ∃ given, ofFile files source = .ok given ∧ (given.overridden environment).validate = .ok () ∧
        loaded = ⟨given.overridden environment, some source⟩ := by
  constructor
  · intro settled
    rw [settle] at settled
    obtain ⟨given, found, settled⟩ := exists_ok_of_bind settled
    obtain ⟨_, sound, settled⟩ := exists_ok_of_bind settled
    cases settled
    exact ⟨given, found, sound, rfl⟩
  · rintro ⟨given, found, sound, rfl⟩
    rw [settle]
    simp only [found, bind, Except.bind, sound]
    rfl

end Configuration

end Polyglot
