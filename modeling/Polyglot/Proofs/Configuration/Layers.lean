import Polyglot.Proofs.Configuration.Sources
import Polyglot.Proofs.Files.Writing
import Polyglot.Proofs.Text.Parts

/-!
# Layers of settings

Settings lie in layers: what a variable of the environment says lies over what a configuration
file says, and that over the defaults. A variable says something only if its value is valid
(`Environment.Gives`); one with another value is as good as unset (`Environment.LikeUnset`). What
is covered by a variable does not matter, so it need not be valid either
(`Configuration.AgreeBeside`, `Configuration.Usable`).

A relative path to the catalog that a configuration file gives leads from the directory of the
file (`Path.leadsFrom_within`); one that a variable gives is left as it is.

The main statement puts these together for a configuration that is read from a file which is
asked for (`Configuration.load_layered`).
-/

set_option autoImplicit false

namespace Polyglot

/-! ## Paths from a directory -/

/-- Where the names of a path lead from its beginning. -/
def Files.lead (files : Files) (path : Path) : Except FileFault (Place × FileNode) :=
  files.followNames (files.start path) .directory path.names

/-- A path leads where another one leads from a directory, whatever files there are. An absolute
path leads there from everywhere and is the same path. -/
structure Path.LeadsFrom (directory path joined : Path) : Prop where
  absolute : path.isAbsolute = true → joined = path
  relative : path.isAbsolute = false → ∀ files : Files,
    files.lead joined = (files.lead directory).bind fun (place, node) =>
      files.followNames place node path.names

namespace Path

theorem isAbsolute_append {front : Path} (filled : front ≠ []) (rest : Path) :
    isAbsolute (front ++ rest) = isAbsolute front := by
  cases front with
  | nil => exact absurd rfl filled
  | cons c front =>
    rw [List.cons_append]
    by_cases slash : c = '/'
    · subst slash
      rfl
    · simp [isAbsolute, slash]

/-- Between slashes there are the names on either side of them. -/
theorem names_append_slash (front path : Path) :
    names (front ++ '/' :: path) = names front ++ names path :=
  Text.pieces_append_sign front path

/-- A way does not end differently for a last name that is empty, if it goes on. -/
theorem followNames_append_empty {files : Files} {here : Place} {node : FileNode}
    (first : List Text) {rest : List Text} (further : rest ≠ []) :
    (files.followNames here node (first ++ [[]])).bind (fun (place, node) =>
        files.followNames place node rest) = files.followNames here node (first ++ rest) := by
  rw [Files.followNames_append, Files.followNames_append]
  cases files.followNames here node first with
  | error fault => rfl
  | ok step =>
    obtain ⟨place, node⟩ := step
    cases node with
    | directory => rfl
    | file bytes =>
      cases rest with
      | nil => exact absurd rfl further
      | cons name rest => rfl

theorem lead_within (files : Files) (directory : Path) {path : Path}
    (relative : path.isAbsolute = false) :
    files.lead (within directory path) = (files.lead directory).bind fun (place, node) =>
      files.followNames place node path.names := by
  have named : path.names ≠ [] := Text.pieces_ne_nil path
  rw [within, relative, if_neg Bool.false_ne_true]
  split
  · next nowhere =>
    rw [List.getLast?_eq_none_iff] at nowhere
    subst nowhere
    have start : files.start path = files.here := by
      rw [Files.start, relative, if_neg Bool.false_ne_true]
    rw [Files.lead, start]
    rfl
  · next slash =>
    obtain ⟨front, rfl⟩ := List.getLast?_eq_some_iff.mp slash
    have filled : front ++ ['/'] ≠ [] := by simp
    have whole : names (front ++ ['/'] ++ path) = names front ++ names path := by
      rw [List.append_assoc, List.singleton_append, names_append_slash]
    rw [Files.lead, Files.lead, Files.start, isAbsolute_append filled, whole, names_append_slash]
    exact (followNames_append_empty (names front) named).symm
  · next c _ last =>
    have filled : directory ≠ [] := by
      rintro rfl
      cases last
    rw [Files.lead, Files.lead, Files.start, isAbsolute_append filled, names_append_slash,
      Files.followNames_append]
    rfl

/-- **A relative path leads from the directory** that it is put within. -/
theorem leadsFrom_within (directory path : Path) :
    LeadsFrom directory path (within directory path) where
  absolute := within_of_isAbsolute
  relative whole files := lead_within files directory whole

end Path

/-! ## Valid variables -/

theorem LogLevel.ofName?_eq_some_iff {name : Text} {level : LogLevel} :
    ofName? name = some level ↔ level.name = name := by
  constructor
  · intro found
    rw [ofName?] at found
    have same := List.find?_some found
    exact eq_of_beq same
  · rintro rfl
    cases level <;> decide

theorem LogLevel.isSome_ofName?_iff {name : Text} :
    (ofName? name).isSome = true ↔ ∃ level : LogLevel, level.name = name := by
  rw [Option.isSome_iff_exists]
  exact exists_congr fun _ => ofName?_eq_some_iff

theorem levelOf_eq_ok_iff {value setting : Text} :
    levelOf value = .ok setting ↔
      ∃ level : LogLevel, level.name = Text.asciiLower (Text.trim value) ∧
        level.name = setting := by
  rw [levelOf]
  split
  · next level found =>
    rw [Except.ok.injEq]
    have named := LogLevel.ofName?_eq_some_iff.mp found
    constructor
    · intro same
      exact ⟨level, named, same⟩
    · rintro ⟨other, namedOther, rfl⟩
      rw [named, namedOther]
  · next unknown =>
    refine iff_of_false nofun ?_
    rintro ⟨level, named, _⟩
    rw [LogLevel.ofName?_eq_some_iff.mpr named] at unknown
    cases unknown

theorem pathOf_eq_ok_iff {home? : Option Path} {value setting : Text} :
    pathOf home? value = .ok setting ↔
      Text.trim value ≠ [] ∧ Path.fromHome home? (Text.trim value) = setting := by
  simp only [pathOf, List.isEmpty_iff]
  split_ifs with empty
  · simp [empty]
  · simp [empty]

namespace Environment

/-- A variable gives a setting: it is set, and its value is valid. A language is made of letters,
digits, hyphens and underscores, a level is one of the five, in letters of any case, and a path
has the home directory for a tilde at its beginning; the blanks around a value do not count. -/
inductive Gives (environment : Environment) : Variable → Text → Prop where
  | language {var : Variable} {value : Text} (kind : var ∈ [.language, .htmlLanguage, .fallback])
      (isSet : environment.get? var.name = some value) (filled : Text.trim value ≠ [])
      (tag : (Text.trim value).all isTagChar = true) : Gives environment var (Text.trim value)
  | level {value : Text} {level : LogLevel}
      (isSet : environment.get? Variable.logLevel.name = some value)
      (named : level.name = Text.asciiLower (Text.trim value)) :
      Gives environment .logLevel level.name
  | path {value : Text} (isSet : environment.get? Variable.catalog.name = some value)
      (filled : Text.trim value ≠ []) :
      Gives environment .catalog (Path.fromHome environment.home? (Text.trim value))

/-- A variable gives some setting, so that it covers what a configuration file says. -/
def Covers (environment : Environment) (var : Variable) : Prop :=
  ∃ setting, environment.Gives var setting

variable {environment other : Environment} {var : Variable} {setting : Text}

/-- **A variable has the setting that it gives**, and none if it gives none. -/
theorem setting?_eq_some_iff :
    environment.setting? var = some setting ↔ environment.Gives var setting := by
  rw [setting?_eq_some_iff_interpret]
  constructor
  · rintro ⟨value, isSet, valid⟩
    cases var with
    | logLevel =>
      obtain ⟨level, named, rfl⟩ := levelOf_eq_ok_iff.mp valid
      exact .level isSet named
    | catalog =>
      obtain ⟨filled, rfl⟩ := pathOf_eq_ok_iff.mp valid
      exact .path isSet filled
    | language | htmlLanguage | fallback =>
      obtain ⟨filled, tag, rfl⟩ := languageOf_eq_ok_iff.mp valid
      exact .language (by simp) isSet filled tag
  · intro gives
    cases gives with
    | language kind isSet filled tag =>
      refine ⟨_, isSet, ?_⟩
      rw [interpret_of_language environment kind]
      exact languageOf_eq_ok_iff.mpr ⟨filled, tag, rfl⟩
    | level isSet named => exact ⟨_, isSet, levelOf_eq_ok_iff.mpr ⟨_, named, rfl⟩⟩
    | path isSet filled => exact ⟨_, isSet, pathOf_eq_ok_iff.mpr ⟨filled, rfl⟩⟩

theorem setting?_eq_none_iff : environment.setting? var = none ↔ ¬ environment.Covers var := by
  rw [Option.eq_none_iff_forall_ne_some, Covers, not_exists]
  exact forall_congr' fun _ => not_congr setting?_eq_some_iff

/-- What a variable gives is no blank language, so a language is blank only where no variable
covers it. -/
theorem Gives.trim_ne_nil (kind : var ∈ [Variable.language, .htmlLanguage, .fallback])
    (gives : environment.Gives var setting) : Text.trim setting ≠ [] := by
  cases gives with
  | language _ _ filled _ => rwa [Text.trim, Text.trim, Text.trimmed_trimmed]
  | level | path => simp at kind

/-- The level that a variable gives is one of the five. -/
theorem Gives.exists_level (gives : environment.Gives .logLevel setting) :
    ∃ level : LogLevel, level.name = setting := by
  cases gives with
  | language kind => simp at kind
  | level _ _ => exact ⟨_, rfl⟩

/-! ### Unset variables -/

/-- A variable is set, but its value is not valid. -/
def Misset (environment : Environment) (var : Variable) : Prop :=
  (environment.get? var.name).isSome = true ∧ ¬ environment.Covers var

/-- Another environment in which variables that are set but not valid may be unset, and which is
the same in everything else that settings depend on. -/
structure LikeUnset (environment other : Environment) : Prop where
  home? : other.home? = environment.home?
  get? : ∀ var : Variable, other.get? var.name = environment.get? var.name ∨
    other.get? var.name = none ∧ environment.Misset var

/-- Of all else in an environment a value depends on the home directory alone. -/
theorem interpret_congr (home : other.home? = environment.home?) (var : Variable) (value : Text) :
    other.interpret var value = environment.interpret var value := by
  cases var with
  | catalog => rw [interpret, interpret, home]
  | logLevel | language | htmlLanguage | fallback => rfl

/-- **A variable that is set but not valid** is as good as unset. -/
theorem LikeUnset.setting?_eq (like : environment.LikeUnset other) (var : Variable) :
    other.setting? var = environment.setting? var := by
  rcases like.get? var with same | ⟨unset, _, invalid⟩
  · rw [setting?_eq_bind, setting?_eq_bind, same]
    simp only [interpret_congr like.home?]
  · rw [setting?_eq_none_iff.mpr invalid, setting?_eq_bind, unset, Option.bind_none]

/-! ### Covered settings -/

/-- A result is what a variable gives, and if it gives nothing, what there is otherwise. -/
structure Prevails (environment : Environment) (var : Variable) (otherwise? result? : Option Text) :
    Prop where
  given : ∀ setting, environment.Gives var setting → result? = some setting
  otherwise : ¬ environment.Covers var → result? = otherwise?

theorem prevails_or (environment : Environment) (var : Variable) (otherwise? : Option Text) :
    environment.Prevails var otherwise? ((environment.setting? var).or otherwise?) where
  given setting gives := by
    rw [setting?_eq_some_iff.mpr gives, Option.some_or]
  otherwise uncovered := by
    rw [setting?_eq_none_iff.mpr uncovered, Option.none_or]

/-- What there is otherwise makes no difference, where a variable gives a setting. -/
theorem or_eq_or {one? other? : Option Text} (same : environment.Covers var ∨ one? = other?) :
    (environment.setting? var).or one? = (environment.setting? var).or other? := by
  rcases same with ⟨setting, gives⟩ | rfl
  · rw [setting?_eq_some_iff.mpr gives, Option.some_or, Option.some_or]
  · rfl

end Environment

namespace Configuration

variable {environment : Environment} {one other given : Configuration}

theorem some_logLevel_overridden (environment : Environment) (given : Configuration) :
    some (given.overridden environment).logLevel =
      (environment.setting? .logLevel).or (some given.logLevel) :=
  Option.or_some.symm

/-! ## Layers -/

/-- A configuration in layers: every setting comes from the environment, if a variable gives it,
and otherwise from a record in a file, in which a path leads from the directory of the file, or is
the default. The encoding comes from the record alone. -/
structure Layers (environment : Environment) (record : Setting) (directory : Path)
    (configuration : Configuration) : Prop where
  language? : environment.Prevails .language (stated? (some record) "language".toList)
    configuration.language?
  htmlLanguage? : environment.Prevails .htmlLanguage
    (stated? (some record) "html_language".toList) configuration.htmlLanguage?
  fallback? : environment.Prevails .fallback (stated? (some record) "fallback_lng".toList)
    configuration.fallback?
  catalog? : environment.Prevails .catalog
    ((stated? (some record) "resource".toList).map (Path.within directory)) configuration.catalog?
  logLevel : environment.Prevails .logLevel
    (some ((stated? (some record) "log_level".toList).getD "info".toList))
    (some configuration.logLevel)
  encoding : configuration.encoding = (stated? (some record) "encoding".toList).getD "utf-8".toList

/-- The settings of a record are overridden in layers. -/
theorem Reads.layers {record : Setting} {configuration : Configuration}
    (reads : Reads record configuration) (environment : Environment) (directory : Path) :
    Layers environment record directory
      ((configuration.within directory).overridden environment) := by
  have states := reads.states
  have catalog : configuration.catalog? = stated? (some record) "resource".toList := by
    rw [stated?_some]
    exact Setting.text?_of_given reads.catalog?
  have level : configuration.logLevel =
      (stated? (some record) "log_level".toList).getD "info".toList := by
    rw [stated?_some]
    exact Setting.eq_getD_of_given reads.logLevel
  constructor
  · rw [← states.language?]
    exact environment.prevails_or _ _
  · rw [← states.htmlLanguage?]
    exact environment.prevails_or _ _
  · rw [← states.fallback?]
    exact environment.prevails_or _ _
  · rw [← catalog]
    exact environment.prevails_or _ _
  · rw [← level, some_logLevel_overridden]
    exact environment.prevails_or _ _
  · exact states.encoding

/-- Two configurations that are the same in every setting that no variable covers. -/
structure AgreeBeside (environment : Environment) (one other : Configuration) : Prop where
  language? : environment.Covers .language ∨ one.language? = other.language?
  htmlLanguage? : environment.Covers .htmlLanguage ∨ one.htmlLanguage? = other.htmlLanguage?
  fallback? : environment.Covers .fallback ∨ one.fallback? = other.fallback?
  catalog? : environment.Covers .catalog ∨ one.catalog? = other.catalog?
  logLevel : environment.Covers .logLevel ∨ one.logLevel = other.logLevel
  encoding : one.encoding = other.encoding
  detection : one.detection = other.detection

/-- **A setting that a variable covers** makes no difference. -/
theorem AgreeBeside.overridden_eq (agree : AgreeBeside environment one other) :
    one.overridden environment = other.overridden environment := by
  have level : (one.overridden environment).logLevel = (other.overridden environment).logLevel := by
    apply Option.some.inj
    rw [some_logLevel_overridden, some_logLevel_overridden]
    exact Environment.or_eq_or (agree.logLevel.imp_right (congrArg some))
  rw [overridden, overridden, mk.injEq]
  exact ⟨Environment.or_eq_or agree.language?, Environment.or_eq_or agree.htmlLanguage?,
    Environment.or_eq_or agree.fallback?, Environment.or_eq_or agree.catalog?, agree.encoding,
    level, agree.detection⟩

theorem overridden_congr {environment' : Environment}
    (same : ∀ var, environment'.setting? var = environment.setting? var) (given : Configuration) :
    given.overridden environment' = given.overridden environment := by
  simp only [overridden, same]

/-! ## Validity -/

/-- A language that is not blank, if there is one. -/
def IsFilled (language? : Option Text) : Prop :=
  ∀ language, language? = some language → Text.trim language ≠ []

/-- A configuration that can be used in an environment: its encoding is known, and so is its level,
and its languages are not blank, except for what variables cover. -/
structure Usable (environment : Environment) (configuration : Configuration) : Prop where
  encoding : (Encoding.ofUsableLabel? configuration.encoding).isSome = true
  logLevel : environment.Covers .logLevel ∨ ∃ level : LogLevel, level.name = configuration.logLevel
  language? : environment.Covers .language ∨ IsFilled configuration.language?
  htmlLanguage? : environment.Covers .htmlLanguage ∨ IsFilled configuration.htmlLanguage?
  fallback? : environment.Covers .fallback ∨ IsFilled configuration.fallback?

theorem isBlankLanguage_eq_false_iff {language? : Option Text} :
    isBlankLanguage language? = false ↔ IsFilled language? := by
  cases language? with
  | none => exact iff_of_true rfl nofun
  | some language => simp [isBlankLanguage, IsFilled]

theorem problem?_eq_none_iff {configuration : Configuration} : configuration.problem? = none ↔
    (Encoding.ofUsableLabel? configuration.encoding).isSome = true ∧
      (∃ level : LogLevel, level.name = configuration.logLevel) ∧
      IsFilled configuration.language? ∧ IsFilled configuration.htmlLanguage? ∧
      IsFilled configuration.fallback? := by
  rw [← LogLevel.isSome_ofName?_iff, problem?]
  split_ifs with encoding level
  · refine iff_of_false nofun fun sound => ?_
    rw [Option.isNone_iff_eq_none.mp encoding] at sound
    cases sound.1
  · refine iff_of_false nofun fun sound => ?_
    rw [Option.isNone_iff_eq_none.mp level] at sound
    cases sound.2.1
  · rw [Bool.not_eq_true, Option.isNone_eq_false_iff] at encoding level
    rw [and_iff_right encoding, and_iff_right level, Option.map_eq_none_iff, List.find?_eq_none]
    simp [languages, isBlankLanguage_eq_false_iff]

theorem isFilled_or_iff {var : Variable} {language? : Option Text}
    (kind : var ∈ [Variable.language, .htmlLanguage, .fallback]) :
    IsFilled ((environment.setting? var).or language?) ↔
      environment.Covers var ∨ IsFilled language? := by
  cases found : environment.setting? var with
  | some setting =>
    have gives := Environment.setting?_eq_some_iff.mp found
    refine iff_of_true ?_ (.inl ⟨setting, gives⟩)
    rintro _ ⟨⟩
    exact gives.trim_ne_nil kind
  | none => rw [Option.none_or, or_iff_right (Environment.setting?_eq_none_iff.mp found)]

theorem exists_level_overridden_iff :
    (∃ level : LogLevel, level.name = (given.overridden environment).logLevel) ↔
      environment.Covers .logLevel ∨ ∃ level : LogLevel, level.name = given.logLevel := by
  rw [overridden]
  cases found : environment.setting? .logLevel with
  | some setting =>
    have gives := Environment.setting?_eq_some_iff.mp found
    exact iff_of_true gives.exists_level (.inl ⟨setting, gives⟩)
  | none => rw [Option.getD_none, or_iff_right (Environment.setting?_eq_none_iff.mp found)]

/-- **What is overridden need not be valid.** -/
theorem problem?_overridden_eq_none_iff :
    (given.overridden environment).problem? = none ↔ given.Usable environment := by
  rw [problem?_eq_none_iff, exists_level_overridden_iff]
  simp only [overridden]
  rw [isFilled_or_iff (by simp), isFilled_or_iff (by simp), isFilled_or_iff (by simp)]
  constructor
  · rintro ⟨encoding, logLevel, language, htmlLanguage, fallback⟩
    exact ⟨encoding, logLevel, language, htmlLanguage, fallback⟩
  · intro usable
    exact ⟨usable.encoding, usable.logLevel, usable.language?, usable.htmlLanguage?,
      usable.fallback?⟩

/-! ## Loading -/

theorem validate_eq_ok_iff {configuration : Configuration} :
    configuration.validate = .ok () ↔ configuration.problem? = none := by
  rw [validate]
  cases configuration.problem? with
  | none => exact iff_of_true rfl rfl
  | some problem => exact iff_of_false nofun nofun

/-- Where the configuration file is that is asked for. -/
def source (files : Files) (environment : Environment) (path : Path) : Path :=
  Path.fromHome (environment.withFiles files).home? path

section Loading

variable {files files' : Files} {environment' : Environment} {path : Path} {loaded : Loaded}

theorem load_some (files : Files) (environment : Environment) (path : Path) :
    load files environment (some path) =
      settle files (environment.withFiles files) (some (source files environment path)) :=
  rfl

/-- A configuration is loaded when what the file gives can be used in the environment. -/
theorem load_eq_ok_iff : load files environment (some path) = .ok loaded ↔
    ∃ given, ofFile files (source files environment path) = .ok given ∧
      given.Usable (environment.withFiles files) ∧
      loaded = ⟨given.overridden (environment.withFiles files),
        some (source files environment path)⟩ := by
  rw [load_some, settle_eq_ok_iff]
  simp only [validate_eq_ok_iff, problem?_overridden_eq_none_iff]

/-- What is settled from a file depends on what is in it and on what variables give. -/
theorem settle_congr (readable : files'.readText path = files.readText path)
    (same : ∀ var, environment'.setting? var = environment.setting? var) :
    settle files' environment' (some path) = settle files environment (some path) := by
  rw [settle, settle, ofFile, ofFile, readable]
  simp only [overridden_congr same]

/-- It does not depend on what variables cover. -/
theorem settle_eq_of_agreeBeside (found : ofFile files path = .ok one)
    (found' : ofFile files' path = .ok other) (agree : AgreeBeside environment one other) :
    settle files' environment (some path) = settle files environment (some path) := by
  rw [settle, settle]
  simp only [found, found', bind, Except.bind, agree.overridden_eq]

end Loading

/-- **Settings lie in layers.** A configuration that is loaded from a file is valid, and what it
has comes from the variables in force, from the record in the file or is the default, in this
order; in force are the variables of the environment and those that environment files add. A path
in the record leads from the directory of the file. One is loaded exactly when all that no variable
covers is valid.

The same comes of an environment in which a variable is unset that was not valid, and of a file
that says something else where variables cover it. -/
theorem load_layered (files : Files) (environment : Environment) (path : Path) :
    let inForce := environment.withFiles files
    let source := source files environment path
    (∀ loaded, load files environment (some path) = .ok loaded →
      loaded.source? = some source ∧ loaded.configuration.validate = .ok () ∧
        ∃ text record, files.readText source = .ok text ∧
          recordOf? text (.ofPath source) = some record ∧
          Layers inForce record source.directory loaded.configuration) ∧
    (∀ stated : Path,
      Path.LeadsFrom source.directory stated (Path.within source.directory stated)) ∧
    ((∃ loaded, load files environment (some path) = .ok loaded) ↔
      ∃ given, ofFile files source = .ok given ∧ given.Usable inForce) ∧
    (∀ files' environment', files'.readText source = files.readText source →
      inForce.LikeUnset (environment'.withFiles files') →
      load files' environment' (some path) = load files environment (some path)) ∧
    (∀ files' environment' given given', environment'.withFiles files' = inForce →
      ofFile files source = .ok given → ofFile files' source = .ok given' →
      AgreeBeside inForce given given' →
      load files' environment' (some path) = load files environment (some path)) := by
  intro inForce source
  refine ⟨?_, Path.leadsFrom_within source.directory, ?_, ?_, ?_⟩
  · intro loaded settled
    rw [load_some, settle_eq_ok_iff] at settled
    obtain ⟨given, found, sound, rfl⟩ := settled
    obtain ⟨text, record, configuration, readable, here, reads, rfl⟩ :=
      exists_record_of_ofFile found
    exact ⟨rfl, sound, text, record, readable, here, reads.layers inForce source.directory⟩
  · constructor
    · rintro ⟨loaded, settled⟩
      obtain ⟨given, found, usable, _⟩ := load_eq_ok_iff.mp settled
      exact ⟨given, found, usable⟩
    · rintro ⟨given, found, usable⟩
      exact ⟨_, load_eq_ok_iff.mpr ⟨given, found, usable, rfl⟩⟩
  · intro files' environment' readable like
    have home : Configuration.source files' environment' path = source := by
      rw [Configuration.source, like.home?]
      rfl
    rw [load_some, load_some, home]
    exact settle_congr readable like.setting?_eq
  · intro files' environment' given given' same found found' agree
    have home : Configuration.source files' environment' path = source := by
      rw [Configuration.source, same]
      rfl
    rw [load_some, load_some, home, same]
    exact settle_eq_of_agreeBeside found found' agree

/-- A record in which the language is blank and the level is none of the five. -/
def faulty : Text :=
  "\x7b\"language\": \" \", \"log_level\": \"loud\", ".toList ++
    "\"html_language\": \"de\", \"resource\": \"t\"\x7d".toList

/-- A directory with a file that has this record in it. -/
def folder : Files :=
  ⟨[([['d']], .directory), ([['d'], ['c']], .file (Utf8.encode faulty))], []⟩

/-- Variables that cover what is wrong with it. -/
def covering : Environment :=
  ⟨[(Variable.language.name, " fr ".toList), (Variable.logLevel.name, "WARN".toList)]⟩

/-- The same variables, and one that is set but not valid. -/
def coveringAstray : Environment :=
  ⟨(Variable.htmlLanguage.name, "e;s".toList) :: covering.entries⟩

/-- What is covered does no harm, and the variable that is not valid is as good as unset. -/
theorem load_layered_covered :
    ∃ loaded, load folder coveringAstray (some "d/c".toList) = .ok loaded ∧
      load folder covering (some "d/c".toList) = .ok loaded ∧
      loaded.configuration.validate = .ok () ∧
      loaded.configuration = ⟨some "fr".toList, some "de".toList, none, some "d/t".toList,
        "utf-8".toList, "warn".toList, .default⟩ := by
  have whole : (load folder coveringAstray (some "d/c".toList)).toOption.map (·.configuration) =
      some ⟨some "fr".toList, some "de".toList, none, some "d/t".toList, "utf-8".toList,
        "warn".toList, .default⟩ := by decide +kernel
  have like : (coveringAstray.withFiles folder).LikeUnset (covering.withFiles folder) := by
    refine ⟨by decide +kernel, ?_⟩
    intro var
    cases var with
    | htmlLanguage =>
      have uncovered : (coveringAstray.withFiles folder).setting? .htmlLanguage = none := by
        decide +kernel
      exact .inr ⟨by decide +kernel, by decide +kernel,
        Environment.setting?_eq_none_iff.mp uncovered⟩
    | logLevel | language | fallback | catalog => exact .inl (by decide +kernel)
  have layered := load_layered folder coveringAstray "d/c".toList
  cases settled : load folder coveringAstray (some "d/c".toList) with
  | error problem =>
    rw [settled] at whole
    cases whole
  | ok loaded =>
    rw [settled] at whole
    obtain ⟨_, sound, _⟩ := layered.1 loaded settled
    have unset := layered.2.2.2.1 folder covering rfl like
    exact ⟨loaded, rfl, unset.trans settled, sound, Option.some.inj whole⟩

end Configuration

end Polyglot
