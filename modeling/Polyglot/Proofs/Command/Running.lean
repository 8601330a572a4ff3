import Polyglot.Command.Run
import Polyglot.Proofs.Configuration.Sources
import Polyglot.Proofs.Environment.Loading
import Polyglot.Proofs.Files.Writing

/-!
# What a run writes

A run of the command either ends with a problem and has written nothing, or it has written
the page that it read, localized with the catalog that it read, as far as the write got
(`Command.run_localize`). What the page is localized with is settled field by field: what the
command line gives counts first, then the environment, then the configuration file
(`Arguments.options`). The tools that the page is read and written with are any.
-/

set_option autoImplicit false

namespace Polyglot.Command

/-! ## What counts -/

/-- What a page is localized with. A language that the command line does not give comes from
the environment, or else from the configuration file; the encoding from the file alone. -/
def Arguments.options (arguments : Arguments) (environment : Environment)
    (record? : Option Setting) (detection : DetectionOptions) : Webpage.Options where
  language? := arguments.language?.or
    ((environment.languageIn? .language).or (Configuration.stated? record? "language".toList))
  htmlLanguage? := arguments.htmlLanguage?.or
    ((environment.languageIn? .htmlLanguage).or
      (Configuration.stated? record? "html_language".toList))
  fallback? := arguments.fallback?.or
    ((environment.languageIn? .fallback).or (Configuration.stated? record? "fallback_lng".toList))
  encoding? := some
    ((arguments.encoding?.or (Configuration.stated? record? "encoding".toList)).getD
      "utf-8".toList)
  detection := detection

/-- The path of the catalog, which comes from the same places. -/
def Arguments.catalogPath? (arguments : Arguments) (environment : Environment)
    (given : Configuration) : Option Path :=
  arguments.catalog?.or ((environment.setting? .catalog).or given.catalog?)

theorem options_apply (arguments : Arguments) (environment : Environment)
    {record? : Option Setting} {given : Configuration}
    (states : Configuration.States record? given) :
    (arguments.apply (given.overridden environment)).options =
      arguments.options environment record? given.detection := by
  rw [Arguments.options, ← states.language?, ← states.htmlLanguage?, ← states.fallback?]
  rw [← Environment.setting?_eq_languageIn? environment (by simp),
    ← Environment.setting?_eq_languageIn? environment (by simp),
    ← Environment.setting?_eq_languageIn? environment (by simp)]
  rw [Option.getD_or, ← states.encoding]
  rfl

/-! ## What is read -/

/-- A configuration that is in force is one that a file gives, if there is one, with what the
environment says in place of what it says. -/
theorem exists_given_of_settle {files : Files} {environment : Environment} {source? : Option Path}
    {loaded : Configuration.Loaded}
    (settled : Configuration.settle files environment source? = .ok loaded) :
    ∃ given record?, Configuration.GivenBy files record? given source? ∧
      loaded.configuration = given.overridden environment := by
  cases source? with
  | none =>
    rw [Configuration.settle] at settled
    obtain ⟨given, found, settled⟩ := exists_ok_of_bind settled
    obtain ⟨_, _, settled⟩ := exists_ok_of_bind settled
    cases found
    cases settled
    exact ⟨.default, none, ⟨rfl, rfl⟩, rfl⟩
  | some path =>
    obtain ⟨given, found, _, rfl⟩ := Configuration.settle_eq_ok_iff.mp settled
    obtain ⟨text, _, _, readable, _⟩ := Configuration.exists_record_of_ofFile found
    exact ⟨given, _, ⟨found, text, readable, rfl⟩, rfl⟩

/-- The catalog of a run is in a file. -/
theorem exists_path_of_readCatalog {files : Files} {arguments : Arguments}
    {environment : Environment} {given : Configuration} {catalog : Catalog}
    (found : readCatalog files arguments (arguments.apply (given.overridden environment)) =
      .ok catalog) :
    ∃ path, arguments.catalogPath? environment given = some path ∧
      Catalog.ofFile files path = .ok catalog := by
  rw [readCatalog] at found
  rw [Arguments.catalogPath?]
  cases asked : arguments.catalog? with
  | some path =>
    rw [asked] at found
    exact ⟨path, rfl, found⟩
  | none =>
    rw [asked] at found
    simp only at found
    split at found
    · rw [Configuration.readCatalog] at found
      split at found
      · cases found
      · next path named => exact ⟨path, named, found⟩
    · cases found

/-- The page that a run is to write: the page that it is to read, localized with the catalog
that it is to read and with what counts. -/
inductive Localizes (surroundings : Surroundings) (environment : Environment)
    (arguments : Arguments) : Webpage.Localized → Prop where
  | intro {source? : Option Path} {record? : Option Setting} {given : Configuration}
      {path : Path} {catalog : Catalog} {bytes : Bytes} {page : Webpage.Localized}
      (sought : Configuration.Sought surroundings.files environment arguments.configuration?
        source?)
      (givenBy : Configuration.GivenBy surroundings.files record? given source?)
      (named : arguments.catalogPath? environment given = some path)
      (loaded : Catalog.ofFile surroundings.files path = .ok catalog)
      (read : readPage surroundings arguments.input = .ok bytes)
      (done : surroundings.toolkit.localize bytes catalog
        (arguments.options environment record? given.detection) = .ok page) :
      Localizes surroundings environment arguments page

/-- **A page that is localized** is the one that is to be written. -/
theorem localizes_of_localized {surroundings : Surroundings} {arguments : Arguments}
    {page : Webpage.Localized} (done : localized surroundings arguments = .ok page) :
    Localizes surroundings (surroundings.environment.withFiles surroundings.files) arguments
      page := by
  rw [localized] at done
  obtain ⟨loaded, settled, done⟩ := exists_ok_of_bind done
  obtain ⟨catalog, found, done⟩ := exists_ok_of_bind done
  obtain ⟨bytes, read, done⟩ := exists_ok_of_bind done
  obtain ⟨given, record?, givenBy, overridden⟩ := exists_given_of_settle settled
  rw [overridden] at found done
  obtain ⟨path, named, loadedCatalog⟩ := exists_path_of_readCatalog found
  rw [options_apply arguments _ givenBy.states] at done
  exact .intro (Configuration.sought_source? _ _ _) givenBy named loadedCatalog read done

/-! ## What is written -/

/-- A run has written some bytes and nothing else: to the standard output, if no other output
was asked for, and otherwise to the file, in which they are found again. -/
structure Wrote (files : Files) (output? : Option Path) (data : Bytes) (outcome : Outcome) :
    Prop where
  toOutput : output? = none ∨ output? = some standard →
    outcome.output = data ∧ outcome.written? = none ∧ outcome.files = files
  toFile : ∀ path, output? = some path → path ≠ standard →
    outcome.output = [] ∧ outcome.written? = some (path, data) ∧
      files.write path data = .ok outcome.files ∧ outcome.files.read path = .ok data

/-- A run that has written nothing, for a reason. -/
structure Failed (files : Files) (outcome : Outcome) : Prop where
  output : outcome.output = []
  written? : outcome.written? = none
  files : outcome.files = files
  problem? : outcome.problem?.isSome

/-- A run whose write came to a stop: of the data there is what got out before, and nothing
else. -/
structure Broke (surroundings : Surroundings) (output? : Option Path) (data : Bytes)
    (breakage : Breakage) (outcome : Outcome) : Prop where
  stopped : surroundings.breakage? = some breakage
  wrote : Wrote surroundings.files output? (data.take breakage.after) outcome
  problem? : outcome.problem? = some (.worded .io breakage.message)

/-- What passes is written, or nothing is. -/
theorem deliver_cases (surroundings : Surroundings) (output? : Option Path) (data : Bytes) :
    let outcome := deliver surroundings output? data
    outcome.code ≠ 0 ∧ Failed surroundings.files outcome ∨
      outcome.problem? = surroundings.writeProblem? ∧
        outcome.code = (if surroundings.writeProblem?.isSome then 1 else 0) ∧
        Wrote surroundings.files output? (surroundings.passed data) outcome := by
  simp only [deliver]
  split
  · next nowhere =>
    refine .inr ⟨rfl, rfl, fun _ => ⟨rfl, rfl, rfl⟩, fun path asked other => ?_⟩
    rw [asked, Option.filter_some_pos (by simpa using other)] at nowhere
    cases nowhere
  · next path somewhere =>
    obtain ⟨asked, other⟩ := Option.filter_eq_some_iff.mp somewhere
    split
    · next after written =>
      refine .inr ⟨rfl, rfl, fun nowhere => ?_, fun path' asked' _ => ?_⟩
      · rw [asked] at nowhere
        rcases nowhere with nowhere | nowhere
        · cases nowhere
        · cases nowhere
          simp at other
      · cases asked.symm.trans asked'
        exact ⟨rfl, rfl, written, Files.read_write written⟩
    · exact .inl ⟨Nat.one_ne_zero, rfl, rfl, rfl, rfl⟩

/-- **A page is written whole or the run ends with an error**, and then nothing is written or
the write came to a stop. -/
theorem deliver_ends (surroundings : Surroundings) (output? : Option Path) (data : Bytes) :
    let outcome := deliver surroundings output? data
    (outcome.code ≠ 0 → Failed surroundings.files outcome ∨
      ∃ breakage, Broke surroundings output? data breakage outcome) ∧
    (outcome.code = 0 → Wrote surroundings.files output? data outcome) := by
  intro outcome
  rcases deliver_cases surroundings output? data with ⟨wrong, failed⟩ | ⟨told, code, wrote⟩
  · exact ⟨fun _ => .inl failed, fun fine => absurd fine wrong⟩
  · rw [Surroundings.writeProblem?] at told code
    rw [Surroundings.passed] at wrote
    cases stops : surroundings.breakage? with
    | none =>
      rw [stops] at code wrote
      exact ⟨fun wrong => absurd code wrong, fun _ => wrote⟩
    | some breakage =>
      rw [stops] at told code wrote
      exact ⟨fun _ => .inr ⟨breakage, stops, wrote, told⟩,
        fun fine => absurd (code.symm.trans fine) Nat.one_ne_zero⟩

/-- **What a run writes.** A run that is asked to localize a page and ends with an error has
written nothing, unless the error is that writing came to a stop; then a beginning of the page
is written. If it ends without one, it has written the page that it was to read, localized with
the catalog that it was to read and with what counts: first the command line, then the
environment, which environment files have added to, then the configuration file. This is so
whatever tools the page is localized with. -/
theorem run_localize (surroundings : Surroundings) (line : List Text) {arguments : Arguments}
    (asked : read line = .localize arguments) :
    let outcome := run surroundings line
    let environment := surroundings.environment.withFiles surroundings.files
    Environment.Extended surroundings.files surroundings.environment environment ∧
      (outcome.code ≠ 0 → Failed surroundings.files outcome ∨
        ∃ page breakage, Localizes surroundings environment arguments page ∧
          Broke surroundings arguments.output? page.data breakage outcome) ∧
      (outcome.code = 0 → ∃ page, Localizes surroundings environment arguments page ∧
        Wrote surroundings.files arguments.output? page.data outcome) := by
  intro outcome environment
  refine ⟨Environment.extended_withFiles _ _, ?_⟩
  cases done : localized surroundings arguments with
  | error problem =>
    have ends : outcome = ⟨1, [], some problem, none, surroundings.files⟩ := by
      simp only [outcome, run, asked, done]
    rw [ends]
    exact ⟨fun _ => .inl ⟨rfl, rfl, rfl, rfl⟩, fun fine => absurd fine Nat.one_ne_zero⟩
  | ok page =>
    have ends : outcome = deliver surroundings arguments.output? page.data := by
      simp only [outcome, run, asked, done]
    rw [ends]
    have localizes := localizes_of_localized done
    obtain ⟨wrong, fine⟩ := deliver_ends surroundings arguments.output? page.data
    refine ⟨fun code => ?_, fun code => ⟨page, localizes, fine code⟩⟩
    rcases wrong code with failed | ⟨breakage, broke⟩
    · exact .inl failed
    · exact .inr ⟨page, breakage, localizes, broke⟩

/-- A directory with a page, a catalog, a configuration file that names two languages, and an
environment file that names another one. -/
def desk : Surroundings where
  files := ⟨[([".env".toList], .file (Utf8.encode "I18N_DOM_LANGUAGE=f".toList)),
    (["c".toList], .file (Utf8.encode "\x7b\"html_language\":\"e\",\"language\":\"e\"\x7d".toList)),
    (["t".toList], .file (Utf8.encode "\x7b\"e\":[\"a\"],\"f\":[\"b\"]\x7d".toList)),
    (["p".toList], .file (Utf8.encode "<p>a</p>".toList))], []⟩
  environment := ⟨[]⟩
  input := []

/-- The command line that has the page written to a new file. -/
def errand : List Text :=
  ["-c".toList, "c".toList, "-r".toList, "t".toList, "-o".toList, "q".toList, "p".toList]

/-- The language of the environment file counts more than that of the configuration file, and
the new file has the page in it. -/
theorem run_localize_errand :
    let environment := desk.environment.withFiles desk.files
    ∃ (arguments : Arguments) (page : Webpage.Localized), read errand = .localize arguments ∧
      Localizes desk environment arguments page ∧
      environment.languageIn? .language = some ['f'] ∧
      page.data = Utf8.encode "<html><head></head><body><p>b</p></body></html>".toList ∧
      (run desk errand).files.read "q".toList = .ok page.data := by
  intro environment
  let arguments : Arguments := ⟨"p".toList, some "t".toList, none, none, none, some "c".toList,
    none, some "q".toList, false⟩
  have asked : read errand = .localize arguments := by decide +kernel
  have fine : (run desk errand).code = 0 := by decide +kernel
  have written : (run desk errand).written? = some ("q".toList,
      Utf8.encode "<html><head></head><body><p>b</p></body></html>".toList) := by decide +kernel
  have assigned : environment.get? Variable.language.name = some ['f'] := by decide +kernel
  have named : environment.languageIn? .language = some ['f'] := by
    rw [Environment.languageIn?, assigned]
    rfl
  obtain ⟨page, localizes, wrote⟩ := (run_localize desk errand asked).2.2 fine
  obtain ⟨_, same, _, found⟩ := wrote.toFile "q".toList rfl (by decide)
  rw [written, Option.some.injEq, Prod.mk.injEq] at same
  exact ⟨arguments, page, asked, localizes, named, same.2.symm, found⟩

end Polyglot.Command
