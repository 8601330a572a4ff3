import Polyglot.Proofs.Encoding.RoundTrip
import Polyglot.Proofs.Forest.Grafting
import Polyglot.Proofs.Localizer.Step
import Polyglot.Proofs.Localizer.Visits
import Polyglot.Proofs.Markup.Front
import Polyglot.Webpage.Localize

/-!
# Reading a localized page back

A page comes with the label of the encoding that it is said to be written in. Under this
label its markup is read back character by character, if the encoding has all of its
characters (`localizeIn_data`). A byte order mark cannot get in the way, as markup begins
with a less-than sign: the first node of a document is what it was when the document was
read (`led_rule`), and none that a page can begin with is written otherwise.

With two bytes to a unit this fails for every page, since the page is written in UTF-8
nevertheless (`localize_wide`).
-/

set_option autoImplicit false

namespace Polyglot

namespace Forest

/-! ## The first node -/

/-- The document begins with a given node. -/
structure Led (forest : Forest) (content : Content) : Prop where
  wellFormed : forest.WellFormed
  first : ∃ node, (forest.children root).head? = some node ∧ forest.content? node = some content

theorem led_ofTrees (tree : Tree Unit) (rest : List (Tree Unit)) :
    (ofTrees (tree :: rest)).1.Led tree.content := by
  obtain ⟨grown, shown⟩ := grown_ofTrees (tree :: rest)
  rw [List.map_cons] at shown
  obtain ⟨node, others, children, content, _⟩ := List.map_eq_cons_iff.mp shown
  exact ⟨grown.wellFormed, node, children ▸ rfl, content⟩

/-- **Visits leave the first node as it is**, if it is no text. -/
theorem led_rule {content : Content} (unspoken : content.text? = none) :
    VisitRule (Led · content) fun _ => True where
  visit forest node counterpart? led := by
    refine ⟨?_, trivial⟩
    cases spoken : forest.text? node with
    | none =>
      rw [localize_of_text?_eq_none counterpart? spoken]
      exact led
    | some words =>
      obtain ⟨first, head, here⟩ := led.first
      have different : first ≠ node := fun same => by
        rw [text?, ← same, here, Option.bind_some, unspoken] at spoken
        cases spoken
      have known := forest.lt_size_of_content? first here
      refine ⟨led.wellFormed.localize counterpart? spoken, first, ?_, ?_⟩
      · rw [head?_children_localize counterpart? led.wellFormed spoken, head]
      · rw [content?_localize counterpart? led.wellFormed spoken known different, here]

end Forest

namespace Webpage

open Forest (root)

/-- The markup that a document is written as. -/
def markup (forest : Forest) : Text :=
  Markup.writeChildren (forest.treeAt (fun _ => ()) root)

/-- A document that begins as a page can is written with a less-than sign and one of two
characters. -/
theorem exists_markup_cons {forest : Forest} {content : Content} (led : forest.Led content)
    (leads : content.Leads) :
    ∃ c rest, markup forest = '<' :: c :: rest ∧ (c = '!' ∨ c = 'h') := by
  obtain ⟨first, head, here⟩ := led.first
  obtain ⟨rest, children⟩ := List.head?_eq_some_iff.mp head
  obtain ⟨fuel, size⟩ := Nat.exists_eq_add_one_of_ne_zero
    (Nat.ne_of_gt (Nat.zero_lt_of_lt (forest.lt_size_of_content? first here)))
  have shown : (forest.treeWithin (fun _ => ()) fuel first).content = content := by
    cases fuel <;> exact congrArg (Option.getD · .document) here
  obtain ⟨c, more, begins, mark⟩ := Markup.exists_write_cons (shown.symm ▸ leads)
  refine ⟨c, more ++ Markup.writeAll .top (rest.map (forest.treeWithin (fun _ => ()) fuel)), ?_,
    mark⟩
  rw [markup, Forest.treeAt, size, Forest.treeWithin, children, Markup.writeChildren, Tree.children,
    List.map_cons, Markup.writeAll, begins]
  rfl

/-- Under a usable label the markup is written in its encoding. -/
theorem write_of_usable {label : Text} {encoding : Encoding}
    (usable : Encoding.ofUsableLabel? label = some encoding) (forest : Forest) :
    write label forest = encoding.scheme.encode (markup forest) :=
  Encoding.encodeLabeled_of_usable usable (markup forest)

/-- What is written in UTF-8 is read back by default. -/
theorem decodeLabeled_encode_utf8 (text : Text) :
    Encoding.decodeLabeled defaultEncoding (Utf8.encode ('<' :: text)) = '<' :: text := by
  have default : (Encoding.ofUsableLabel? defaultEncoding).map Encoding.scheme = some .utf8 := by
    decide +kernel
  obtain ⟨encoding, usable, scheme⟩ := Option.map_eq_some_iff.mp default
  have same : encoding.scheme.encode ('<' :: text) = Utf8.encode ('<' :: text) := by
    rw [scheme]
    rfl
  rw [← same]
  refine Encoding.decodeLabeled_encode usable (fun _ => ?_) fun _ _ => ?_
  · rw [scheme]
    nofun
  · rw [scheme]
    trivial

/-! ## Pages -/

theorem led_read (label : Text) (bytes : Bytes) :
    ∃ content, (read label bytes).Led content ∧ content.Leads := by
  obtain ⟨tree, rest, begins, leads⟩ :=
    Markup.Page.leads_read (Encoding.decodeLabeled label bytes)
  rw [read_eq, begins]
  exact ⟨tree.content, Forest.led_ofTrees tree rest, leads⟩

/-- A page is read under some label, and the one that is reported is usable if the one that
was asked for is. -/
theorem readDeclared_cases {label : Text} {asked : Encoding}
    (usable : Encoding.ofUsableLabel? label = some asked) (bytes : Bytes) :
    (∃ used, (readDeclared label bytes).1 = read used bytes) ∧
      ∃ encoding, Encoding.ofUsableLabel? (readDeclared label bytes).2 = some encoding := by
  rw [readDeclared, read, Toolkit.readDeclared]
  split
  · refine ⟨⟨label, ?_⟩, asked, usable⟩
    dsimp only
  · next encoding declared =>
    obtain ⟨charset, _, found⟩ := Option.bind_eq_some_iff.mp declared
    have byName := Encoding.ofUsableLabel?_name found
    split
    · refine ⟨⟨label, ?_⟩, encoding, byName⟩
      dsimp only
    · refine ⟨⟨encoding.name, ?_⟩, encoding, byName⟩
      dsimp only

/-- The label of the encoding that is asked for. -/
def Options.label (options : Options) : Text :=
  options.encoding?.getD defaultEncoding

/-- How the document of a page is to be localized. -/
def Options.forLocalizer (options : Options) (catalog : Catalog) : LocalizerOptions where
  target? := none
  htmlLanguage? := options.htmlLanguage?
  catalog := catalog
  language? := options.language?
  fallback? := options.fallback?
  detection := options.detection

/-- The page that is made of a document that has been localized. -/
def Localized.of (encoding : Text) (localizer : Localizer) (document : Document) : Localized where
  data := write encoding document.forest
  language := localizer.language
  htmlLanguage := localizer.htmlLanguage
  encoding := encoding
  stats := localizer.lastPass

/-- Localizing a page is attaching a localizer to its document, if the label that is asked
for is usable. -/
theorem localizeIn_of_usable (host : Host) (bytes : Bytes) (catalog : Catalog) {options : Options}
    {asked : Encoding} (usable : Encoding.ofUsableLabel? options.label = some asked) :
    localizeIn host bytes catalog options =
      (Localizer.attach (.ofForest (readDeclared options.label bytes).1) host
        (options.forLocalizer catalog)).map fun made =>
          .of (readDeclared options.label bytes).2 made.1 made.2 := by
  have valid : validateEncoding options.label = .ok () := by
    rw [validateEncoding, usable]
    rfl
  unfold Options.forLocalizer
  rw [Options.label] at valid ⊢
  rw [localizeIn, readDeclared, Toolkit.localizeIn, valid]
  generalize Toolkit.standard.readDeclared (options.encoding?.getD defaultEncoding) bytes = used
  dsimp only [bind, Except.bind]
  generalize Localizer.attach (.ofForest used.1) host _ = attached
  cases attached <;> rfl

theorem localizeIn_of_unusable (host : Host) (bytes : Bytes) (catalog : Catalog)
    {options : Options} (unusable : Encoding.ofUsableLabel? options.label = none) :
    localizeIn host bytes catalog options = .error (.unknownEncoding options.label) := by
  have invalid : validateEncoding options.label = .error (.unknownEncoding options.label) := by
    rw [validateEncoding, unusable]
    rfl
  rw [Options.label] at invalid
  rw [localizeIn, Toolkit.localizeIn, invalid]
  rfl

/-- What is known of an answer, if there is one, is known of what was answered. -/
theorem exists_ok_of_map_toOption {ε α β : Type} {answer : Except ε α} {view : α → β} {seen : β}
    (known : answer.toOption.map view = some seen) :
    ∃ result, answer = .ok result ∧ view result = seen := by
  cases answer with
  | error problem => cases known
  | ok result => exact ⟨result, rfl, Option.some.inj known⟩

/-- What is written of a page whose document has a given markup once it is localized. -/
theorem exists_localizeIn {host : Host} {bytes : Bytes} {catalog : Catalog} {options : Options}
    {asked : Encoding} {forest : Forest} {label text : Text}
    (usable : Encoding.ofUsableLabel? options.label = some asked)
    (declared : readDeclared options.label bytes = (forest, label))
    (shown : ((Localizer.attach (.ofForest forest) host
      (options.forLocalizer catalog)).toOption.map fun made => markup made.2.forest) = some text) :
    ∃ page, localizeIn host bytes catalog options = .ok page ∧ page.encoding = label ∧
      page.data = Encoding.encodeLabeled label text := by
  obtain ⟨made, attached, same⟩ := exists_ok_of_map_toOption shown
  rw [localizeIn_of_usable host bytes catalog usable, declared, attached]
  refine ⟨_, rfl, rfl, ?_⟩
  rw [← same]
  rfl

/-- A page that is localized is written from what a localizer left of its document, which
still begins as a page can. -/
theorem exists_attach_of_localizeIn {host : Host} {bytes : Bytes} {catalog : Catalog}
    {options : Options} {page : Localized}
    (localized : localizeIn host bytes catalog options = .ok page) :
    ∃ localizer document encoding content,
      Localizer.attach (.ofForest (readDeclared options.label bytes).1) host
        (options.forLocalizer catalog) = .ok (localizer, document) ∧
      page.data = write page.encoding document.forest ∧
      Encoding.ofUsableLabel? page.encoding = some encoding ∧
      document.forest.Led content ∧ content.Leads := by
  cases usable : Encoding.ofUsableLabel? options.label with
  | none =>
    rw [localizeIn_of_unusable host bytes catalog usable] at localized
    cases localized
  | some asked =>
    rw [localizeIn_of_usable host bytes catalog usable] at localized
    obtain ⟨⟨used, same⟩, encoding, found⟩ := readDeclared_cases usable bytes
    obtain ⟨content, led, leads⟩ := led_read used bytes
    rw [← same] at led
    generalize readDeclared options.label bytes = declared at localized found led ⊢
    obtain ⟨forest, label⟩ := declared
    have before : (Document.ofForest forest).forest.Led content := led
    have keeps := ((Forest.led_rule leads.text?_eq_none).attach before host
      (options.forLocalizer catalog)).1
    generalize Localizer.attach (.ofForest forest) host _ = attached at localized keeps ⊢
    cases attached with
    | error problem => cases localized
    | ok made =>
      cases localized
      exact ⟨made.1, made.2, encoding, content, rfl, rfl, found, keeps _ _ rfl, leads⟩

/-- **A localized page is read back under its label** as the markup of its document, if its
encoding has all characters of the markup and does not put two bytes to a unit. An encoding
that does is not the one that the page is written in: the page is read back as UTF-8, and
under its label it is not. -/
theorem localizeIn_data {host : Host} {bytes : Bytes} {catalog : Catalog} {options : Options}
    {page : Localized} (localized : localizeIn host bytes catalog options = .ok page) :
    ∃ localizer document encoding,
      Localizer.attach (.ofForest (readDeclared options.label bytes).1) host
        (options.forLocalizer catalog) = .ok (localizer, document) ∧
      Encoding.ofUsableLabel? page.encoding = some encoding ∧
      ((∀ bigEndian, encoding.scheme ≠ .utf16 bigEndian) →
        (∀ c ∈ markup document.forest, encoding.scheme.Has c) →
          Encoding.decodeLabeled page.encoding page.data = markup document.forest) ∧
      ∀ bigEndian, encoding.scheme = .utf16 bigEndian →
        Encoding.decodeLabeled defaultEncoding page.data = markup document.forest ∧
          Encoding.decodeLabeled page.encoding page.data ≠ markup document.forest := by
  obtain ⟨localizer, document, encoding, content, attached, written, usable, led, leads⟩ :=
    exists_attach_of_localizeIn localized
  refine ⟨localizer, document, encoding, attached, usable, ?_⟩
  obtain ⟨c, rest, begins, mark⟩ := exists_markup_cons led leads
  rw [written, write_of_usable usable, begins]
  refine ⟨fun narrow has => Encoding.decodeLabeled_encode usable narrow has,
    fun bigEndian wide => ⟨?_, ?_⟩⟩
  · rw [wide]
    exact decodeLabeled_encode_utf8 _
  · exact Encoding.decodeLabeled_encode_ne usable wide mark rest

/-- A paragraph. -/
def paragraph : Bytes := Utf8.encode "<p>a</p>".toList

/-- A catalog in which what the paragraph says has a counterpart beyond ASCII. -/
def bilingual : Catalog := .ofList [(['e'], [['a']]), (['r'], [['д', 'а']])]

/-- The markup of the paragraph in the other language. -/
def otherMarkup : Text := "<html><head></head><body><p>да</p></body></html>".toList

/-- A page is put from the one language into the other. -/
def optionsIn (encoding : Text) : Options :=
  ⟨some ['r'], some ['e'], none, some encoding, ⟨[], [], [], [], [], []⟩⟩

/-- In a single-byte encoding that has its letters, the counterpart is read back. -/
theorem localizeIn_data_cyrillic :
    ∃ page, localizeIn (.new 0) paragraph bilingual (optionsIn "ibm866".toList) = .ok page ∧
      page.data.contains 0xA4 = true ∧
      Encoding.decodeLabeled page.encoding page.data = otherMarkup := by
  have made : ((localizeIn (.new 0) paragraph bilingual (optionsIn "ibm866".toList)).toOption.map
      fun page => (page.encoding, page.data.contains 0xA4)) = some ("ibm866".toList, true) := by
    decide +kernel
  have written : ((Localizer.attach
      (.ofForest (readDeclared (optionsIn "ibm866".toList).label paragraph).1) (.new 0)
      ((optionsIn "ibm866".toList).forLocalizer bilingual)).toOption.map fun made =>
        markup made.2.forest) = some otherMarkup := by
    decide +kernel
  have known : (Encoding.ofUsableLabel? "ibm866".toList).map Encoding.scheme
      = some (.singleByte SingleByte.ibm866) := by
    decide +kernel
  have letters : (otherMarkup.all fun c =>
      decide ((EncodingScheme.singleByte SingleByte.ibm866).Has c)) = true := by
    decide +kernel
  obtain ⟨page, localized, seen⟩ := exists_ok_of_map_toOption made
  obtain ⟨label, byte⟩ := Prod.mk.inj seen
  obtain ⟨localizer, document, encoding, attached, usable, reads, _⟩ := localizeIn_data localized
  rw [attached] at written
  have same : markup document.forest = otherMarkup := Option.some.inj written
  rw [← label, usable] at known
  have scheme : encoding.scheme = .singleByte SingleByte.ibm866 := Option.some.inj known
  rw [same, scheme] at reads
  exact ⟨page, localized, byte, reads (fun _ => nofun) fun c listed =>
    of_decide_eq_true (List.all_eq_true.mp letters c listed)⟩

/-- The paragraph with two bytes to a unit. -/
def wideParagraph : Bytes := "<p>a</p>".toList.flatMap fun c => [UInt8.ofNat c.toNat, 0]

/-- With two bytes to a unit a page that is read well is written as UTF-8, although it is said
to be written as it was read. -/
theorem localize_wide :
    ∃ page, localize wideParagraph bilingual (optionsIn "UTF-16LE".toList) = .ok page ∧
      page.encoding = "UTF-16LE".toList ∧
      page.data = Utf8.encode otherMarkup ∧
      Encoding.decodeLabeled page.encoding page.data ≠ otherMarkup := by
  obtain ⟨wide, usable, scheme⟩ := Encoding.exists_usable_utf16le
  have decoded : Encoding.decodeLabeled "UTF-16LE".toList wideParagraph = "<p>a</p>".toList := by
    rw [Encoding.decodeLabeled_of_usable usable, Encoding.decode, scheme]
    decide +kernel
  -- The page declares nothing, so the label is the one that was asked for.
  have declared : readDeclared (optionsIn "UTF-16LE".toList).label wideParagraph =
      ((Forest.ofTrees (Markup.Page.read "<p>a</p>".toList)).1, "UTF-16LE".toList) := by
    have undeclared : (Forest.ofTrees (Markup.Page.read "<p>a</p>".toList)).1.declaredCharset? root
        = none := by
      decide +kernel
    have label : (optionsIn "UTF-16LE".toList).label = "UTF-16LE".toList := rfl
    rw [label, readDeclared, Toolkit.readDeclared, ← Webpage.read, read_eq, decoded, undeclared]
    rfl
  have shown : ((Localizer.attach
      (.ofForest (Forest.ofTrees (Markup.Page.read "<p>a</p>".toList)).1) (.new 0)
      ((optionsIn "UTF-16LE".toList).forLocalizer bilingual)).toOption.map fun made =>
        markup made.2.forest) = some otherMarkup := by
    decide +kernel
  have asked : Encoding.ofUsableLabel? (optionsIn "UTF-16LE".toList).label = some wide := usable
  obtain ⟨page, localized, encoding, data⟩ := exists_localizeIn asked declared shown
  rw [Encoding.encodeLabeled_of_usable usable, scheme] at data
  refine ⟨page, localized, encoding, data, ?_⟩
  rw [encoding, data, Encoding.decodeLabeled_of_usable usable, Encoding.decode, scheme]
  decide +kernel

end Webpage

end Polyglot
