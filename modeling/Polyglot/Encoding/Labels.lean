import Polyglot.Encoding.Tables
import Polyglot.Text.Blank
import Polyglot.Text.Utf8

/-!
# Encodings and their labels

An encoding has a name and any number of labels.  `Encoding.ofLabel?` finds the
encoding of a label, whose case does not matter and which may have blanks around
it.  One of the encodings, `replacement`, is there only to refuse the encodings
that its labels name; `Encoding.ofUsableLabel?` does not find it.
-/

set_option autoImplicit false

namespace Polyglot

/-- How characters and bytes correspond. -/
inductive EncodingScheme where
  | utf8
  /-- Two bytes to a unit, the greater one first or last. -/
  | utf16 (bigEndian : Bool)
  /-- ASCII and one character for each byte from 0x80 on. -/
  | singleByte (upper : List Nat)
  /-- ASCII and a private character for each byte from 0x80 on. -/
  | userDefined
  /-- ASCII and characters of several bytes, of which no table is kept here. -/
  | multiByte
  /-- Nothing can be read. -/
  | replacement
  deriving DecidableEq, Repr

/-- A way to write texts as bytes. -/
structure Encoding where
  name : Text
  scheme : EncodingScheme
  labels : List Text
  deriving DecidableEq, Repr

namespace Encoding

/-- An encoding whose labels are written in lines with blanks between them. -/
def named (name : String) (scheme : EncodingScheme) (labels : List String) : Encoding :=
  ⟨name.toList, scheme, labels.flatMap fun line => Text.pieces ' ' line.toList⟩

/-- All encodings. -/
def all : List Encoding := [
  named "UTF-8" .utf8
    ["unicode-1-1-utf-8 unicode11utf8 unicode20utf8 utf-8 utf8 x-unicode20utf8"],
  named "IBM866" (.singleByte SingleByte.ibm866)
    ["866 cp866 csibm866 ibm866"],
  named "ISO-8859-2" (.singleByte SingleByte.iso8859Part2)
    ["csisolatin2 iso-8859-2 iso-ir-101 iso8859-2 iso88592 iso_8859-2 iso_8859-2:1987 l2",
      "latin2"],
  named "ISO-8859-3" (.singleByte SingleByte.iso8859Part3)
    ["csisolatin3 iso-8859-3 iso-ir-109 iso8859-3 iso88593 iso_8859-3 iso_8859-3:1988 l3",
      "latin3"],
  named "ISO-8859-4" (.singleByte SingleByte.iso8859Part4)
    ["csisolatin4 iso-8859-4 iso-ir-110 iso8859-4 iso88594 iso_8859-4 iso_8859-4:1988 l4",
      "latin4"],
  named "ISO-8859-5" (.singleByte SingleByte.iso8859Part5)
    ["csisolatincyrillic cyrillic iso-8859-5 iso-ir-144 iso8859-5 iso88595 iso_8859-5",
      "iso_8859-5:1988"],
  named "ISO-8859-6" (.singleByte SingleByte.iso8859Part6)
    ["arabic asmo-708 csiso88596e csiso88596i csisolatinarabic ecma-114 iso-8859-6",
      "iso-8859-6-e iso-8859-6-i iso-ir-127 iso8859-6 iso88596 iso_8859-6 iso_8859-6:1987"],
  named "ISO-8859-7" (.singleByte SingleByte.iso8859Part7)
    ["csisolatingreek ecma-118 elot_928 greek greek8 iso-8859-7 iso-ir-126 iso8859-7",
      "iso88597 iso_8859-7 iso_8859-7:1987 sun_eu_greek"],
  named "ISO-8859-8" (.singleByte SingleByte.iso8859Part8)
    ["csiso88598e csisolatinhebrew hebrew iso-8859-8 iso-8859-8-e iso-ir-138 iso8859-8",
      "iso88598 iso_8859-8 iso_8859-8:1988 visual"],
  named "ISO-8859-8-I" (.singleByte SingleByte.iso8859Part8)
    ["csiso88598i iso-8859-8-i logical"],
  named "ISO-8859-10" (.singleByte SingleByte.iso8859Part10)
    ["csisolatin6 iso-8859-10 iso-ir-157 iso8859-10 iso885910 l6 latin6"],
  named "ISO-8859-13" (.singleByte SingleByte.iso8859Part13)
    ["iso-8859-13 iso8859-13 iso885913"],
  named "ISO-8859-14" (.singleByte SingleByte.iso8859Part14)
    ["iso-8859-14 iso8859-14 iso885914"],
  named "ISO-8859-15" (.singleByte SingleByte.iso8859Part15)
    ["csisolatin9 iso-8859-15 iso8859-15 iso885915 iso_8859-15 l9"],
  named "ISO-8859-16" (.singleByte SingleByte.iso8859Part16)
    ["iso-8859-16"],
  named "KOI8-R" (.singleByte SingleByte.koi8r)
    ["cskoi8r koi koi8 koi8-r koi8_r"],
  named "KOI8-U" (.singleByte SingleByte.koi8u)
    ["koi8-ru koi8-u"],
  named "macintosh" (.singleByte SingleByte.macintosh)
    ["csmacintosh mac macintosh x-mac-roman"],
  named "windows-874" (.singleByte SingleByte.windows874)
    ["dos-874 iso-8859-11 iso8859-11 iso885911 tis-620 windows-874"],
  named "windows-1250" (.singleByte SingleByte.windows1250)
    ["cp1250 windows-1250 x-cp1250"],
  named "windows-1251" (.singleByte SingleByte.windows1251)
    ["cp1251 windows-1251 x-cp1251"],
  named "windows-1252" (.singleByte SingleByte.windows1252)
    ["ansi_x3.4-1968 ascii cp1252 cp819 csisolatin1 ibm819 iso-8859-1 iso-ir-100 iso8859-1",
      "iso88591 iso_8859-1 iso_8859-1:1987 l1 latin1 us-ascii windows-1252 x-cp1252"],
  named "windows-1253" (.singleByte SingleByte.windows1253)
    ["cp1253 windows-1253 x-cp1253"],
  named "windows-1254" (.singleByte SingleByte.windows1254)
    ["cp1254 csisolatin5 iso-8859-9 iso-ir-148 iso8859-9 iso88599 iso_8859-9",
      "iso_8859-9:1989 l5 latin5 windows-1254 x-cp1254"],
  named "windows-1255" (.singleByte SingleByte.windows1255)
    ["cp1255 windows-1255 x-cp1255"],
  named "windows-1256" (.singleByte SingleByte.windows1256)
    ["cp1256 windows-1256 x-cp1256"],
  named "windows-1257" (.singleByte SingleByte.windows1257)
    ["cp1257 windows-1257 x-cp1257"],
  named "windows-1258" (.singleByte SingleByte.windows1258)
    ["cp1258 windows-1258 x-cp1258"],
  named "x-mac-cyrillic" (.singleByte SingleByte.macCyrillic)
    ["x-mac-cyrillic x-mac-ukrainian"],
  named "GBK" .multiByte
    ["chinese csgb2312 csiso58gb231280 gb2312 gb_2312 gb_2312-80 gbk iso-ir-58 x-gbk"],
  named "gb18030" .multiByte
    ["gb18030"],
  named "Big5" .multiByte
    ["big5 big5-hkscs cn-big5 csbig5 x-x-big5"],
  named "EUC-JP" .multiByte
    ["cseucpkdfmtjapanese euc-jp x-euc-jp"],
  named "ISO-2022-JP" .multiByte
    ["csiso2022jp iso-2022-jp"],
  named "Shift_JIS" .multiByte
    ["csshiftjis ms932 ms_kanji shift-jis shift_jis sjis windows-31j x-sjis"],
  named "EUC-KR" .multiByte
    ["cseuckr csksc56011987 euc-kr iso-ir-149 korean ks_c_5601-1987 ks_c_5601-1989 ksc5601",
      "ksc_5601 windows-949"],
  named "replacement" .replacement
    ["csiso2022kr hz-gb-2312 iso-2022-cn iso-2022-cn-ext iso-2022-kr replacement"],
  named "UTF-16BE" (.utf16 true)
    ["unicodefffe utf-16be"],
  named "UTF-16LE" (.utf16 false)
    ["csunicode iso-10646-ucs-2 ucs-2 unicode unicodefeff utf-16 utf-16le"],
  named "x-user-defined" .userDefined
    ["x-user-defined"]]

/-- The encoding that a label names. -/
def ofLabel? (label : Text) : Option Encoding :=
  let wanted := Text.asciiLower (Text.trimmed isAsciiBlank label)
  all.find? fun encoding => encoding.labels.contains wanted

/-- The encoding that a label names, if texts can be read in it. -/
def ofUsableLabel? (label : Text) : Option Encoding :=
  (ofLabel? label).filter fun encoding => encoding.scheme != .replacement

end Encoding

end Polyglot
