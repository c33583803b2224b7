import CoverageDiff.Markup.Document
import CoverageDiff.Text.Codepage
import CoverageDiff.Text.Utf8

/-!
# CoverageDiff.Markup.Encoding

Documents as bytes.

1. A byte order mark, or else a zero among the first two bytes, tells the two
   forms of UTF-16 from encodings in single bytes.
2. Otherwise the declaration at the start names the encoding; without a name
   it is UTF-8.
3. The names of UTF-8, UTF-16, Latin 1 and ASCII are taken in one spelling;
   for other encodings of single bytes there are many names.
4. A name that belongs to an encoding which takes several bytes for some
   characters is refused, and so is one that belongs to no known encoding.
-/

namespace CoverageDiff.Markup

open Text

/-! ## Encodings -/

/-- How characters are written in bytes. -/
inductive Encoding where
  | utf8
  /-- UTF-16 with the high byte first. -/
  | utf16High
  /-- UTF-16 with the low byte first. -/
  | utf16Low
  /-- One byte a character. -/
  | single (page : Codepage)

namespace Encoding

/-- Why the name of an encoding cannot be used. -/
inductive NameError where
  /-- The document is visibly not in that encoding. -/
  | contradicted
  /-- The encoding is one of several bytes that cannot be used here. -/
  | wide (name : String)
  /-- There is no such encoding. -/
  | unknown (name : String)
  deriving DecidableEq

/-- Names of encodings that take several bytes for some characters. -/
def wideNames : List String :=
  ["big5", "big5hkscs", "cp932", "cp949", "cp950", "euc_jis_2004", "euc_jisx0213", "euc_jp",
    "euc_kr", "gb18030", "gb2312", "gbk", "iso2022_kr", "johab", "shift_jis", "shift_jis_2004",
    "shift_jisx0213", "utf_16", "utf_16_be", "utf_16_le", "utf_32", "utf_32_be", "utf_32_le",
    "utf_7"]

/-- Further names of these. -/
def wideAliases : List String :=
  ["big5_hkscs", "big5_tw", "chinese", "cp1361", "cp936", "csbig5", "csiso2022kr",
    "csiso58gb231280", "csshiftjis", "euc_cn", "euc_jis2004", "euccn", "eucgb2312_cn",
    "eucjis2004", "eucjisx0213", "eucjp", "euckr", "gb18030_2000", "gb2312_1980", "gb2312_80",
    "hkscs", "iso2022kr", "iso_2022_kr", "iso_ir_58", "jisx0213", "korean", "ks_c_5601",
    "ks_c_5601_1987", "ks_x_1001", "ksc5601", "ksx1001", "ms1361", "ms932", "ms936", "ms949",
    "ms950", "ms_kanji", "mskanji", "s_jis", "s_jis_2004", "s_jisx0213", "shiftjis",
    "shiftjis2004", "shiftjisx0213", "sjis", "sjis_2004", "sjisx0213", "u16", "u32", "u7",
    "u_jis", "uhc", "ujis", "unicode_1_1_utf_7", "unicodebigunmarked", "unicodelittleunmarked",
    "utf16", "utf32", "utf7", "utf_16be", "utf_16le", "utf_32be", "utf_32le", "x_mac_japanese",
    "x_mac_korean", "x_mac_simp_chinese", "x_mac_trad_chinese"]

/-- Names of encodings in single bytes that differ from ASCII below 128. -/
def foreignNames : List String :=
  ["cp037", "cp1026", "cp1140", "cp273", "cp424", "cp500", "cp864", "cp875", "mac_arabic",
    "mac_farsi"]

/-- Further names of these. -/
def foreignAliases : List String :=
  ["csibm037", "csibm1026", "csibm273", "csibm424", "csibm500", "csibm864", "ebcdic_cp_be",
    "ebcdic_cp_ca", "ebcdic_cp_ch", "ebcdic_cp_he", "ebcdic_cp_nl", "ebcdic_cp_us",
    "ebcdic_cp_wt", "ibm037", "ibm039", "ibm1026", "ibm1140", "ibm273", "ibm424", "ibm500",
    "ibm864"]

/-- A name in small letters. -/
def lowerName (name : String) : String :=
  String.ofList (name.toList.map Char.toLower)

/-- The encoding of single bytes that a name stands for. -/
def page? (name : String) : Except NameError Encoding :=
  let plain := plainName name
  match Codepage.named? plain with
  | some page => .ok (single page)
  | none =>
    if isNamed foreignNames foreignAliases plain then .error .contradicted
    else if isNamed wideNames wideAliases plain then .error (.wide name)
    else .error (.unknown name)

/-- The encoding that a declaration names, in a document of single bytes. -/
def named? (name : String) : Except NameError Encoding :=
  let n := lowerName name
  if n = "utf-8" then .ok utf8
  else if n = "iso-8859-1" then .ok (single .latin1)
  else if n = "us-ascii" then .ok (single .ascii)
  else if ["utf-16", "utf-16be", "utf-16le"].contains n then .error .contradicted
  else page? name

/-! ## Decoding -/

/-- The units of two bytes each, the high one first. -/
def units? : List UInt8 → Option (List Nat)
  | [] => some []
  | a :: b :: bytes => (units? bytes).map ((256 * a.toNat + b.toNat) :: ·)
  | [_] => none

/-- Bytes with the two of each pair exchanged. -/
def swapPairs : List UInt8 → List UInt8
  | a :: b :: bytes => b :: a :: swapPairs bytes
  | bytes => bytes

/-- The characters of UTF-16 units. -/
def charsOfUnits? : List Nat → Option (List Char)
  | [] => some []
  | u :: us =>
    if 0xd800 ≤ u && u < 0xdc00 then
      match us with
      | v :: rest =>
        if 0xdc00 ≤ v && v < 0xe000 then
          (charsOfUnits? rest).map
            (Char.ofNat (0x10000 + (u - 0xd800) * 0x400 + (v - 0xdc00)) :: ·)
        else none
      | [] => none
    else if 0xdc00 ≤ u && u < 0xe000 then none
    else (charsOfUnits? us).map (Char.ofNat u :: ·)

/-- The text that bytes stand for. -/
def decode? : Encoding → List UInt8 → Option (List Char)
  | utf8, bs => decodeUtf8? bs
  | utf16High, bs => (units? bs).bind charsOfUnits?
  | utf16Low, bs => (units? (swapPairs bs)).bind charsOfUnits?
  | single page, bs => page.decode? bs

/-! ## The encoding of a document -/

/-- What the first bytes of a document tell, and the bytes after a byte order mark. -/
def detect : List UInt8 → Encoding × List UInt8
  | 0xef :: 0xbb :: 0xbf :: bs => (utf8, bs)
  | 0xfe :: 0xff :: bs => (utf16High, bs)
  | 0xff :: 0xfe :: bs => (utf16Low, bs)
  | 0 :: bs => (utf16High, 0 :: bs)
  | b :: 0 :: bs => (utf16Low, b :: 0 :: bs)
  | bs => (utf8, bs)

/-- The name of the encoding that the declaration at the start of a text gives. -/
def declaredName? (text : List Char) : Option String :=
  match (afterWord? "<?xml" (unifyLineEnds text)).bind xmlDeclaration? with
  | some (.declaration encoding _, _) => encoding
  | _ => none

/-- Whether a name goes with a document in UTF-16. -/
def agrees (high : Bool) (name : String) : Bool :=
  let n := lowerName name
  n = "utf-16" || n = (if high then "utf-16be" else "utf-16le")

end Encoding

/-! ## Documents -/

/-- Why bytes are not a document. -/
inductive DocumentError where
  /-- The name of the encoding cannot be used. -/
  | encoding (e : Encoding.NameError)
  /-- The document is not well formed. -/
  | malformed
  deriving DecidableEq

/-- The tree of decoded text. -/
def ofChars? (text : List Char) : Except DocumentError Node :=
  match document? text with
  | some root => .ok root
  | none => .error .malformed

/-- The tree of a text, whatever encoding it declares. -/
def ofText? (text : String) : Except DocumentError Node :=
  match text.toList with
  | '\ufeff' :: cs => ofChars? cs
  | cs => ofChars? cs

/-- The tree of decoded bytes. -/
def ofDecoded? (text : Option (List Char)) : Except DocumentError Node :=
  match text with
  | some text => ofChars? text
  | none => .error .malformed

/-- The tree of a document in UTF-16. -/
def ofWide? (encoding : Encoding) (high : Bool) (bytes : List UInt8) : Except DocumentError Node :=
  match encoding.decode? bytes with
  | none => .error .malformed
  | some text =>
    match Encoding.declaredName? text with
    | none => ofChars? text
    | some name =>
      if Encoding.agrees high name then ofChars? text
      else
        match Encoding.named? name with
        | .error (.unknown name) => .error (.encoding (.unknown name))
        | .error (.wide name) => .error (.encoding (.wide name))
        | _ => .error .malformed

/-- The tree of a document in bytes. -/
def ofBytes? (bytes : List UInt8) : Except DocumentError Node :=
  match Encoding.detect bytes with
  | (.utf16High, body) => ofWide? .utf16High true body
  | (.utf16Low, body) => ofWide? .utf16Low false body
  | (_, body) =>
    let plain := body.map fun b => Char.ofNat b.toNat
    match Encoding.declaredName? plain with
    | none => ofDecoded? (Encoding.utf8.decode? body)
    | some name =>
      match Encoding.named? name with
      | .error .contradicted => .error .malformed
      | .error e => .error (.encoding e)
      | .ok encoding => ofDecoded? (encoding.decode? body)

end CoverageDiff.Markup
