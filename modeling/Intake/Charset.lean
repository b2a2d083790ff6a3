import Intake.Charset.Table
import Intake.Text.Quoted
import Intake.Text.Utf8
import Intake.Text.Word

namespace Intake

/-- How the characters of a text are written in octets. `foreign` charsets take several octets for
characters beyond ASCII and are read as far as they agree with it. -/
inductive Charset where
  | utf8
  | utf8Signed
  | utf16 (isBig : Option Bool)
  | utf32 (isBig : Option Bool)
  | ascii
  | latin1
  | table (t : Charset.ByteTable)
  | foreign (name : String)

namespace Charset

/-- Why octets are not read as text under the name of a charset. -/
inductive Problem where
  | unknown (name : String)
  | notText (name : String)
  | undefined
  | hasNull
  | badName
  | malformed (codec : String) (octet : UInt8) (start stop : Nat) (reason : String)
  deriving DecidableEq, Repr

namespace Problem

def message : Problem → String
  | .unknown name => "unknown encoding: " ++ name
  | .notText name =>
    "'" ++ name ++ "' is not a text encoding; use codecs.decode() to handle arbitrary codecs"
  | .undefined => "undefined encoding"
  | .hasNull => "embedded null character"
  | .badName => ""
  | .malformed codec octet start stop reason =>
    "'" ++ codec ++ "' codec can't decode " ++
      (if stop = start + 1 then "byte 0x" ++ String.ofList (Text.hex 2 octet.toNat) ++ " in position " ++ toString start
        else "bytes in position " ++ toString start ++ "-" ++ toString (stop - 1)) ++
      ": " ++ reason

end Problem

/-- A charset's name with its letters and digits alone, stretches of others made one underscore. -/
def normalized (name : String) : String :=
  let rec go (gap : Bool) (started : Bool) : List Char → List Char
    | [] => []
    | c :: rest =>
      if c = '.' || (Text.isWord c && c ≠ '_') then
        let shown := if c.toNat < 128 then [c.toLower] else []
        (if gap && started then ['_'] else []) ++ shown ++ go false (started || !shown.isEmpty) rest
      else go true started rest
  String.ofList (go false false name.toList)

def utfNames : List (List String × Charset) := [
  (["utf_8", "cp65001", "u8", "utf", "utf8", "utf8_ucs2", "utf8_ucs4"], .utf8),
  (["utf_8_sig"], .utf8Signed),
  (["utf_16", "u16", "utf16"], .utf16 none),
  (["utf_16_le", "unicodelittleunmarked", "utf_16le"], .utf16 (some false)),
  (["utf_16_be", "unicodebigunmarked", "utf_16be"], .utf16 (some true)),
  (["utf_32", "u32", "utf32"], .utf32 none),
  (["utf_32_le", "utf_32le"], .utf32 (some false)),
  (["utf_32_be", "utf_32be"], .utf32 (some true)),
  (["ascii", "646", "ansi_x3_4_1968", "ansi_x3_4_1986", "cp367", "csascii", "ibm367", "iso646_us",
    "iso_646_irv_1991", "iso_ir_6", "us", "us_ascii"], .ascii),
  (["latin_1", "8859", "cp819", "csisolatin1", "ibm819", "iso8859", "iso8859_1", "iso_8859_1",
    "iso_8859_1_1987", "iso_ir_100", "l1", "latin", "latin1"], .latin1)]

/-- The names of charsets of several octets a character, each group under the name in its messages. -/
def foreignNames : List (List String) := [
  ["big5", "big5_tw", "csbig5", "x_mac_trad_chinese"], ["big5hkscs", "big5_hkscs", "hkscs"],
  ["cp932", "932", "ms932", "ms_kanji", "mskanji"], ["cp949", "949", "ms949", "uhc"],
  ["cp950", "950", "ms950"],
  ["euc_jis_2004", "euc_jis2004", "eucjis2004", "jisx0213"], ["euc_jisx0213", "eucjisx0213"],
  ["euc_jp", "eucjp", "u_jis", "ujis"],
  ["euc_kr", "euckr", "korean", "ks_c_5601", "ks_c_5601_1987", "ks_x_1001", "ksc5601", "ksx1001",
    "x_mac_korean"],
  ["gb18030", "gb18030_2000"],
  ["gb2312", "chinese", "csiso58gb231280", "euc_cn", "euccn", "eucgb2312_cn", "gb2312_1980",
    "gb2312_80", "iso_ir_58", "x_mac_simp_chinese"],
  ["gbk", "936", "cp936", "ms936"], ["johab", "cp1361", "ms1361"],
  ["shift_jis", "csshiftjis", "s_jis", "shiftjis", "sjis", "x_mac_japanese"],
  ["shift_jis_2004", "s_jis_2004", "shiftjis2004", "sjis_2004"],
  ["shift_jisx0213", "s_jisx0213", "shiftjisx0213", "sjisx0213"]]

/-- Names of transformations that do not lead to text. -/
def otherNames : List String := ["base64_codec", "base64", "base_64", "bz2_codec", "bz2", "hex_codec",
  "hex", "quopri_codec", "quopri", "quoted_printable", "quotedprintable", "rot_13", "rot13", "uu_codec",
  "uu", "zlib_codec", "zip", "zlib"]

def byName? (name : String) : Option Charset :=
  match utfNames.find? fun e => e.1.contains name with
  | some e => some e.2
  | none =>
    match tables.find? fun t => t.names.contains name with
    | some t => some (.table t)
    | none => (foreignNames.find? fun ns => ns.contains name).bind fun ns =>
      ns.head?.map .foreign

/-- The charset of a name in any spelling. -/
def ofName (name : String) : Except Problem Charset :=
  let key := String.ofList ((normalized name).toList.map fun c => if c = '.' then '_' else c)
  if name.toList.contains '\x00' then .error .hasNull
  else if Text.hasSurrogate name.toList then .error .badName
  else if key = "undefined" then .error .undefined
  else if otherNames.contains key then .error (.notText name)
  else
    match byName? key with
    | some c => .ok c
    | none => .error (.unknown name)

def word (isBig : Bool) (a b : UInt8) : Nat :=
  if isBig then a.toNat * 256 + b.toNat else b.toNat * 256 + a.toNat

def isHigh (n : Nat) : Bool := 0xD800 ≤ n && n ≤ 0xDBFF

def isLow (n : Nat) : Bool := 0xDC00 ≤ n && n ≤ 0xDFFF

/-- The first character of octets in pairs and how many octets after the first it takes. -/
def utf16Step (isBig : Bool) (a : UInt8) : List UInt8 → Except Text.BadOctets (Char × Nat)
  | [] => .error ⟨1, "truncated data"⟩
  | b :: rest =>
    let n := word isBig a b
    if isLow n then .error ⟨2, "illegal encoding"⟩
    else if !isHigh n then .ok (Char.ofNat n, 1)
    else
      match rest with
      | c :: d :: _ =>
        let m := word isBig c d
        if isLow m then .ok (Char.ofNat (0x10000 + (n - 0xD800) * 0x400 + (m - 0xDC00)), 3)
        else .error ⟨2, "illegal UTF-16 surrogate"⟩
      | rest => .error ⟨2 + rest.length, "unexpected end of data"⟩

/-- The first character of octets in fours and how many octets after the first it takes. -/
def utf32Step (isBig : Bool) (a : UInt8) : List UInt8 → Except Text.BadOctets (Char × Nat)
  | b :: c :: d :: _ =>
    let n := if isBig then word true a b * 65536 + word true c d
      else word false c d * 65536 + word false a b
    if isHigh n || isLow n then
      .error ⟨4, "code point in surrogate code point range(0xd800, 0xe000)"⟩
    else if n < 0x110000 then .ok (Char.ofNat n, 3)
    else .error ⟨4, "code point not in range(0x110000)"⟩
  | rest => .error ⟨1 + rest.length, "truncated data"⟩

def asciiStep (reason : String) (a : UInt8) : Except Text.BadOctets (Char × Nat) :=
  if a < 128 then .ok (Char.ofNat a.toNat, 0) else .error ⟨1, reason⟩

/-- The character of an octet, unless the table has none for it. -/
def ByteTable.charAt? (t : ByteTable) (b : UInt8) : Option Char :=
  if b.toNat < t.first then some (Char.ofNat b.toNat)
  else (t.characters.toList[b.toNat - t.first]?).bind fun c =>
    if c.toNat = 0xFFFE then none else some c

def tableStep (t : ByteTable) (a : UInt8) : Except Text.BadOctets (Char × Nat) :=
  match t.charAt? a with
  | some c => .ok (c, 0)
  | none => .error ⟨1, "character maps to <undefined>"⟩

/-- Octets read one character after another from a position on. -/
def readAll (codec : String) (step : UInt8 → List UInt8 → Except Text.BadOctets (Char × Nat))
    (position : Nat) : List UInt8 → Except Problem (List Char)
  | [] => .ok []
  | b :: rest =>
    match step b rest with
    | .ok (c, n) => (readAll codec step (position + 1 + n) (rest.drop n)).map (c :: ·)
    | .error bad => .error (.malformed codec b position (position + bad.size) bad.reason)
termination_by bs => bs.length
decreasing_by simp only [List.length_drop, List.length_cons]; omega

/-- The byte order that a mark at the start asks for, with the size of the mark. -/
def markedOrder (marks : List (List UInt8 × Bool)) (bytes : List UInt8) : Bool × Nat :=
  match marks.find? fun m => m.1.isPrefixOf bytes with
  | some (mark, isBig) => (isBig, mark.length)
  | none => (false, 0)

def orderSuffix (isBig : Bool) : String := if isBig then "-be" else "-le"

/-- The text that octets write in a charset. -/
def decode (c : Charset) (bytes : List UInt8) : Except Problem (List Char) :=
  match c with
  | .utf8 => readAll "utf-8" Text.utf8Step 0 bytes
  | .utf8Signed =>
    readAll "utf-8" Text.utf8Step 0
      (if [0xEF, 0xBB, 0xBF].isPrefixOf bytes then bytes.drop 3 else bytes)
  | .utf16 order =>
    let (isBig, skipped) := match order with
      | some isBig => (isBig, 0)
      | none => markedOrder [([0xFF, 0xFE], false), ([0xFE, 0xFF], true)] bytes
    readAll ("utf-16" ++ orderSuffix isBig) (utf16Step isBig) skipped (bytes.drop skipped)
  | .utf32 order =>
    let (isBig, skipped) := match order with
      | some isBig => (isBig, 0)
      | none => markedOrder [([0xFF, 0xFE, 0, 0], false), ([0, 0, 0xFE, 0xFF], true)] bytes
    readAll ("utf-32" ++ orderSuffix isBig) (utf32Step isBig) skipped (bytes.drop skipped)
  | .ascii => readAll "ascii" (fun b _ => asciiStep "ordinal not in range(128)" b) 0 bytes
  | .latin1 => .ok (bytes.map fun b => Char.ofNat b.toNat)
  | .table t => readAll "charmap" (fun b _ => tableStep t b) 0 bytes
  | .foreign name => readAll name (fun b _ => asciiStep "illegal multibyte sequence" b) 0 bytes

/-- The text that octets write in the charset of a name; no octets write the empty text under any. -/
def decodeNamed (name : String) (bytes : List UInt8) : Except Problem String := do
  if name.toList.contains '\x00' then throw .hasNull
  if Text.hasSurrogate name.toList then throw .badName
  if bytes.isEmpty then return ""
  return String.ofList (← (← ofName name).decode bytes)

end Charset

end Intake
