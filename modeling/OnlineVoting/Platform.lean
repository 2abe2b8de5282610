import OnlineVoting.Library.Sha256

/-!
# What the program takes from Java and from MariaDB

The Java text functions that decide anything are written out: `trim`, `Integer.parseInt`,
`contains` and the hexadecimal digest. What depends on the installation is a field of
`Platform`: the upper-casing of the default locale, the column character set, what messages of the
server quote of a value, and the collation that both the UNIQUE index and `=` use. Every result
holds on every platform.
-/
namespace OnlineVoting

/-- The installation the program runs on. -/
class Platform where
  /-- `String.toUpperCase` in the default locale. -/
  toUpperCase : String → String
  /-- Bytes of a character in the column character set, if it has it. -/
  charBytes : Char → Option Nat
  /-- The excerpt of unstorable text that MariaDB quotes in its message, for `%-.128T`. -/
  excerpt : String → String
  /-- What a message of MariaDB quotes of a value, for a format `%-.nT`. -/
  quoted : Nat → String → String
  /-- The collation of the text columns: equality of a UNIQUE index and of `=`. -/
  collates : String → String → Bool
  /-- One equivalence relation. -/
  collates_equivalence : Equivalence fun left right => collates left right = true
  /-- On words of ASCII letters and digits it ignores nothing but letter case. -/
  collates_alphanumeric : ∀ left right : String,
    (∀ c ∈ left.toList, c.isAlphanum) → (∀ c ∈ right.toList, c.isAlphanum) →
      (collates left right = true ↔
        left.toList.map Char.toLower = right.toList.map Char.toLower)

export Platform (toUpperCase collates)

/-! ## Java text -/

/-- Characters that `trim` removes: everything up to the space. -/
def blank (c : Char) : Bool := c ≤ ' '

/-- `String.trim`. -/
def trim (text : String) : String :=
  String.ofList ((text.toList.dropWhile blank).reverse.dropWhile blank).reverse

/-- The zeros of the decimal digit ranges that `Character.digit` knows in one UTF-16 unit. -/
def decimalZeros : List Nat :=
  [0x30, 0x660, 0x6F0, 0x7C0, 0x966, 0x9E6, 0xA66, 0xAE6, 0xB66, 0xBE6, 0xC66, 0xCE6, 0xD66,
    0xDE6, 0xE50, 0xED0, 0xF20, 0x1040, 0x1090, 0x17E0, 0x1810, 0x1946, 0x19D0, 0x1A80, 0x1A90,
    0x1B50, 0x1BB0, 0x1C40, 0x1C50, 0xA620, 0xA8D0, 0xA900, 0xA9D0, 0xA9F0, 0xAA50, 0xABF0,
    0xFF10]

/-- `Character.digit(c, 10)`. -/
def digit (c : Char) : Option Nat :=
  (decimalZeros.find? fun start => start ≤ c.toNat && c.toNat < start + 10).map (c.toNat - ·)

/-- The value of a run of digits read so far and still to come. -/
def parseDigits : List Char → Nat → Option Nat
  | [], value => some value
  | c :: rest, value => (digit c).bind fun d => parseDigits rest (10 * value + d)

/-- `Integer.parseInt`; `none` for a `NumberFormatException`. -/
def parseInt (text : String) : Option Int :=
  match text.toList with
  | [] | ['-'] | ['+'] => none
  | '-' :: rest => (parseDigits rest 0).bind fun n => if n ≤ 2 ^ 31 then some (-n) else none
  | '+' :: rest => (parseDigits rest 0).bind fun n => if n < 2 ^ 31 then some n else none
  | rest => (parseDigits rest 0).bind fun n => if n < 2 ^ 31 then some n else none

/-- `NumberFormatException.getMessage` of a refused text. -/
def numberFormatMessage (text : String) : String := "For input string: \"" ++ text ++ "\""

/-- `String.contains`. -/
def contains (text part : String) : Bool := decide (part.toList <:+: text.toList)

/-- `String.format("%02x", b)`: a signed byte prints modulo 256. -/
def hexByte (b : UInt8) : List Char :=
  [Nat.digitChar (b.toNat / 16), Nat.digitChar (b.toNat % 16)]

/-- `sha256`: the hexadecimal digest of the UTF-8 bytes of a password. -/
def sha256 (input : String) : String :=
  String.ofList ((Sha256.digest input.toUTF8.data.toList).toList.flatMap hexByte)

/-- Digits of a byte are lower-case letters and digits of ASCII. -/
theorem digitChar_hex : ∀ n < 16, (Nat.digitChar n).isAlphanum = true ∧
    (Nat.digitChar n).toLower = Nat.digitChar n := by decide

/-- The digest text is made of lower-case letters and digits of ASCII. -/
theorem sha256_hex (input : String) :
    ∀ c ∈ (sha256 input).toList, c.isAlphanum = true ∧ c.toLower = c := by
  intro c present
  simp only [sha256, String.toList_ofList, List.mem_flatMap] at present
  obtain ⟨b, _, inside⟩ := present
  have bound := b.toNat_lt
  simp only [hexByte, List.mem_cons, List.not_mem_nil, or_false] at inside
  rcases inside with rfl | rfl
  · exact digitChar_hex _ (by omega)
  · exact digitChar_hex _ (by omega)

/-- The digest text has no capitals. -/
theorem sha256_toLower (input : String) :
    (sha256 input).toList.map Char.toLower = (sha256 input).toList := by
  rw [List.map_congr_left fun c present => (sha256_hex input c present).2, List.map_id']

/-! ## Text in columns -/

variable [Platform]

/-- Two digests that `=` takes for equal are equal. -/
theorem collates_sha256 (left right : String) :
    collates (sha256 left) (sha256 right) = true ↔ sha256 left = sha256 right := by
  rw [Platform.collates_alphanumeric _ _ (fun c present => (sha256_hex left c present).1)
    (fun c present => (sha256_hex right c present).1), sha256_toLower, sha256_toLower,
    String.toList_inj]

/-- The declared type of a text column. -/
inductive TextType where
  /-- `VARCHAR(width)`: a number of characters. -/
  | varchar (width : Nat)
  /-- `TEXT`: a number of bytes. -/
  | text
  deriving DecidableEq

/-- Every character has a place in the column character set. -/
def encodable (text : String) : Bool := text.toList.all fun c => (Platform.charBytes c).isSome

/-- Encodable text that is not too long for its column. -/
def TextType.fits : TextType → String → Bool
  | .varchar width, value => value.length ≤ width
  | .text, value => (value.toList.map fun c => (Platform.charBytes c).getD 0).sum ≤ 65535

/-- `java.sql.SQLException`, as far as the program looks at it. -/
structure SqlException where
  /-- `getMessage`. -/
  message : String
  deriving DecidableEq

/-- A column of a table of `online_voting`. -/
structure ColumnName where
  /-- The table. -/
  table : String
  /-- The column. -/
  name : String
  deriving DecidableEq

/-- Strict mode refuses text its column cannot hold. -/
def TextType.check (type : TextType) (column : ColumnName) (value : String) :
    Except SqlException Unit :=
  if encodable value then
    if type.fits value then .ok ()
    else .error ⟨"Data truncation: Data too long for column '" ++ column.name ++ "' at row 1"⟩
  else .error ⟨"Data truncation: Incorrect string value: '" ++ Platform.excerpt value ++
    "' for column `online_voting`.`" ++ column.table ++ "`.`" ++ column.name ++ "` at row 1"⟩

/-! ## The installation the repository ships -/

/-- Text without its trailing spaces and without letter case, as ASCII text. -/
def foldText (text : String) : List Char :=
  ((text.toList.reverse.dropWhile (· = ' ')).reverse).map Char.toLower

omit [Platform] in
/-- A word of letters and digits has no trailing spaces to ignore. -/
theorem foldText_word (text : String) (word : ∀ c ∈ text.toList, c.isAlphanum = true) :
    foldText text = text.toList.map Char.toLower := by
  have kept : text.toList.reverse.dropWhile (· = ' ') = text.toList.reverse := by
    cases reversed : text.toList.reverse with
    | nil => rfl
    | cons c rest =>
      have last : c ∈ text.toList := by
        rw [← List.mem_reverse, reversed]
        exact List.mem_cons_self
      have solid : c ≠ ' ' := by
        rintro rfl
        exact absurd (word _ last) (by decide)
      simp [solid]
  rw [foldText, kept, List.reverse_reverse]

/-- The database of the repository is `latin1_swedish_ci`: one byte for a character, letter case
and trailing spaces ignored. On ASCII text this is what the installation does; beyond ASCII each
field says what it leaves out. -/
@[reducible] def latin1 : Platform where
  -- Only the letters of ASCII; Java also capitalises the others of its locale.
  toUpperCase text := text.map Char.toUpper
  -- The code points below 256; the shipped `latin1` is cp1252 between 0x80 and 0x9F.
  charBytes c := if c.toNat < 256 then some 1 else none
  -- Text as it is; MariaDB writes the bytes beyond ASCII as `\xNN`.
  excerpt text := text
  -- Too long a value ends with dots; MariaDB counts the bytes of UTF-8 here.
  quoted width text :=
    if text.length ≤ width then text
    else String.ofList (text.toList.take (width - 3)) ++ "..."
  -- Case of the letters of ASCII; the collation also identifies letters with their accents.
  collates left right := foldText left = foldText right
  collates_equivalence := ⟨by simp, by
      intro left right same
      simpa using (of_decide_eq_true same).symm, by
      intro left middle right first second
      simpa using (of_decide_eq_true first).trans (of_decide_eq_true second)⟩
  collates_alphanumeric := by
    intro left right leftWord rightWord
    rw [decide_eq_true_iff, foldText_word left leftWord, foldText_word right rightWord]

end OnlineVoting
