import OnlineVoting.Platform

/-!
# The text of a digest

`sha256` writes every byte of a digest as two hexadecimal digits. The digits of a byte determine
it, and so does the text of a digest, also under a comparison that ignores letter case and
trailing spaces: none of its characters is a space or a capital.
-/
namespace OnlineVoting

/-! ## Bytes -/

/-- The digits of `%02x` for a signed byte: its value modulo 256 in base 16, padded with zeros. -/
def paddedHex (b : Int8) : List Char :=
  (Nat.toDigits 16 (b.toInt % 256).toNat).leftpad 2 '0'

/-- The two digits of a byte are those of `%02x` for its signed value. -/
theorem hexByte_eq_paddedHex (b : UInt8) : hexByte b = paddedHex b.toInt8 := by
  have all : ∀ n < 256, hexByte (UInt8.ofNat n) = paddedHex (UInt8.ofNat n).toInt8 := by
    decide +kernel
  have own := all b.toNat b.toNat_lt
  rwa [UInt8.ofNat_toNat] at own

/-- A byte is written with two digits. -/
theorem hexByte_length (b : UInt8) : (hexByte b).length = 2 := rfl

/-- The digits of hexadecimal numerals. -/
def hexDigits : List Char := "0123456789abcdef".toList

/-- The digit of a half of a byte is a hexadecimal one. -/
theorem digitChar_mem_hexDigits : ∀ n < 16, Nat.digitChar n ∈ hexDigits := by decide +kernel

/-- Different halves of bytes have different digits. -/
theorem digitChar_injective : ∀ m < 16, ∀ n < 16, Nat.digitChar m = Nat.digitChar n → m = n := by
  decide +kernel

/-- A byte is determined by its digits. -/
theorem hexByte_injective (left right : UInt8) (same : hexByte left = hexByte right) :
    left = right := by
  simp only [hexByte, List.cons.injEq, and_true] at same
  have leftBound := left.toNat_lt
  have rightBound := right.toNat_lt
  have high : left.toNat / 16 = right.toNat / 16 :=
    digitChar_injective _ (by omega) _ (by omega) same.1
  have low : left.toNat % 16 = right.toNat % 16 :=
    digitChar_injective _ (by omega) _ (by omega) same.2
  have equal : left.toNat = right.toNat := by omega
  exact UInt8.toNat_inj.mp equal

/-- Bytes are determined by their digits, one after the other. -/
theorem hexBytes_injective (left right : List UInt8)
    (same : left.flatMap hexByte = right.flatMap hexByte) : left = right := by
  induction left generalizing right with
  | nil =>
    cases right with
    | nil => rfl
    | cons b rest => simp [hexByte] at same
  | cons b rest ih =>
    cases right with
    | nil => simp [hexByte] at same
    | cons c others =>
      rw [List.flatMap_cons, List.flatMap_cons] at same
      obtain ⟨first, more⟩ := List.append_inj same rfl
      rw [hexByte_injective b c first, ih others more]

/-! ## Digests -/

/-- The digest of the UTF-8 bytes of a text. -/
def digestOf (input : String) : Vector UInt8 32 := Sha256.digest input.toUTF8.data.toList

/-- The text of a digest is that of its bytes. -/
theorem sha256_toList (input : String) :
    (sha256 input).toList = (digestOf input).toList.flatMap hexByte := by
  rw [sha256, String.toList_ofList, digestOf]

/-- The text of a digest has 64 characters. -/
theorem sha256_length (input : String) : (sha256 input).toList.length = 64 := by
  rw [sha256_toList, List.length_flatMap]
  have widths : (digestOf input).toList.map (fun b => (hexByte b).length) =
      List.replicate 32 2 := by
    rw [List.eq_replicate_iff]
    refine ⟨by simp, fun width present => ?_⟩
    obtain ⟨b, _, rfl⟩ := List.mem_map.mp present
    exact hexByte_length b
  rw [widths]
  decide

/-- The text of a digest is made of hexadecimal digits. -/
theorem sha256_hexDigits (input : String) : ∀ c ∈ (sha256 input).toList, c ∈ hexDigits := by
  intro c present
  rw [sha256_toList, List.mem_flatMap] at present
  obtain ⟨b, _, inside⟩ := present
  have bound := b.toNat_lt
  simp only [hexByte, List.mem_cons, List.not_mem_nil, or_false] at inside
  rcases inside with rfl | rfl
  · exact digitChar_mem_hexDigits _ (by omega)
  · exact digitChar_mem_hexDigits _ (by omega)

/-- Two texts of digests are equal exactly if the digests are. -/
theorem sha256_inj (left right : String) :
    sha256 left = sha256 right ↔ digestOf left = digestOf right := by
  constructor
  · intro same
    have bytes : (digestOf left).toList = (digestOf right).toList := by
      refine hexBytes_injective _ _ ?_
      rw [← sha256_toList, ← sha256_toList, same]
    exact Vector.toList_inj.mp bytes
  · intro same
    have bytes : (sha256 left).toList = (sha256 right).toList := by
      rw [sha256_toList, sha256_toList, same]
    exact String.toList_inj.mp bytes

/-- A comparison that ignores letter case and trailing spaces finds a text of a digest as it is. -/
theorem foldText_sha256 (input : String) : foldText (sha256 input) = (sha256 input).toList := by
  rw [foldText_word _ fun c present => (sha256_hex input c present).1, sha256_toLower]

variable [Platform]

/-- The text of a digest has 64 hexadecimal digits, two for each byte, so it fits its column; and
it compares equal to another exactly if the digests are equal, if letter case and trailing spaces
are ignored and under the collation of the column. -/
theorem sha256_faithful :
    (∀ input, (sha256 input).toList.length = 64 ∧
      (∀ c ∈ (sha256 input).toList, c ∈ hexDigits) ∧
      (sha256 input).toList = (digestOf input).toList.flatMap (fun b => paddedHex b.toInt8) ∧
      (TextType.varchar 64).fits (sha256 input) = true) ∧
    ∀ left right,
      (foldText (sha256 left) = foldText (sha256 right) ↔ digestOf left = digestOf right) ∧
      (collates (sha256 left) (sha256 right) = true ↔ digestOf left = digestOf right) := by
  refine ⟨fun input => ⟨sha256_length input, sha256_hexDigits input, ?_, ?_⟩,
    fun left right => ⟨?_, ?_⟩⟩
  · rw [sha256_toList, funext hexByte_eq_paddedHex]
  · have length := sha256_length input
    simp [TextType.fits, ← String.length_toList, length]
  · rw [foldText_sha256, foldText_sha256, String.toList_inj, sha256_inj]
  · rw [collates_sha256, sha256_inj]

end OnlineVoting
