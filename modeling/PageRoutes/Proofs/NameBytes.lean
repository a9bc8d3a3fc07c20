import Mathlib.Data.List.Sort
import Mathlib.Data.String.Basic

/-!
# Texts and their bytes

A text is read from its bytes if they are valid UTF-8.  A file system compares names by their
bytes.  In UTF-8 the bytes of a code are its digits in base 64, the first of them behind a mark for
their number, and larger codes never have fewer digits.  So texts that are in the order of their
characters are in the order of their bytes.
-/

namespace PageRoutes.Text

/-- The bytes of a text in UTF-8. -/
def bytes (text : String) : List UInt8 :=
  text.toUTF8.data.toList

theorem bytes_eq_flatMap (text : String) :
    bytes text = text.toList.flatMap String.utf8EncodeChar := by
  rw [bytes, String.toUTF8_eq_toByteArray, ← String.utf8Encode_toList, List.utf8Encode,
    List.data_toByteArray, List.toList_toArray]

theorem fromUTF8?_eq_some_iff {bytes : ByteArray} {text : String} :
    String.fromUTF8? bytes = some text ↔ bytes = text.toUTF8 := by
  rw [String.toUTF8_eq_toByteArray]
  unfold String.fromUTF8?
  split
  · rw [Option.some.injEq, ← String.toByteArray_inj, String.fromUTF8]
  · rename_i hinvalid
    refine iff_of_false (by simp) ?_
    rintro rfl
    exact hinvalid text.isValidUTF8

theorem fromUTF8?_eq_none_iff {bytes : ByteArray} :
    String.fromUTF8? bytes = none ↔ ¬bytes.IsValidUTF8 := by
  unfold String.fromUTF8?
  split <;> simpa

/-! ## Codes -/

/-- The digits of a code in base 64, of which the first is added to `lead`, as UTF-8 has them.
There are `count` digits behind the first. -/
def encodeCode (lead : Nat) : (count code : Nat) → List UInt8
  | 0, code => [UInt8.ofNat (code + lead)]
  | count + 1, code => encodeCode lead count (code / 64) ++ [UInt8.ofNat (code % 64 + 128)]

/-- Digits and marks that fit in a byte are compared as numbers. -/
theorem ofNat_lt_ofNat {m n : Nat} (hlt : m < n) (hn : n < 256) :
    UInt8.ofNat m < UInt8.ofNat n := by
  rw [UInt8.lt_iff_toNat_lt, UInt8.toNat_ofNat_of_lt' (hlt.trans hn), UInt8.toNat_ofNat_of_lt' hn]
  exact hlt

theorem encodeCode_eq_cons (lead count code : Nat) :
    ∃ rest, encodeCode lead count code = UInt8.ofNat (code / 64 ^ count + lead) :: rest := by
  induction count generalizing code with
  | zero => exact ⟨[], by rw [encodeCode, pow_zero, Nat.div_one]⟩
  | succ count ih =>
    obtain ⟨rest, hrest⟩ := ih (code / 64)
    rw [encodeCode, hrest, Nat.div_div_eq_div_mul, ← Nat.pow_succ']
    exact ⟨_, rfl⟩

/-- Of two codes with different first bytes these decide. -/
theorem encodeCode_append_lt_of_first {lead lead' count count' code code' : Nat}
    (hlt : code / 64 ^ count + lead < code' / 64 ^ count' + lead')
    (hroom : code' / 64 ^ count' + lead' < 256) (rest rest' : List UInt8) :
    encodeCode lead count code ++ rest < encodeCode lead' count' code' ++ rest' := by
  obtain ⟨digits, hdigits⟩ := encodeCode_eq_cons lead count code
  obtain ⟨digits', hdigits'⟩ := encodeCode_eq_cons lead' count' code'
  rw [hdigits, hdigits', List.cons_append, List.cons_append, List.cons_lt_cons_iff]
  exact Or.inl (ofNat_lt_ofNat hlt hroom)

/-- Of two codes with the same number of digits the first different digits decide. -/
theorem encodeCode_append_lt {lead count code code' : Nat} (hlt : code < code')
    (hroom : code' / 64 ^ count + lead < 256) (rest rest' : List UInt8) :
    encodeCode lead count code ++ rest < encodeCode lead count code' ++ rest' := by
  induction count generalizing code code' rest rest' with
  | zero =>
    rw [pow_zero, Nat.div_one] at hroom
    exact encodeCode_append_lt_of_first (by simpa using hlt) (by simpa using hroom) rest rest'
  | succ count ih =>
    rw [encodeCode, encodeCode, List.append_assoc, List.append_assoc]
    rcases (Nat.div_le_div_right (c := 64) hlt.le).lt_or_eq with hfront | hfront
    · rw [Nat.pow_succ', ← Nat.div_div_eq_div_mul] at hroom
      exact ih hfront hroom _ _
    · rw [hfront]
      refine List.append_left_lt (List.cons_lt_cons_iff.2 (Or.inl (ofNat_lt_ofNat ?_ ?_)))
      · omega
      · omega

/-! ## Characters and texts -/

theorem toNat_lt (c : Char) : c.toNat < 0x110000 := by
  have hvalid := c.valid
  simp only [UInt32.isValidChar, Nat.isValidChar] at hvalid
  rw [← Char.toNat_val]
  omega

/-- UTF-8 has up to three digits behind the first and marks their number. -/
theorem utf8EncodeChar_eq_encodeCode (c : Char) :
    String.utf8EncodeChar c =
      if c.toNat ≤ 0x7f then encodeCode 0 0 c.toNat
      else if c.toNat ≤ 0x7ff then encodeCode 192 1 c.toNat
      else if c.toNat ≤ 0xffff then encodeCode 224 2 c.toNat
      else encodeCode 240 3 c.toNat := by
  have hroom := toNat_lt c
  unfold String.utf8EncodeChar
  rw [Char.toNat_val]
  dsimp only
  generalize c.toNat = code at hroom ⊢
  simp only [encodeCode, Nat.add_zero, List.cons_append, List.nil_append, Nat.div_div_eq_div_mul,
    Nat.reduceMul]
  -- the first digit needs no reduction
  split_ifs with h7 h11 h16
  · rfl
  · rw [Nat.mod_eq_of_lt (a := code / 64) (by omega)]
  · rw [Nat.mod_eq_of_lt (a := code / 4096) (by omega)]
  · rw [Nat.mod_eq_of_lt (a := code / 262144) (by omega)]

/-- The bytes of a smaller character are smaller, whatever follows. -/
theorem utf8EncodeChar_append_lt {c d : Char} (h : c < d) (rest rest' : List UInt8) :
    String.utf8EncodeChar c ++ rest < String.utf8EncodeChar d ++ rest' := by
  have hlt : c.toNat < d.toNat := h
  have hroom := toNat_lt d
  rw [utf8EncodeChar_eq_encodeCode, utf8EncodeChar_eq_encodeCode]
  generalize c.toNat = code at hlt ⊢
  generalize d.toNat = code' at hlt hroom ⊢
  -- with as many digits the digits decide, and otherwise the first byte does
  split_ifs <;> first
    | omega
    | exact encodeCode_append_lt hlt (by omega) _ _
    | exact encodeCode_append_lt_of_first (by omega) (by omega) _ _

theorem flatMap_utf8EncodeChar_lt {chars chars' : List Char} (h : chars < chars') :
    chars.flatMap String.utf8EncodeChar < chars'.flatMap String.utf8EncodeChar := by
  induction h with
  | @nil c rest =>
    obtain ⟨first, others, hfirst⟩ :=
      List.exists_cons_of_ne_nil (String.utf8EncodeChar_ne_nil (c := c))
    rw [List.flatMap_nil, List.flatMap_cons, hfirst]
    exact List.nil_lt_cons _ _
  | cons _ ih => exact List.append_left_lt ih
  | rel h => exact utf8EncodeChar_append_lt h _ _

/-- A text in front of another has smaller bytes. -/
theorem bytes_lt_of_lt {a b : String} (h : a < b) : bytes a < bytes b := by
  rw [bytes_eq_flatMap, bytes_eq_flatMap]
  exact flatMap_utf8EncodeChar_lt (String.lt_iff_toList_lt.1 h)

theorem map_bytes_lt_of_lt {texts texts' : List String} (h : texts < texts') :
    texts.map bytes < texts'.map bytes :=
  List.map_lt (fun _ _ => bytes_lt_of_lt) h

end PageRoutes.Text
