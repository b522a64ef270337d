import SearchOperator.Json.Text
import SearchOperator.Proofs.Json.Reader

/-!
# Strings read back

The bytes of a text are the bytes of its characters in order. A character that is not escaped gives
no byte that means anything inside a string, and an escaped one is what its escape stands for, so a
string that was written is read back up to its closing quote.
-/

namespace SearchOperator.Json

/-! ## Bytes of characters -/

def utf8 (cs : List Char) : Bytes := cs.flatMap String.utf8EncodeChar

@[simp]
theorem utf8_nil : utf8 [] = [] := rfl

theorem utf8_cons (c : Char) (cs : List Char) :
    utf8 (c :: cs) = String.utf8EncodeChar c ++ utf8 cs := rfl

@[simp]
theorem utf8_append (cs ds : List Char) : utf8 (cs ++ ds) = utf8 cs ++ utf8 ds :=
  List.flatMap_append

/-- A character of ASCII is one byte. -/
theorem utf8EncodeChar_of_ascii {c : Char} (ascii : c.toNat < 0x80) :
    String.utf8EncodeChar c = [UInt8.ofNat c.toNat] := by
  have small : c.val.toNat ≤ 0x7F := Nat.le_of_lt_succ ascii
  rw [String.utf8EncodeChar]
  simp only [if_pos small]
  rfl

/-- No byte of a character beyond ASCII is one of ASCII. -/
theorem high_of_mem_utf8EncodeChar {c : Char} (high : 0x80 ≤ c.toNat) {b : UInt8}
    (member : b ∈ String.utf8EncodeChar c) : 0x80 ≤ b.toNat := by
  have large : ¬ c.val.toNat ≤ 0x7F := Nat.not_le.mpr high
  rw [String.utf8EncodeChar] at member
  simp only [if_neg large] at member
  split at member
  · simp only [List.mem_cons, List.not_mem_nil, or_false] at member
    rcases member with rfl | rfl <;> simp only [UInt8.toNat_ofNat'] <;> omega
  · split at member
    · simp only [List.mem_cons, List.not_mem_nil, or_false] at member
      rcases member with rfl | rfl | rfl <;> simp only [UInt8.toNat_ofNat'] <;> omega
    · simp only [List.mem_cons, List.not_mem_nil, or_false] at member
      rcases member with rfl | rfl | rfl | rfl <;> simp only [UInt8.toNat_ofNat'] <;> omega

theorem bytesOf_ofList (cs : List Char) : bytesOf (String.ofList cs) = utf8 cs := by
  rw [bytesOf, String.toUTF8_eq_toByteArray, String.toByteArray_ofList, List.utf8Encode,
    List.toList_data_toByteArray]
  rfl

/-- Bytes of characters are text. -/
theorem textOfBytes?_utf8 (s : String) : Reader.textOfBytes? (utf8 s.toList) = some s := by
  have encoded : (⟨(utf8 s.toList).toArray⟩ : ByteArray) = s.toByteArray := by
    rw [← String.utf8Encode_toList, List.utf8Encode]
    exact ByteArray.ext List.data_toByteArray.symm
  rw [Reader.textOfBytes?, encoded, String.fromUTF8?, dif_pos s.isValidUTF8]
  rfl

/-! ## Characters inside strings -/

namespace Reader

/-- Bytes that stand for themselves inside a string. -/
def IsPlain (b : UInt8) : Prop := b ≠ 0x22 ∧ b ≠ 0x5C ∧ ¬ b < 0x20

/-- What was read of a string, with bytes before it. -/
def prepend (before : Bytes) : Except Fault (Bytes × Bytes) → Except Fault (Bytes × Bytes) :=
  Except.map fun (bytes, after) => (before ++ bytes, after)

theorem stringBytes_plain {before : Bytes} (plain : ∀ b ∈ before, IsPlain b) (rest : Bytes) :
    stringBytes (before ++ rest) = prepend before (stringBytes rest) := by
  induction before with
  | nil =>
      rw [List.nil_append]
      cases stringBytes rest with
      | error fault => rfl
      | ok read => rfl
  | cons b others ih =>
      obtain ⟨quote, slash, control⟩ := plain b List.mem_cons_self
      have inside : ∀ c ∈ others, IsPlain c := fun c member => plain c (List.mem_cons_of_mem b member)
      rw [List.cons_append, stringBytes.eq_def]
      simp only [if_neg quote, if_neg slash, if_neg control]
      rw [ih inside]
      cases stringBytes rest with
      | error fault => rfl
      | ok read => rfl

/-- An escape of one letter is read as the byte that it stands for. -/
theorem stringBytes_short {e b : UInt8} (escape : shortEscape? e = some b) (rest : Bytes) :
    stringBytes (0x5C :: e :: rest) = prepend [b] (stringBytes rest) := by
  rw [stringBytes.eq_def]
  simp [escape]
  rfl

/-- An escape of four hexadecimal digits is read as the code point that they write, unless it is a
surrogate. -/
theorem stringBytes_unicode {a b c d : UInt8} {n : Nat} (value : hexValue4? a b c d = some n)
    (scalar : n < 0xD800) (rest : Bytes) :
    stringBytes (0x5C :: 0x75 :: a :: b :: c :: d :: rest) =
      prepend (codePointBytes n) (stringBytes rest) := by
  have notTrailing : isTrailing n = false := by
    simp [isTrailing]
    omega
  have notLeading : isLeading n = false := by
    simp [isLeading]
    omega
  have noEscape : shortEscape? 0x75 = none := rfl
  rw [stringBytes.eq_def]
  simp [noEscape, value, notTrailing, notLeading]
  rfl

theorem hexValue4?_hexDigit : ∀ n < 0x20,
    hexValue4? 0x30 0x30 (UInt8.ofNat (Text.hexDigit (n / 16)).toNat)
      (UInt8.ofNat (Text.hexDigit (n % 16)).toNat) = some n := by
  decide

theorem hexDigit_ascii : ∀ n < 16, (Text.hexDigit n).toNat < 0x80 := by
  decide

theorem stringBytes_control {c : Char} (control : c.toNat < 0x20) (rest : Bytes) :
    stringBytes (utf8 ['\\', 'u', '0', '0', Text.hexDigit (c.toNat / 16),
        Text.hexDigit (c.toNat % 16)] ++ rest) =
      prepend (String.utf8EncodeChar c) (stringBytes rest) := by
  have high := utf8EncodeChar_of_ascii (hexDigit_ascii (c.toNat / 16) (by omega))
  have low := utf8EncodeChar_of_ascii (hexDigit_ascii (c.toNat % 16) (by omega))
  have bytes : utf8 ['\\', 'u', '0', '0', Text.hexDigit (c.toNat / 16),
      Text.hexDigit (c.toNat % 16)] =
        [0x5C, 0x75, 0x30, 0x30, UInt8.ofNat (Text.hexDigit (c.toNat / 16)).toNat,
          UInt8.ofNat (Text.hexDigit (c.toNat % 16)).toNat] := by
    simp only [utf8_cons, utf8_nil, high, low]
    rfl
  have value := hexValue4?_hexDigit c.toNat control
  rw [bytes]
  have read := stringBytes_unicode value (by omega) rest
  rw [codePointBytes, Char.ofNat_toNat] at read
  exact read

/-- A character that is not escaped gives only bytes that stand for themselves. -/
theorem isPlain_of_mem_utf8EncodeChar {c : Char} (quote : c ≠ '"') (slash : c ≠ '\\')
    (control : ¬ c.toNat < 0x20) {b : UInt8} (member : b ∈ String.utf8EncodeChar c) :
    IsPlain b := by
  by_cases ascii : c.toNat < 0x80
  · rw [utf8EncodeChar_of_ascii ascii, List.mem_singleton] at member
    have same : b.toNat = c.toNat := by
      rw [member, UInt8.toNat_ofNat']
      omega
    refine ⟨fun equal => quote ?_, fun equal => slash ?_, fun less => control ?_⟩
    · exact Char.toNat_inj.mp (by rw [← same, equal]; rfl)
    · exact Char.toNat_inj.mp (by rw [← same, equal]; rfl)
    · rw [← same]
      exact UInt8.lt_iff_toNat_lt.mp less
  · have high := high_of_mem_utf8EncodeChar (by omega) member
    refine ⟨fun equal => ?_, fun equal => ?_, fun less => ?_⟩
    · rw [equal] at high
      exact absurd high (by decide)
    · rw [equal] at high
      exact absurd high (by decide)
    · have small : b.toNat < 0x20 := UInt8.lt_iff_toNat_lt.mp less
      omega

/-- What stands for a character inside a string is read as its bytes. -/
theorem stringBytes_escapeChar (c : Char) (rest : Bytes) :
    stringBytes (utf8 (escapeChar c) ++ rest) =
      prepend (String.utf8EncodeChar c) (stringBytes rest) := by
  unfold escapeChar
  split
  · exact stringBytes_short rfl rest
  · exact stringBytes_short rfl rest
  · exact stringBytes_short rfl rest
  · exact stringBytes_short rfl rest
  · exact stringBytes_short rfl rest
  · exact stringBytes_short rfl rest
  · exact stringBytes_short rfl rest
  · rename_i quote slash _ _ _ _ _
    split
    · rename_i control
      exact stringBytes_control control rest
    · rename_i control
      have plain : utf8 [c] = String.utf8EncodeChar c := by simp [utf8_cons]
      rw [plain]
      exact stringBytes_plain (fun b => isPlain_of_mem_utf8EncodeChar quote slash control) rest

/-- What stands for characters inside a string is read up to the closing quote. -/
theorem stringBytes_escaped (cs : List Char) (rest : Bytes) :
    stringBytes (utf8 (cs.flatMap escapeChar) ++ 0x22 :: rest) = .ok (utf8 cs, rest) := by
  induction cs with
  | nil =>
      rw [List.flatMap_nil, utf8_nil, List.nil_append, stringBytes.eq_def]
      rfl
  | cons c others ih =>
      rw [List.flatMap_cons, utf8_append, List.append_assoc, stringBytes_escapeChar, ih]
      rfl

/-- A string that was written is read back. -/
theorem restOfString_escaped (s : String) (rest : Bytes) :
    restOfString (utf8 (s.toList.flatMap escapeChar) ++ 0x22 :: rest) = (.ok s, rest) := by
  rw [restOfString, stringBytes_escaped]
  simp only [textOfBytes?_utf8]

end Reader

theorem utf8_stringChars (s : String) :
    utf8 (stringChars s) = 0x22 :: (utf8 (s.toList.flatMap escapeChar) ++ [0x22]) := by
  rw [stringChars, utf8_append, utf8_cons]
  rfl

end SearchOperator.Json
