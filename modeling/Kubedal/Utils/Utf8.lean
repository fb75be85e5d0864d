import Mathlib.Tactic.Common

/-!
# Text from bytes

`std::str::from_utf8` and the error it returns for bytes that are no text.

* `validUpTo` goes from character to character;
* `errorLen` are the bytes of a broken character that no text can start with;
* `fromUtf8_error`: the error is about the first bytes that are no character.
-/

namespace Utf8

/-- `std::str::Utf8Error`: how many bytes are text, and how many of those after them cannot be
part of any text (`none` if a character is cut off at the end). -/
structure Utf8Error where
  validUpTo : ℕ
  errorLen : Option ℕ
deriving DecidableEq

/-- How the error is displayed. -/
def Utf8Error.message (e : Utf8Error) : String :=
  match e.errorLen with
  | some n =>
    "invalid utf-8 sequence of " ++ toString n ++ " bytes from index " ++ toString e.validUpTo
  | none => "incomplete utf-8 byte sequence from index " ++ toString e.validUpTo

/-- Where the characters end that follow each other from byte `i` on, at most `n` of them. -/
def validUpTo (bytes : ByteArray) : ℕ → ℕ → ℕ
  | 0, i => i
  | n + 1, i =>
    match bytes.utf8DecodeChar? i with
    | some c => validUpTo bytes n (i + c.utf8Size)
    | none => i

/-- If `b` starts a character, the values that each of the bytes after it may have. -/
def continuations (b : UInt8) : Option (List (UInt8 × UInt8)) :=
  if 0xC2 ≤ b ∧ b ≤ 0xDF then some [(0x80, 0xBF)]
  else if b = 0xE0 then some [(0xA0, 0xBF), (0x80, 0xBF)]
  else if b = 0xED then some [(0x80, 0x9F), (0x80, 0xBF)]
  else if 0xE1 ≤ b ∧ b ≤ 0xEF then some [(0x80, 0xBF), (0x80, 0xBF)]
  else if b = 0xF0 then some [(0x90, 0xBF), (0x80, 0xBF), (0x80, 0xBF)]
  else if 0xF1 ≤ b ∧ b ≤ 0xF3 then some [(0x80, 0xBF), (0x80, 0xBF), (0x80, 0xBF)]
  else if b = 0xF4 then some [(0x80, 0x8F), (0x80, 0xBF), (0x80, 0xBF)]
  else none

/-- The first byte that does not continue the character, `n` bytes after its start. -/
def brokenAt (n : ℕ) : List (UInt8 × UInt8) → List UInt8 → Option ℕ
  | [], _ => some n
  | _ :: _, [] => none
  | (low, high) :: ranges, b :: rest =>
    if low ≤ b ∧ b ≤ high then brokenAt (n + 1) ranges rest else some n

def errorLen : List UInt8 → Option ℕ
  | [] => none
  | b :: rest =>
    match continuations b with
    | some ranges => brokenAt 1 ranges rest
    | none => some 1

def utf8Error (bytes : ByteArray) : Utf8Error :=
  let i := validUpTo bytes bytes.size 0
  ⟨i, errorLen (bytes.data.toList.drop i)⟩

/-- `std::str::from_utf8`. -/
def fromUtf8 (bytes : ByteArray) : Except Utf8Error String :=
  match String.fromUTF8? bytes with
  | some s => .ok s
  | none => .error (utf8Error bytes)

/-! ## Where the characters end -/

section
variable {bytes : ByteArray} {n i : ℕ} {c : Char}

lemma validUpTo_some (h : bytes.utf8DecodeChar? i = some c) :
    validUpTo bytes (n + 1) i = validUpTo bytes n (i + c.utf8Size) := by simp [validUpTo, h]

lemma validUpTo_none (h : bytes.utf8DecodeChar? i = none) : validUpTo bytes n i = i := by
  cases n with
  | zero => rfl
  | succ n => simp [validUpTo, h]

lemma utf8DecodeChar?_end (h : bytes.size ≤ i) : bytes.utf8DecodeChar? i = none := by
  by_contra hchar
  obtain ⟨c, hc⟩ := Option.ne_none_iff_exists'.mp hchar
  have hend := ByteArray.le_size_of_utf8DecodeChar?_eq_some hc
  have hpos := c.utf8Size_pos
  omega

/-- The characters end in the bytes, where no other one starts. -/
lemma validUpTo_stops (hi : i ≤ bytes.size) (enough : bytes.size ≤ i + n) :
    validUpTo bytes n i ≤ bytes.size ∧ bytes.utf8DecodeChar? (validUpTo bytes n i) = none := by
  induction n generalizing i with
  | zero => exact ⟨hi, utf8DecodeChar?_end enough⟩
  | succ n ih =>
    cases hchar : bytes.utf8DecodeChar? i with
    | none =>
      rw [validUpTo_none hchar]
      exact ⟨hi, hchar⟩
    | some c =>
      have hpos := c.utf8Size_pos
      rw [validUpTo_some hchar]
      exact ih (ByteArray.le_size_of_utf8DecodeChar?_eq_some hchar) (by omega)

/-- All bytes are text exactly when the characters go on to the end. -/
lemma isSome_decode_iff (acc : Array Char) (hi : i ≤ bytes.size) (enough : bytes.size ≤ i + n) :
    (ByteArray.utf8Decode?.go bytes i acc hi).isSome ↔ validUpTo bytes n i = bytes.size := by
  induction n generalizing i acc with
  | zero =>
    have hend : i = bytes.size := by omega
    rw [ByteArray.utf8Decode?.go, if_neg (by omega)]
    simp [validUpTo, hend]
  | succ n ih =>
    unfold ByteArray.utf8Decode?.go
    by_cases hlt : i < bytes.size
    · rw [if_pos hlt]
      split
      · rename_i hchar
        simp [validUpTo_none hchar, Nat.ne_of_lt hlt]
      · rename_i c hchar
        have hpos := c.utf8Size_pos
        rw [validUpTo_some hchar]
        exact ih _ _ (by omega)
    · have hend : i = bytes.size := by omega
      rw [if_neg hlt, validUpTo_none (utf8DecodeChar?_end (Nat.le_of_not_lt hlt))]
      simp [hend]

/-- An error is about the first bytes that are no character. -/
lemma fromUtf8_error {e : Utf8Error} (h : fromUtf8 bytes = .error e) :
    e.validUpTo < bytes.size ∧ bytes.utf8DecodeChar? e.validUpTo = none := by
  obtain ⟨hle, hstop⟩ := validUpTo_stops (n := bytes.size) (Nat.zero_le bytes.size) (by omega)
  unfold fromUtf8 String.fromUTF8? at h
  by_cases hvalid : bytes.IsValidUTF8
  · simp [hvalid] at h
  · rw [dif_neg hvalid] at h
    obtain rfl : utf8Error bytes = e := Except.error.inj h
    refine ⟨Nat.lt_of_le_of_ne hle fun hall => hvalid ?_, hstop⟩
    exact ByteArray.isSome_utf8Decode?_iff.mp
      ((isSome_decode_iff #[] (Nat.zero_le _) (by omega)).mpr hall)

end

-- a character of three bytes without the last one, and with another one in its place
example : utf8Error ⟨#[0x61, 0xE2, 0x82]⟩ = ⟨1, none⟩ := by decide +kernel
example : utf8Error ⟨#[0x61, 0xE2, 0x82, 0x61]⟩ = ⟨1, some 2⟩ := by decide +kernel

end Utf8
