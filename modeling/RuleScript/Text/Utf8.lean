/-
  RuleScript.Text.Utf8
  ────────────────────
  **Bytes to text and back.**

  `decode` reads any byte list as text.  A well-formed sequence gives its
  character; where a sequence breaks off, the bytes read so far (the longest
  start of a well-formed sequence) together give ONE replacement character,
  and reading goes on with the byte that broke it.  So `decode` never fails,
  and on the encoding of a text it gives that text back (`decode_encode`).
-/

namespace RuleScript.Utf8

/-! ## §1. The first byte of a sequence. -/

/-- What the first byte of a sequence fixes: how many bytes follow it, the
range of the byte right after it, and the value bits that it carries itself. -/
structure Lead where
  tail : Nat
  low : UInt8
  high : UInt8
  bits : Nat
  deriving Repr, DecidableEq

/-- The lead that byte `n` stands for; no sequence starts with the other bytes.
The narrowed ranges keep out overlong forms, surrogates and values past the
last code point. -/
def leadOf? (n : Nat) : Option Lead :=
  if n < 0x80 then some ⟨0, 0x80, 0xBF, n⟩
  else if n < 0xC2 then none
  else if n < 0xE0 then some ⟨1, 0x80, 0xBF, n - 0xC0⟩
  else if n = 0xE0 then some ⟨2, 0xA0, 0xBF, 0⟩
  else if n = 0xED then some ⟨2, 0x80, 0x9F, 0xD⟩
  else if n < 0xF0 then some ⟨2, 0x80, 0xBF, n - 0xE0⟩
  else if n = 0xF0 then some ⟨3, 0x90, 0xBF, 0⟩
  else if n < 0xF4 then some ⟨3, 0x80, 0xBF, n - 0xF0⟩
  else if n = 0xF4 then some ⟨3, 0x80, 0x8F, 4⟩
  else none

/-- The lead that a byte stands for. -/
def lead? (b : UInt8) : Option Lead := leadOf? b.toNat

/-! ## §2. Reading. -/

/-- Reads `count` continuation bytes after `bits`.  The value is `none` when
one of them is missing or out of range; what is left starts with that byte. -/
def readTail : (count : Nat) → (low high : UInt8) → (bits : Nat) → List UInt8 →
    Option Nat × List UInt8
  | 0, _, _, bits, rest => (some bits, rest)
  | _ + 1, _, _, _, [] => (none, [])
  | n + 1, low, high, bits, b :: rest =>
    if low ≤ b ∧ b ≤ high then
      readTail n 0x80 0xBF (bits * 64 + (b.toNat - 0x80)) rest
    else (none, b :: rest)

theorem length_readTail_le (count : Nat) (low high : UInt8) (bits : Nat)
    (rest : List UInt8) :
    (readTail count low high bits rest).2.length ≤ rest.length := by
  fun_induction readTail count low high bits rest with
  | case1 => exact Nat.le_refl _
  | case2 => exact Nat.le_refl _
  | case3 _ _ _ _ _ _ _ ih => exact Nat.le_succ_of_le ih
  | case4 => exact Nat.le_refl _

/-- Stands for a sequence that is not well formed. -/
def replacement : Char := '\uFFFD'

/-- The text of any byte list. -/
def decode : List UInt8 → List Char
  | [] => []
  | b :: rest =>
    match lead? b with
    | none => replacement :: decode rest
    | some lead =>
      let tail := readTail lead.tail lead.low lead.high lead.bits rest
      (tail.1.map Char.ofNat).getD replacement :: decode tail.2
termination_by bytes => bytes.length
decreasing_by
  · simp
  · exact Nat.lt_succ_of_le (length_readTail_le ..)

/-- The text of any byte list, as a string. -/
def text (bytes : List UInt8) : String := String.ofList (decode bytes)

/-! ## §3. Writing. -/

/-- The bytes of a string. -/
def encode (s : String) : List UInt8 := s.toList.flatMap String.utf8EncodeChar

/-! ## §4. Reading what was written. -/

theorem toNat_byteOfNat {n : Nat} (h : n < 256) : (UInt8.ofNat n).toNat = n := by
  simp only [UInt8.toNat_ofNat']
  omega

/-- A byte in range is taken. -/
theorem readTail_cons {n : Nat} {low high : UInt8} {bits : Nat} {b : UInt8} {rest : List UInt8}
    (hlow : low.toNat ≤ b.toNat) (hhigh : b.toNat ≤ high.toNat) :
    readTail (n + 1) low high bits (b :: rest)
      = readTail n 0x80 0xBF (bits * 64 + (b.toNat - 0x80)) rest := by
  rw [readTail, if_pos ⟨UInt8.le_iff_toNat_le.2 hlow, UInt8.le_iff_toNat_le.2 hhigh⟩]

theorem readTail_ofNat {n : Nat} {low high : UInt8} {bits v : Nat} {rest : List UInt8}
    (hv : v < 256) (hlow : low.toNat ≤ v) (hhigh : v ≤ high.toNat) :
    readTail (n + 1) low high bits (UInt8.ofNat v :: rest)
      = readTail n 0x80 0xBF (bits * 64 + (v - 0x80)) rest := by
  rw [readTail_cons] <;> rw [toNat_byteOfNat hv] <;> assumption

theorem decode_cons {b : UInt8} {rest after : List UInt8} {lead : Lead} {v : Nat}
    (hlead : lead? b = some lead)
    (htail : readTail lead.tail lead.low lead.high lead.bits rest = (some v, after)) :
    decode (b :: rest) = Char.ofNat v :: decode after := by
  rw [decode, hlead]
  simp [htail]

theorem lead?_ofNat {n : Nat} (h : n < 256) : lead? (UInt8.ofNat n) = leadOf? n := by
  rw [lead?, toNat_byteOfNat h]

/-- **A character is read back from its bytes.**  The four lengths of a sequence are
the four cases; in the longer two, the value tells which lead its first byte is. -/
theorem decode_encodeChar_append (c : Char) (rest : List UInt8) :
    decode (String.utf8EncodeChar c ++ rest) = c :: decode rest := by
  have hmax : c.val.toNat < 0x110000 ∧ ¬(0xD800 ≤ c.val.toNat ∧ c.val.toNat < 0xE000) := by
    have := c.valid
    simp only [UInt32.isValidChar, Nat.isValidChar] at this
    omega
  have hc : Char.ofNat c.val.toNat = c := Char.ofNat_toNat c
  generalize hv : c.val.toNat = v at hmax hc
  rw [String.utf8EncodeChar, hv]
  split
  · rw [← hc]
    refine decode_cons (?_ : _ = some ⟨0, 0x80, 0xBF, v⟩) rfl
    rw [lead?_ofNat (by omega), leadOf?, if_pos (by omega)]
  split
  · rw [← hc]
    refine decode_cons (?_ : _ = some ⟨1, 0x80, 0xBF, v / 64⟩) ?_
    · rw [lead?_ofNat (by omega), leadOf?, if_neg (by omega), if_neg (by omega), if_pos (by omega),
        show v / 64 % 32 + 192 - 0xC0 = v / 64 by omega]
    · show readTail 1 _ _ _ (_ :: rest) = _
      rw [readTail_ofNat (by omega) (by simp) (by simp; omega), readTail,
        show v / 64 * 64 + (v % 64 + 128 - 0x80) = v by omega]
  split
  · rw [← hc]
    have hlead : ∃ low high : UInt8, lead? (UInt8.ofNat (v / 4096 % 16 + 224)) = some ⟨2, low, high, v / 4096⟩
        ∧ low.toNat ≤ v / 64 % 64 + 128 ∧ v / 64 % 64 + 128 ≤ high.toNat := by
      rw [lead?_ofNat (by omega), leadOf?, if_neg (by omega), if_neg (by omega), if_neg (by omega)]
      by_cases h0 : v / 4096 = 0
      · exact ⟨0xA0, 0xBF, by rw [if_pos (by omega), h0], by simp; omega, by simp; omega⟩
      rw [if_neg (by omega)]
      by_cases hD : v / 4096 = 0xD
      · exact ⟨0x80, 0x9F, by rw [if_pos (by omega), hD], by simp, by simp; omega⟩
      rw [if_neg (by omega), if_pos (by omega)]
      exact ⟨0x80, 0xBF, by rw [show v / 4096 % 16 + 224 - 0xE0 = v / 4096 by omega], by simp,
        by simp; omega⟩
    obtain ⟨low, high, hlead, hlow, hhigh⟩ := hlead
    refine decode_cons hlead ?_
    show readTail 2 _ _ _ (_ :: _ :: rest) = _
    rw [readTail_ofNat (by omega) hlow hhigh, readTail_ofNat (by omega) (by simp) (by simp; omega), readTail,
      show (v / 4096 * 64 + (v / 64 % 64 + 128 - 0x80)) * 64 + (v % 64 + 128 - 0x80) = v by omega]
  · rw [← hc]
    have hlead : ∃ low high : UInt8, lead? (UInt8.ofNat (v / 262144 % 8 + 240)) = some ⟨3, low, high, v / 262144⟩
        ∧ low.toNat ≤ v / 4096 % 64 + 128 ∧ v / 4096 % 64 + 128 ≤ high.toNat := by
      rw [lead?_ofNat (by omega), leadOf?, if_neg (by omega), if_neg (by omega), if_neg (by omega),
        if_neg (by omega), if_neg (by omega), if_neg (by omega)]
      by_cases h0 : v / 262144 = 0
      · exact ⟨0x90, 0xBF, by rw [if_pos (by omega), h0], by simp; omega, by simp; omega⟩
      rw [if_neg (by omega)]
      by_cases h4 : v / 262144 = 4
      · exact ⟨0x80, 0x8F, by rw [if_neg (by omega), if_pos (by omega), h4], by simp, by simp; omega⟩
      rw [if_pos (by omega)]
      exact ⟨0x80, 0xBF, by rw [show v / 262144 % 8 + 240 - 0xF0 = v / 262144 by omega], by simp,
        by simp; omega⟩
    obtain ⟨low, high, hlead, hlow, hhigh⟩ := hlead
    refine decode_cons hlead ?_
    show readTail 3 _ _ _ (_ :: _ :: _ :: rest) = _
    rw [readTail_ofNat (by omega) hlow hhigh, readTail_ofNat (by omega) (by simp) (by simp; omega),
      readTail_ofNat (by omega) (by simp) (by simp; omega), readTail,
      show ((v / 262144 * 64 + (v / 4096 % 64 + 128 - 0x80)) * 64 + (v / 64 % 64 + 128 - 0x80)) * 64
        + (v % 64 + 128 - 0x80) = v by omega]

/-- **A text is read back from its bytes.** -/
theorem decode_encode (s : String) : decode (encode s) = s.toList := by
  unfold encode
  induction s.toList with
  | nil => simp [decode]
  | cons c rest ih => rw [List.flatMap_cons, decode_encodeChar_append, ih]

theorem text_encode (s : String) : text (encode s) = s := by
  rw [text, decode_encode, String.ofList_toList]

theorem text_nil : text [] = "" := by
  simp [text, decode]

end RuleScript.Utf8
