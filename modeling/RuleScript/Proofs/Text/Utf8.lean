/-
  RuleScript.Proofs.Text.Utf8
  ───────────────────────────
  **Characters that are one byte.**

  The first 128 characters are written as the byte of their number, and no other character
  has one of those bytes in it.  So such a character stands in a text where its byte stands
  among the bytes of the text, and reading bytes as text, well formed or not, makes none of
  them up.

  Main results:
    • `byte_mem_encode_iff` — the byte stands where the character does.
    • `getLast?_encode_eq_iff` — also at the end.
    • `split_at_byte` — so where the byte stands, bytes are cut between characters.
    • `byte_mem_of_mem_decode` — a character that is read has its byte among those read.
    • `decode_append` — what is read is cut there as well.
-/
import RuleScript.Text.Utf8

namespace RuleScript.Utf8

/-! ## §1. Writing. -/

/-- The byte of a character that is written as one. -/
def byteOf (c : Char) : UInt8 := UInt8.ofNat c.toNat

section
variable {c : Char} (hc : c.toNat < 0x80)
include hc

theorem toNat_byteOf : (byteOf c).toNat = c.toNat := toNat_byteOfNat (by omega)

/-- One of the first 128 characters is its own byte. -/
theorem encodeChar_of_lt : String.utf8EncodeChar c = [byteOf c] := by
  have hval : c.val.toNat ≤ 0x7F := Nat.le_of_lt_succ hc
  unfold String.utf8EncodeChar
  rw [if_pos hval]
  rfl

end

/-- Every other character has other bytes. -/
theorem le_of_mem_encodeChar {c : Char} (hc : 0x80 ≤ c.toNat) {b : UInt8}
    (hb : b ∈ String.utf8EncodeChar c) : 0x80 ≤ b.toNat := by
  have hval : ¬c.val.toNat ≤ 0x7F := Nat.not_le.2 hc
  unfold String.utf8EncodeChar at hb
  rw [if_neg hval] at hb
  -- The lead bytes and the bytes behind them are all of the form `x + 0x80` or more.
  have hbyte {n : Nat} (hlow : 0x80 ≤ n) (hhigh : n < 256) : 0x80 ≤ (UInt8.ofNat n).toNat := by
    rw [toNat_byteOfNat hhigh]
    exact hlow
  repeat' split at hb
  all_goals
    simp only [List.mem_cons, List.not_mem_nil, or_false] at hb
    rcases hb with rfl | rfl | rfl | rfl <;> exact hbyte (by omega) (by omega)

/-- The byte of one of the first 128 characters is in no other character. -/
theorem byteOf_mem_encodeChar_iff {c d : Char} (hc : c.toNat < 0x80) :
    byteOf c ∈ String.utf8EncodeChar d ↔ d = c := by
  by_cases hd : d.toNat < 0x80
  · rw [encodeChar_of_lt hd, List.mem_singleton]
    constructor
    · intro h
      have hnat := congrArg UInt8.toNat h
      rw [toNat_byteOf hc, toNat_byteOf hd] at hnat
      exact (Char.toNat_inj.1 hnat).symm
    · intro h
      rw [h]
  · constructor
    · intro h
      have hle := le_of_mem_encodeChar (Nat.le_of_not_lt hd) h
      rw [toNat_byteOf hc] at hle
      omega
    · rintro rfl
      exact absurd hc hd

/-- A byte of one of the first 128 characters tells what character it is of. -/
theorem eq_byteOf_iff {c d : Char} (hc : c.toNat < 0x80) {b : UInt8}
    (hb : b ∈ String.utf8EncodeChar d) : b = byteOf c ↔ d = c := by
  constructor
  · rintro rfl
    exact (byteOf_mem_encodeChar_iff hc).1 hb
  · rintro rfl
    rw [encodeChar_of_lt hc, List.mem_singleton] at hb
    exact hb

/-- The bytes of characters. -/
def bytesOf (chars : List Char) : List UInt8 := chars.flatMap String.utf8EncodeChar

theorem bytesOf_cons (c : Char) (chars : List Char) :
    bytesOf (c :: chars) = String.utf8EncodeChar c ++ bytesOf chars :=
  List.flatMap_cons

theorem bytesOf_append (s t : List Char) : bytesOf (s ++ t) = bytesOf s ++ bytesOf t :=
  List.flatMap_append

theorem bytesOf_singleton (c : Char) : bytesOf [c] = String.utf8EncodeChar c :=
  List.flatMap_singleton ..

theorem encode_ofList (chars : List Char) : encode (String.ofList chars) = bytesOf chars := by
  rw [encode, String.toList_ofList, bytesOf]

/-- Characters are read back from their bytes, whatever follows these. -/
theorem decode_bytesOf_append (chars : List Char) (rest : List UInt8) :
    decode (bytesOf chars ++ rest) = chars ++ decode rest := by
  induction chars with
  | nil => rfl
  | cons c chars ih =>
      rw [bytesOf_cons, List.append_assoc, decode_encodeChar_append, ih, List.cons_append]

/-- **The byte of one of the first 128 characters** stands where the character does. -/
theorem byte_mem_encode_iff {c : Char} (hc : c.toNat < 0x80) {s : String} :
    byteOf c ∈ encode s ↔ c ∈ s.toList := by
  unfold encode
  rw [List.mem_flatMap]
  constructor
  · rintro ⟨d, hd, hbyte⟩
    rwa [(byteOf_mem_encodeChar_iff hc).1 hbyte] at hd
  · intro h
    exact ⟨c, h, (byteOf_mem_encodeChar_iff hc).2 rfl⟩

/-- The last byte of a text is that of one of the first 128 characters if that is the last
character. -/
theorem getLast?_bytesOf_eq_iff {c : Char} (hc : c.toNat < 0x80) {chars : List Char} :
    (bytesOf chars).getLast? = some (byteOf c) ↔ chars.getLast? = some c := by
  rcases List.eq_nil_or_concat chars with rfl | ⟨front, d, rfl⟩
  · exact ⟨nofun, nofun⟩
  rw [List.concat_eq_append, bytesOf_append, bytesOf_singleton, List.getLast?_append,
    List.getLast?_concat]
  -- Every character has a last byte, so the bytes of those before it do not count.
  have hne : String.utf8EncodeChar d ≠ [] := String.utf8EncodeChar_ne_nil
  have hlast := List.getLast?_eq_some_getLast hne
  constructor
  · intro h
    rw [hlast, Option.some_or, ← hlast] at h
    rw [(byteOf_mem_encodeChar_iff hc).1 (List.mem_of_getLast? h)]
  · intro h
    rw [Option.some.inj h, encodeChar_of_lt hc]
    rfl

theorem getLast?_encode_eq_iff {c : Char} (hc : c.toNat < 0x80) {s : String} :
    (encode s).getLast? = some (byteOf c) ↔ s.toList.getLast? = some c :=
  getLast?_bytesOf_eq_iff hc

/-- **Where the byte of one of the first 128 characters stands**, that character does, between
those that the bytes in front of it and behind it are the bytes of. -/
theorem split_at_byte {c : Char} (hc : c.toNat < 0x80) {chars : List Char} {a rest : List UInt8}
    (h : bytesOf chars = a ++ byteOf c :: rest) :
    ∃ before after, chars = before ++ c :: after ∧ a = bytesOf before ∧ rest = bytesOf after := by
  induction chars generalizing a with
  | nil => exact absurd h.symm (List.append_ne_nil_of_right_ne_nil a (List.cons_ne_nil _ _))
  | cons d chars ih =>
      have hahead {a' : List UInt8} (ha : a = String.utf8EncodeChar d ++ a')
          (htail : bytesOf chars = a' ++ byteOf c :: rest) :
          ∃ before after, d :: chars = before ++ c :: after ∧ a = bytesOf before ∧
            rest = bytesOf after := by
        obtain ⟨before, after, rfl, rfl, rfl⟩ := ih htail
        exact ⟨d :: before, after, rfl, ha, rfl⟩
      rw [bytesOf_cons] at h
      rcases List.append_eq_append_iff.1 h with ⟨a', ha, htail⟩ | ⟨inside, hd, hinside⟩
      · exact hahead ha htail
      · cases inside with
        | nil =>
            rw [List.append_nil] at hd
            have ha : a = String.utf8EncodeChar d ++ [] := hd.symm.trans (List.append_nil _).symm
            exact hahead ha hinside.symm
        | cons b inside =>
            obtain ⟨rfl, hrest⟩ := List.cons.inj hinside
            have hmem : byteOf c ∈ String.utf8EncodeChar d := by
              rw [hd]
              exact List.mem_append_right a List.mem_cons_self
            obtain rfl := (byteOf_mem_encodeChar_iff hc).1 hmem
            rw [encodeChar_of_lt hc] at hd
            obtain ⟨rfl, hone⟩ := List.append_eq_singleton_iff.1 hd.symm |>.resolve_right
              fun h => List.cons_ne_nil _ _ h.2
            obtain ⟨-, rfl⟩ := List.cons.inj hone
            exact ⟨[], chars, rfl, rfl, hrest⟩

/-- What the bytes of a text start with, when they start with those of a text. -/
theorem split_prefix {chars front : List Char} {rest : List UInt8}
    (h : bytesOf chars = bytesOf front ++ rest) :
    ∃ after, chars = front ++ after ∧ rest = bytesOf after := by
  have hchars : chars = front ++ decode rest := by
    rw [← decode_bytesOf_append, ← h, ← List.append_nil (bytesOf chars), decode_bytesOf_append,
      decode, List.append_nil]
  refine ⟨decode rest, hchars, ?_⟩
  rw [hchars, bytesOf_append] at h
  exact (List.append_cancel_left h).symm

/-- Where a row of characters is told by the byte of its first one. -/
theorem split_at_bytes {c : Char} (hc : c.toNat < 0x80) {marker chars : List Char}
    {a rest : List UInt8} (h : bytesOf chars = a ++ bytesOf (c :: marker) ++ rest) :
    ∃ before after, chars = before ++ c :: marker ++ after ∧ a = bytesOf before ∧
      rest = bytesOf after := by
  rw [bytesOf_cons, encodeChar_of_lt hc, List.append_assoc, List.append_assoc,
    List.singleton_append] at h
  obtain ⟨before, others, rfl, ha, hothers⟩ := split_at_byte hc h
  obtain ⟨after, rfl, hrest⟩ := split_prefix hothers.symm
  refine ⟨before, after, ?_, ha, hrest⟩
  rw [List.append_assoc, List.cons_append]

/-! ## §2. Reading. -/

theorem readTail_suffix (count : Nat) (low high : UInt8) (bits : Nat) (rest : List UInt8) :
    (readTail count low high bits rest).2 <:+ rest := by
  fun_induction readTail count low high bits rest with
  | case1 => exact List.suffix_refl _
  | case2 => exact List.suffix_refl _
  | case3 _ _ _ _ b rest _ ih => exact ih.trans (List.suffix_cons b rest)
  | case4 => exact List.suffix_refl _

/-- Every byte of a sequence adds six bits to those before it. -/
theorem le_of_readTail {count : Nat} {low high : UInt8} {bits v : Nat} {rest after : List UInt8}
    (h : readTail count low high bits rest = (some v, after)) : bits * Nat.pow 64 count ≤ v := by
  fun_induction readTail count low high bits rest with
  | case1 =>
      cases h
      exact Nat.le_of_eq (Nat.mul_one _)
  | case2 => cases h
  | case3 n low high bits b rest _ ih =>
      have hmul : bits * Nat.pow 64 (n + 1) ≤ (bits * 64 + (b.toNat - 0x80)) * Nat.pow 64 n := by
        show bits * (Nat.pow 64 n * 64) ≤ _
        rw [Nat.mul_comm (Nat.pow 64 n), ← Nat.mul_assoc]
        exact Nat.mul_le_mul_right _ (Nat.le_add_right ..)
      exact Nat.le_trans hmul (ih h)
  | case4 => cases h

/-- A lead with bytes behind it stands for none of the first 128 characters: where it has no
bits of its own, the byte right after it has to have some. -/
theorem lead_cases {n : Nat} {lead : Lead} (h : leadOf? n = some lead) :
    (lead.tail = 0 ∧ lead.bits = n) ∨
      ∃ more, lead.tail = more + 1 ∧
        0x80 ≤ (lead.bits * 64 + (lead.low.toNat - 0x80)) * Nat.pow 64 more := by
  unfold leadOf? at h
  repeat' split at h
  all_goals cases h
  · exact .inl ⟨rfl, rfl⟩
  · exact .inr ⟨0, rfl, by simp; omega⟩
  · exact .inr ⟨1, rfl, by decide⟩
  · exact .inr ⟨1, rfl, by decide⟩
  · exact .inr ⟨1, rfl, by simp; omega⟩
  · exact .inr ⟨2, rfl, by decide⟩
  · exact .inr ⟨2, rfl, by simp; omega⟩
  · exact .inr ⟨2, rfl, by decide⟩

/-- A sequence is read as the number of its one byte, or as a number that has more than one. -/
theorem readTail_lead_cases {n v : Nat} {lead : Lead} {rest after : List UInt8}
    (hlead : leadOf? n = some lead)
    (h : readTail lead.tail lead.low lead.high lead.bits rest = (some v, after)) :
    v = n ∨ 0x80 ≤ v := by
  rcases lead_cases hlead with ⟨htail, hbits⟩ | ⟨more, htail, hle⟩
  · rw [htail, hbits, readTail] at h
    cases h
    exact .inl rfl
  rw [htail] at h
  cases rest with
  | nil => cases h
  | cons b rest =>
      rw [readTail] at h
      split at h
      · next hb =>
        have hlow := UInt8.le_iff_toNat_le.1 hb.1
        have hgrown := le_of_readTail h
        refine .inr (Nat.le_trans hle (Nat.le_trans (Nat.mul_le_mul_right _ ?_) hgrown))
        omega
      · cases h

/-- A number that is not that of a character gives NUL. -/
theorem toNat_ofNat_cases (v : Nat) : (Char.ofNat v).toNat = v ∨ Char.ofNat v = '\x00' := by
  by_cases hv : v.isValidChar
  · left
    rw [Char.ofNat, dif_pos hv]
    rfl
  · right
    rw [Char.ofNat, dif_neg hv]
    rfl

/-- **A character that is read** has its byte among those read, if it is one of the first 128
and not NUL. -/
theorem byte_mem_of_mem_decode {c : Char} (hc : c.toNat < 0x80) (hnul : c ≠ '\x00')
    {bytes : List UInt8} (h : c ∈ decode bytes) : byteOf c ∈ bytes := by
  fun_induction decode bytes with
  | case1 => cases h
  | case2 b rest hlead ih =>
      rcases List.mem_cons.1 h with rfl | h
      · exact absurd hc (by decide)
      · exact List.mem_cons_of_mem _ (ih h)
  | case3 b rest lead hlead tail ih =>
      rcases List.mem_cons.1 h with hhead | h
      · cases hv : tail.1 with
        | none =>
            rw [hhead, hv] at hc
            exact absurd hc (by decide)
        | some v =>
            rw [hv] at hhead
            have hnat : c.toNat = v := by
              rcases toNat_ofNat_cases v with hnat | hzero
              · rw [hhead]
                exact hnat
              · exact absurd (hhead.trans hzero) hnul
            rcases readTail_lead_cases hlead (Prod.ext hv rfl) with rfl | hle
            · rw [byteOf, hnat, UInt8.ofNat_toNat]
              exact List.mem_cons_self
            · omega
      · exact List.mem_cons_of_mem _ ((readTail_suffix ..).subset (ih h))

/-- All bytes of a sequence but the first are above the first 128. -/
theorem le_low_of_leadOf? {n : Nat} {lead : Lead} (h : leadOf? n = some lead) :
    0x80 ≤ lead.low.toNat := by
  unfold leadOf? at h
  repeat' split at h
  all_goals cases h
  all_goals exact Nat.le_of_ble_eq_true rfl

/-- **A sequence does not go on** over one of the first 128 bytes. -/
theorem readTail_append {low : UInt8} (hlow : 0x80 ≤ low.toNat) {y : UInt8} (hy : y.toNat < 0x80)
    (count : Nat) (high : UInt8) (bits : Nat) (a b : List UInt8) :
    readTail count low high bits (a ++ y :: b)
      = ((readTail count low high bits a).1, (readTail count low high bits a).2 ++ y :: b) := by
  induction count generalizing low high bits a with
  | zero => rfl
  | succ n ih =>
      cases a with
      | nil =>
          have hout : ¬(low ≤ y ∧ y ≤ high) := by
            intro h
            have hle := UInt8.le_iff_toNat_le.1 h.1
            omega
          exact if_neg hout
      | cons c a =>
          rw [List.cons_append, readTail, readTail]
          split
          · exact ih (by decide) _ _ a
          · rfl

/-- **What is read is cut where the byte of one of the first 128 characters stands**, well
formed or not. -/
theorem decode_append {c : Char} (hc : c.toNat < 0x80) (a b : List UInt8) :
    decode (a ++ byteOf c :: b) = decode a ++ c :: decode b := by
  fun_induction decode a with
  | case1 =>
      have hread := decode_encodeChar_append c b
      rwa [encodeChar_of_lt hc] at hread
  | case2 x rest hlead ih =>
      rw [List.cons_append, decode, hlead, List.cons_append, ← ih]
  | case3 x rest lead hlead tail ih =>
      have hy : (byteOf c).toNat < 0x80 := (toNat_byteOf hc).symm ▸ hc
      rw [List.cons_append, decode, hlead, List.cons_append, ← ih]
      simp only [readTail_append (le_low_of_leadOf? hlead) hy]
      rfl

/-- As many such characters are read as there are such bytes. -/
theorem count_decode {c : Char} (hc : c.toNat < 0x80) (hnul : c ≠ '\x00') (s : List UInt8) :
    (decode s).count c = s.count (byteOf c) := by
  induction hlength : s.length using Nat.strongRecOn generalizing s with
  | ind n ih =>
      by_cases hmem : byteOf c ∈ s
      · obtain ⟨a, b, rfl, ha⟩ := List.eq_append_cons_of_mem hmem
        have hnone : c ∉ decode a := mt (byte_mem_of_mem_decode hc hnul) ha
        rw [decode_append hc, List.count_append, List.count_append, List.count_cons_self,
          List.count_cons_self, List.count_eq_zero_of_not_mem hnone,
          List.count_eq_zero_of_not_mem ha, ih b.length (by rw [← hlength]; simp; omega) b rfl]
      · have hnone : c ∉ decode s := mt (byte_mem_of_mem_decode hc hnul) hmem
        rw [List.count_eq_zero_of_not_mem hnone, List.count_eq_zero_of_not_mem hmem]

/-- Some character is read from some bytes. -/
theorem decode_ne_nil {s : List UInt8} (h : s ≠ []) : decode s ≠ [] := by
  obtain ⟨b, rest, rfl⟩ := List.exists_cons_of_ne_nil h
  rw [decode]
  split <;> exact List.cons_ne_nil _ _

end RuleScript.Utf8
