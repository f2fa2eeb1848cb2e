import ServiceContract.Text.Utf8

/-!
# Text is read back from its bytes

The bytes of a text are read as this text and nothing in them is replaced. A character has one to
four bytes by its code point. The first byte tells how many there are, and what it excludes of the
second are the overlong forms, the surrogates and what lies beyond the last code point, none of
which a character has.

Main results:

* `decodeChar_utf8EncodeChar`      — a character is read from its bytes, whatever follows them.
* `decodeLossy_utf8`               — a text is read from its bytes.
* `eq_ofNat_of_mem_utf8EncodeChar` — a byte below 128 belongs to no character but its own.
-/

namespace ServiceContract.Text

/-! ## The forms of a character -/

theorem toNat_ofNat {n : Nat} (h : n < 256) : (UInt8.ofNat n).toNat = n :=
  UInt8.toNat_ofNat_of_lt' h

variable {lead b c d : UInt8} {rest : List UInt8}

/-- A byte below 128 is a character of its own. -/
theorem decodeChar_one (h : lead.toNat < 0x80) :
    decodeChar lead rest = (some (Char.ofNat lead.toNat), 0) := by
  unfold decodeChar
  exact if_pos h

theorem not_lt_of_followers (h : followers lead ≠ 0) : ¬ lead.toNat < 0x80 := by
  intro hlt
  apply h
  simp only [followers, Bool.and_eq_true, decide_eq_true_eq]
  rw [if_neg (by omega), if_neg (by omega), if_neg (by omega)]

/-- A lead byte of two: its own bits, then the payload of the second. -/
theorem decodeChar_two (hlead : followers lead = 1) (hb : canFollow lead b = true) :
    decodeChar lead (b :: rest) =
      (some (Char.ofNat ((lead.toNat - 0xc0) * 64 + payload b)), 1) := by
  have hnot : ¬ lead.toNat < 0x80 := not_lt_of_followers (by omega)
  simp only [decodeChar, if_neg hnot, hlead, hb, if_true]

/-- A lead byte of three. Only the byte after it is bounded by the lead, which keeps out overlong
forms and surrogates. -/
theorem decodeChar_three (hlead : followers lead = 2) (hb : canFollow lead b = true)
    (hc : isContinuation c = true) :
    decodeChar lead (b :: c :: rest) =
      (some (Char.ofNat (((lead.toNat - 0xe0) * 64 + payload b) * 64 + payload c)), 2) := by
  have hnot : ¬ lead.toNat < 0x80 := not_lt_of_followers (by omega)
  simp only [decodeChar, if_neg hnot, hlead, hb, hc, if_true]

theorem decodeChar_four (hlead : followers lead = 3) (hb : canFollow lead b = true)
    (hc : isContinuation c = true) (hd : isContinuation d = true) :
    decodeChar lead (b :: c :: d :: rest) =
      (some (Char.ofNat
        ((((lead.toNat - 0xf0) * 64 + payload b) * 64 + payload c) * 64 + payload d)), 3) := by
  have hnot : ¬ lead.toNat < 0x80 := not_lt_of_followers (by omega)
  simp only [decodeChar, if_neg hnot, hlead, hb, hc, hd, if_true]

/-- The bytes after the first have six bits of the code point each. -/
theorem isContinuation_ofNat (n : Nat) : isContinuation (UInt8.ofNat (n % 64 + 128)) = true := by
  simp only [isContinuation, toNat_ofNat (show n % 64 + 128 < 256 by omega), Bool.and_eq_true,
    decide_eq_true_eq]
  omega

/-- The payload of a byte that continues is what was put into it. -/
theorem payload_ofNat (n : Nat) : payload (UInt8.ofNat (n % 64 + 128)) = n % 64 := by
  have hbyte : (UInt8.ofNat (n % 64 + 128)).toNat = n % 64 + 128 := toNat_ofNat (by omega)
  unfold payload
  omega

/-- What a first byte asks of the second, in numbers. -/
theorem canFollow_ofNat {l n : Nat} (hl : l < 256)
    (he0 : l = 0xe0 → 0x20 ≤ n % 64) (hed : l = 0xed → n % 64 < 0x20)
    (hf0 : l = 0xf0 → 0x10 ≤ n % 64) (hf4 : l = 0xf4 → n % 64 < 0x10) :
    canFollow (UInt8.ofNat l) (UInt8.ofNat (n % 64 + 128)) = true := by
  simp only [canFollow, isContinuation_ofNat, Bool.true_and, toNat_ofNat hl,
    toNat_ofNat (show n % 64 + 128 < 256 by omega)]
  split
  · next h => exact decide_eq_true (by have := he0 h; omega)
  · split
    · next h => exact decide_eq_true (by have := hed h; omega)
    · split
      · next h => exact decide_eq_true (by have := hf0 h; omega)
      · split
        · next h => exact decide_eq_true (by have := hf4 h; omega)
        · rfl

/-- How many bytes follow a lead byte, by its value. -/
theorem followers_ofNat {n : Nat} (h : n < 256) :
    followers (UInt8.ofNat n) =
      if 0xc2 ≤ n ∧ n < 0xe0 then 1
      else if 0xe0 ≤ n ∧ n < 0xf0 then 2
      else if 0xf0 ≤ n ∧ n < 0xf5 then 3
      else 0 := by
  simp only [followers, toNat_ofNat h, Bool.and_eq_true, decide_eq_true_eq]

/-! ## Characters and texts -/

/-- A character is read from its bytes, whatever follows them. -/
theorem decodeChar_utf8EncodeChar (ch : Char) (more : List UInt8) :
    ∃ first tail, String.utf8EncodeChar ch = first :: tail ∧
      decodeChar first (tail ++ more) = (some ch, tail.length) := by
  have hch : Char.ofNat ch.val.toNat = ch := Char.ofNat_toNat ch
  -- a code point is no surrogate and not beyond the last one
  have hvalid : ch.val.toNat < 0xd800 ∨ 0xdfff < ch.val.toNat ∧ ch.val.toNat < 0x110000 := ch.valid
  simp only [String.utf8EncodeChar]
  generalize hv : ch.val.toNat = v at hch hvalid ⊢
  split
  · next h1 =>
    refine ⟨_, _, rfl, ?_⟩
    have hbyte : (UInt8.ofNat v).toNat = v := toNat_ofNat (by omega)
    rw [decodeChar_one (by omega), hbyte, hch]
    rfl
  · split
    · next h1 h2 =>
      refine ⟨_, _, rfl, ?_⟩
      have hlead : v / 64 % 32 + 192 < 256 := by omega
      rw [List.singleton_append, decodeChar_two, payload_ofNat, toNat_ofNat hlead]
      · have hpoint : (v / 64 % 32 + 192 - 0xc0) * 64 + v % 64 = v := by omega
        rw [hpoint, hch]
        rfl
      · rw [followers_ofNat hlead, if_pos (by omega)]
      · exact canFollow_ofNat hlead (by omega) (by omega) (by omega) (by omega)
    · split
      · next h1 h2 h3 =>
        refine ⟨_, _, rfl, ?_⟩
        have hlead : v / 4096 % 16 + 224 < 256 := by omega
        rw [List.cons_append, List.singleton_append, decodeChar_three, payload_ofNat, payload_ofNat,
          toNat_ofNat hlead]
        · have hpoint : ((v / 4096 % 16 + 224 - 0xe0) * 64 + v / 64 % 64) * 64 + v % 64 = v := by
            omega
          rw [hpoint, hch]
          rfl
        · rw [followers_ofNat hlead, if_neg (by omega), if_pos (by omega)]
        · exact canFollow_ofNat hlead (by omega) (by omega) (by omega) (by omega)
        · exact isContinuation_ofNat _
      · next h1 h2 h3 =>
        refine ⟨_, _, rfl, ?_⟩
        have hlead : v / 262144 % 8 + 240 < 256 := by omega
        rw [List.cons_append, List.cons_append, List.singleton_append, decodeChar_four,
          payload_ofNat, payload_ofNat, payload_ofNat, toNat_ofNat hlead]
        · have hpoint : (((v / 262144 % 8 + 240 - 0xf0) * 64 + v / 4096 % 64) * 64 +
              v / 64 % 64) * 64 + v % 64 = v := by omega
          rw [hpoint, hch]
          rfl
        · rw [followers_ofNat hlead, if_neg (by omega), if_neg (by omega), if_pos (by omega)]
        · exact canFollow_ofNat hlead (by omega) (by omega) (by omega) (by omega)
        · exact isContinuation_ofNat _
        · exact isContinuation_ofNat _

/-- A byte below 128 belongs to no character but its own. -/
theorem eq_ofNat_of_mem_utf8EncodeChar {ch : Char} {b : UInt8} (h : b ∈ String.utf8EncodeChar ch)
    (hb : b.toNat < 0x80) : ch = Char.ofNat b.toNat := by
  have hlarge : ∀ numbers : List Nat, (∀ n ∈ numbers, 0x80 ≤ n ∧ n < 256) →
      b ∉ numbers.map UInt8.ofNat := by
    intro numbers hrange hmem
    obtain ⟨n, hn, rfl⟩ := List.mem_map.mp hmem
    obtain ⟨hlow, hhigh⟩ := hrange n hn
    rw [toNat_ofNat hhigh] at hb
    omega
  simp only [String.utf8EncodeChar] at h
  split at h
  · next hsmall =>
    have hbyte : (UInt8.ofNat ch.val.toNat).toNat = ch.val.toNat := toNat_ofNat (by omega)
    rw [List.mem_singleton.mp h, hbyte]
    exact (Char.ofNat_toNat ch).symm
  · -- all bytes of a longer form are 128 or more
    exfalso
    split at h
    · refine hlarge [_, _] ?_ h
      simp only [List.forall_mem_cons, List.not_mem_nil, false_implies, implies_true, and_true]
      omega
    · split at h
      · refine hlarge [_, _, _] ?_ h
        simp only [List.forall_mem_cons, List.not_mem_nil, false_implies, implies_true, and_true]
        omega
      · refine hlarge [_, _, _, _] ?_ h
        simp only [List.forall_mem_cons, List.not_mem_nil, false_implies, implies_true, and_true]
        omega

/-- A text is read from its bytes. -/
theorem decodeLossy_utf8 (cs : List Char) :
    decodeLossy (cs.flatMap String.utf8EncodeChar) = cs := by
  induction cs with
  | nil => rw [List.flatMap_nil, decodeLossy]
  | cons ch rest ih =>
    obtain ⟨first, tail, hbytes, hdecode⟩ :=
      decodeChar_utf8EncodeChar ch (rest.flatMap String.utf8EncodeChar)
    rw [List.flatMap_cons, hbytes, List.cons_append, decodeLossy, hdecode]
    simp only [Option.getD_some, List.drop_left, ih]

end ServiceContract.Text
