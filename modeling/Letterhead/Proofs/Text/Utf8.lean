import Letterhead.Text.Utf8
import Mathlib.Tactic.Common

/-
  UTF-8 byte by byte. The bytes of a character are told by ranges: how many follow the first byte,
  and which second bytes are ruled out, because fewer bytes would do, or because the number would
  be that of a surrogate or past the last character (`CharBytes`). The encoding of a text is a
  sequence of such bytes, and every such sequence is the encoding of a text (`wellFormed_iff`),
  which is the text that decoding finds (`decode?_eq_some_iff`).
-/

namespace Letterhead.Utf8

/-- A byte that continues a character. -/
def IsTail (b : UInt8) : Prop := 0x80 ≤ b.toNat ∧ b.toNat ≤ 0xBF

/-- The bytes of one character. -/
inductive CharBytes : List UInt8 → Prop
  | one {a : UInt8} (ha : a.toNat ≤ 0x7F) : CharBytes [a]
  | two {a b : UInt8} (ha : 0xC2 ≤ a.toNat ∧ a.toNat ≤ 0xDF) (hb : IsTail b) : CharBytes [a, b]
  | three {a b c : UInt8} (ha : 0xE0 ≤ a.toNat ∧ a.toNat ≤ 0xEF) (hb : IsTail b) (hc : IsTail c)
      (hshort : a.toNat = 0xE0 → 0xA0 ≤ b.toNat)
      (hsurrogate : a.toNat = 0xED → b.toNat ≤ 0x9F) : CharBytes [a, b, c]
  | four {a b c d : UInt8} (ha : 0xF0 ≤ a.toNat ∧ a.toNat ≤ 0xF4) (hb : IsTail b)
      (hc : IsTail c) (hd : IsTail d) (hshort : a.toNat = 0xF0 → 0x90 ≤ b.toNat)
      (hlast : a.toNat = 0xF4 → b.toNat ≤ 0x8F) : CharBytes [a, b, c, d]

/-- The bytes of characters, one after the other. -/
inductive WellFormed : List UInt8 → Prop
  | nil : WellFormed []
  | cons {bytes rest : List UInt8} (h : CharBytes bytes) (hrest : WellFormed rest) :
      WellFormed (bytes ++ rest)

/-! ## Characters -/

theorem isTail_ofNat (n : Nat) : IsTail (UInt8.ofNat (n % 64 + 128)) := by
  rw [IsTail, UInt8.toNat_ofNat']
  omega

/-- The bytes of a character are in the ranges for their number. -/
theorem charBytes_encodeChar (c : Char) : CharBytes (String.utf8EncodeChar c) := by
  have hvalid : c.val.toNat < 0xD800 ∨ 0xDFFF < c.val.toNat ∧ c.val.toNat < 0x110000 := c.valid
  unfold String.utf8EncodeChar
  dsimp only
  generalize c.val.toNat = v at hvalid
  by_cases h1 : v ≤ 0x7F
  · rw [if_pos h1]
    refine .one ?_
    rw [UInt8.toNat_ofNat']
    omega
  rw [if_neg h1]
  by_cases h2 : v ≤ 0x7FF
  · rw [if_pos h2]
    refine .two ?_ (isTail_ofNat v)
    rw [UInt8.toNat_ofNat']
    omega
  rw [if_neg h2]
  by_cases h3 : v ≤ 0xFFFF
  · rw [if_pos h3]
    refine .three ?_ (isTail_ofNat _) (isTail_ofNat v) ?_ ?_
    all_goals
      simp only [UInt8.toNat_ofNat']
      omega
  · rw [if_neg h3]
    refine .four ?_ (isTail_ofNat _) (isTail_ofNat _) (isTail_ofNat v) ?_ ?_
    all_goals
      simp only [UInt8.toNat_ofNat']
      omega

/-- The bytes of a number that stands for a character. -/
theorem exists_encodeChar {n : Nat} (hn : n.isValidChar) {bytes : List UInt8}
    (h : ∀ c : Char, c.val.toNat = n → String.utf8EncodeChar c = bytes) :
    ∃ c, String.utf8EncodeChar c = bytes :=
  ⟨Char.ofNatAux n hn, h _ rfl⟩

theorem ofNat_eq {n : Nat} {b : UInt8} (h : n = b.toNat) : UInt8.ofNat n = b := by
  rw [h, UInt8.ofNat_toNat]

/-- Bytes in these ranges are those of a character: the bits behind the marks of the bytes make up
its number. -/
theorem CharBytes.exists_char {bytes : List UInt8} (h : CharBytes bytes) :
    ∃ c, String.utf8EncodeChar c = bytes := by
  cases h with
  | @one a ha =>
    refine exists_encodeChar (n := a.toNat) (Or.inl (by omega)) fun c hc => ?_
    unfold String.utf8EncodeChar
    dsimp only
    rw [hc, if_pos ha, ofNat_eq rfl]
  | @two a b ha hb =>
    unfold IsTail at hb
    obtain ⟨n, hn⟩ : ∃ n, n = (a.toNat - 0xC0) * 64 + (b.toNat - 0x80) := ⟨_, rfl⟩
    refine exists_encodeChar (n := n) (Or.inl (by omega)) fun ch hch => ?_
    have ha' : n / 64 % 32 + 192 = a.toNat := by omega
    have hb' : n % 64 + 128 = b.toNat := by omega
    unfold String.utf8EncodeChar
    dsimp only
    rw [hch, if_neg (by omega), if_pos (by omega), ofNat_eq ha', ofNat_eq hb']
  | @three a b c ha hb hc hshort hsurrogate =>
    unfold IsTail at hb hc
    obtain ⟨n, hn⟩ : ∃ n, n = (a.toNat - 0xE0) * 4096 + (b.toNat - 0x80) * 64 +
      (c.toNat - 0x80) := ⟨_, rfl⟩
    have hvalid : n < 0xD800 ∨ 0xDFFF < n ∧ n < 0x110000 := by omega
    refine exists_encodeChar (n := n) hvalid fun ch hch => ?_
    have ha' : n / 4096 % 16 + 224 = a.toNat := by omega
    have hb' : n / 64 % 64 + 128 = b.toNat := by omega
    have hc' : n % 64 + 128 = c.toNat := by omega
    unfold String.utf8EncodeChar
    dsimp only
    rw [hch, if_neg (by omega), if_neg (by omega), if_pos (by omega), ofNat_eq ha', ofNat_eq hb',
      ofNat_eq hc']
  | @four a b c d ha hb hc hd hshort hlast =>
    unfold IsTail at hb hc hd
    obtain ⟨n, hn⟩ : ∃ n, n = (a.toNat - 0xF0) * 262144 + (b.toNat - 0x80) * 4096 +
      (c.toNat - 0x80) * 64 + (d.toNat - 0x80) := ⟨_, rfl⟩
    have hvalid : n < 0xD800 ∨ 0xDFFF < n ∧ n < 0x110000 := by omega
    refine exists_encodeChar (n := n) hvalid fun ch hch => ?_
    have ha' : n / 262144 % 8 + 240 = a.toNat := by omega
    have hb' : n / 4096 % 64 + 128 = b.toNat := by omega
    have hc' : n / 64 % 64 + 128 = c.toNat := by omega
    have hd' : n % 64 + 128 = d.toNat := by omega
    unfold String.utf8EncodeChar
    dsimp only
    rw [hch, if_neg (by omega), if_neg (by omega), if_neg (by omega), ofNat_eq ha', ofNat_eq hb',
      ofNat_eq hc', ofNat_eq hd']

/-! ## Texts -/

variable {s : Text} {bytes : List UInt8}

theorem wellFormed_encode (s : Text) : WellFormed (encode s) := by
  induction s with
  | nil => exact .nil
  | cons c s ih =>
    rw [encode, List.flatMap_cons]
    exact .cons (charBytes_encodeChar c) ih

theorem WellFormed.exists_text (h : WellFormed bytes) : ∃ s, encode s = bytes := by
  induction h with
  | nil => exact ⟨[], rfl⟩
  | cons h _ ih =>
    obtain ⟨c, rfl⟩ := h.exists_char
    obtain ⟨s, rfl⟩ := ih
    exact ⟨c :: s, List.flatMap_cons⟩

theorem wellFormed_iff : WellFormed bytes ↔ ∃ s, encode s = bytes :=
  ⟨WellFormed.exists_text, fun ⟨s, hs⟩ => hs ▸ wellFormed_encode s⟩

theorem decode?_eq_some_iff : decode? bytes = some s ↔ encode s = bytes := by
  constructor
  · intro h
    obtain ⟨cs, hcs, rfl⟩ := Option.map_eq_some_iff.1 h
    have hsome : bytes.toByteArray.utf8Decode?.isSome = true := by rw [hcs]; rfl
    have hback := ByteArray.utf8Encode_get_utf8Decode? (h := hsome)
    simp only [hcs, Option.get_some] at hback
    have hdata := congrArg (fun b => b.data.toList) hback
    unfold encode
    simpa only [List.utf8Encode, List.data_toByteArray, List.toList_toArray] using hdata
  · rintro rfl
    exact decode?_encode s

theorem decode?_eq_none_iff : decode? bytes = none ↔ ¬ WellFormed bytes := by
  rw [wellFormed_iff, Option.eq_none_iff_forall_ne_some, not_exists]
  simp only [ne_eq, decode?_eq_some_iff]

/-! ## Marks -/

theorem zero_mem_encodeChar_iff {c : Char} : 0 ∈ String.utf8EncodeChar c ↔ c = '\x00' := by
  constructor
  · intro h
    have hval : c.val.toNat = 0 := by
      have hnat : ∃ b ∈ String.utf8EncodeChar c, b.toNat = 0 := ⟨0, h, rfl⟩
      unfold String.utf8EncodeChar at hnat
      dsimp only at hnat
      split_ifs at hnat <;>
        simp only [List.mem_cons, List.not_mem_nil, or_false, exists_eq_or_imp, exists_eq_left,
          UInt8.toNat_ofNat'] at hnat <;> omega
    exact Char.ext (UInt32.toNat_inj.1 hval)
  · rintro rfl
    decide

theorem zero_mem_encode_iff : 0 ∈ encode s ↔ '\x00' ∈ s := by
  simp only [encode, List.mem_flatMap, zero_mem_encodeChar_iff, exists_eq_right]

/-- The encoding of a text begins with a byte order mark when the text begins with U+FEFF. -/
theorem mark_prefix_encode_iff : mark <+: encode s ↔ s.head? = some '\uFEFF' := by
  constructor
  · rintro ⟨r, hr⟩
    have hbytes : ['\uFEFF'].utf8Encode ++ r.toByteArray = s.utf8Encode := by
      rw [List.utf8Encode, List.utf8Encode, ← List.toByteArray_append]
      exact congrArg List.toByteArray hr
    obtain ⟨t, rfl⟩ := List.isPrefix_of_utf8Encode_append_eq_utf8Encode _ hbytes
    rfl
  · intro h
    obtain ⟨t, rfl⟩ := List.head?_eq_some_iff.1 h
    exact List.prefix_append mark (encode t)

end Letterhead.Utf8
