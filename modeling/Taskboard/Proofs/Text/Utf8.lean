import Mathlib.Algebra.Group.Nat.Defs
import Taskboard.Text.Utf8
import Taskboard.Proofs.Checked

/-! Reading UTF-8 undoes writing it, and nothing else is read: the bytes that have a text are those of a text
    (`Utf8.decode_eq_ok_iff`). Inside a character a state knows which numbers it can still become (`Begun.Expects`),
    and for each of them its bytes are the first ones (`Begun.Sound`). -/

namespace Taskboard
namespace Utf8

/-- The last bytes of a character, each with six bits of its number. -/
def tail : (length : Nat) → (value : Nat) → List UInt8
  | 0, _ => []
  | length + 1, value => UInt8.ofNat (value / 64 ^ length % 64 + 128) :: tail length value

/-- The state may go on with the last bytes of a character with the given number. -/
def Begun.Expects (s : Begun) (value : Nat) : Prop :=
  value / 64 ^ s.owed = s.bits ∧
    s.low ≤ value / 64 ^ (s.owed - 1) % 64 + 128 ∧ value / 64 ^ (s.owed - 1) % 64 + 128 ≤ s.high

/-- The bytes of a state begin each character that it may become. -/
structure Begun.Sound (s : Begun) : Prop where
  owed_pos : 0 < s.owed
  bounds : 0x80 ≤ s.low ∧ s.high ≤ 0xBF
  encode : ∀ value, s.Expects value → String.utf8EncodeChar (Char.ofNat value) = s.bytes ++ tail s.owed value

/-! ### The bytes of one character -/

section Encode
variable {n : Nat}

theorem toNat_charOfNat (h : n < 0xD800 ∨ 0xDFFF < n ∧ n < 0x110000) : (Char.ofNat n).val.toNat = n := by
  have hvalid : n.isValidChar := h
  rw [Char.ofNat, dif_pos hvalid]
  rfl

theorem encode_one (h : n < 0x80) : String.utf8EncodeChar (Char.ofNat n) = [UInt8.ofNat n] := by
  rw [String.utf8EncodeChar, toNat_charOfNat (by omega), if_pos (by omega)]

theorem encode_two (h : 0x80 ≤ n) (h' : n < 0x800) :
    String.utf8EncodeChar (Char.ofNat n) = UInt8.ofNat (n / 64 ^ 1 + 0xC0) :: tail 1 n := by
  have hlead : n / 64 % 32 = n / 64 := by omega
  rw [String.utf8EncodeChar, toNat_charOfNat (by omega), if_neg (by omega), if_pos (by omega), hlead]
  simp [tail]

theorem encode_three (h : 0x800 ≤ n) (h' : n < 0xD800 ∨ 0xDFFF < n ∧ n < 0x10000) :
    String.utf8EncodeChar (Char.ofNat n) = UInt8.ofNat (n / 64 ^ 2 + 0xE0) :: tail 2 n := by
  have hlead : n / 4096 % 16 = n / 4096 := by omega
  rw [String.utf8EncodeChar, toNat_charOfNat (by omega), if_neg (by omega), if_neg (by omega), if_pos (by omega), hlead]
  simp [tail]

theorem encode_four (h : 0x10000 ≤ n) (h' : n < 0x110000) :
    String.utf8EncodeChar (Char.ofNat n) = UInt8.ofNat (n / 64 ^ 3 + 0xF0) :: tail 3 n := by
  have hlead : n / 262144 % 8 = n / 262144 := by omega
  rw [String.utf8EncodeChar, toNat_charOfNat (by omega), if_neg (by omega), if_neg (by omega), if_neg (by omega), hlead]
  simp [tail]

end Encode

/-! ### One byte -/

section Byte
variable {s s' : Begun} {b : UInt8} {c : Char} {n : Nat}

theorem toNat_ofNat_of_lt (h : n < 256) : (UInt8.ofNat n).toNat = n := by
  rw [UInt8.toNat_ofNat', Nat.mod_eq_of_lt h]

theorem ofNat_of_toNat (h : b.toNat = n) : UInt8.ofNat n = b := by
  rw [← h, UInt8.ofNat_toNat]

section First
variable {bits : Nat}

theorem start_two (hb : b.toNat = bits + 0xC0) (hbits : 2 ≤ bits) (hbits' : bits < 32) :
    start b = .continues ⟨1, 0x80, 0xBF, bits, [b]⟩ := by
  rw [start, hb, if_neg (by omega), if_neg (by omega), if_pos (by omega), Nat.add_sub_cancel]

theorem start_three (hb : b.toNat = bits + 0xE0) (hbits : bits < 16) :
    ∃ low high, start b = .continues ⟨2, low, high, bits, [b]⟩ ∧ (bits = 0 ∧ low = 0xA0 ∨ bits ≠ 0 ∧ low = 0x80) ∧
      (bits = 13 ∧ high = 0x9F ∨ bits ≠ 13 ∧ high = 0xBF) := by
  rw [start, hb, if_neg (by omega), if_neg (by omega), if_neg (by omega)]
  by_cases hfirst : bits = 0
  · exact ⟨0xA0, 0xBF, by rw [if_pos (by omega), hfirst], .inl ⟨hfirst, rfl⟩, .inr ⟨by omega, rfl⟩⟩
  rw [if_neg (by omega)]
  by_cases hsurrogate : bits = 13
  · exact ⟨0x80, 0x9F, by rw [if_pos (by omega), hsurrogate], .inr ⟨hfirst, rfl⟩, .inl ⟨hsurrogate, rfl⟩⟩
  · refine ⟨0x80, 0xBF, ?_, .inr ⟨hfirst, rfl⟩, .inr ⟨hsurrogate, rfl⟩⟩
    rw [if_neg (by omega), if_pos (by omega), Nat.add_sub_cancel]

theorem start_four (hb : b.toNat = bits + 0xF0) (hbits : bits ≤ 4) :
    ∃ low high, start b = .continues ⟨3, low, high, bits, [b]⟩ ∧ (bits = 0 ∧ low = 0x90 ∨ bits ≠ 0 ∧ low = 0x80) ∧
      (bits = 4 ∧ high = 0x8F ∨ bits ≠ 4 ∧ high = 0xBF) := by
  rw [start, hb, if_neg (by omega), if_neg (by omega), if_neg (by omega), if_neg (by omega), if_neg (by omega),
    if_neg (by omega)]
  by_cases hfirst : bits = 0
  · exact ⟨0x90, 0xBF, by rw [if_pos (by omega), hfirst], .inl ⟨hfirst, rfl⟩, .inr ⟨by omega, rfl⟩⟩
  rw [if_neg (by omega)]
  by_cases hlast : bits = 4
  · refine ⟨0x80, 0x8F, ?_, .inr ⟨hfirst, rfl⟩, .inl ⟨hlast, rfl⟩⟩
    rw [if_neg (by omega), if_pos (by omega), hlast]
  · refine ⟨0x80, 0xBF, ?_, .inr ⟨hfirst, rfl⟩, .inr ⟨hlast, rfl⟩⟩
    rw [if_pos (by omega), Nat.add_sub_cancel]

theorem start_breaks (h : 0x80 ≤ b.toNat) (h' : b.toNat < 0xC2 ∨ 0xF5 ≤ b.toNat) : start b = .breaks := by
  rw [start, if_neg (by omega)]
  rcases h' with h' | h'
  · rw [if_pos h']
  · rw [if_neg (by omega), if_neg (by omega), if_neg (by omega), if_neg (by omega), if_neg (by omega),
      if_neg (by omega), if_neg (by omega), if_neg (by omega)]

theorem sound_two (hb : b.toNat = bits + 0xC0) (hbits : 2 ≤ bits) (hbits' : bits < 32) :
    Begun.Sound ⟨1, 0x80, 0xBF, bits, [b]⟩ where
  owed_pos := Nat.one_pos
  bounds := ⟨Nat.le_refl _, Nat.le_refl _⟩
  encode value := by
    rintro ⟨hvalue, -, -⟩
    simp only at hvalue
    rw [encode_two (by omega) (by omega), ofNat_of_toNat (b := b) (by omega)]
    rfl

/-- The bounds of the second byte keep out numbers that need less room, and surrogates. -/
theorem sound_three {low high : Nat} (hb : b.toNat = bits + 0xE0) (hbits : bits < 16)
    (hlow : bits = 0 ∧ low = 0xA0 ∨ bits ≠ 0 ∧ low = 0x80) (hhigh : bits = 13 ∧ high = 0x9F ∨ bits ≠ 13 ∧ high = 0xBF) :
    Begun.Sound ⟨2, low, high, bits, [b]⟩ where
  owed_pos := Nat.two_pos
  bounds := by
    simp only
    omega
  encode value := by
    rintro ⟨hvalue, hsecond, hsecond'⟩
    simp only at hvalue hsecond hsecond'
    rw [encode_three (by omega) (by omega), ofNat_of_toNat (b := b) (by omega)]
    rfl

/-- The bounds of the second byte keep out numbers that need less room, and those beyond the last character. -/
theorem sound_four {low high : Nat} (hb : b.toNat = bits + 0xF0) (hbits : bits ≤ 4)
    (hlow : bits = 0 ∧ low = 0x90 ∨ bits ≠ 0 ∧ low = 0x80) (hhigh : bits = 4 ∧ high = 0x8F ∨ bits ≠ 4 ∧ high = 0xBF) :
    Begun.Sound ⟨3, low, high, bits, [b]⟩ where
  owed_pos := Nat.succ_pos 2
  bounds := by
    simp only
    omega
  encode value := by
    rintro ⟨hvalue, hsecond, hsecond'⟩
    simp only at hvalue hsecond hsecond'
    rw [encode_four (by omega) (by omega), ofNat_of_toNat (b := b) (by omega)]
    rfl

end First

/-- What a byte between characters does. -/
theorem start_cases (b : UInt8) :
    (b.toNat < 0x80 ∧ start b = .completes (Char.ofNat b.toNat)) ∨
    (∃ s : Begun, s.Sound ∧ s.bytes = [b] ∧ start b = .continues s) ∨ start b = .breaks := by
  by_cases h₁ : b.toNat < 0x80
  · exact .inl ⟨h₁, if_pos h₁⟩
  refine .inr ?_
  by_cases hbreaks : b.toNat < 0xC2 ∨ 0xF5 ≤ b.toNat
  · exact .inr (start_breaks (by omega) hbreaks)
  refine .inl ?_
  by_cases h₂ : b.toNat < 0xE0
  · have hb : b.toNat = b.toNat - 0xC0 + 0xC0 := by omega
    exact ⟨_, sound_two hb (by omega) (by omega), rfl, start_two hb (by omega) (by omega)⟩
  by_cases h₃ : b.toNat < 0xF0
  · have hb : b.toNat = b.toNat - 0xE0 + 0xE0 := by omega
    obtain ⟨low, high, hstart, hlow, hhigh⟩ := start_three hb (by omega)
    exact ⟨_, sound_three hb (by omega) hlow hhigh, rfl, hstart⟩
  · have hb : b.toNat = b.toNat - 0xF0 + 0xF0 := by omega
    obtain ⟨low, high, hstart, hlow, hhigh⟩ := start_four hb (by omega)
    exact ⟨_, sound_four hb (by omega) hlow hhigh, rfl, hstart⟩

/-- A byte inside of a character completes it, is one more byte of it, or breaks it off. -/
theorem Begun.Sound.next_cases (h : s.Sound) (b : UInt8) :
    (∃ c, String.utf8EncodeChar c = s.bytes ++ [b] ∧ s.next b = .completes c) ∨
    (∃ s' : Begun, s'.Sound ∧ s'.bytes = s.bytes ++ [b] ∧ s.next b = .continues s') ∨ s.next b = .breaks := by
  obtain ⟨owed, low, high, bits, bytes⟩ := s
  obtain ⟨howed, ⟨hlow, hhigh⟩, hencode⟩ := h
  obtain ⟨k, rfl⟩ : ∃ k, owed = k + 1 := ⟨owed - 1, (Nat.succ_pred_eq_of_pos howed).symm⟩
  simp only at hlow hhigh
  -- A number that the byte may come from is one that the state expects.
  have hread {value : Nat} (hvalue : value / 64 ^ k = bits * 64 + (b.toNat - 0x80)) (hb : low ≤ b.toNat)
      (hb' : b.toNat ≤ high) : String.utf8EncodeChar (Char.ofNat value) = bytes ++ b :: tail k value := by
    have hexpects : Begun.Expects ⟨k + 1, low, high, bits, bytes⟩ value := by
      refine ⟨?_, ?_, ?_⟩ <;> simp only [Nat.add_sub_cancel, Nat.pow_succ, ← Nat.div_div_eq_div_mul, hvalue] <;> omega
    rw [hencode value hexpects, tail, hvalue, ofNat_of_toNat (b := b) (by omega)]
  simp only [Begun.next]
  split
  · exact .inr (.inr rfl)
  split
  next hb hk =>
    obtain rfl : k = 0 := by omega
    refine .inl ⟨_, ?_, rfl⟩
    exact hread (Nat.div_one _) (by omega) (by omega)
  next hb hk =>
    refine .inr (.inl ⟨_, ⟨?_, ?_, fun value hvalue => ?_⟩, rfl, rfl⟩)
    · simp only
      omega
    · simp
    · obtain ⟨hvalue, -, -⟩ := hvalue
      simp only [Nat.add_sub_cancel] at hvalue ⊢
      rw [hread hvalue (by omega) (by omega), List.append_assoc]
      rfl

/-- What a state expects takes it to the end of the character. -/
theorem Begun.Expects.decodeFrom {value : Nat} (hpos : 0 < s.owed) (h : s.Expects value) (position : Nat)
    (rest : List UInt8) : decodeFrom (some s) position (tail s.owed value ++ rest) =
      (decodeFrom none (position + s.owed) rest).map (Char.ofNat value :: ·) := by
  obtain ⟨k, hk⟩ : ∃ k, s.owed = k + 1 := ⟨s.owed - 1, by omega⟩
  induction k generalizing s position with
  | zero =>
    obtain ⟨hbits, hlow, hhigh⟩ := h
    rw [hk] at hbits hlow hhigh ⊢
    simp only [Nat.zero_add, Nat.sub_self, Nat.pow_zero, Nat.pow_one, Nat.div_one] at hbits hlow hhigh
    have hb : (UInt8.ofNat (value % 64 + 128)).toNat = value % 64 + 128 := toNat_ofNat_of_lt (by omega)
    have hvalue : s.bits * 64 + (value % 64 + 128 - 128) = value := by omega
    have hnext : s.next (UInt8.ofNat (value % 64 + 128)) = .completes (Char.ofNat value) := by
      simp only [Begun.next, hb, hvalue]
      rw [if_neg (by omega), if_pos (by omega)]
    simp only [tail, Nat.zero_add, Nat.pow_zero, Nat.div_one, List.cons_append, List.nil_append, Utf8.decodeFrom, hnext]
  | succ k ih =>
    obtain ⟨hbits, hlow, hhigh⟩ := h
    rw [hk] at hbits hlow hhigh ⊢
    simp only [Nat.add_sub_cancel] at hbits hlow hhigh
    obtain ⟨m, hm⟩ : ∃ m, m = value / 64 ^ (k + 1) := ⟨_, rfl⟩
    have hb : (UInt8.ofNat (m % 64 + 128)).toNat = m % 64 + 128 := toNat_ofNat_of_lt (by omega)
    have hbits' : m / 64 = s.bits := by rw [hm, Nat.div_div_eq_div_mul, ← Nat.pow_succ, hbits]
    rw [← hm] at hlow hhigh
    have hvalue : s.bits * 64 + (m % 64 + 128 - 128) = m := by omega
    have hnext : s.next (UInt8.ofNat (m % 64 + 128)) =
        .continues ⟨k + 1, 0x80, 0xBF, m, s.bytes ++ [UInt8.ofNat (m % 64 + 128)]⟩ := by
      simp only [Begun.next, hb, hvalue]
      rw [if_neg (by omega), if_neg (by omega), hk]
      rfl
    have hexpects : Begun.Expects ⟨k + 1, 0x80, 0xBF, m, s.bytes ++ [UInt8.ofNat (m % 64 + 128)]⟩ value := by
      refine ⟨hm.symm, ?_, ?_⟩ <;> simp only [Nat.add_sub_cancel] <;> omega
    rw [tail, ← hm, List.cons_append, Utf8.decodeFrom, hnext]
    simp only
    rw [ih (Nat.succ_pos k) hexpects (position + 1) rfl]
    simp only [Nat.add_assoc, Nat.add_comm 1]

/-- The first byte of a character leads to a state that expects the others. -/
theorem exists_start (hvalid : n.isValidChar) (h : 0x80 ≤ n) : ∃ b s, String.utf8EncodeChar (Char.ofNat n) =
    b :: tail s.owed n ∧ start b = .continues s ∧ 0 < s.owed ∧ s.Expects n := by
  have hvalid : n < 0xD800 ∨ 0xDFFF < n ∧ n < 0x110000 := hvalid
  by_cases h₂ : n < 0x800
  · have hlead : (UInt8.ofNat (n / 64 ^ 1 + 0xC0)).toNat = n / 64 ^ 1 + 0xC0 := toNat_ofNat_of_lt (by omega)
    refine ⟨_, ⟨1, _, _, _, _⟩, encode_two h h₂, start_two hlead (by omega) (by omega), Nat.one_pos, rfl, ?_⟩
    simp only
    omega
  by_cases h₃ : n < 0x10000
  · have hlead : (UInt8.ofNat (n / 64 ^ 2 + 0xE0)).toNat = n / 64 ^ 2 + 0xE0 := toNat_ofNat_of_lt (by omega)
    obtain ⟨low, high, hstart, hlow, hhigh⟩ := start_three hlead (by omega)
    refine ⟨_, ⟨2, _, _, _, _⟩, encode_three (by omega) (by omega), hstart, Nat.two_pos, rfl, ?_⟩
    simp only
    omega
  · have hlead : (UInt8.ofNat (n / 64 ^ 3 + 0xF0)).toNat = n / 64 ^ 3 + 0xF0 := toNat_ofNat_of_lt (by omega)
    obtain ⟨low, high, hstart, hlow, hhigh⟩ := start_four hlead (by omega)
    refine ⟨_, ⟨3, _, _, _, _⟩, encode_four (by omega) (by omega), hstart, Nat.succ_pos 2, rfl, ?_⟩
    simp only
    omega

end Byte

/-! ### Texts -/

theorem encode_ofList (text : List Char) : encode (String.ofList text) = text.flatMap String.utf8EncodeChar := by
  rw [encode, String.toUTF8_eq_toByteArray, String.toByteArray_ofList, List.utf8Encode, List.toList_data_toByteArray]

theorem encode_append (s t : String) : encode (s ++ t) = encode s ++ encode t := by
  rw [← String.ofList_toList (s := s), ← String.ofList_toList (s := t), ← String.ofList_append]
  simp only [encode_ofList, List.flatMap_append]

theorem decodeFrom_encodeChar (c : Char) (position : Nat) (rest : List UInt8) :
    ∃ position', decodeFrom none position (String.utf8EncodeChar c ++ rest) =
      (decodeFrom none position' rest).map (c :: ·) := by
  rw [← Char.ofNat_toNat c]
  by_cases h : c.toNat < 0x80
  · have hb : (UInt8.ofNat c.toNat).toNat = c.toNat := toNat_ofNat_of_lt (by omega)
    have hstart : start (UInt8.ofNat c.toNat) = .completes (Char.ofNat c.toNat) := by
      rw [start, hb, if_pos h]
    refine ⟨position + 1, ?_⟩
    rw [encode_one h, List.singleton_append, decodeFrom, hstart]
  · obtain ⟨b, s, hencode, hstart, hpos, hexpects⟩ := exists_start c.valid (Nat.le_of_not_lt h)
    refine ⟨position + 1 + s.owed, ?_⟩
    rw [Char.toNat_val] at hencode hexpects
    rw [hencode, List.cons_append, decodeFrom, hstart]
    exact hexpects.decodeFrom hpos (position + 1) rest

theorem decodeFrom_flatMap (text : List Char) (position : Nat) :
    decodeFrom none position (text.flatMap String.utf8EncodeChar) = .ok text := by
  induction text generalizing position with
  | nil => rfl
  | cons c text ih =>
    obtain ⟨position', hc⟩ := decodeFrom_encodeChar c position (text.flatMap String.utf8EncodeChar)
    rw [List.flatMap_cons, hc, ih]
    rfl

/-- What has been read of a character together with what follows is the bytes of the text. -/
theorem bytes_of_decodeFrom {bytes : List UInt8} (begun : Option Begun) {position : Nat} {text : List Char}
    (hbegun : ∀ s, begun = some s → s.Sound) (h : decodeFrom begun position bytes = .ok text) :
    begun.elim [] (·.bytes) ++ bytes = text.flatMap String.utf8EncodeChar := by
  induction bytes generalizing begun position text with
  | nil =>
    cases begun with
    | none =>
      cases h
      rfl
    | some s => cases h
  | cons b rest ih =>
    cases begun with
    | none =>
      rw [decodeFrom] at h
      rcases start_cases b with ⟨hlt, hstart⟩ | ⟨s, hs, hbytes, hstart⟩ | hstart <;> rw [hstart] at h
      · obtain ⟨text', hrest, rfl⟩ := Checked.map_eq_ok_iff.mp h
        rw [List.flatMap_cons, encode_one hlt, UInt8.ofNat_toNat, ← ih none nofun hrest]
        rfl
      · have hrest := ih (some s) (by rintro _ ⟨⟩; exact hs) h
        rw [Option.elim_some, hbytes] at hrest
        exact hrest
      · cases h
    | some s =>
      rw [decodeFrom] at h
      rcases (hbegun s rfl).next_cases b with ⟨c, hc, hnext⟩ | ⟨s', hs', hbytes, hnext⟩ | hnext <;> rw [hnext] at h
      · obtain ⟨text', hrest, rfl⟩ := Checked.map_eq_ok_iff.mp h
        rw [List.flatMap_cons, hc, ← ih none nofun hrest, List.append_assoc]
        rfl
      · have hrest := ih (some s') (by rintro _ ⟨⟩; exact hs') h
        rw [Option.elim_some, hbytes, List.append_assoc] at hrest
        exact hrest
      · cases h

/-- The bytes that have a text are those of the text. -/
theorem decode_eq_ok_iff {bytes : List UInt8} {text : List Char} :
    decode bytes = .ok text ↔ bytes = encode (String.ofList text) := by
  rw [encode_ofList]
  constructor
  · exact bytes_of_decodeFrom none nofun
  · rintro rfl
    exact decodeFrom_flatMap text 0

end Utf8
end Taskboard
