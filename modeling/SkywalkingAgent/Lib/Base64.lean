import Mathlib.Tactic.SplitIfs

/-!
# Base64

The encoding of RFC 4648 with the standard alphabet and padding, on lists of bytes and characters.
The decoder is strict: it takes full quanta only, with the padding in place and zero trailing bits.
The module shows that it inverts the encoder (`decode_encode`), that it accepts nothing else
(`decode_eq_some_iff`), which texts these are (`canonical_iff`) and which characters the encoder
uses (`isCode_of_mem_encode`).
-/

set_option autoImplicit false

namespace SkywalkingAgent.Lib.Base64

/-- The character of a six-bit value. -/
def toChar (n : Nat) : Char :=
  if n < 26 then Char.ofNat (65 + n)
  else if n < 52 then Char.ofNat (97 + (n - 26))
  else if n < 62 then Char.ofNat (48 + (n - 52))
  else if n = 62 then '+'
  else '/'

/-- The six-bit value of a character of the alphabet. -/
def ofChar? (c : Char) : Option Nat :=
  if 'A' ≤ c ∧ c ≤ 'Z' then some (c.toNat - 65)
  else if 'a' ≤ c ∧ c ≤ 'z' then some (c.toNat - 97 + 26)
  else if '0' ≤ c ∧ c ≤ '9' then some (c.toNat - 48 + 52)
  else if c = '+' then some 62
  else if c = '/' then some 63
  else none

/-- The characters of an encoded text: the alphabet and the padding. -/
def isCode (c : Char) : Bool := c.isAlphanum || c = '+' || c = '/' || c = '='

/-- The first six-bit value of a quantum. -/
def first (a : UInt8) : Nat := a.toNat / 4

/-- The second six-bit value; a missing byte counts as zero. -/
def second (a b : UInt8) : Nat := a.toNat % 4 * 16 + b.toNat / 16

/-- The third six-bit value. -/
def third (b c : UInt8) : Nat := b.toNat % 16 * 4 + c.toNat / 64

/-- The fourth six-bit value. -/
def fourth (c : UInt8) : Nat := c.toNat % 64

/-- The encoder: four characters for three bytes, and a last quantum with padding. -/
def encode : List UInt8 → List Char
  | [] => []
  | [a] => [toChar (first a), toChar (second a 0), '=', '=']
  | [a, b] => [toChar (first a), toChar (second a b), toChar (third b 0), '=']
  | a :: b :: c :: rest =>
      toChar (first a) :: toChar (second a b) :: toChar (third b c) :: toChar (fourth c) ::
        encode rest

/-- The first byte of the six-bit values of a quantum. -/
def byte₁ (p q : Nat) : UInt8 := UInt8.ofNat (p * 4 + q / 16)

/-- The second byte of a quantum. -/
def byte₂ (q r : Nat) : UInt8 := UInt8.ofNat (q % 16 * 16 + r / 4)

/-- The third byte of a quantum. -/
def byte₃ (r s : Nat) : UInt8 := UInt8.ofNat (r % 4 * 64 + s)

/-- The decoder: it accepts padding in the last quantum only, and no bits left over there. -/
def decode : List Char → Option (List UInt8)
  | [] => some []
  | c₁ :: c₂ :: c₃ :: c₄ :: rest =>
      match ofChar? c₁, ofChar? c₂, ofChar? c₃, ofChar? c₄ with
      | some p, some q, some r, some s =>
          (decode rest).map fun bytes => byte₁ p q :: byte₂ q r :: byte₃ r s :: bytes
      | some p, some q, some r, none =>
          if c₄ = '=' ∧ rest = [] ∧ r % 4 = 0 then some [byte₁ p q, byte₂ q r] else none
      | some p, some q, none, none =>
          if c₃ = '=' ∧ c₄ = '=' ∧ rest = [] ∧ q % 16 = 0 then some [byte₁ p q] else none
      | _, _, _, _ => none
  | _ => none

theorem ofChar?_toChar {n : Nat} (hn : n < 64) : ofChar? (toChar n) = some n := by
  have hall : ∀ i : Fin 64, ofChar? (toChar i.val) = some i.val := by decide
  exact hall ⟨n, hn⟩

theorem isCode_toChar {n : Nat} (hn : n < 64) : isCode (toChar n) = true := by
  have hall : ∀ i : Fin 64, isCode (toChar i.val) = true := by decide
  exact hall ⟨n, hn⟩

theorem first_lt (a : UInt8) : first a < 64 := by
  have ha := a.toNat_lt
  unfold first
  omega

theorem second_lt (a b : UInt8) : second a b < 64 := by
  have hb := b.toNat_lt
  unfold second
  omega

theorem third_lt (b c : UInt8) : third b c < 64 := by
  have hc := c.toNat_lt
  unfold third
  omega

theorem fourth_lt (c : UInt8) : fourth c < 64 := by
  unfold fourth
  omega

theorem byte₁_values (a b : UInt8) : byte₁ (first a) (second a b) = a := by
  have hb := b.toNat_lt
  have hsum : first a * 4 + second a b / 16 = a.toNat := by
    unfold first second
    omega
  rw [byte₁, hsum, UInt8.ofNat_toNat]

theorem byte₂_values (a b c : UInt8) : byte₂ (second a b) (third b c) = b := by
  have hb := b.toNat_lt
  have hc := c.toNat_lt
  have hsum : second a b % 16 * 16 + third b c / 4 = b.toNat := by
    unfold second third
    omega
  rw [byte₂, hsum, UInt8.ofNat_toNat]

theorem byte₃_values (b c : UInt8) : byte₃ (third b c) (fourth c) = c := by
  have hc := c.toNat_lt
  have hsum : third b c % 4 * 64 + fourth c = c.toNat := by
    unfold third fourth
    omega
  rw [byte₃, hsum, UInt8.ofNat_toNat]

/-- The decoder inverts the encoder. -/
theorem decode_encode (bytes : List UInt8) : decode (encode bytes) = some bytes := by
  induction bytes using encode.induct with
  | case1 => rfl
  | case2 a =>
    have hpad : ofChar? '=' = none := by decide
    -- the encoder pads with zero bits, which the decoder asks for
    have hzero : second a 0 % 16 = 0 := by
      unfold second
      simp
    simp [encode, decode, ofChar?_toChar (first_lt a), ofChar?_toChar (second_lt a 0), hpad, hzero,
      byte₁_values]
  | case3 a b =>
    have hpad : ofChar? '=' = none := by decide
    have hzero : third b 0 % 4 = 0 := by
      unfold third
      simp
    simp [encode, decode, ofChar?_toChar (first_lt a), ofChar?_toChar (second_lt a b),
      ofChar?_toChar (third_lt b 0), hpad, hzero, byte₁_values, byte₂_values]
  | case4 a b c rest ih =>
    simp [encode, decode, ofChar?_toChar (first_lt a), ofChar?_toChar (second_lt a b),
      ofChar?_toChar (third_lt b c), ofChar?_toChar (fourth_lt c), ih, byte₁_values, byte₂_values,
      byte₃_values]

/-- An encoded text is written in the alphabet and the padding. -/
theorem isCode_of_mem_encode {bytes : List UInt8} {c : Char} (hc : c ∈ encode bytes) :
    isCode c = true := by
  induction bytes using encode.induct with
  | case1 => cases hc
  | case2 a =>
    simp only [encode, List.mem_cons, List.not_mem_nil, or_false] at hc
    rcases hc with rfl | rfl | rfl | rfl
    · exact isCode_toChar (first_lt a)
    · exact isCode_toChar (second_lt a 0)
    · rfl
    · rfl
  | case3 a b =>
    simp only [encode, List.mem_cons, List.not_mem_nil, or_false] at hc
    rcases hc with rfl | rfl | rfl | rfl
    · exact isCode_toChar (first_lt a)
    · exact isCode_toChar (second_lt a b)
    · exact isCode_toChar (third_lt b 0)
    · rfl
  | case4 a b c' rest ih =>
    simp only [encode, List.mem_cons] at hc
    rcases hc with rfl | rfl | rfl | rfl | hc
    · exact isCode_toChar (first_lt a)
    · exact isCode_toChar (second_lt a b)
    · exact isCode_toChar (third_lt b c')
    · exact isCode_toChar (fourth_lt c')
    · exact ih hc

/-! ## The canonical texts -/

/-- A character of the alphabet. -/
def isSymbol (c : Char) : Bool := c.isAlphanum || c = '+' || c = '/'

/-- The texts that RFC 4648 allows for some bytes: quanta of four symbols, and at the end possibly a
quantum of two bytes or of one byte with its padding, whose last symbol has zero trailing bits. -/
inductive Canonical : List Char → Prop where
  | nil : Canonical []
  | quantum {c₁ c₂ c₃ c₄ : Char} {rest : List Char} :
      isSymbol c₁ = true → isSymbol c₂ = true → isSymbol c₃ = true → isSymbol c₄ = true →
      Canonical rest → Canonical (c₁ :: c₂ :: c₃ :: c₄ :: rest)
  | twoBytes {c₁ c₂ c₃ : Char} :
      isSymbol c₁ = true → isSymbol c₂ = true → c₃ ∈ "AEIMQUYcgkosw048".toList →
      Canonical [c₁, c₂, c₃, '=']
  | oneByte {c₁ c₂ : Char} :
      isSymbol c₁ = true → c₂ ∈ "AQgw".toList → Canonical [c₁, c₂, '=', '=']

/-- A character has at most one value, and it is the character of its value. -/
theorem ofChar?_eq_some_iff {c : Char} {n : Nat} : ofChar? c = some n ↔ n < 64 ∧ c = toChar n := by
  constructor
  · have hle : ∀ a b : Char, a ≤ b ↔ a.toNat ≤ b.toNat := fun a b => UInt32.le_iff_toNat_le
    have hchar : ∀ m : Nat, m = c.toNat → Char.ofNat m = c := by
      rintro m rfl
      exact Char.ofNat_toNat c
    have hlimits : 'A'.toNat = 65 ∧ 'Z'.toNat = 90 ∧ 'a'.toNat = 97 ∧ 'z'.toNat = 122 ∧
        '0'.toNat = 48 ∧ '9'.toNat = 57 := by decide
    -- the ranges of the alphabet, as numbers
    obtain ⟨hA, hZ, ha, hz, h0, h9⟩ := hlimits
    intro h
    unfold ofChar? at h
    simp only [hle, hA, hZ, ha, hz, h0, h9] at h
    unfold toChar
    split_ifs at h with hupper hlower hdigit hplus hslash
    · obtain rfl := Option.some.inj h
      exact ⟨by omega, by rw [if_pos (by omega), hchar _ (by omega)]⟩
    · obtain rfl := Option.some.inj h
      exact ⟨by omega, by rw [if_neg (by omega), if_pos (by omega), hchar _ (by omega)]⟩
    · obtain rfl := Option.some.inj h
      exact ⟨by omega,
        by rw [if_neg (by omega), if_neg (by omega), if_pos (by omega), hchar _ (by omega)]⟩
    · obtain rfl := Option.some.inj h
      exact ⟨by decide, hplus⟩
    · obtain rfl := Option.some.inj h
      exact ⟨by decide, hslash⟩
  · rintro ⟨hn, rfl⟩
    exact ofChar?_toChar hn

theorem isSymbol_toChar {n : Nat} (hn : n < 64) : isSymbol (toChar n) = true := by
  have hall : ∀ i : Fin 64, isSymbol (toChar i.val) = true := by decide
  exact hall ⟨n, hn⟩

theorem ofChar?_isSome {c : Char} : (ofChar? c).isSome = isSymbol c := by
  have hle : ∀ a b : Char, a ≤ b ↔ a.val ≤ b.val := fun a b => Iff.rfl
  unfold ofChar? isSymbol Char.isAlphanum Char.isAlpha Char.isUpper Char.isLower Char.isDigit
  simp only [hle]
  grind

theorem mem_twoBytes {n : Nat} (hn : n < 64) :
    toChar n ∈ "AEIMQUYcgkosw048".toList ↔ n % 4 = 0 := by
  have hall : ∀ i : Fin 64, toChar i.val ∈ "AEIMQUYcgkosw048".toList ↔ i.val % 4 = 0 := by decide
  exact hall ⟨n, hn⟩

theorem mem_oneByte {n : Nat} (hn : n < 64) : toChar n ∈ "AQgw".toList ↔ n % 16 = 0 := by
  have hall : ∀ i : Fin 64, toChar i.val ∈ "AQgw".toList ↔ i.val % 16 = 0 := by decide
  exact hall ⟨n, hn⟩

/-- Every symbol is the character of a six-bit value. -/
theorem exists_value {c : Char} (hc : isSymbol c = true) : ∃ n, n < 64 ∧ c = toChar n := by
  rw [← ofChar?_isSome, Option.isSome_iff_exists] at hc
  obtain ⟨n, hn⟩ := hc
  exact ⟨n, ofChar?_eq_some_iff.1 hn⟩

section Values

variable {p q r s : Nat}

theorem first_byte₁ (hp : p < 64) (hq : q < 64) : first (byte₁ p q) = p := by
  simp only [first, byte₁, UInt8.toNat_ofNat']
  omega

theorem second_bytes (hq : q < 64) (hr : r < 64) : second (byte₁ p q) (byte₂ q r) = q := by
  simp only [second, byte₁, byte₂, UInt8.toNat_ofNat']
  omega

theorem second_byte₁ (hq : q < 64) (hzero : q % 16 = 0) : second (byte₁ p q) 0 = q := by
  simp only [second, byte₁, UInt8.toNat_ofNat', UInt8.toNat_zero]
  omega

theorem third_bytes (hr : r < 64) (hs : s < 64) : third (byte₂ q r) (byte₃ r s) = r := by
  simp only [third, byte₂, byte₃, UInt8.toNat_ofNat']
  omega

theorem third_byte₂ (hr : r < 64) (hzero : r % 4 = 0) : third (byte₂ q r) 0 = r := by
  simp only [third, byte₂, UInt8.toNat_ofNat', UInt8.toNat_zero]
  omega

theorem fourth_byte₃ (hs : s < 64) : fourth (byte₃ r s) = s := by
  simp only [fourth, byte₃, UInt8.toNat_ofNat']
  omega

end Values

/-- The decoder accepts a text only as the encoding of the bytes it returns. -/
theorem encode_of_decode {cs : List Char} {bytes : List UInt8} (h : decode cs = some bytes) :
    encode bytes = cs := by
  -- the cases are those of the decoder; only three of them accept a quantum
  induction cs using decode.induct generalizing bytes with
  | case1 =>
    obtain rfl := Option.some.inj h
    rfl
  | case2 c₁ c₂ c₃ c₄ rest p q r s h₄ h₃ h₂ h₁ ih =>
    simp only [decode, h₁, h₂, h₃, h₄] at h
    obtain ⟨tail, htail, rfl⟩ := Option.map_eq_some_iff.1 h
    obtain ⟨hp, rfl⟩ := ofChar?_eq_some_iff.1 h₁
    obtain ⟨hq, rfl⟩ := ofChar?_eq_some_iff.1 h₂
    obtain ⟨hr, rfl⟩ := ofChar?_eq_some_iff.1 h₃
    obtain ⟨hs, rfl⟩ := ofChar?_eq_some_iff.1 h₄
    rw [encode, first_byte₁ hp hq, second_bytes hq hr, third_bytes hr hs, fourth_byte₃ hs,
      ih htail]
  | case3 c₁ c₂ c₃ c₄ rest p q r h₄ h₃ h₂ h₁ hpad =>
    simp only [decode, h₁, h₂, h₃, h₄, if_pos hpad] at h
    obtain rfl := Option.some.inj h
    obtain ⟨rfl, rfl, hzero⟩ := hpad
    obtain ⟨hp, rfl⟩ := ofChar?_eq_some_iff.1 h₁
    obtain ⟨hq, rfl⟩ := ofChar?_eq_some_iff.1 h₂
    obtain ⟨hr, rfl⟩ := ofChar?_eq_some_iff.1 h₃
    rw [encode, first_byte₁ hp hq, second_bytes hq hr, third_byte₂ hr hzero]
  | case4 c₁ c₂ c₃ c₄ rest p q r h₄ h₃ h₂ h₁ hpad =>
    simp [decode, h₁, h₂, h₃, h₄, if_neg hpad] at h
  | case5 c₁ c₂ c₃ c₄ rest p q h₄ h₃ h₂ h₁ hpad =>
    simp only [decode, h₁, h₂, h₃, h₄, if_pos hpad] at h
    obtain rfl := Option.some.inj h
    obtain ⟨rfl, rfl, rfl, hzero⟩ := hpad
    obtain ⟨hp, rfl⟩ := ofChar?_eq_some_iff.1 h₁
    obtain ⟨hq, rfl⟩ := ofChar?_eq_some_iff.1 h₂
    rw [encode, first_byte₁ hp hq, second_byte₁ hq hzero]
  | case6 c₁ c₂ c₃ c₄ rest p q h₄ h₃ h₂ h₁ hpad =>
    simp [decode, h₁, h₂, h₃, h₄, if_neg hpad] at h
  | case7 c₁ c₂ c₃ c₄ rest hfour hthree htwo =>
    rw [decode] at h
    split at h
    · exact (hfour _ _ _ _ ‹_› ‹_› ‹_› ‹_›).elim
    · exact (hthree _ _ _ ‹_› ‹_› ‹_› ‹_›).elim
    · exact (htwo _ _ ‹_› ‹_› ‹_› ‹_›).elim
    · exact nomatch h
  | case8 t hnil hquantum =>
    rw [decode] at h
    · exact nomatch h
    · exact hnil
    · exact hquantum

/-- Decoding is exactly the inverse of encoding: each text has at most one value, and each value one
text. -/
theorem decode_eq_some_iff {cs : List Char} {bytes : List UInt8} :
    decode cs = some bytes ↔ cs = encode bytes := by
  constructor
  · intro h
    exact (encode_of_decode h).symm
  · rintro rfl
    exact decode_encode bytes

theorem canonical_encode (bytes : List UInt8) : Canonical (encode bytes) := by
  induction bytes using encode.induct with
  | case1 => exact .nil
  | case2 a =>
    apply Canonical.oneByte (isSymbol_toChar (first_lt a))
    apply (mem_oneByte (second_lt a 0)).2
    simp [second]
  | case3 a b =>
    apply Canonical.twoBytes (isSymbol_toChar (first_lt a)) (isSymbol_toChar (second_lt a b))
    apply (mem_twoBytes (third_lt b 0)).2
    simp [third]
  | case4 a b c rest ih =>
    exact .quantum (isSymbol_toChar (first_lt a)) (isSymbol_toChar (second_lt a b))
      (isSymbol_toChar (third_lt b c)) (isSymbol_toChar (fourth_lt c)) ih

/-- The canonical texts are the ones that are an encoding. -/
theorem canonical_iff {cs : List Char} : Canonical cs ↔ ∃ bytes, cs = encode bytes := by
  constructor
  · intro h
    -- the last symbols that the padded quanta allow are symbols
    have hsymbol : ∀ {c : Char} {s : String}, c ∈ s.toList → s.toList.all isSymbol = true →
        isSymbol c = true := fun hc hall => List.all_eq_true.1 hall _ hc
    induction h with
    | nil => exact ⟨[], rfl⟩
    | quantum h₁ h₂ h₃ h₄ _ ih =>
      obtain ⟨bytes, rfl⟩ := ih
      obtain ⟨p, hp, rfl⟩ := exists_value h₁
      obtain ⟨q, hq, rfl⟩ := exists_value h₂
      obtain ⟨r, hr, rfl⟩ := exists_value h₃
      obtain ⟨s, hs, rfl⟩ := exists_value h₄
      refine ⟨byte₁ p q :: byte₂ q r :: byte₃ r s :: bytes, ?_⟩
      rw [encode, first_byte₁ hp hq, second_bytes hq hr, third_bytes hr hs, fourth_byte₃ hs]
    | twoBytes h₁ h₂ h₃ =>
      obtain ⟨p, hp, rfl⟩ := exists_value h₁
      obtain ⟨q, hq, rfl⟩ := exists_value h₂
      obtain ⟨r, hr, rfl⟩ := exists_value (hsymbol h₃ (by decide))
      refine ⟨[byte₁ p q, byte₂ q r], ?_⟩
      rw [encode, first_byte₁ hp hq, second_bytes hq hr, third_byte₂ hr ((mem_twoBytes hr).1 h₃)]
    | oneByte h₁ h₂ =>
      obtain ⟨p, hp, rfl⟩ := exists_value h₁
      obtain ⟨q, hq, rfl⟩ := exists_value (hsymbol h₂ (by decide))
      refine ⟨[byte₁ p q], ?_⟩
      rw [encode, first_byte₁ hp hq, second_byte₁ hq ((mem_oneByte hq).1 h₂)]
  · rintro ⟨bytes, rfl⟩
    exact canonical_encode bytes

end SkywalkingAgent.Lib.Base64
