import SkywalkingAgent.Propagation.Codec

/-!
# The grammar of the header

What `decode_propagation` accepts, said without a decoder: eight pieces between seven dashes, a
flag, a number that is not negative, and six canonical base64 texts of strings. `Sw8` is that
grammar with the values that a header denotes. The base64 crate is assumed to decode as RFC 4648
prescribes (`Base64Engine.Strict`).
-/

set_option autoImplicit false

namespace SkywalkingAgent.Propagation

open SkywalkingAgent.Lib

namespace Base64Engine

/-- The documented behaviour that the grammar needs: the decoder is the strict one of RFC 4648. -/
structure Strict (base64 : Base64Engine) : Prop where
  decode : ∀ s : String, base64.decode s = Base64.decode s.toList

theorem strict_rfc4648 : rfc4648.Strict where
  decode _ := rfl

end Base64Engine

/-! ## The pieces -/

/-- A piece is the canonical base64 text of the bytes of a string. -/
structure Spells (piece : List Char) (s : String) : Prop where
  canonical : Base64.Canonical piece
  text : piece = Base64.encode (asBytes s)

/-- A piece is an optional plus sign and decimal digits for a number of an `i32`. -/
def SpellsSpanId (piece : List Char) (n : Nat) : Prop :=
  ∃ sign digits : List Char, piece = sign ++ digits ∧ (sign = [] ∨ sign = ['+']) ∧ digits ≠ [] ∧
    (∀ c ∈ digits, c.isDigit = true) ∧ Nat.ofDigitChars 10 digits 0 = n ∧ n ≤ 2 ^ 31 - 1

/-- A piece is the flag of a sampled or of an unsampled trace. -/
def SpellsSample (piece : List Char) (doSample : Bool) : Prop :=
  (piece = ['0'] ∨ piece = ['1']) ∧ (doSample = true ↔ piece = ['1'])

/-- The eight pieces of a header. -/
structure Pieces where
  doSample : List Char
  traceId : List Char
  traceSegmentId : List Char
  spanId : List Char
  service : List Char
  serviceInstance : List Char
  endpoint : List Char
  address : List Char
  deriving DecidableEq, Repr

namespace Pieces

/-- The pieces in the order of the header. -/
def toList (f : Pieces) : List (List Char) :=
  [f.doSample, f.traceId, f.traceSegmentId, f.spanId, f.service, f.serviceInstance, f.endpoint,
    f.address]

/-- The pieces are of the grammar and denote the fields of `p`, each in its own place. -/
structure Denote (f : Pieces) (p : PropagationContext) : Prop where
  doSample : SpellsSample f.doSample p.doSample
  traceId : Spells f.traceId p.parentTraceId
  traceSegmentId : Spells f.traceSegmentId p.parentTraceSegmentId
  spanId : ∃ n : Nat, SpellsSpanId f.spanId n ∧ p.parentSpanId = n
  service : Spells f.service p.parentService
  serviceInstance : Spells f.serviceInstance p.parentServiceInstance
  endpoint : Spells f.endpoint p.destinationEndpoint
  address : Spells f.address p.destinationAddress

end Pieces

/-- The header has exactly seven dashes, and the pieces between them denote `p`. -/
def Sw8 (h : String) (p : PropagationContext) : Prop :=
  h.toList.count '-' = 7 ∧
    ∃ f : Pieces, h.toList = ['-'].intercalate f.toList ∧ f.Denote p

/-! ## Splitting -/

theorem not_mem_of_mem_splitOn {xs piece : List Char} (h : piece ∈ xs.splitOn '-') :
    '-' ∉ piece := by
  induction xs generalizing piece with
  | nil =>
    rw [List.splitOn_nil, List.mem_singleton] at h
    subst h
    exact List.not_mem_nil
  | cons x xs ih =>
    rw [List.splitOn_cons_eq_if_modifyHead] at h
    by_cases hx : x = '-'
    · rw [if_pos (by simp [hx]), List.mem_cons] at h
      rcases h with rfl | h
      · exact List.not_mem_nil
      · exact ih h
    · rw [if_neg (by simp [hx])] at h
      -- a character that is no dash goes to the front of the first piece
      cases hrest : xs.splitOn '-' with
      | nil => simp [hrest] at h
      | cons first rest =>
        rw [hrest, List.modifyHead_cons, List.mem_cons] at h
        rcases h with rfl | h
        · intro hmem
          rcases List.mem_cons.1 hmem with hdash | hmem
          · exact hx hdash.symm
          · exact ih (hrest ▸ List.mem_cons_self) hmem
        · exact ih (hrest ▸ List.mem_cons_of_mem _ h)

/-- Eight pieces without a dash are what a text is split into exactly when it is their text. -/
theorem split_eq_iff {h : String} {f : Pieces} :
    split h = f.toList.map String.ofList ↔
      h.toList = ['-'].intercalate f.toList ∧ ∀ piece ∈ f.toList, '-' ∉ piece := by
  have hinj : Function.Injective (List.map String.ofList) :=
    List.map_injective_iff.2 fun a b hab => by simpa using congrArg String.toList hab
  rw [split, hinj.eq_iff]
  constructor
  · intro hsplit
    refine ⟨?_, fun piece hpiece => not_mem_of_mem_splitOn (hsplit ▸ hpiece)⟩
    rw [← hsplit, List.intercalate_splitOn]
  · rintro ⟨htext, hdash⟩
    -- without a dash in the pieces the text splits where it was joined
    rw [htext, List.splitOn_intercalate '-' hdash (by simp [Pieces.toList])]

theorem count_intercalate {f : Pieces} (hdash : ∀ piece ∈ f.toList, '-' ∉ piece) :
    (['-'].intercalate f.toList).count '-' = 7 := by
  have hzero : ∀ piece ∈ f.toList, piece.count '-' = 0 :=
    fun piece hpiece => List.count_eq_zero.2 (hdash piece hpiece)
  simp only [Pieces.toList, List.forall_mem_cons, List.not_mem_nil, false_imp_iff, implies_true,
    and_true] at hzero
  obtain ⟨h₀, h₁, h₂, h₃, h₄, h₅, h₆, h₇⟩ := hzero
  simp [Pieces.toList, List.intercalate, List.count_append, h₀, h₁, h₂, h₃, h₄, h₅, h₆, h₇]

/-! ## Each piece has a decoder -/

theorem fromUtf8_eq_some_iff {bytes : List UInt8} {s : String} :
    fromUtf8 bytes = some s ↔ bytes = asBytes s := by
  constructor
  · intro h
    unfold fromUtf8 String.fromUTF8? at h
    split at h
    · obtain rfl := Option.some.inj h
      rfl
    · exact nomatch h
  · rintro rfl
    exact fromUtf8_asBytes s

section Decoders

variable {base64 : Base64Engine} {piece : List Char}

theorem b64EncodedIntoString_eq_ok_iff (hbase64 : base64.Strict) {s : String} :
    b64EncodedIntoString base64 (String.ofList piece) = .ok s ↔ Spells piece s := by
  have hdecode : ∀ enc value, b64EncodedIntoString base64 enc = .ok value ↔
      (base64.decode enc).bind fromUtf8 = some value := by
    intro enc value
    unfold b64EncodedIntoString
    cases (base64.decode enc).bind fromUtf8 <;> simp
  rw [hdecode, hbase64.decode, String.toList_ofList, Option.bind_eq_some_iff]
  constructor
  · rintro ⟨bytes, hbytes, hutf8⟩
    obtain rfl := fromUtf8_eq_some_iff.1 hutf8
    have htext := Base64.decode_eq_some_iff.1 hbytes
    exact ⟨Base64.canonical_iff.2 ⟨_, htext⟩, htext⟩
  · rintro ⟨-, htext⟩
    exact ⟨asBytes s, Base64.decode_eq_some_iff.2 htext, fromUtf8_asBytes s⟩

theorem tryParseSampleStatus_eq_ok_iff {doSample : Bool} :
    tryParseSampleStatus (String.ofList piece) = .ok doSample ↔ SpellsSample piece doSample := by
  have htext : ∀ c : Char, String.ofList piece = String.ofList [c] ↔ piece = [c] :=
    fun c => ⟨fun h => by simpa using congrArg String.toList h, fun h => h ▸ rfl⟩
  have hzero : String.ofList piece = "0" ↔ piece = ['0'] := htext '0'
  have hone : String.ofList piece = "1" ↔ piece = ['1'] := htext '1'
  unfold tryParseSampleStatus SpellsSample
  simp only [hzero, hone]
  by_cases h0 : piece = ['0']
  · cases doSample <;> simp [h0]
  · by_cases h1 : piece = ['1']
    · cases doSample <;> simp [h1]
    · simp [h0, h1]

theorem parseDigits_eq_some_iff {cs : List Char} {n : Nat} :
    parseDigits cs = some n ↔
      cs ≠ [] ∧ (∀ c ∈ cs, c.isDigit = true) ∧ Nat.ofDigitChars 10 cs 0 = n := by
  unfold parseDigits
  by_cases hcs : cs ≠ [] ∧ cs.all Char.isDigit = true
  · rw [if_pos hcs, Option.some.injEq]
    exact ⟨fun h => ⟨hcs.1, List.all_eq_true.1 hcs.2, h⟩, fun h => h.2.2⟩
  · rw [if_neg hcs]
    simp only [reduceCtorEq, false_iff]
    rintro ⟨hne, hall, -⟩
    exact hcs ⟨hne, List.all_eq_true.2 hall⟩

/-- The digits of a number that is not too large. -/
theorem parseDigits_bind_eq_some_iff {cs : List Char} {i : Int} :
    ((parseDigits cs).bind fun n => if n < 2 ^ 31 then some (n : Int) else none) = some i ↔
      ∃ n : Nat, (cs ≠ [] ∧ (∀ c ∈ cs, c.isDigit = true) ∧ Nat.ofDigitChars 10 cs 0 = n ∧
        n ≤ 2 ^ 31 - 1) ∧ i = n := by
  rw [Option.bind_eq_some_iff]
  constructor
  · rintro ⟨n, hn, hi⟩
    obtain ⟨hne, hall, hvalue⟩ := parseDigits_eq_some_iff.1 hn
    split at hi
    · exact ⟨n, ⟨hne, hall, hvalue, by omega⟩, (Option.some.inj hi).symm⟩
    · exact nomatch hi
  · rintro ⟨n, ⟨hne, hall, hvalue, hle⟩, rfl⟩
    exact ⟨n, parseDigits_eq_some_iff.2 ⟨hne, hall, hvalue⟩, if_pos (by omega)⟩

theorem parseI32_eq_some_iff (hdash : '-' ∉ piece) {i : Int} :
    parseI32 (String.ofList piece) = some i ↔ ∃ n : Nat, SpellsSpanId piece n ∧ i = n := by
  unfold parseI32
  rw [String.toList_ofList]
  split
  · -- a minus sign would have been a separator
    next cs => exact absurd List.mem_cons_self hdash
  · next cs =>
    rw [parseDigits_bind_eq_some_iff]
    constructor
    · rintro ⟨n, ⟨hne, hall, hvalue, hle⟩, rfl⟩
      exact ⟨n, ⟨['+'], cs, rfl, Or.inr rfl, hne, hall, hvalue, hle⟩, rfl⟩
    · rintro ⟨n, ⟨sign, digits, htext, rfl | rfl, hne, hall, hvalue, hle⟩, rfl⟩
      · -- a plus sign is no digit
        rw [List.nil_append] at htext
        exact absurd (hall '+' (htext ▸ List.mem_cons_self)) (by decide)
      · obtain rfl : cs = digits := by simpa using htext
        exact ⟨n, ⟨hne, hall, hvalue, hle⟩, rfl⟩
  · next hplus =>
    rw [parseDigits_bind_eq_some_iff]
    constructor
    · rintro ⟨n, ⟨hne, hall, hvalue, hle⟩, rfl⟩
      exact ⟨n, ⟨[], piece, rfl, Or.inl rfl, hne, hall, hvalue, hle⟩, rfl⟩
    · rintro ⟨n, ⟨sign, digits, htext, rfl | rfl, hne, hall, hvalue, hle⟩, rfl⟩
      · obtain rfl : piece = digits := by simpa using htext
        exact ⟨n, ⟨hne, hall, hvalue, hle⟩, rfl⟩
      · exact absurd htext (hplus digits)

theorem tryParseParentSpanId_eq_ok_iff (hdash : '-' ∉ piece) {i : Int} :
    tryParseParentSpanId (String.ofList piece) = .ok i ↔
      ∃ n : Nat, SpellsSpanId piece n ∧ i = n := by
  rw [← parseI32_eq_some_iff hdash]
  unfold tryParseParentSpanId
  cases parseI32 (String.ofList piece) <;> simp

end Decoders

/-! ## The header -/

/-- No piece of the grammar has a dash in it. -/
theorem Pieces.Denote.no_dash {f : Pieces} {p : PropagationContext} (h : f.Denote p) :
    ∀ piece ∈ f.toList, '-' ∉ piece := by
  have hsample : '-' ∉ f.doSample := by
    rcases h.doSample.1 with hd | hd <;> simp [hd]
  have hspells : ∀ {piece : List Char} {s : String}, Spells piece s → '-' ∉ piece := by
    intro piece s hs hmem
    rw [hs.text] at hmem
    exact absurd (Base64.isCode_of_mem_encode hmem) (by decide)
  have hspan : '-' ∉ f.spanId := by
    obtain ⟨n, ⟨sign, digits, htext, hsign, -, hall, -⟩, -⟩ := h.spanId
    rw [htext, List.mem_append]
    rintro (hmem | hmem)
    · rcases hsign with rfl | rfl <;> simp at hmem
    · exact absurd (hall '-' hmem) (by decide)
  simp only [Pieces.toList, List.forall_mem_cons, List.not_mem_nil, false_imp_iff, implies_true,
    and_true]
  exact ⟨hsample, hspells h.traceId, hspells h.traceSegmentId, hspan, hspells h.service,
    hspells h.serviceInstance, hspells h.endpoint, hspells h.address⟩

section Header

variable {base64 : Base64Engine} (hbase64 : base64.Strict)

include hbase64

/-- The decoder on eight pieces without a dash. -/
theorem decodePropagation_pieces {h : String} {f : Pieces} {p : PropagationContext}
    (hsplit : split h = f.toList.map String.ofList) (hdash : '-' ∉ f.spanId) :
    decodePropagation base64 h = .ok p ↔ f.Denote p := by
  have hbind : ∀ {α β : Type} {x : Except Error α} {k : α → Except Error β} {b : β},
      (x >>= k) = .ok b ↔ ∃ a, x = .ok a ∧ k a = .ok b := by
    intro α β x k b
    cases x with
    | error e => simp [bind, Except.bind]
    | ok a => simp [bind, Except.bind]
  unfold decodePropagation
  rw [hsplit]
  simp only [Pieces.toList, List.map_cons, List.map_nil, hbind, tryParseSampleStatus_eq_ok_iff,
    b64EncodedIntoString_eq_ok_iff hbase64, tryParseParentSpanId_eq_ok_iff hdash]
  constructor
  · rintro ⟨doSample, h₀, traceId, h₁, segmentId, h₂, spanId, h₃, service, h₄, serviceInstance, h₅,
      endpoint, h₆, address, h₇, hp⟩
    obtain rfl := Except.ok.inj hp
    exact ⟨h₀, h₁, h₂, h₃, h₄, h₅, h₆, h₇⟩
  · rintro ⟨h₀, h₁, h₂, h₃, h₄, h₅, h₆, h₇⟩
    exact ⟨_, h₀, _, h₁, _, h₂, _, h₃, _, h₄, _, h₅, _, h₆, _, h₇, rfl⟩

theorem sw8_of_decodePropagation {h : String} {p : PropagationContext}
    (hdecode : decodePropagation base64 h = .ok p) : Sw8 h p := by
  -- any other number of pieces is an error
  have hpieces : ∃ f : Pieces, split h = f.toList.map String.ofList := by
    unfold decodePropagation at hdecode
    split at hdecode
    · next p₀ p₁ p₂ p₃ p₄ p₅ p₆ p₇ heq =>
      refine ⟨⟨p₀.toList, p₁.toList, p₂.toList, p₃.toList, p₄.toList, p₅.toList, p₆.toList,
        p₇.toList⟩, ?_⟩
      simp [heq, Pieces.toList]
    · exact nomatch hdecode
  obtain ⟨f, hsplit⟩ := hpieces
  obtain ⟨htext, hdash⟩ := split_eq_iff.1 hsplit
  have hspan : '-' ∉ f.spanId := hdash f.spanId (by simp [Pieces.toList])
  exact ⟨htext ▸ count_intercalate hdash, f, htext,
    (decodePropagation_pieces hbase64 hsplit hspan).1 hdecode⟩

theorem decodePropagation_of_sw8 {h : String} {p : PropagationContext} (hsw8 : Sw8 h p) :
    decodePropagation base64 h = .ok p := by
  obtain ⟨-, f, htext, hf⟩ := hsw8
  have hsplit := split_eq_iff.2 ⟨htext, hf.no_dash⟩
  have hspan : '-' ∉ f.spanId := hf.no_dash f.spanId (by simp [Pieces.toList])
  exact (decodePropagation_pieces hbase64 hsplit hspan).2 hf

end Header

theorem Spells.unique {a b : List Char} {s : String} (ha : Spells a s) (hb : Spells b s) :
    a = b := ha.text.trans hb.text.symm

theorem SpellsSample.unique {a b : List Char} {doSample : Bool} (ha : SpellsSample a doSample)
    (hb : SpellsSample b doSample) : a = b := by
  obtain ⟨ha, hav⟩ := ha
  obtain ⟨hb, hbv⟩ := hb
  rcases hb with rfl | rfl
  · exact ha.resolve_right fun h => absurd (hbv.1 (hav.2 h)) (by decide)
  · exact hav.1 (hbv.2 rfl)

/-- Only the empty piece spells the empty string. -/
theorem Spells.eq_nil_iff {piece : List Char} {s : String} (h : Spells piece s) :
    piece = [] ↔ s = "" := by
  have hempty : Spells [] "" := ⟨.nil, rfl⟩
  constructor
  · rintro rfl
    -- the decoder is a function, and the empty text is that of the empty string
    have hbytes : asBytes s = asBytes "" := by
      have hdecode := Base64.decode_eq_some_iff.2 h.text
      exact Option.some.inj (hdecode.symm.trans (Base64.decode_eq_some_iff.2 hempty.text))
    exact Option.some.inj ((fromUtf8_asBytes s).symm.trans (hbytes ▸ fromUtf8_asBytes ""))
  · rintro rfl
    exact h.unique hempty

/-- The second piece of an accepted header is empty exactly when its trace id is. -/
theorem traceId_piece_iff {base64 : Base64Engine} (hbase64 : base64.Strict) {h : String}
    {p : PropagationContext} (hdecode : decodePropagation base64 h = .ok p) :
    (split h)[1]? = some "" ↔ p.parentTraceId = "" := by
  obtain ⟨-, f, htext, hf⟩ := sw8_of_decodePropagation hbase64 hdecode
  have hpiece : (split h)[1]? = some (String.ofList f.traceId) := by
    rw [split_eq_iff.2 ⟨htext, hf.no_dash⟩]
    rfl
  rw [hpiece, ← hf.traceId.eq_nil_iff, Option.some.injEq]
  constructor
  · intro h
    simpa using congrArg String.toList h
  · rintro h
    rw [h]

/-- Pieces that denote the same values differ at most in the spelling of the span id. -/
theorem Pieces.Denote.unique {f g : Pieces} {p : PropagationContext} (hf : f.Denote p)
    (hg : g.Denote p) : g = { f with spanId := g.spanId } := by
  cases f
  cases g
  simp only [Pieces.mk.injEq]
  exact ⟨hg.doSample.unique hf.doSample, hg.traceId.unique hf.traceId,
    hg.traceSegmentId.unique hf.traceSegmentId, trivial, hg.service.unique hf.service,
    hg.serviceInstance.unique hf.serviceInstance, hg.endpoint.unique hf.endpoint,
    hg.address.unique hf.address⟩

/-- A header decodes to `p` exactly when it has seven dashes and the pieces between them are of the
grammar and denote `p`; the span id is never negative; and two headers that decode to the same
context differ at most in how they spell its number. -/
theorem decode_propagation_iff_sw8 {base64 : Base64Engine} (hbase64 : base64.Strict) :
    (∀ h p, decodePropagation base64 h = .ok p ↔ Sw8 h p) ∧
    (∀ h p, decodePropagation base64 h = .ok p → 0 ≤ p.parentSpanId) ∧
    ∀ h₁ h₂ p, decodePropagation base64 h₁ = .ok p → decodePropagation base64 h₂ = .ok p →
      ∃ (f : Pieces) (spelling : List Char) (n : Nat),
        h₁.toList = ['-'].intercalate f.toList ∧
        h₂.toList = ['-'].intercalate { f with spanId := spelling }.toList ∧
        SpellsSpanId f.spanId n ∧ SpellsSpanId spelling n := by
  refine ⟨fun h p => ⟨sw8_of_decodePropagation hbase64, decodePropagation_of_sw8 hbase64⟩, ?_, ?_⟩
  · intro h p hdecode
    obtain ⟨-, f, -, hf⟩ := sw8_of_decodePropagation hbase64 hdecode
    obtain ⟨n, -, hn⟩ := hf.spanId
    omega
  · intro h₁ h₂ p hdecode₁ hdecode₂
    obtain ⟨-, f, htext₁, hf⟩ := sw8_of_decodePropagation hbase64 hdecode₁
    obtain ⟨-, g, htext₂, hg⟩ := sw8_of_decodePropagation hbase64 hdecode₂
    obtain ⟨n, hfn, hpn⟩ := hf.spanId
    obtain ⟨m, hgm, hpm⟩ := hg.spanId
    -- the two numbers are the one parent span id
    have hmn : m = n := by omega
    refine ⟨f, g.spanId, n, htext₁, ?_, hfn, hmn ▸ hgm⟩
    rw [htext₂]
    exact congrArg _ (congrArg Pieces.toList (hf.unique hg))

/-- A header with padding, empty pieces, a plus sign and a leading zero. -/
theorem decode_propagation_iff_sw8_plus :
    decodePropagation .rfc4648 "1-YQ==--+07-YWI=-YWJj--" =
      .ok ⟨true, "a", "", 7, "ab", "abc", "", ""⟩ := by
  have hempty : Spells [] "" := ⟨.nil, rfl⟩
  have ha : Spells "YQ==".toList "a" := ⟨.oneByte rfl (by decide), by decide⟩
  have hab : Spells "YWI=".toList "ab" := ⟨.twoBytes rfl rfl (by decide), by decide⟩
  have habc : Spells "YWJj".toList "abc" := ⟨.quantum rfl rfl rfl rfl .nil, by decide⟩
  have hseven : SpellsSpanId "+07".toList 7 :=
    ⟨['+'], ['0', '7'], rfl, Or.inr rfl, by decide, by simp, rfl, by decide⟩
  apply ((decode_propagation_iff_sw8 Base64Engine.strict_rfc4648).1 _ _).2
  exact ⟨by decide, ⟨['1'], "YQ==".toList, [], "+07".toList, "YWI=".toList, "YWJj".toList, [], []⟩,
    by decide, ⟨by simp [SpellsSample], ha, hempty, ⟨7, hseven, rfl⟩, hab, habc, hempty, hempty⟩⟩

end SkywalkingAgent.Propagation
