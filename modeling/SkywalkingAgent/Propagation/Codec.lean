import SkywalkingAgent.Lib.Base64
import SkywalkingAgent.Trace.TracingContext

/-!
# The `sw8` header

`encode_propagation` and `decode_propagation` of `trace/propagation/`. The base64 crate is a
parameter, `Base64Engine`; what the round trip relies on is `Base64Engine.Standard`, which the
encoding of RFC 4648 satisfies (`Base64Engine.standard_rfc4648`). Strings are read and written as
UTF-8.
-/

set_option autoImplicit false

namespace SkywalkingAgent.Propagation

open SkywalkingAgent.Lib SkywalkingAgent.Trace

/-! ## The base64 crate -/

/-- The engine `BASE64_STANDARD`. -/
structure Base64Engine where
  encode : List UInt8 → String
  decode : String → Option (List UInt8)

namespace Base64Engine

/-- The documented behaviour that the round trip needs: the standard alphabet with padding, and a
decoder that inverts the encoder. -/
structure Standard (base64 : Base64Engine) : Prop where
  alphabet : ∀ bytes, ∀ c ∈ (base64.encode bytes).toList, Base64.isCode c = true
  decode_encode : ∀ bytes, base64.decode (base64.encode bytes) = some bytes

/-- The engine of RFC 4648. -/
def rfc4648 : Base64Engine where
  encode bytes := String.ofList (Base64.encode bytes)
  decode s := Base64.decode s.toList

theorem standard_rfc4648 : rfc4648.Standard where
  alphabet bytes c hc := by
    simp only [rfc4648, String.toList_ofList] at hc
    exact Base64.isCode_of_mem_encode hc
  decode_encode bytes := by
    simp [rfc4648, Base64.decode_encode]

end Base64Engine

/-! ## Strings, bytes and numbers -/

/-- `str::as_bytes`. -/
def asBytes (s : String) : List UInt8 := s.toUTF8.data.toList

/-- `String::from_utf8`. -/
def fromUtf8 (bytes : List UInt8) : Option String := String.fromUTF8? ⟨bytes.toArray⟩

theorem fromUtf8_asBytes (s : String) : fromUtf8 (asBytes s) = some s := by
  unfold fromUtf8 asBytes String.fromUTF8?
  have hbytes : (⟨s.toUTF8.data.toList.toArray⟩ : ByteArray) = s.toByteArray := by simp
  rw [hbytes, dif_pos s.isValidUTF8]
  rfl

/-- `str::split('-')`, collected. -/
def split (s : String) : List String := (s.toList.splitOn '-').map String.ofList

/-- The value of a non-empty string of decimal digits. -/
def parseDigits (cs : List Char) : Option Nat :=
  if cs ≠ [] ∧ cs.all Char.isDigit then some (Nat.ofDigitChars 10 cs 0) else none

/-- `str::parse::<i32>`: an optional sign, digits, and a value in range. -/
def parseI32 (s : String) : Option Int :=
  match s.toList with
  -- the least value has no positive counterpart
  | '-' :: cs => (parseDigits cs).bind fun n => if n ≤ 2 ^ 31 then some (-(n : Int)) else none
  | '+' :: cs => (parseDigits cs).bind fun n => if n < 2 ^ 31 then some (n : Int) else none
  | cs => (parseDigits cs).bind fun n => if n < 2 ^ 31 then some (n : Int) else none

/-! ## Encoder and decoder -/

/-- `Error::DecodePropagation` with its message. -/
inductive Error where
  | decodePropagation (message : String)
  deriving DecidableEq, Repr

section Codec

variable (base64 : Base64Engine)

/-- `encode_propagation`. -/
def encodePropagation (context : TracingContext) (endpoint address : String) : String :=
  let traceId := base64.encode (asBytes context.traceId)
  let traceSegmentId := base64.encode (asBytes context.traceSegmentId)
  let spanId := context.peekActiveSpanId.getD 0
  let service := base64.encode (asBytes context.service)
  let serviceInstance := base64.encode (asBytes context.serviceInstance)
  let endpoint := base64.encode (asBytes endpoint)
  let address := base64.encode (asBytes address)
  s!"1-{traceId}-{traceSegmentId}-{spanId}-{service}-{serviceInstance}-{endpoint}-{address}"

/-- `try_parse_parent_span_id`. -/
def tryParseParentSpanId (id : String) : Except Error Int :=
  match parseI32 id with
  | some result => .ok result
  | none => .error (.decodePropagation "failed to parse span id from parent.")

/-- `try_parse_sample_status`. -/
def tryParseSampleStatus (status : String) : Except Error Bool :=
  if status = "0" then .ok false
  else if status = "1" then .ok true
  else .error (.decodePropagation "failed to parse sample status.")

/-- `b64_encoded_into_string`. -/
def b64EncodedIntoString (enc : String) : Except Error String :=
  match (base64.decode enc).bind fromUtf8 with
  | some decodedStr => .ok decodedStr
  | none => .error (.decodePropagation "failed to decode value.")

/-- `decode_propagation`. -/
def decodePropagation (headerValue : String) : Except Error PropagationContext := do
  match split headerValue with
  | [p₀, p₁, p₂, p₃, p₄, p₅, p₆, p₇] =>
      let doSample ← tryParseSampleStatus p₀
      let parentTraceId ← b64EncodedIntoString base64 p₁
      let parentTraceSegmentId ← b64EncodedIntoString base64 p₂
      let parentSpanId ← tryParseParentSpanId p₃
      let parentService ← b64EncodedIntoString base64 p₄
      let parentServiceInstance ← b64EncodedIntoString base64 p₅
      let destinationEndpoint ← b64EncodedIntoString base64 p₆
      let destinationAddress ← b64EncodedIntoString base64 p₇
      return { doSample, parentTraceId, parentTraceSegmentId, parentSpanId, parentService,
               parentServiceInstance, destinationEndpoint, destinationAddress }
  | _ => throw (.decodePropagation
      "failed to parse propagation context: it must have 8 properties.")

end Codec

/-! ## The round trip of one header -/

theorem isDigit_of_mem_digits {n : Nat} {c : Char} (hc : c ∈ Nat.toDigits 10 n) :
    c.isDigit = true :=
  Nat.isDigit_of_mem_toDigits (by decide) (by decide) hc

theorem toList_repr_natCast (n : Nat) : (n : Int).repr.toList = Nat.toDigits 10 n := by
  simp [Int.repr]

theorem parseDigits_toDigits (n : Nat) : parseDigits (Nat.toDigits 10 n) = some n := by
  have hall : (Nat.toDigits 10 n).all Char.isDigit = true :=
    List.all_eq_true.2 fun c hc => isDigit_of_mem_digits hc
  rw [parseDigits, if_pos ⟨Nat.toDigits_ne_nil, hall⟩, Nat.ofDigitChars_ten_toDigits]

/-- A non-negative `i32` is read back from its display. -/
theorem parseI32_repr {n : Nat} (hn : n < 2 ^ 31) : parseI32 (n : Int).repr = some (n : Int) := by
  -- a display of digits alone takes the last branch
  have hsign : ∀ c ∈ Nat.toDigits 10 n, c ≠ '-' ∧ c ≠ '+' := by
    intro c hc
    have hdigit := isDigit_of_mem_digits hc
    constructor
    · rintro rfl
      exact absurd hdigit (by decide)
    · rintro rfl
      exact absurd hdigit (by decide)
  unfold parseI32
  rw [toList_repr_natCast]
  split
  · next cs heq => exact absurd rfl (hsign '-' (by rw [heq]; exact List.mem_cons_self)).1
  · next cs heq => exact absurd rfl (hsign '+' (by rw [heq]; exact List.mem_cons_self)).2
  · rw [parseDigits_toDigits, Option.bind_some, if_pos hn]

/-- The text of a header with seven given fields. -/
def header (p₁ p₂ p₃ p₄ p₅ p₆ p₇ : String) : String :=
  "1-" ++ p₁ ++ "-" ++ p₂ ++ "-" ++ p₃ ++ "-" ++ p₄ ++ "-" ++ p₅ ++ "-" ++ p₆ ++ "-" ++ p₇

/-- The eight pieces of a header. -/
def pieces (p₁ p₂ p₃ p₄ p₅ p₆ p₇ : String) : List (List Char) :=
  [['1'], p₁.toList, p₂.toList, p₃.toList, p₄.toList, p₅.toList, p₆.toList, p₇.toList]

section Header

variable {p₁ p₂ p₃ p₄ p₅ p₆ p₇ : String}

theorem toList_header : (header p₁ p₂ p₃ p₄ p₅ p₆ p₇).toList =
    ['-'].intercalate (pieces p₁ p₂ p₃ p₄ p₅ p₆ p₇) := by
  have hone : "1-".toList = ['1', '-'] := rfl
  have hdash : "-".toList = ['-'] := rfl
  unfold header pieces
  simp only [String.toList_append, hone, hdash, List.intercalate, List.intersperse,
    List.flatten_cons, List.flatten_nil, List.append_assoc, List.append_nil, List.nil_append,
    List.cons_append]

/-- Pieces without a dash are split where they were joined. -/
theorem split_header (h : ∀ p ∈ pieces p₁ p₂ p₃ p₄ p₅ p₆ p₇, '-' ∉ p) :
    split (header p₁ p₂ p₃ p₄ p₅ p₆ p₇) = ["1", p₁, p₂, p₃, p₄, p₅, p₆, p₇] := by
  rw [split, toList_header, List.splitOn_intercalate '-' h (by simp [pieces])]
  simp [pieces]

theorem count_header (h : ∀ p ∈ pieces p₁ p₂ p₃ p₄ p₅ p₆ p₇, '-' ∉ p) :
    (header p₁ p₂ p₃ p₄ p₅ p₆ p₇).toList.count '-' = 7 := by
  have hzero : ∀ p ∈ pieces p₁ p₂ p₃ p₄ p₅ p₆ p₇, p.count '-' = 0 :=
    fun p hp => List.count_eq_zero.2 (h p hp)
  rw [toList_header]
  simp only [pieces, List.forall_mem_cons, List.not_mem_nil, false_imp_iff, implies_true,
    and_true] at hzero
  obtain ⟨h₀, h₁, h₂, h₃, h₄, h₅, h₆, h₇⟩ := hzero
  simp [pieces, List.intercalate, List.count_append, h₁, h₂, h₃, h₄, h₅, h₆, h₇]

/-- A character of joined pieces is the separator or of a piece. -/
theorem mem_intercalate {c sep : Char} {ps : List (List Char)} (hc : c ∈ [sep].intercalate ps) :
    c = sep ∨ ∃ p ∈ ps, c ∈ p := by
  induction ps with
  | nil => cases hc
  | cons p ps ih =>
    cases ps with
    | nil => exact Or.inr ⟨p, List.mem_cons_self, by simpa [List.intercalate] using hc⟩
    | cons q qs =>
      have hsplit : [sep].intercalate (p :: q :: qs) = p ++ sep :: [sep].intercalate (q :: qs) := by
        simp [List.intercalate]
      rw [hsplit, List.mem_append, List.mem_cons] at hc
      rcases hc with hp | hsep | hrest
      · exact Or.inr ⟨p, List.mem_cons_self, hp⟩
      · exact Or.inl hsep
      · exact (ih hrest).imp_right fun ⟨r, hr, hcr⟩ => ⟨r, List.mem_cons_of_mem _ hr, hcr⟩

/-- The characters of a header are dashes and the characters of its pieces. -/
theorem mem_header {c : Char} (hc : c ∈ (header p₁ p₂ p₃ p₄ p₅ p₆ p₇).toList) :
    c = '-' ∨ ∃ p ∈ pieces p₁ p₂ p₃ p₄ p₅ p₆ p₇, c ∈ p := by
  apply mem_intercalate
  rw [← toList_header]
  exact hc

end Header

/-- The fields that the encoder puts into a header, as text. -/
theorem encodePropagation_eq (base64 : Base64Engine) (context : TracingContext)
    (endpoint address : String) :
    encodePropagation base64 context endpoint address =
      header (base64.encode (asBytes context.traceId))
        (base64.encode (asBytes context.traceSegmentId)) (context.peekActiveSpanId.getD 0).repr
        (base64.encode (asBytes context.service)) (base64.encode (asBytes context.serviceInstance))
        (base64.encode (asBytes endpoint)) (base64.encode (asBytes address)) := by
  unfold encodePropagation header
  simp only [toString]

section RoundTrip

variable {base64 : Base64Engine} (hbase64 : base64.Standard)

include hbase64

theorem b64EncodedIntoString_encode (s : String) :
    b64EncodedIntoString base64 (base64.encode (asBytes s)) = .ok s := by
  simp [b64EncodedIntoString, hbase64.decode_encode, fromUtf8_asBytes]

/-- The pieces of an encoded header are written in the alphabet of base64, without a dash. -/
theorem isCode_of_mem_pieces {n : Nat} (traceId traceSegmentId service serviceInstance endpoint
    address : String) :
    ∀ p ∈ pieces (base64.encode (asBytes traceId)) (base64.encode (asBytes traceSegmentId))
      (n : Int).repr (base64.encode (asBytes service)) (base64.encode (asBytes serviceInstance))
      (base64.encode (asBytes endpoint)) (base64.encode (asBytes address)),
      ∀ c ∈ p, Base64.isCode c = true := by
  have hfield : ∀ s : String, ∀ c ∈ (base64.encode (asBytes s)).toList, Base64.isCode c = true :=
    fun s => hbase64.alphabet (asBytes s)
  have hnum : ∀ c ∈ (n : Int).repr.toList, Base64.isCode c = true := by
    intro c hc
    rw [toList_repr_natCast] at hc
    simp [Base64.isCode, Char.isAlphanum, isDigit_of_mem_digits hc]
  unfold pieces
  simp only [List.forall_mem_cons, List.not_mem_nil, false_imp_iff, implies_true, and_true]
  exact ⟨by decide, hfield _, hfield _, hnum, hfield _, hfield _, hfield _, hfield _⟩

/-- The header of a context whose span id is not negative decodes to what went into it, and is
written in the alphabet of base64 with seven dashes. -/
theorem decode_encode_of_spanId {context : TracingContext} (endpoint address : String) {n : Nat}
    (hid : context.peekActiveSpanId.getD 0 = n) (hn : n < 2 ^ 31) :
    decodePropagation base64 (encodePropagation base64 context endpoint address) =
        .ok { doSample := true
              parentTraceId := context.traceId
              parentTraceSegmentId := context.traceSegmentId
              parentSpanId := n
              parentService := context.service
              parentServiceInstance := context.serviceInstance
              destinationEndpoint := endpoint
              destinationAddress := address } ∧
      (encodePropagation base64 context endpoint address).toList.count '-' = 7 ∧
      ∀ c ∈ (encodePropagation base64 context endpoint address).toList,
        Base64.isCode c = true ∨ c = '-' := by
  rw [encodePropagation_eq, hid]
  have hcode := isCode_of_mem_pieces hbase64 (n := n) context.traceId context.traceSegmentId
    context.service context.serviceInstance endpoint address
  -- the alphabet has no dash, so the header is split where it was joined
  have hdash : ∀ p ∈ pieces _ _ _ _ _ _ _, '-' ∉ p :=
    fun p hp hc => absurd (hcode p hp '-' hc) (by decide)
  refine ⟨?_, count_header hdash, fun c hc => ?_⟩
  · have hstatus : tryParseSampleStatus "1" = .ok true := by decide
    have hspan : tryParseParentSpanId (n : Int).repr = .ok (n : Int) := by
      rw [tryParseParentSpanId, parseI32_repr hn]
    simp only [decodePropagation, split_header hdash, hstatus, hspan,
      b64EncodedIntoString_encode hbase64]
    rfl
  · rcases mem_header hc with rfl | ⟨p, hp, hcp⟩
    · exact Or.inr rfl
    · exact Or.inl (hcode p hp c hcp)

end RoundTrip

end SkywalkingAgent.Propagation
