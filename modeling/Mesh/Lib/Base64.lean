import Mesh.Lib.Checks
import Mesh.Lib.Lines
import Mesh.Lib.Sha256

/-!
# Mesh.Lib.Base64

Unpadded base64 with the URL alphabet, as `base64.RawURLEncoding` encodes and decodes it: the
decoder skips carriage returns and line feeds, refuses a final quantum of one character and ignores
the unused low bits of a short one. So a byte string has one encoding but several texts decode to
it; `canonical` is the check that a text is the encoding of what it decodes to.
-/

namespace Mesh
namespace Base64

def digitChar (n : Nat) : Char :=
  if n < 26 then Char.ofNat (65 + n)
  else if n < 52 then Char.ofNat (71 + n)
  else if n < 62 then Char.ofNat (n - 4)
  else if n = 62 then '-'
  else '_'

def digitValue (c : Char) : Option Nat :=
  let n := c.toNat
  if 65 ≤ n ∧ n ≤ 90 then some (n - 65)
  else if 97 ≤ n ∧ n ≤ 122 then some (n - 71)
  else if 48 ≤ n ∧ n ≤ 57 then some (n + 4)
  else if c = '-' then some 62
  else if c = '_' then some 63
  else none

def encodeDigits : List Nat → List Nat
  | a :: b :: c :: rest =>
    a / 4 :: (a % 4 * 16 + b / 16) :: (b % 16 * 4 + c / 64) :: c % 64 :: encodeDigits rest
  | [a, b] => [a / 4, a % 4 * 16 + b / 16, b % 16 * 4]
  | [a] => [a / 4, a % 4 * 16]
  | [] => []

def decodeDigits : List Nat → Option (List Nat)
  | a :: b :: c :: d :: rest =>
    (decodeDigits rest).map fun bytes =>
      (a * 4 + b / 16) :: (b % 16 * 16 + c / 4) :: (c % 4 * 64 + d) :: bytes
  | [a, b, c] => some [a * 4 + b / 16, b % 16 * 16 + c / 4]
  | [a, b] => some [a * 4 + b / 16]
  | [_] => none
  | [] => some []

/-- `base64.RawURLEncoding.EncodeToString`. -/
def encode (bytes : List Nat) : String := String.ofList ((encodeDigits bytes).map digitChar)

/-- `base64.RawURLEncoding.DecodeString`. -/
def decode (text : String) : Option (List Nat) :=
  ((text.toList.filter fun c => c ≠ '\n' ∧ c ≠ '\r').mapM digitValue).bind decodeDigits

/-- The text is the encoding of the bytes it decodes to, and these are `size` many. -/
def canonical (size : Nat) (text : String) : Bool :=
  match decode text with
  | some bytes => decide (bytes.length = size) && decide (encode bytes = text)
  | none => false

theorem canonical_iff {size : Nat} {text : String} :
    canonical size text = true ↔
      ∃ bytes, decode text = some bytes ∧ bytes.length = size ∧ encode bytes = text := by
  unfold canonical
  cases decode text with
  | none => simp
  | some bytes => simp

/-! ## The alphabet -/

theorem digitChar_ne_lf (n : Nat) : digitChar n ≠ '\n' := by
  have hupper : ∀ k < 26, Char.ofNat (65 + k) ≠ '\n' := by decide
  have hlower : ∀ k < 52, 26 ≤ k → Char.ofNat (71 + k) ≠ '\n' := by decide
  have hdigit : ∀ k < 62, 52 ≤ k → Char.ofNat (k - 4) ≠ '\n' := by decide
  unfold digitChar
  split_ifs with h1 h2 h3 h4
  · exact hupper n h1
  · exact hlower n h2 (by omega)
  · exact hdigit n h3 (by omega)
  · decide
  · decide

/-- An encoding is a single line. -/
theorem oneLine_encode (bytes : List Nat) : Lines.OneLine (encode bytes) := by
  intro hmem
  simp only [encode, String.toList_ofList, List.mem_map] at hmem
  obtain ⟨n, -, hn⟩ := hmem
  exact digitChar_ne_lf n hn

variable {n : Nat} {bytes : List Nat}

theorem digitValue_digitChar (h : n < 64) : digitValue (digitChar n) = some n := by
  have : ∀ m < 64, digitValue (digitChar m) = some m := by decide
  exact this n h

theorem digitChar_ne_newline (h : n < 64) : digitChar n ≠ '\n' ∧ digitChar n ≠ '\r' := by
  have : ∀ m < 64, digitChar m ≠ '\n' ∧ digitChar m ≠ '\r' := by decide
  exact this n h

theorem lt_of_mem_encodeDigits (bytes : List Nat) (hb : ∀ b ∈ bytes, b < 256) :
    ∀ d ∈ encodeDigits bytes, d < 64 := by
  fun_induction encodeDigits bytes with
  | case1 a b c rest ih =>
    have ha := hb a (by simp)
    have hb' := hb b (by simp)
    have hc := hb c (by simp)
    intro d hd
    simp only [List.mem_cons] at hd
    rcases hd with rfl | rfl | rfl | rfl | hd
    · omega
    · omega
    · omega
    · omega
    · exact ih (fun x hx => hb x (by simp [hx])) d hd
  | case2 a b =>
    have ha := hb a (by simp)
    have hb' := hb b (by simp)
    intro d hd
    simp only [List.mem_cons, List.not_mem_nil, or_false] at hd
    rcases hd with rfl | rfl | rfl <;> omega
  | case3 a =>
    have ha := hb a (by simp)
    intro d hd
    simp only [List.mem_cons, List.not_mem_nil, or_false] at hd
    rcases hd with rfl | rfl <;> omega
  | case4 => simp

theorem decodeDigits_encodeDigits (bytes : List Nat) (hb : ∀ b ∈ bytes, b < 256) :
    decodeDigits (encodeDigits bytes) = some bytes := by
  fun_induction encodeDigits bytes with
  | case1 a b c rest ih =>
    have ha := hb a (by simp)
    have hb' := hb b (by simp)
    have hc := hb c (by simp)
    rw [decodeDigits, ih fun x hx => hb x (by simp [hx])]
    simp only [Option.map_some, Option.some.injEq, List.cons.injEq, and_true]
    omega
  | case2 a b =>
    have ha := hb a (by simp)
    have hb' := hb b (by simp)
    simp only [decodeDigits, Option.some.injEq, List.cons.injEq, and_true]
    omega
  | case3 a =>
    have ha := hb a (by simp)
    simp only [decodeDigits, Option.some.injEq, List.cons.injEq, and_true]
    omega
  | case4 => rfl

theorem mapM_digitValue (digits : List Nat) (hd : ∀ d ∈ digits, d < 64) :
    (digits.map digitChar).mapM digitValue = some digits := by
  induction digits with
  | nil => rfl
  | cons d ds ih =>
    simp [List.mapM_cons, digitValue_digitChar (hd d (by simp)),
      ih fun x hx => hd x (by simp [hx])]

/-- Decoding undoes encoding. -/
theorem decode_encode (hb : ∀ b ∈ bytes, b < 256) : decode (encode bytes) = some bytes := by
  have hd := lt_of_mem_encodeDigits bytes hb
  have hkeep : ((encodeDigits bytes).map digitChar).filter (fun c => c ≠ '\n' ∧ c ≠ '\r') =
      (encodeDigits bytes).map digitChar := by
    refine List.filter_eq_self.mpr fun c hc => ?_
    obtain ⟨d, hdm, rfl⟩ := List.mem_map.mp hc
    simpa using digitChar_ne_newline (hd d hdm)
  rw [decode, encode, String.toList_ofList, hkeep, mapM_digitValue _ hd, Option.bind_some,
    decodeDigits_encodeDigits bytes hb]

theorem digitValue_lt {c : Char} (h : digitValue c = some n) : n < 64 := by
  simp only [digitValue] at h
  split_ifs at h <;>
  · have hn := Option.some.inj h
    omega

theorem decodeDigits_lt {digits : List Nat} (hd : ∀ d ∈ digits, d < 64) (h : decodeDigits digits = some bytes) :
    ∀ b ∈ bytes, b < 256 := by
  fun_induction decodeDigits digits generalizing bytes with
  | case1 a b c d rest ih =>
    obtain ⟨tail, htail, rfl⟩ := Option.map_eq_some_iff.mp h
    simp only [List.forall_mem_cons] at hd ⊢
    obtain ⟨ha, hb, hc, hd, hrest⟩ := hd
    exact ⟨by omega, by omega, by omega, ih hrest htail⟩
  | case2 a b c =>
    obtain rfl := Option.some.inj h
    simp only [List.forall_mem_cons, List.not_mem_nil, false_implies, implies_true, and_true] at hd ⊢
    omega
  | case3 a b =>
    obtain rfl := Option.some.inj h
    simp only [List.forall_mem_cons, List.not_mem_nil, false_implies, implies_true, and_true] at hd ⊢
    omega
  | case4 => cases h
  | case5 =>
    obtain rfl := Option.some.inj h
    exact fun b hb => by cases hb

/-- What is decoded is bytes. -/
theorem lt_of_decode {text : String} (h : decode text = some bytes) : ∀ b ∈ bytes, b < 256 := by
  obtain ⟨digits, hdigits, hbytes⟩ := Option.bind_eq_some_iff.mp h
  refine decodeDigits_lt ?_ hbytes
  intro d hd
  obtain ⟨c, -, hc⟩ := exists_of_mapM_eq_some hdigits d hd
  exact digitValue_lt hc

theorem encode_ne_empty (h : bytes ≠ []) : encode bytes ≠ "" := by
  intro hempty
  have hdigits : (encodeDigits bytes).map digitChar = [] := by
    simpa [encode] using congrArg String.toList hempty
  rw [List.map_eq_nil_iff] at hdigits
  fun_cases encodeDigits bytes <;> simp_all [encodeDigits]

theorem canonical_encode (hb : ∀ b ∈ bytes, b < 256) : canonical bytes.length (encode bytes) = true :=
  canonical_iff.mpr ⟨bytes, decode_encode hb, rfl, rfl⟩

end Base64
end Mesh
