/-!
# Texts as bytes

- `Utf8.encode`: a text as the bytes of UTF-8.
- `Utf8.decode`: the text of bytes; surrogates, overlong forms and numbers beyond the last code
  point are refused.
- `Utf8.DecodeFault`: where and why bytes were refused.
-/

namespace Swimlane.Text.Utf8

/-- A text as bytes. -/
def encode (s : String) : List UInt8 := s.toList.flatMap String.utf8EncodeChar

/-- The bytes tell texts apart. -/
theorem encode_inj {s s' : String} : encode s = encode s' ↔ s = s' := by
  have hbytes : ∀ s : String, (encode s).toByteArray = s.toByteArray := fun s => by
    rw [← String.ofList_toList (s := s), String.toByteArray_ofList, String.ofList_toList]
    rfl
  constructor
  · intro h
    rw [← String.toByteArray_inj, ← hbytes, ← hbytes, h]
  · exact congrArg encode

/-- What is wrong with a byte sequence. -/
inductive Cause where
  | badStart
  | badContinuation
  | cutShort
  deriving DecidableEq, Repr

/-- The wording of a cause. -/
def Cause.message : Cause → String
  | badStart => "invalid start byte"
  | badContinuation => "invalid continuation byte"
  | cutShort => "unexpected end of data"

/-- The bytes that were refused: the first of them, its place, and how many they are. -/
structure DecodeFault where
  cause : Cause
  first : UInt8
  position : Nat
  length : Nat
  deriving DecidableEq, Repr

/-- The wording of a fault. -/
def DecodeFault.message (f : DecodeFault) : String :=
  let hex : List Char := [f.first.toNat / 16, f.first.toNat % 16].map Nat.digitChar
  let place :=
    if f.length = 1 then
      "byte 0x" ++ String.ofList hex ++ " in position " ++ toString f.position
    else
      "bytes in position " ++ toString f.position ++ "-" ++ toString (f.position + f.length - 1)
  "'utf-8' codec can't decode " ++ place ++ ": " ++ f.cause.message

/-- What a first byte announces: its own bits, and for each further byte the range it lies in. -/
def announced? (b : UInt8) : Option (Nat × List (Nat × Nat)) :=
  let n := b.toNat
  let any := (0x80, 0xBF)
  if n < 0x80 then some (n, [])
  else if n < 0xC2 then none
  else if n < 0xE0 then some (n - 0xC0, [any])
  else if n = 0xE0 then some (0, [(0xA0, 0xBF), any])
  else if n = 0xED then some (n - 0xE0, [(0x80, 0x9F), any])
  else if n < 0xF0 then some (n - 0xE0, [any, any])
  else if n = 0xF0 then some (0, [(0x90, 0xBF), any, any])
  else if n < 0xF4 then some (n - 0xF0, [any, any, any])
  else if n = 0xF4 then some (n - 0xF0, [(0x80, 0x8F), any, any])
  else none

/-- Reads further bytes within their ranges: the bits, the bytes left and their number, or the
cause and how many were good. -/
def further (bits good : Nat) : List (Nat × Nat) → List UInt8 → Except (Cause × Nat) (Nat × Nat)
  | [], _ => .ok (bits, good)
  | _ :: _, [] => .error (.cutShort, good)
  | (low, high) :: ranges, b :: rest =>
    if low ≤ b.toNat ∧ b.toNat ≤ high then
      further (bits * 64 + (b.toNat - 0x80)) (good + 1) ranges rest
    else .error (.badContinuation, good)

/-- The text of bytes that stand at a place. -/
def decodeFrom (position : Nat) : List UInt8 → Except DecodeFault (List Char)
  | [] => .ok []
  | b :: rest =>
    match announced? b with
    | none => .error ⟨.badStart, b, position, 1⟩
    | some (bits, ranges) =>
      match further bits 0 ranges rest with
      | .error (cause, good) => .error ⟨cause, b, position, good + 1⟩
      | .ok (n, used) =>
        (decodeFrom (position + 1 + used) (rest.drop used)).map (Char.ofNat n :: ·)
  termination_by bytes => bytes.length
  decreasing_by
    rw [List.length_cons, List.length_drop]
    exact Nat.lt_succ_of_le (Nat.sub_le _ _)

/-- The text of bytes. -/
def decode (bytes : List UInt8) : Except DecodeFault String :=
  (decodeFrom 0 bytes).map String.ofList

end Swimlane.Text.Utf8
