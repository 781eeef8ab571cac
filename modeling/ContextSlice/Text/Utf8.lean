import ContextSlice.Text.Hex

/-!
# UTF-8

Reading bytes as UTF-8 (`decode`). A lead byte announces how many bytes follow and which second
bytes keep the form shortest and outside the surrogates (`Lead`). What breaks the rules is
reported as a `Fault`: the byte it begins at, how many bytes it covers, and its `Reason`.
-/

namespace ContextSlice.Text.Utf8

/-- What is wrong at a place that is not UTF-8. -/
inductive Reason where
  | startByte
  | continuationByte
  | endOfData
  deriving DecidableEq, Repr

/-- A place that is not UTF-8: its position, the bytes from there that cannot be read and what
is wrong with them. -/
structure Fault where
  position : Nat
  bytes : List UInt8
  reason : Reason
  deriving DecidableEq, Repr

/-- What a message says about a broken rule. -/
def Reason.message : Reason → String
  | .startByte => "invalid start byte"
  | .continuationByte => "invalid continuation byte"
  | .endOfData => "unexpected end of data"

/-- What a message says about a place that is not UTF-8. -/
def Fault.message (fault : Fault) : String :=
  let place :=
    match fault.bytes with
    | [b] => "byte 0x" ++ String.ofList (hexPadded 2 b.toNat) ++ s!" in position {fault.position}"
    | bytes => s!"bytes in position {fault.position}-{fault.position + bytes.length - 1}"
  "'utf-8' codec can't decode " ++ place ++ ": " ++ fault.reason.message

/-- A lead byte: the bits it carries, how many bytes follow and the range of the first of them. -/
structure Lead where
  bits : Nat
  count : Nat
  low : Nat := 0x80
  high : Nat := 0xBF

/-- The lead bytes of characters of two to four bytes. -/
def lead? (b : Nat) : Option Lead :=
  if 0xC2 ≤ b ∧ b ≤ 0xDF then some { bits := b - 0xC0, count := 1 }
  else if b = 0xE0 then some { bits := 0, count := 2, low := 0xA0 }
  else if b = 0xED then some { bits := 0xD, count := 2, high := 0x9F }
  else if 0xE1 ≤ b ∧ b ≤ 0xEF then some { bits := b - 0xE0, count := 2 }
  else if b = 0xF0 then some { bits := 0, count := 3, low := 0x90 }
  else if b = 0xF4 then some { bits := 4, count := 3, high := 0x8F }
  else if 0xF1 ≤ b ∧ b ≤ 0xF3 then some { bits := b - 0xF0, count := 3 }
  else none

/-- Reads `count` continuation bytes after the bits already known, the first of them within
`low` and `high`. On failure tells how many of them were good and what is wrong. -/
def readTail (bits : Nat) :
    (count low high : Nat) → List UInt8 → Except (Nat × Reason) (Nat × List UInt8)
  | 0, _, _, rest => .ok (bits, rest)
  | _ + 1, _, _, [] => .error (0, .endOfData)
  | count + 1, low, high, b :: rest =>
    if low ≤ b.toNat ∧ b.toNat ≤ high then
      match readTail (bits * 64 + b.toNat % 64) count 0x80 0xBF rest with
      | .error (good, reason) => .error (good + 1, reason)
      | .ok found => .ok found
    else .error (0, .continuationByte)

/-- What follows a character is a part of what followed its first byte. -/
theorem length_of_readTail {bits count low high n : Nat} {bytes rest : List UInt8}
    (h : readTail bits count low high bytes = .ok (n, rest)) : rest.length ≤ bytes.length := by
  induction bytes generalizing bits count low high with
  | nil =>
    cases count with
    | zero => simp only [readTail, Except.ok.injEq, Prod.mk.injEq] at h; simp [← h.2]
    | succ count => simp [readTail] at h
  | cons b bytes ih =>
    cases count with
    | zero => simp only [readTail, Except.ok.injEq, Prod.mk.injEq] at h; simp [← h.2]
    | succ count =>
      simp only [readTail] at h
      split at h
      · split at h
        · simp at h
        · rename_i found hfound
          cases h
          exact Nat.le_succ_of_le (ih hfound)
      · simp at h

/-- Reads the bytes from the given position on. -/
def decodeFrom (position : Nat) : List UInt8 → Except Fault (List Char)
  | [] => .ok []
  | b :: rest =>
    if b.toNat < 0x80 then do
      let chars ← decodeFrom (position + 1) rest
      pure (Char.ofNat b.toNat :: chars)
    else
      match lead? b.toNat with
      | none => .error ⟨position, [b], .startByte⟩
      | some lead =>
        match h : readTail lead.bits lead.count lead.low lead.high rest with
        | .error (good, reason) => .error ⟨position, b :: rest.take good, reason⟩
        | .ok (code, after) => do
          have := length_of_readTail h
          let chars ← decodeFrom (position + 1 + (rest.length - after.length)) after
          pure (Char.ofNat code :: chars)
termination_by bytes => bytes.length

/-- Reads bytes as UTF-8. -/
def decode (bytes : List UInt8) : Except Fault String :=
  (decodeFrom 0 bytes).map String.ofList

end ContextSlice.Text.Utf8
