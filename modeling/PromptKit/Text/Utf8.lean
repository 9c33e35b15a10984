/-!
UTF-8: the bytes of a text, and the text of bytes. The longest run of bytes that could begin a
character but does not become one counts as a single flaw.
-/
namespace PromptKit.Text

def utf8Length : List Char → Nat
  | [] => 0
  | c :: rest => c.utf8Size + utf8Length rest

@[simp] theorem utf8Length_append (cs ds : List Char) :
    utf8Length (cs ++ ds) = utf8Length cs + utf8Length ds := by
  induction cs with
  | nil => simp [utf8Length]
  | cons c rest ih => simp [utf8Length, ih, Nat.add_assoc]

theorem utf8ByteSize_ofList (cs : List Char) : (String.ofList cs).utf8ByteSize = utf8Length cs := by
  induction cs with
  | nil => rfl
  | cons c rest ih =>
    rw [String.ofList_cons, String.utf8ByteSize_append, String.utf8ByteSize_singleton, ih]
    rfl

def charBytes (c : Char) : List UInt8 :=
  let n := c.toNat
  let trail (unit : Nat) : UInt8 := UInt8.ofNat (0x80 + n / unit % 64)
  if n < 0x80 then [UInt8.ofNat n]
  else if n < 0x800 then [UInt8.ofNat (0xc0 + n / 64), trail 1]
  else if n < 0x10000 then [UInt8.ofNat (0xe0 + n / 4096), trail 64, trail 1]
  else [UInt8.ofNat (0xf0 + n / 262144), trail 4096, trail 64, trail 1]

def utf8Bytes (cs : List Char) : List UInt8 := cs.flatMap charBytes

/-- What may follow a first byte: how many more bytes there are, and the bounds of the next. -/
def follows? (lead : Nat) : Option (Nat × Nat × Nat) :=
  if 0xc2 ≤ lead && lead ≤ 0xdf then some (1, 0x80, 0xbf)
  else if lead = 0xe0 then some (2, 0xa0, 0xbf)
  else if lead = 0xed then some (2, 0x80, 0x9f)
  else if 0xe1 ≤ lead && lead ≤ 0xef then some (2, 0x80, 0xbf)
  else if lead = 0xf0 then some (3, 0x90, 0xbf)
  else if 0xf1 ≤ lead && lead ≤ 0xf3 then some (3, 0x80, 0xbf)
  else if lead = 0xf4 then some (3, 0x80, 0x8f)
  else none

/-- The state between two bytes: at a character, or inside one, with its value so far, the number of
bytes to come and the bounds of the next. -/
inductive Decoding where
  | fresh
  | inside (value count low high : Nat)

private def beginChar (b : Nat) : List (Option Char) × Decoding :=
  if b < 0x80 then ([some (Char.ofNat b)], .fresh)
  else
    match follows? b with
    | some (count, low, high) => ([], .inside (b % (64 >>> count)) count low high)
    | none => ([none], .fresh)

def Decoding.step : Decoding → Nat → List (Option Char) × Decoding
  | .fresh, b => beginChar b
  | .inside value count low high, b =>
    if low ≤ b && b ≤ high then
      let value := value * 64 + b % 64
      if count ≤ 1 then ([some (Char.ofNat value)], .fresh)
      else ([], .inside value (count - 1) 0x80 0xbf)
    else
      let (found, state) := beginChar b
      (none :: found, state)

def decodeFrom (state : Decoding) : List UInt8 → List (Option Char)
  | [] =>
    match state with
    | .fresh => []
    | .inside .. => [none]
  | b :: rest =>
    let (found, state) := state.step b.toNat
    found ++ decodeFrom state rest

namespace Decoding

variable {b value count low high : Nat}

theorem step_of_ascii (ascii : b < 0x80) : fresh.step b = ([some (Char.ofNat b)], fresh) := by
  rw [step, beginChar, if_pos ascii]

theorem step_of_lead (follows : follows? b = some (count, low, high)) (lead : 0x80 ≤ b) :
    fresh.step b = ([], inside (b % (64 >>> count)) count low high) := by
  rw [step, beginChar, if_neg (Nat.not_lt.mpr lead), follows]

theorem step_of_trail {left : Nat} (within : low ≤ b ∧ b ≤ high) (more : 0 < left) :
    (inside value (left + 1) low high).step b = ([], inside (value * 64 + b % 64) left 0x80 0xbf) := by
  have goesOn : ¬ left + 1 ≤ 1 := by omega
  simp [step, within, goesOn]

theorem step_of_last (within : low ≤ b ∧ b ≤ high) :
    (inside value 1 low high).step b = ([some (Char.ofNat (value * 64 + b % 64))], fresh) := by
  simp [step, within]

end Decoding

theorem decodeFrom_cons {state next : Decoding} {b : Nat} {found : List (Option Char)}
    (byte : b < 256) (rest : List UInt8) (stepped : state.step b = (found, next)) :
    decodeFrom state (UInt8.ofNat b :: rest) = found ++ decodeFrom next rest := by
  rw [decodeFrom, UInt8.toNat_ofNat_of_lt' byte, stepped]

def decode (bytes : List UInt8) : List (Option Char) := decodeFrom .fresh bytes

def ofUtf8? (bytes : List UInt8) : Option String :=
  ((decode bytes).mapM id).map String.ofList

def ofUtf8Lossy (bytes : List UInt8) : String :=
  String.ofList ((decode bytes).map (·.getD '\ufffd'))

end PromptKit.Text
