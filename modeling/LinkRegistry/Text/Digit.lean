/-!
# Digits

**Input.** Characters that may be digits.

**Rule.** An ASCII digit has the value of its offset from `0`.  A Unicode decimal digit
lies in one of the blocks of ten that start at a code point of the table (category Nd,
Unicode 14.0), and its value is its offset from that start.

**Results.** Padded numbers read back (`takeNumber_padded`).
-/

namespace LinkRegistry
namespace Text

/-- Powers of ten. -/
def tenPower : Nat → Nat
  | 0 => 1
  | k + 1 => tenPower k * 10

/-- Value of an ASCII digit. -/
def digitValue? (c : Char) : Option Nat :=
  if 48 ≤ c.toNat ∧ c.toNat ≤ 57 then some (c.toNat - 48) else none

/-- The ASCII digit of a value below ten. -/
def digit (n : Nat) : Char :=
  Char.ofNat (48 + n % 10)

/-- Code points of the digits of value zero, ascending. -/
def decimalZeros : List Nat :=
  [0x30, 0x660, 0x6f0, 0x7c0, 0x966, 0x9e6, 0xa66, 0xae6, 0xb66, 0xbe6, 0xc66, 0xce6,
   0xd66, 0xde6, 0xe50, 0xed0, 0xf20, 0x1040, 0x1090, 0x17e0, 0x1810, 0x1946, 0x19d0,
   0x1a80, 0x1a90, 0x1b50, 0x1bb0, 0x1c40, 0x1c50, 0xa620, 0xa8d0, 0xa900, 0xa9d0,
   0xa9f0, 0xaa50, 0xabf0, 0xff10, 0x104a0, 0x10d30, 0x11066, 0x110f0, 0x11136, 0x111d0,
   0x112f0, 0x11450, 0x114d0, 0x11650, 0x116c0, 0x11730, 0x118e0, 0x11950, 0x11c50,
   0x11d50, 0x11da0, 0x16a60, 0x16ac0, 0x16b50, 0x1d7ce, 0x1d7d8, 0x1d7e2, 0x1d7ec,
   0x1d7f6, 0x1e140, 0x1e2f0, 0x1e950, 0x1fbf0]

/-- Value of a Unicode decimal digit. -/
def decimalValue? (c : Char) : Option Nat :=
  (decimalZeros.find? fun z => z ≤ c.toNat && c.toNat < z + 10).map (c.toNat - ·)

/-- The last `w` decimal digits of `n`, most significant first. -/
def padded : Nat → Nat → List Char
  | 0, _ => []
  | w + 1, n => padded w (n / 10) ++ [digit n]

/-- The last `w` hexadecimal digits of `n`, most significant first. -/
def hexPadded : Nat → Nat → List Char
  | 0, _ => []
  | w + 1, n => hexPadded w (n / 16) ++ [Nat.digitChar (n % 16)]

/-- Read exactly `w` ASCII digits after the digits of `acc`. -/
def takeNumber : Nat → Nat → List Char → Option (Nat × List Char)
  | 0, acc, cs => some (acc, cs)
  | _ + 1, _, [] => none
  | w + 1, acc, c :: cs =>
      match digitValue? c with
      | some d => takeNumber w (acc * 10 + d) cs
      | none => none

/-- The leading ASCII digits and what follows them. -/
def takeDigits : List Char → List Nat × List Char
  | [] => ([], [])
  | c :: cs =>
      match digitValue? c with
      | some d => (d :: (takeDigits cs).1, (takeDigits cs).2)
      | none => ([], c :: cs)

/-- The number that digits make, most significant first. -/
def digitsValue (ds : List Nat) : Nat :=
  ds.foldl (fun n d => n * 10 + d) 0

@[simp] theorem digitValue?_digit (n : Nat) : digitValue? (digit n) = some (n % 10) := by
  have small : ∀ d, d < 10 → digitValue? (Char.ofNat (48 + d)) = some d := by decide
  exact small (n % 10) (Nat.mod_lt n (by decide))

@[simp] theorem length_padded (w n : Nat) : (padded w n).length = w := by
  induction w generalizing n with
  | zero => rfl
  | succ w ih => simp [padded, ih]

/-- The last digit stands apart from those before it. -/
theorem mod_tenPower_succ (w n : Nat) :
    n % tenPower (w + 1) = n / 10 % tenPower w * 10 + n % 10 := by
  rw [tenPower, Nat.mul_comm, Nat.mod_mul]
  omega

theorem takeNumber_add (v w acc : Nat) (cs : List Char) :
    takeNumber (v + w) acc cs =
      (takeNumber v acc cs).bind fun p => takeNumber w p.1 p.2 := by
  induction v generalizing acc cs with
  | zero => simp [takeNumber]
  | succ v ih =>
      rw [Nat.succ_add]
      cases cs with
      | nil => rfl
      | cons c cs =>
          simp only [takeNumber]
          cases digitValue? c with
          | none => rfl
          | some d => exact ih (acc * 10 + d) cs

/-- Padded numbers read back. -/
theorem takeNumber_padded (w n acc : Nat) (rest : List Char) :
    takeNumber w acc (padded w n ++ rest) =
      some (acc * tenPower w + n % tenPower w, rest) := by
  induction w generalizing n rest with
  | zero => simp [takeNumber, padded, tenPower, Nat.mod_one]
  | succ w ih =>
      rw [takeNumber_add w 1, padded, List.append_assoc, ih, mod_tenPower_succ]
      simp [takeNumber, tenPower, Nat.add_mul, Nat.mul_assoc, Nat.add_assoc]

end Text
end LinkRegistry
