import Mathlib.Data.Vector.Basic

/-!
# Byte arrays and their integer views

The source keeps fixed-size material in `std::array<std::uint8_t, N>` and passes packets as
spans.  Here an array of `n` bytes is `Bytes n`, a list that carries its length, and a span is a
plain `List UInt8`.  The little- and big-endian views are the ones of `endian.hpp` and of the
handshake's timestamp writer.
-/

namespace WireguardNx.Wireguard

/-- A byte array of fixed size (`std::array<std::uint8_t, n>`). -/
abbrev Bytes (n : Nat) := List.Vector UInt8 n

namespace Bytes

/-- A value-initialised or securely cleared array. -/
def zero (n : Nat) : Bytes n := List.Vector.replicate n 0

def isAllZero {n : Nat} (bytes : Bytes n) : Bool := bytes.toList.all (· == 0)

/-- The first `n` bytes of a span that has at least `n`. -/
def ofPrefix (n : Nat) (input : List UInt8) (h : n ≤ input.length) : Bytes n :=
  ⟨input.take n, by simp [h]⟩

/-- A whole span as an array of its own length. -/
def ofList (input : List UInt8) : Bytes input.length := ⟨input, rfl⟩

/-- `n` bytes followed by `m` bytes, as one array. -/
def append {n m : Nat} (first : Bytes n) (second : Bytes m) : Bytes (n + m) :=
  ⟨first.toList ++ second.toList, by simp⟩

/-- The leading `n` bytes of an array of `n + m`. -/
def first {n m : Nat} (bytes : Bytes (n + m)) : Bytes n :=
  ⟨bytes.toList.take n, by simp⟩

/-- The trailing `m` bytes of an array of `n + m`. -/
def last {n m : Nat} (bytes : Bytes (n + m)) : Bytes m :=
  ⟨bytes.toList.drop n, by simp⟩

@[simp]
theorem toList_append {n m : Nat} (a : Bytes n) (b : Bytes m) :
    (a.append b).toList = a.toList ++ b.toList := rfl

@[simp]
theorem first_append {n m : Nat} (a : Bytes n) (b : Bytes m) : (a.append b).first = a := by
  apply List.Vector.toList_injective
  show (a.toList ++ b.toList).take n = a.toList
  simp

@[simp]
theorem last_append {n m : Nat} (a : Bytes n) (b : Bytes m) : (a.append b).last = b := by
  apply List.Vector.toList_injective
  show (a.toList ++ b.toList).drop n = b.toList
  simp

end Bytes

/-- `std::lexicographical_compare` on two byte ranges. -/
def lexicographicalCompare : List UInt8 → List UInt8 → Bool
  | _, [] => false
  | [], _ :: _ => true
  | a :: as, b :: bs => if a < b then true else if b < a then false else lexicographicalCompare as bs

/-! ## Integer views -/

def loadLe32 (data : Bytes 4) : UInt32 :=
  (data.get 0).toUInt32 ||| ((data.get 1).toUInt32 <<< 8) ||| ((data.get 2).toUInt32 <<< 16) |||
    ((data.get 3).toUInt32 <<< 24)

/-- `LoadLe64`, from its two 32-bit halves. -/
def loadLe64 (data : Bytes 8) : UInt64 :=
  (loadLe32 (Bytes.first (m := 4) data)).toUInt64 |||
    ((loadLe32 (Bytes.last (n := 4) data)).toUInt64 <<< 32)

def storeLe32 (value : UInt32) : Bytes 4 :=
  ⟨[(value &&& 0xFF).toUInt8, ((value >>> 8) &&& 0xFF).toUInt8, ((value >>> 16) &&& 0xFF).toUInt8,
    ((value >>> 24) &&& 0xFF).toUInt8], rfl⟩

def storeLe64 (value : UInt64) : Bytes 8 :=
  (storeLe32 (value &&& 0xFFFFFFFF).toUInt32).append (storeLe32 (value >>> 32).toUInt32)

def storeBe32 (value : UInt32) : Bytes 4 :=
  ⟨[((value >>> 24) &&& 0xFF).toUInt8, ((value >>> 16) &&& 0xFF).toUInt8,
    ((value >>> 8) &&& 0xFF).toUInt8, (value &&& 0xFF).toUInt8], rfl⟩

/-- `StoreBe64`: the byte of weight `i` is written at offset `7 - i`. -/
def storeBe64 (value : UInt64) : Bytes 8 :=
  ⟨[((value >>> 56) &&& 0xFF).toUInt8, ((value >>> 48) &&& 0xFF).toUInt8,
    ((value >>> 40) &&& 0xFF).toUInt8, ((value >>> 32) &&& 0xFF).toUInt8,
    ((value >>> 24) &&& 0xFF).toUInt8, ((value >>> 16) &&& 0xFF).toUInt8,
    ((value >>> 8) &&& 0xFF).toUInt8, (value &&& 0xFF).toUInt8], rfl⟩

/-- `LoadBigEndian16` at an offset of a span; a read past the end does not happen in the source
and is given as zero here. -/
def loadBigEndian16 (packet : List UInt8) (offset : Nat) : Nat :=
  (packet.getD offset 0).toNat * 256 + (packet.getD (offset + 1) 0).toNat

/-! ## Round trips -/

/-- A word over a part that does not reach it. -/
theorem or_shiftLeft_toNat {low high shift : UInt32} (hshift : shift.toNat < 32)
    (hlow : low.toNat < 2 ^ shift.toNat) (hhigh : high.toNat * 2 ^ shift.toNat < 2 ^ 32) :
    (low ||| (high <<< shift)).toNat = low.toNat + high.toNat * 2 ^ shift.toNat := by
  rw [UInt32.toNat_or, UInt32.toNat_shiftLeft, Nat.mod_eq_of_lt hshift, Nat.shiftLeft_eq,
    Nat.mod_eq_of_lt hhigh, Nat.or_comm, ← Nat.shiftLeft_eq, ← Nat.shiftLeft_add_eq_or_of_lt hlow,
    Nat.add_comm]

theorem loadLe32_toNat (data : Bytes 4) :
    (loadLe32 data).toNat = (data.get 0).toNat + (data.get 1).toNat * 2 ^ 8 +
      (data.get 2).toNat * 2 ^ 16 + (data.get 3).toNat * 2 ^ 24 := by
  have hbyte (b : UInt8) : b.toUInt32.toNat = b.toNat := rfl
  have h₀ := (data.get 0).toNat_lt
  have h₁ := (data.get 1).toNat_lt
  have h₂ := (data.get 2).toNat_lt
  have h₃ := (data.get 3).toNat_lt
  have hfirst : ((data.get 0).toUInt32 ||| ((data.get 1).toUInt32 <<< 8)).toNat = _ :=
    or_shiftLeft_toNat (by decide) h₀ (by rw [hbyte]; simp only [UInt32.reduceToNat]; omega)
  simp only [UInt32.reduceToNat, hbyte] at hfirst
  have hsecond : ((data.get 0).toUInt32 ||| ((data.get 1).toUInt32 <<< 8) |||
      ((data.get 2).toUInt32 <<< 16)).toNat = _ :=
    or_shiftLeft_toNat (by decide) (by rw [hfirst]; simp only [UInt32.reduceToNat]; omega)
      (by rw [hbyte]; simp only [UInt32.reduceToNat]; omega)
  rw [hfirst, hbyte] at hsecond
  simp only [UInt32.reduceToNat] at hsecond
  have hthird : (loadLe32 data).toNat = _ :=
    or_shiftLeft_toNat (by decide) (by rw [hsecond]; simp only [UInt32.reduceToNat]; omega)
      (by rw [hbyte]; simp only [UInt32.reduceToNat]; omega)
  rw [hthird, hsecond, hbyte]
  rfl

/-- The lowest byte of a word. -/
theorem lowByte_toNat (part : UInt32) : (part &&& 0xFF).toUInt8.toNat = part.toNat % 256 := by
  rw [UInt32.toNat_toUInt8, UInt32.toNat_and]
  have hmask : part.toNat &&& 255 = part.toNat % 256 := Nat.and_two_pow_sub_one_eq_mod _ 8
  rw [show (0xFF : UInt32).toNat = 255 from rfl, hmask, Nat.mod_mod]

theorem shiftRight_toNat (value shift : UInt32) (hshift : shift.toNat < 32) :
    (value >>> shift).toNat = value.toNat / 2 ^ shift.toNat := by
  rw [UInt32.toNat_shiftRight, Nat.mod_eq_of_lt hshift, Nat.shiftRight_eq_div_pow]

/-- The bytes of a word, by weight. -/
theorem storeLe32_get (value : UInt32) : ((storeLe32 value).get 0).toNat = value.toNat % 256 ∧
      ((storeLe32 value).get 1).toNat = value.toNat / 2 ^ 8 % 256 ∧
      ((storeLe32 value).get 2).toNat = value.toNat / 2 ^ 16 % 256 ∧
      ((storeLe32 value).get 3).toNat = value.toNat / 2 ^ 24 % 256 := by
  refine ⟨lowByte_toNat value, ?_, ?_, ?_⟩
  · exact (lowByte_toNat (value >>> 8)).trans (by rw [shiftRight_toNat _ 8 (by decide)]; rfl)
  · exact (lowByte_toNat (value >>> 16)).trans (by rw [shiftRight_toNat _ 16 (by decide)]; rfl)
  · exact (lowByte_toNat (value >>> 24)).trans (by rw [shiftRight_toNat _ 24 (by decide)]; rfl)

theorem loadLe32_storeLe32 (value : UInt32) : loadLe32 (storeLe32 value) = value := by
  obtain ⟨h₀, h₁, h₂, h₃⟩ := storeLe32_get value
  apply UInt32.toNat_inj.mp
  have hlt := value.toNat_lt
  rw [loadLe32_toNat, h₀, h₁, h₂, h₃]
  omega

theorem storeLe32_loadLe32 (data : Bytes 4) : storeLe32 (loadLe32 data) = data := by
  obtain ⟨h₀, h₁, h₂, h₃⟩ := storeLe32_get (loadLe32 data)
  rw [loadLe32_toNat] at h₀ h₁ h₂ h₃
  have hlt₀ := (data.get 0).toNat_lt
  have hlt₁ := (data.get 1).toNat_lt
  have hlt₂ := (data.get 2).toNat_lt
  have hlt₃ := (data.get 3).toNat_lt
  apply List.Vector.ext
  intro i
  apply UInt8.toNat_inj.mp
  match i with
  | 0 => omega
  | 1 => omega
  | 2 => omega
  | 3 => omega

theorem loadLe64_toNat (data : Bytes 8) :
    (loadLe64 data).toNat = (loadLe32 (Bytes.first (m := 4) data)).toNat +
      (loadLe32 (Bytes.last (n := 4) data)).toNat * 2 ^ 32 := by
  unfold loadLe64
  generalize loadLe32 (Bytes.first (m := 4) data) = low
  generalize loadLe32 (Bytes.last (n := 4) data) = high
  have hlow := low.toNat_lt
  have hhigh := high.toNat_lt
  rw [UInt64.toNat_or, UInt64.toNat_shiftLeft, UInt32.toNat_toUInt64, UInt32.toNat_toUInt64,
    show (32 : UInt64).toNat % 64 = 32 from rfl, Nat.shiftLeft_eq,
    Nat.mod_eq_of_lt (by omega), Nat.or_comm, ← Nat.shiftLeft_eq,
    ← Nat.shiftLeft_add_eq_or_of_lt hlow, Nat.shiftLeft_eq, Nat.add_comm]

/-- The lower and the upper half of a word. -/
theorem halves_toNat (value : UInt64) :
    (value &&& 0xFFFFFFFF).toUInt32.toNat = value.toNat % 2 ^ 32 ∧
      (value >>> 32).toUInt32.toNat = value.toNat / 2 ^ 32 := by
  have hlt := value.toNat_lt
  constructor
  · have hmask : value.toNat &&& 4294967295 = value.toNat % 2 ^ 32 :=
      Nat.and_two_pow_sub_one_eq_mod _ 32
    rw [UInt64.toNat_toUInt32, UInt64.toNat_and,
      show (0xFFFFFFFF : UInt64).toNat = 4294967295 from rfl, hmask, Nat.mod_mod]
  · rw [UInt64.toNat_toUInt32, UInt64.toNat_shiftRight,
      show (32 : UInt64).toNat % 64 = 32 from rfl, Nat.shiftRight_eq_div_pow,
      Nat.mod_eq_of_lt (by omega)]

theorem loadLe64_storeLe64 (value : UInt64) : loadLe64 (storeLe64 value) = value := by
  obtain ⟨hlow, hhigh⟩ := halves_toNat value
  apply UInt64.toNat_inj.mp
  rw [loadLe64_toNat, storeLe64, Bytes.first_append, Bytes.last_append, loadLe32_storeLe32,
    loadLe32_storeLe32, hlow, hhigh]
  omega

theorem storeLe64_loadLe64 (data : Bytes 8) : storeLe64 (loadLe64 data) = data := by
  obtain ⟨hlow, hhigh⟩ := halves_toNat (loadLe64 data)
  have hlt₀ := (loadLe32 (Bytes.first (m := 4) data)).toNat_lt
  have hlt₁ := (loadLe32 (Bytes.last (n := 4) data)).toNat_lt
  rw [loadLe64_toNat] at hlow hhigh
  have hlow' : (loadLe64 data &&& 0xFFFFFFFF).toUInt32 = loadLe32 (Bytes.first (m := 4) data) :=
    UInt32.toNat_inj.mp (by omega)
  have hhigh' : (loadLe64 data >>> 32).toUInt32 = loadLe32 (Bytes.last (n := 4) data) :=
    UInt32.toNat_inj.mp (by omega)
  apply List.Vector.toList_injective
  rw [storeLe64, hlow', hhigh', storeLe32_loadLe32, storeLe32_loadLe32, Bytes.toList_append]
  exact List.take_append_drop 4 data.toList

end WireguardNx.Wireguard
