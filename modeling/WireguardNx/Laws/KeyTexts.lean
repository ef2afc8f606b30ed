import WireguardNx.Wireguard.Session
import Mathlib.Tactic.ByContra
import Mathlib.Tactic.SplitIfs

/-!
# Key texts

A key of 32 bytes is a text of 44 base64 characters.  The text is read and written in groups, four
characters for three bytes; `SameBits` says which characters and bytes belong together, and the last
group, with its padding, is one whose third byte is left out.  The decoder ignores the two bits of
the last character that belong to that byte, so it takes four texts for every key.

The encoder is given room for 45 characters, the least that it accepts.
-/

namespace WireguardNx.Wireguard

open List

/-! ## Characters -/

theorem decodeBase64Char_base64Char {v : Nat} (h : v < 64) :
    decodeBase64Char (base64Char v) = v ∧ base64Char v ≠ '=' := by
  have hall : ∀ v : Fin 64, decodeBase64Char (base64Char v) = (v : Nat) ∧ base64Char v ≠ '=' := by
    decide +kernel
  exact hall ⟨v, h⟩

private theorem neg_one_le_decodeBase64Char (ch : Char) : -1 ≤ decodeBase64Char ch := by
  unfold decodeBase64Char
  split_ifs with hupper hlower hdigit
  · have hle : 'A'.toNat ≤ ch.toNat := hupper.1
    omega
  · have hle : 'a'.toNat ≤ ch.toNat := hlower.1
    omega
  · have hle : '0'.toNat ≤ ch.toNat := hdigit.1
    omega
  all_goals decide

/-- Only the characters of the alphabet have a value. -/
theorem exists_base64Char {ch : Char} (h : 0 ≤ decodeBase64Char ch) :
    ∃ v < 64, ch = base64Char v := by
  have hascii : ch.toNat < 128 := by
    unfold decodeBase64Char at h
    split_ifs at h with hupper hlower hdigit hplus hslash
    · exact Nat.lt_of_le_of_lt hupper.2 (by decide)
    · exact Nat.lt_of_le_of_lt hlower.2 (by decide)
    · exact Nat.lt_of_le_of_lt hdigit.2 (by decide)
    · rw [hplus]; decide
    · rw [hslash]; decide
    · omega
  have hall : ∀ n : Fin 128, 0 ≤ decodeBase64Char (Char.ofNat n) →
      ∃ v : Fin 64, Char.ofNat n = base64Char v := by decide +kernel
  obtain ⟨v, hv⟩ := hall ⟨ch.toNat, hascii⟩ (by rwa [Char.ofNat_toNat])
  exact ⟨v, v.isLt, by rwa [Char.ofNat_toNat] at hv⟩

/-! ## Groups -/

/-- Four character values and three bytes that are the same 24 bits. -/
structure SameBits (a b c d : Nat) (x y z : UInt8) : Prop where
  first : a < 64
  second : b < 64
  third : c < 64
  fourth : d < 64
  value : a * 262144 + b * 4096 + c * 64 + d = x.toNat * 65536 + y.toNat * 256 + z.toNat

theorem SameBits.of_bytes (x y z : UInt8) : SameBits (x.toNat / 4) (x.toNat % 4 * 16 + y.toNat / 16)
    (y.toNat % 16 * 4 + z.toNat / 64) (z.toNat % 64) x y z := by
  have hx := x.toNat_lt
  have hy := y.toNat_lt
  have hz := z.toNat_lt
  constructor <;> omega

theorem SameBits.of_values {a b c d : Nat} (ha : a < 64) (hb : b < 64) (hc : c < 64) (hd : d < 64) :
    SameBits a b c d (a * 4 + b / 16).toUInt8 (b % 16 * 16 + c / 4).toUInt8
      (c % 4 * 64 + d).toUInt8 := by
  have hbyte {v : Nat} (h : v < 256) : v.toUInt8.toNat = v := Nat.mod_eq_of_lt h
  refine ⟨ha, hb, hc, hd, ?_⟩
  rw [hbyte (by omega), hbyte (by omega), hbyte (by omega)]
  omega

theorem shiftLeft_or {low : Nat} (high k : Nat) (h : low < 2 ^ k) :
    (high <<< k) ||| low = high * 2 ^ k + low := by
  rw [← Nat.shiftLeft_add_eq_or_of_lt h, Nat.shiftLeft_eq]

namespace SameBits

variable {n a b c d : Nat} {x y z : UInt8} (h : SameBits a b c d x y z)

include h

theorem join_values : (a <<< 18) ||| (b <<< 12) ||| (c <<< 6) ||| d =
    x.toNat * 65536 + y.toNat * 256 + z.toNat := by
  obtain ⟨ha, hb, hc, hd, hvalue⟩ := h
  rw [Nat.or_assoc, Nat.or_assoc, shiftLeft_or c 6 hd, shiftLeft_or b 12 (by omega),
    shiftLeft_or a 18 (by omega), ← hvalue]
  simp only [Nat.reducePow, Nat.add_assoc]

theorem join_bytes : (x.toNat <<< 16) ||| (y.toNat <<< 8) ||| z.toNat =
    a * 262144 + b * 4096 + c * 64 + d := by
  have hy := y.toNat_lt
  have hz := z.toNat_lt
  rw [Nat.or_assoc, shiftLeft_or y.toNat 8 hz, shiftLeft_or x.toNat 16 (by omega), h.value]
  omega

omit h in
theorem split_bytes (x y z : UInt8) {value : Nat}
    (hvalue : value = x.toNat * 65536 + y.toNat * 256 + z.toNat) :
    ((value >>> 16) &&& 0xFF).toUInt8 = x ∧ ((value >>> 8) &&& 0xFF).toUInt8 = y ∧
      (value &&& 0xFF).toUInt8 = z := by
  have hx := x.toNat_lt
  have hy := y.toNat_lt
  have hz := z.toNat_lt
  have hbyte {v : Nat} {byte : UInt8} (h : v % 256 = byte.toNat) : (v &&& 0xFF).toUInt8 = byte := by
    rw [Nat.and_two_pow_sub_one_eq_mod v 8, h]
    exact UInt8.ofNat_toNat
  rw [Nat.shiftRight_eq_div_pow, Nat.shiftRight_eq_div_pow]
  exact ⟨hbyte (by omega), hbyte (by omega), hbyte (by omega)⟩

theorem split_values {value : Nat} (hvalue : value = a * 262144 + b * 4096 + c * 64 + d) :
    (value >>> 18) &&& 0x3F = a ∧ (value >>> 12) &&& 0x3F = b ∧ (value >>> 6) &&& 0x3F = c ∧
      value &&& 0x3F = d := by
  obtain ⟨ha, hb, hc, hd, -⟩ := h
  have hmask (v : Nat) : v &&& 0x3F = v % 64 := Nat.and_two_pow_sub_one_eq_mod v 6
  simp only [hmask, Nat.shiftRight_eq_div_pow]
  omega

/-- A group that is not the last one is read as its three bytes. -/
theorem decode {rest : List Char} (hrest : rest ≠ []) : decodeWireGuardGroups n
      (base64Char a :: base64Char b :: base64Char c :: base64Char d :: rest) =
    if 32 < n + 3 then none else (decodeWireGuardGroups (n + 3) rest).map ([x, y, z] ++ ·) := by
  obtain ⟨hx, hy, hz⟩ := split_bytes x y z h.join_values
  obtain ⟨ha, -⟩ := decodeBase64Char_base64Char h.first
  obtain ⟨hb, -⟩ := decodeBase64Char_base64Char h.second
  obtain ⟨hc, hc'⟩ := decodeBase64Char_base64Char h.third
  obtain ⟨hd, hd'⟩ := decodeBase64Char_base64Char h.fourth
  rw [decodeWireGuardGroups]
  simp only [ha, hb, hc, hc', hd, hd', isEmpty_eq_false_iff.mpr hrest, if_false,
    Int.toNat_natCast, Int.natCast_nonneg, if_true, hx, hy, hz]
  rw [if_neg (by omega), if_neg (by simp), if_neg (by omega)]
  rfl

theorem encode (rest : List UInt8) : encodeWireGuardGroups (x :: y :: z :: rest) =
    base64Char a :: base64Char b :: base64Char c :: base64Char d :: encodeWireGuardGroups rest := by
  obtain ⟨ha, hb, hc, hd⟩ := h.split_values h.join_bytes
  rw [encodeWireGuardGroups]
  simp only [ha, hb, hc, hd]

end SameBits

/-- The last group is read as two bytes. -/
theorem SameBits.decode_last {n a b c : Nat} {x y z : UInt8} (h : SameBits a b c 0 x y z) :
    decodeWireGuardGroups n [base64Char a, base64Char b, base64Char c, '='] =
      if 32 < n + 2 then none else some [x, y] := by
  obtain ⟨hx, hy, -⟩ := split_bytes x y z h.join_values
  obtain ⟨ha, -⟩ := decodeBase64Char_base64Char h.first
  obtain ⟨hb, -⟩ := decodeBase64Char_base64Char h.second
  obtain ⟨hc, hc'⟩ := decodeBase64Char_base64Char h.third
  rw [decodeWireGuardGroups]
  simp only [ha, hb, hc, hc', isEmpty_nil, if_false, Int.toNat_natCast, Int.natCast_nonneg,
    if_true, show (-2 : Int).toNat = 0 from rfl, hx, hy]
  rw [if_neg (by omega), if_neg (by omega), if_neg (by simp)]
  rfl

theorem SameBits.encode_last {a b c : Nat} {x y : UInt8} (h : SameBits a b c 0 x y 0) :
    encodeWireGuardGroups [x, y] = [base64Char a, base64Char b, base64Char c, '='] := by
  obtain ⟨ha, hb, hc, -⟩ := h.split_values h.join_bytes
  rw [encodeWireGuardGroups]
  simp only [UInt8.toNat_zero, Nat.or_zero] at ha hb hc
  simp only [ha, hb, hc]

/-- What the characters of an accepted group are. -/
theorem decodeWireGuardGroups_chars {n : Nat} {ca cb cc cd : Char} {rest : List Char}
    {bytes : List UInt8} (h : decodeWireGuardGroups n (ca :: cb :: cc :: cd :: rest) = some bytes) :
    (∃ a < 64, ca = base64Char a) ∧ (∃ b < 64, cb = base64Char b) ∧ (∃ c < 64, cc = base64Char c) ∧
      if rest = [] then cd = '=' else ∃ d < 64, cd = base64Char d := by
  have hvalue {ch : Char} (hnonneg : 0 ≤ if ch = '=' then -2 else decodeBase64Char ch) :
      ∃ v < 64, ch = base64Char v := by
    split_ifs at hnonneg
    · cases hnonneg
    · exact exists_base64Char hnonneg
  rw [decodeWireGuardGroups] at h
  simp only [Option.ite_none_left_eq_some] at h
  obtain ⟨hvalid, hlast, hinner, -⟩ := h
  refine ⟨exists_base64Char (by omega), exists_base64Char (by omega), ?_⟩
  cases rest with
  | nil =>
    simp only [isEmpty_nil, true_and, not_or, not_lt, not_not] at hlast
    refine ⟨hvalue hlast.1, (if_pos rfl).mpr ?_⟩
    by_contra hcd
    rw [if_neg hcd] at hlast
    exact absurd (neg_one_le_decodeBase64Char cd) (by omega)
  | cons ch rest =>
    simp only [isEmpty_cons, true_and, not_or, not_lt] at hinner
    exact ⟨hvalue hinner.1, (if_neg (cons_ne_nil _ _)).mpr (hvalue hinner.2)⟩

/-! ## Texts -/

/-- The value of the last character before the padding. -/
def lastSextet : List Char → Int
  | [_, _, ch, _] => decodeBase64Char ch
  | _ :: _ :: _ :: _ :: rest => lastSextet rest
  | _ => 0

/-- A key's text has the length and the end the decoder asks for, and is read as the key. -/
theorem decode_encode (bytes : List UInt8) {n : Nat} (hlast : bytes.length % 3 = 2)
    (hn : n + bytes.length ≤ 32) :
    decodeWireGuardGroups n (encodeWireGuardGroups bytes) = some bytes ∧
      (encodeWireGuardGroups bytes).getLast? = some '=' ∧
      (encodeWireGuardGroups bytes).length = (bytes.length + 2) / 3 * 4 := by
  induction bytes using encodeWireGuardGroups.induct generalizing n with
  | case1 | case2 => cases hlast
  | case3 x y =>
    have hgroup := SameBits.of_bytes x y 0
    rw [hgroup.encode_last, hgroup.decode_last, if_neg (show ¬ 32 < n + 2 from Nat.not_lt.mpr hn)]
    exact ⟨rfl, rfl, by simp⟩
  | case4 x y z rest ih =>
    simp only [length_cons] at hlast hn
    obtain ⟨hdecode, hend, hlen⟩ := ih (n := n + 3) (by omega) (by omega)
    have hrest : encodeWireGuardGroups rest ≠ [] := by
      intro hnil
      rw [hnil] at hend
      cases hend
    have hgroup := SameBits.of_bytes x y z
    rw [hgroup.encode, hgroup.decode hrest, if_neg (by omega), hdecode]
    refine ⟨rfl, ?_, ?_⟩
    · simp [getLast?_cons, hend]
    · simp only [length_cons, hlen]
      omega

/-- A text that was read is the text of what was read when the bits that reading drops are zero. -/
theorem encode_decode {text : List Char} {bytes : List UInt8} {n : Nat}
    (h : decodeWireGuardGroups n text = some bytes) (hne : text ≠ []) :
    encodeWireGuardGroups bytes = text ↔ lastSextet text % 4 = 0 := by
  induction text using lastSextet.induct generalizing n bytes with
  | case1 ca cb cc cd =>
    obtain ⟨⟨a, ha, rfl⟩, ⟨b, hb, rfl⟩, ⟨c, hc, rfl⟩, hpad⟩ := decodeWireGuardGroups_chars h
    obtain rfl : cd = '=' := by simpa using hpad
    have hgroup := SameBits.of_values ha hb hc (Nat.zero_lt_succ 63)
    rw [hgroup.decode_last, Option.ite_none_left_eq_some] at h
    obtain ⟨-, rfl⟩ := h.imp_right Option.some.inj
    have hwritten := SameBits.of_values ha hb (show c / 4 * 4 < 64 by omega) (Nat.zero_lt_succ 63)
    rw [Nat.mul_div_cancel _ (Nat.zero_lt_succ 3), Nat.mul_mod_left] at hwritten
    rw [hwritten.encode_last, lastSextet, (decodeBase64Char_base64Char hc).1]
    simp only [cons.injEq, true_and, and_true]
    refine ⟨fun hsame => ?_, fun hzero => by rw [show c / 4 * 4 = c by omega]⟩
    have hvalue := congrArg decodeBase64Char hsame
    rw [(decodeBase64Char_base64Char hwritten.third).1,
      (decodeBase64Char_base64Char hc).1] at hvalue
    omega
  | case2 ca cb cc cd rest hrest ih =>
    obtain ⟨⟨a, ha, rfl⟩, ⟨b, hb, rfl⟩, ⟨c, hc, rfl⟩, hlast⟩ := decodeWireGuardGroups_chars h
    rw [if_neg hrest] at hlast
    obtain ⟨d, hd, rfl⟩ := hlast
    have hgroup := SameBits.of_values ha hb hc hd
    rw [hgroup.decode hrest, Option.ite_none_left_eq_some] at h
    obtain ⟨after, hafter, rfl⟩ := Option.map_eq_some_iff.mp h.2
    show encodeWireGuardGroups (_ :: _ :: _ :: after) = _ ↔ _
    rw [hgroup.encode]
    simp only [cons.injEq, true_and]
    refine (ih hafter hrest).trans ?_
    rw [lastSextet]
    exact hrest
  | case3 text _ hshort =>
    match text, hshort, h with
    | [], _, _ => exact (hne rfl).elim
    | [_], _, h | [_, _], _, h | [_, _, _], _, h => cases h
    | _ :: _ :: _ :: _ :: _, hshort, _ => exact (hshort _ _ _ _ _ rfl).elim

theorem encodeWireGuardKey_eq {outSize : Nat} (h : 44 < outSize) (key : Bytes 32) :
    encodeWireGuardKey outSize key = some (encodeWireGuardGroups key.toList) := by
  have hlen : key.toList.length = 32 := key.toList_length
  rw [encodeWireGuardKey, if_neg (Nat.not_lt.mpr h)]
  refine if_pos ?_
  rw [(decode_encode _ (n := 0) (by rw [hlen]) (by rw [hlen])).2.2, hlen]

/-- Every key is read back from its text.  A text that is accepted is the text of its key exactly
when the last character before the padding has no bit below the key's last byte. -/
theorem key_texts_canonical {outSize : Nat} (hsize : 44 < outSize) :
    (∀ key, ∃ text, encodeWireGuardKey outSize key = some text ∧
      decodeWireGuardKey text = some key) ∧
    ∀ text key, decodeWireGuardKey text = some key →
      (encodeWireGuardKey outSize key = some text ↔ lastSextet text % 4 = 0) := by
  refine ⟨fun key => ⟨_, encodeWireGuardKey_eq hsize key, ?_⟩, fun text key h => ?_⟩
  · have hlen : key.toList.length = 32 := key.toList_length
    obtain ⟨hdecode, hend, htext⟩ :=
      decode_encode key.toList (n := 0) (by rw [hlen]) (by rw [hlen])
    rw [decodeWireGuardKey, if_neg, hdecode]
    · exact dif_pos hlen
    · rw [htext, hend, hlen]
      simp
  · rw [decodeWireGuardKey, Option.ite_none_left_eq_some] at h
    obtain ⟨hshape, h⟩ := h
    split at h
    · cases h
    · rename_i out hout
      obtain ⟨_, hkey⟩ := Option.dite_none_right_eq_some.mp h
      have hbytes : key.toList = out := (congrArg Subtype.val (Option.some.inj hkey)).symm
      rw [encodeWireGuardKey_eq hsize, hbytes, Option.some.injEq]
      refine encode_decode hout ?_
      rintro rfl
      simp at hshape

theorem key_texts_canonical_zero : ∃ text, encodeWireGuardKey 45 (.zero 32) = some text ∧
      decodeWireGuardKey text = some (.zero 32) :=
  (key_texts_canonical (by decide)).1 (.zero 32)

/-- Two texts that the decoder takes for one key; the second is not the key's text. -/
theorem key_text_not_unique : ∃ text other : List Char, text ≠ other ∧
    decodeWireGuardKey text = some (.zero 32) ∧ decodeWireGuardKey other = some (.zero 32) ∧
    encodeWireGuardKey 45 (.zero 32) = some text := by
  refine ⟨List.replicate 43 'A' ++ ['='], List.replicate 42 'A' ++ ['B', '='], ?_⟩
  decide +kernel

end WireguardNx.Wireguard
