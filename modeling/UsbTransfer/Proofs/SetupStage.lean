import Mathlib.Algebra.Ring.Int.Defs
import Mathlib.Algebra.Ring.Nat
import UsbTransfer.Wire.Setup

namespace UsbTransfer.SetupPacket

structure Wide where
  requestType : Int32
  request : Int32
  value : Int32
  index : Int32
  length : Int32

namespace Wide

def packet (w : Wide) : SetupPacket :=
  .ofInts w.requestType.toInt w.request.toInt w.value.toInt w.index.toInt w.length.toInt

def residues (w : Wide) : List Int :=
  [w.requestType.toInt % 2 ^ 8, w.request.toInt % 2 ^ 8, w.value.toInt % 2 ^ 16,
    w.index.toInt % 2 ^ 16, w.length.toInt % 2 ^ 16]

/-- The words without the bits that their fields have no room for. -/
def masked (w : Wide) : List Int32 :=
  [w.requestType &&& 0xff, w.request &&& 0xff, w.value &&& 0xffff, w.index &&& 0xffff,
    w.length &&& 0xffff]

end Wide

def numbers (p : SetupPacket) : List Int :=
  [p.requestType.toNat, p.request.toNat, p.value.toNat, p.index.toNat, p.length.toNat]

variable {p q : SetupPacket} {b : Bytes} {w v : Wide}

theorem toBytes_of_ofBytes? (h : ofBytes? b = some p) : p.toBytes = b := by
  unfold ofBytes? at h
  split at h
  · cases h
    simp only [toBytes, wordBytes_ofWordBytes]
    rfl
  · cases h

theorem exists_ofBytes?_iff : (∃ p, ofBytes? b = some p) ↔ b.length = size := by
  constructor
  · rintro ⟨p, h⟩
    rw [← toBytes_of_ofBytes? h, length_toBytes]
  · intro h
    match b, h with
    | [_, _, _, _, _, _, _, _], _ => exact ⟨_, rfl⟩

theorem eq_of_numbers (h : p.numbers = q.numbers) : p = q := by
  obtain ⟨t, r, x, i, l⟩ := p
  obtain ⟨t', r', x', i', l'⟩ := q
  simp only [numbers, List.cons.injEq, Int.natCast_inj, and_true] at h
  obtain ⟨ht, hr, hx, hi, hl⟩ := h
  rw [UInt8.toNat.inj ht, UInt8.toNat.inj hr, UInt16.toNat.inj hx, UInt16.toNat.inj hi,
    UInt16.toNat.inj hl]

theorem numbers_packet (w : Wide) : w.packet.numbers = w.residues := by
  have hbyte (n : Int) : ((UInt8.ofNat (n % 256).toNat).toNat : Int) = n % 2 ^ 8 := by
    rw [UInt8.toNat_ofNat']
    omega
  have hword (n : Int) : ((UInt16.ofNat (n % 65536).toNat).toNat : Int) = n % 2 ^ 16 := by
    rw [UInt16.toNat_ofNat']
    omega
  simp only [numbers, Wide.packet, ofInts, hbyte, hword, Wide.residues]

/-- A mask of `k` ones keeps the residue modulo `2 ^ k`, that of a negative word too. -/
theorem toInt_and_mask (n : Int32) {k : Nat} (hk : k < 32) :
    (n &&& Int32.ofNat (2 ^ k - 1)).toInt = n.toInt % 2 ^ k := by
  have hpow : 2 ^ k ≤ 2 ^ 31 := Nat.pow_le_pow_right (by decide) (by omega)
  have hmod : n.toBitVec.toNat % 2 ^ k < 2 ^ k := Nat.mod_lt _ (Nat.two_pow_pos k)
  have hlow : (n &&& Int32.ofNat (2 ^ k - 1)).toBitVec.toNat = n.toBitVec.toNat % 2 ^ k := by
    rw [Int32.toBitVec_and, Int32.toBitVec_ofNat', BitVec.toNat_and, BitVec.toNat_ofNat,
      Nat.mod_eq_of_lt (by omega), Nat.and_two_pow_sub_one_eq_mod]
  have hdvd : (2 ^ k : Int) ∣ (2 ^ 32 : Nat) := by
    exact_mod_cast Nat.pow_dvd_pow 2 (by omega)
  calc (n &&& Int32.ofNat (2 ^ k - 1)).toInt
      = (n.toBitVec.toNat % 2 ^ k : Nat) := by
        rw [← Int32.toInt_toBitVec, BitVec.toInt_eq_toNat_of_lt (by omega), hlow]
    _ = (n.toBitVec.toNat : Int) % (2 ^ 32 : Nat) % 2 ^ k := by
        rw [Int.emod_emod_of_dvd _ hdvd]
        push_cast
        rfl
    _ = n.toInt % (2 ^ 32 : Nat) % 2 ^ k := by
        rw [← Int32.toInt_toBitVec, BitVec.toInt_eq_toNat_bmod, Int.bmod_emod]
    _ = n.toInt % 2 ^ k := Int.emod_emod_of_dvd _ hdvd

theorem toInt_masked (w : Wide) : w.masked.map Int32.toInt = w.residues := by
  have hbyte (n : Int32) : (n &&& 0xff).toInt = n.toInt % 2 ^ 8 :=
    toInt_and_mask n (k := 8) (by decide)
  have hword (n : Int32) : (n &&& 0xffff).toInt = n.toInt % 2 ^ 16 :=
    toInt_and_mask n (k := 16) (by decide)
  simp only [Wide.masked, List.map_cons, List.map_nil, hbyte, hword, Wide.residues]

theorem packet_eq_iff : w.packet = v.packet ↔ w.residues = v.residues := by
  rw [← numbers_packet, ← numbers_packet]
  exact ⟨congrArg numbers, eq_of_numbers⟩

theorem direction_packet (w : Wide) :
    w.packet.direction = .deviceToHost ↔ 0x80 ≤ w.requestType.toInt % 2 ^ 8 := by
  have hfirst : (w.packet.requestType.toNat : Int) = w.requestType.toInt % 2 ^ 8 :=
    (List.cons.inj (numbers_packet w)).1
  rw [direction, Direction.ofByte_eq_deviceToHost_iff, ← hfirst]
  omega

/-- Packets and their eight bytes are one for one. Of five wide words a packet keeps the residues,
and nothing else, through its bytes and back; the residue of the first one decides the direction. -/
theorem setup_stage_lossless :
    (∀ p : SetupPacket, ofBytes? p.toBytes = some p) ∧
    (∀ b : Bytes, b.length = size ↔ ∃ p, ofBytes? b = some p ∧ p.toBytes = b) ∧
    ∀ w : Wide, w.packet.numbers = w.residues ∧ w.masked.map Int32.toInt = w.residues ∧
      (∀ v : Wide, ofBytes? w.packet.toBytes = ofBytes? v.packet.toBytes ↔
        w.residues = v.residues) ∧
      ∃ p, ofBytes? w.packet.toBytes = some p ∧
        (p.direction = .deviceToHost ↔ 0x80 ≤ w.requestType.toInt % 2 ^ 8) := by
  refine ⟨ofBytes?_toBytes, fun b => ?bytes, fun w => ⟨numbers_packet w, toInt_masked w, ?kept,
    w.packet, ofBytes?_toBytes _, direction_packet w⟩⟩
  case bytes =>
    rw [← exists_ofBytes?_iff]
    exact exists_congr fun p => ⟨fun h => ⟨h, toBytes_of_ofBytes? h⟩, And.left⟩
  case kept =>
    intro v
    rw [ofBytes?_toBytes, ofBytes?_toBytes, Option.some.injEq, packet_eq_iff]

end UsbTransfer.SetupPacket
