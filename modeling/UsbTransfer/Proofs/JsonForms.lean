import Mathlib.Data.List.Perm.Basic
import UsbTransfer.Json.Codec
import UsbTransfer.Proofs.JsonText

namespace UsbTransfer

namespace Json

open Text (isDigit)

structure Codec (α : Type) where
  encode : α → Json
  decode : Json → Option α

/-- Holds these fields in any order and others beside them, or their values alone in this order. -/
inductive Presents (own : List (String × Json)) : Json → Prop
  | fields {extra given : List (String × Json)} : given.Perm (own ++ extra) →
    (∀ f ∈ extra, f.1 ∉ own.map Prod.fst) → Presents own (obj given)
  | values : Presents own (arr (own.map Prod.snd))

namespace Codec

variable {α : Type} {c : Codec α} {a : α}

def write (c : Codec α) (a : α) : String := (c.encode a).compact

def read (c : Codec α) (text : String) : Option α := (parse? text).bind c.decode

def Lossless (c : Codec α) (a : α) : Prop := c.read (c.write a) = some a

/-- Every text whose value presents the fields of the record is read as the record, and every such
value that can be printed has a text. -/
def Lenient (c : Codec α) (a : α) : Prop :=
  ∃ own, c.encode a = obj own ∧ ∀ v, Presents own v →
    (∀ text, parse? text = some v → c.read text = some a) ∧ (v.Proper → c.read v.compact = some a)

def setup : Codec SetupPacket := ⟨ofSetup, setup?⟩

def packet : Codec IsoPacket := ⟨ofPacket, packet?⟩

def status : Codec TransferStatus := ⟨ofStatus, status?⟩

def kind : Codec TransferKind := ⟨fun k => kindName k, kind?⟩

def direction : Codec Direction := ⟨ofDirection, direction?⟩

def endpoint : Codec Endpoint := ⟨ofEndpoint, endpoint?⟩

def usbError : Codec UsbError := ⟨fun e => e.name, usbError?⟩

def token : Codec Token := ⟨ofToken, token?⟩

def transferId : Codec TransferId := ⟨nat, transferId?⟩

theorem read_of_parse? {text : String} {v : Json} (h : parse? text = some v) :
    c.read text = c.decode v := by
  rw [read, h, Option.bind_some]

theorem lossless_of_decode (hp : (c.encode a).Proper) (hd : c.decode (c.encode a) = some a) :
    c.Lossless a := by
  rw [Lossless, write, read_of_parse? (parse?_compact hp), hd]

end Codec

section Records

variable {own : List (String × Json)} {v : Json}

theorem mapM_fst_eq_some {g : String → Option Json} (h : ∀ f ∈ own, g f.1 = some f.2) :
    (own.map Prod.fst).mapM g = some (own.map Prod.snd) := by
  induction own with
  | nil => rfl
  | cons f own ih =>
    obtain ⟨hf, hown⟩ := List.forall_mem_cons.1 h
    simp [List.mapM_cons, hf, ih hown]

theorem filter_fst_eq {f : String × Json} (hnodup : (own.map Prod.fst).Nodup) (hf : f ∈ own) :
    own.filter (·.1 = f.1) = [f] := by
  induction own with
  | nil => cases hf
  | cons g own ih =>
    obtain ⟨hg, hown⟩ := List.nodup_cons.1 (List.map_cons ▸ hnodup)
    have hnone : ∀ h ∈ own, h.1 ≠ g.1 := fun h hm he => hg (he ▸ List.mem_map_of_mem hm)
    rcases List.mem_cons.1 hf with rfl | hf
    · rw [List.filter_cons_of_pos (by simp), List.filter_eq_nil_iff.2 (by simpa using hnone)]
    · rw [List.filter_cons_of_neg (by simpa using (hnone f hf).symm), ih hown hf]

theorem record?_of_presents (hnodup : (own.map Prod.fst).Nodup) (h : Presents own v) :
    v.record? (own.map Prod.fst) = some (own.map Prod.snd) := by
  cases h with
  | @fields extra given hperm hextra =>
    refine mapM_fst_eq_some fun f hf => ?_
    have hnone : extra.filter (·.1 = f.1) = [] := by
      refine List.filter_eq_nil_iff.2 fun g hg he => hextra g hg ?_
      rw [of_decide_eq_true he]
      exact List.mem_map_of_mem hf
    have hfilter : (given.filter (·.1 = f.1)).Perm [f] := by
      have hp := hperm.filter (·.1 = f.1)
      rwa [List.filter_append, filter_fst_eq hnodup hf, hnone, List.append_nil] at hp
    rw [List.perm_singleton.1 hfilter]
  | values => simp [record?]

theorem Codec.lenient_of_record? {α : Type} {c : Codec α} {a : α} (he : c.encode a = obj own)
    (hnodup : (own.map Prod.fst).Nodup)
    (hd : ∀ v : Json, v.record? (own.map Prod.fst) = some (own.map Prod.snd) →
      c.decode v = some a) :
    c.Lenient a := by
  refine ⟨own, he, fun v hv => ?_⟩
  have hdecode := hd v (record?_of_presents hnodup hv)
  exact ⟨fun text ht => (Codec.read_of_parse? ht).trans hdecode,
    fun hp => (Codec.read_of_parse? (parse?_compact hp)).trans hdecode⟩

theorem presents_self (own : List (String × Json)) : Presents own (obj own) :=
  .fields (.of_eq (List.append_nil own).symm) (List.forall_mem_nil _)

theorem Codec.Lenient.lossless {α : Type} {c : Codec α} {a : α} (h : c.Lenient a)
    (hp : (c.encode a).Proper) : c.Lossless a := by
  obtain ⟨own, he, hread⟩ := h
  rw [Codec.Lossless, Codec.write, he]
  exact (hread _ (presents_self own)).2 (he ▸ hp)

end Records

section Values

theorem below?_nat {n bound : Nat} (h : n < bound) : below? bound (nat n) = some n := if_pos h

theorem byte?_nat (x : UInt8) : below? UInt8.size (nat x.toNat) = some x.toNat :=
  below?_nat x.toNat_lt

theorem word?_nat (x : UInt16) : below? UInt16.size (nat x.toNat) = some x.toNat :=
  below?_nat x.toNat_lt

theorem long?_nat (x : UInt32) : below? UInt32.size (nat x.toNat) = some x.toNat :=
  below?_nat x.toNat_lt

theorem status?_ofStatus (s : TransferStatus) : status? (ofStatus s) = some s := by
  cases s with
  | unrecognized raw =>
    have hraw : Int32.ofInt raw.toInt = raw := Int32.ofInt_toInt raw
    simp [ofStatus, status?, signed?, hraw]
  | completed | error | timedOut | cancelled | stall | noDevice | overflow => decide

theorem proper_ofStatus (s : TransferStatus) : Proper (ofStatus s) := by
  cases s with
  | unrecognized raw => exact .obj (by simpa using Proper.int raw.toInt)
  | completed | error | timedOut | cancelled | stall | noDevice | overflow => exact .str _

theorem kind?_kindName (k : TransferKind) : kind? (kindName k) = some k := by
  cases k <;> decide

theorem direction?_ofDirection (d : Direction) : direction? (ofDirection d) = some d := by
  cases d <;> rfl

theorem proper_ofDirection (d : Direction) : Proper (ofDirection d) := by
  cases d <;> exact .str _

theorem usbError?_name (e : UsbError) : usbError? e.name = some e := by
  have hname := e.ofName?_name
  simpa [usbError?, oneOf?, name?, UsbError.ofName?, beq_eq_decide] using hname

theorem endpoint?_ofEndpoint (e : Endpoint) : endpoint? (ofEndpoint e) = some e := by
  rw [endpoint?, ofEndpoint, byte?_nat, Option.map_some, UInt8.ofNat_toNat]

theorem proper_nat (n : Nat) : Proper (nat n) := .int n

theorem lenient_setup (p : SetupPacket) : Codec.setup.Lenient p := by
  refine Codec.lenient_of_record? rfl (by simp) fun v hv => ?_
  simp only [List.map_cons, List.map_nil] at hv
  simp [Codec.setup, setup?, hv, byte?_nat, word?_nat]

theorem proper_ofSetup (p : SetupPacket) : Proper (ofSetup p) := by
  refine .obj ?_
  simp [proper_nat]

theorem lenient_packet (p : IsoPacket) : Codec.packet.Lenient p := by
  refine Codec.lenient_of_record? rfl (by simp) fun v hv => ?_
  simp only [List.map_cons, List.map_nil] at hv
  simp [Codec.packet, packet?, hv, long?_nat, status?_ofStatus]

theorem proper_ofPacket (p : IsoPacket) : Proper (ofPacket p) := by
  refine .obj ?_
  simp [proper_nat, proper_ofStatus]

theorem lenient_token (t : Token) : Codec.token.Lenient t := by
  refine Codec.lenient_of_record? rfl (by simp) fun v hv => ?_
  simp only [List.map_cons, List.map_nil] at hv
  simp [Codec.token, token?, hv, long?_nat]

theorem proper_ofToken (t : Token) : Proper (ofToken t) := by
  refine .obj ?_
  simp [proper_nat]

end Values

/-- Every value on the wire is read back from the text it is written as. A record is read from every
text of an object that has its fields in any order and others beside them, and from that of the
array of its values. -/
theorem wire_values_read_back :
    (∀ p : SetupPacket, Codec.setup.Lossless p ∧ Codec.setup.Lenient p) ∧
    (∀ p : IsoPacket, Codec.packet.Lossless p ∧ Codec.packet.Lenient p) ∧
    (∀ s : TransferStatus, Codec.status.Lossless s) ∧
    (∀ k : TransferKind, Codec.kind.Lossless k) ∧
    (∀ d : Direction, Codec.direction.Lossless d) ∧
    (∀ e : Endpoint, Codec.endpoint.Lossless e) ∧
    (∀ e : UsbError, Codec.usbError.Lossless e) ∧
    (∀ t : Token, Codec.token.Lossless t ∧ Codec.token.Lenient t) ∧
    ∀ i : TransferId, i < wordSize → Codec.transferId.Lossless i := by
  refine ⟨fun p => ?setup, fun p => ?packet, fun s => ?status, fun k => ?kind,
    fun d => ?direction, fun e => ?endpoint, fun e => ?usbError, fun t => ?token, fun i hi => ?id⟩
  case setup => exact ⟨(lenient_setup p).lossless (proper_ofSetup p), lenient_setup p⟩
  case packet => exact ⟨(lenient_packet p).lossless (proper_ofPacket p), lenient_packet p⟩
  case status => exact Codec.lossless_of_decode (proper_ofStatus s) (status?_ofStatus s)
  case kind => exact Codec.lossless_of_decode (.str _) (kind?_kindName k)
  case direction =>
    exact Codec.lossless_of_decode (proper_ofDirection d) (direction?_ofDirection d)
  case endpoint => exact Codec.lossless_of_decode (proper_nat _) (endpoint?_ofEndpoint e)
  case usbError => exact Codec.lossless_of_decode (.str _) (usbError?_name e)
  case token => exact ⟨(lenient_token t).lossless (proper_ofToken t), lenient_token t⟩
  case id => exact Codec.lossless_of_decode (proper_nat i) (below?_nat hi)

/-- The longest packet, with the highest number that no status has. -/
def widest : IsoPacket := ⟨0xffffffff, 0, .unrecognized 2147483647⟩

def widestFields : List (String × Json) :=
  [("length", int 4294967295), ("actual_length", int 0),
    ("status", obj [("Unrecognized", int 2147483647)])]

def foreignFields : List (String × Json) :=
  [("rate", real "1.5e3"), ("notes", arr [null, str "\"\n"])]

def extended : Json := obj (foreignFields ++ widestFields.reverse)

theorem presents_extended : Presents widestFields extended := by
  have hperm : (foreignFields ++ widestFields.reverse).Perm (widestFields ++ foreignFields) :=
    List.perm_append_comm.trans ((List.reverse_perm widestFields).append_right foreignFields)
  exact .fields hperm (by simp [foreignFields, widestFields])

theorem proper_extended : Proper extended := by
  have hwhole : Whole ['1'] := ⟨by decide, by simp [isDigit], by decide⟩
  have hfraction : Fraction ['.', '5'] := .point (by decide) (by simp [isDigit])
  have hexponent : Exponent ['e', '3'] :=
    .letter (.inl rfl) (.inl rfl) (List.cons_ne_nil _ _) (by simp [isDigit])
  have hrate : Real "1.5e3".toList := @Real.mk false _ _ _ hwhole hfraction hexponent (by decide)
  have hnotes : Proper (arr [null, str "\"\n"]) := .arr (by simp [Proper.null, Proper.str])
  have hstatus : Proper (obj [("Unrecognized", int 2147483647)]) := .obj (by simp [Proper.int])
  exact .obj (by simp [foreignFields, widestFields, Proper.real hrate, hnotes, hstatus, Proper.int])

theorem limits_read_back :
    Codec.status.Lossless (.unrecognized (-2147483648)) ∧
    wordSize - 1 < wordSize ∧ Codec.transferId.Lossless (wordSize - 1) ∧
    Codec.packet.Lossless widest ∧ Codec.packet.read extended.compact = some widest := by
  have hid : wordSize - 1 < wordSize := by decide
  obtain ⟨-, hpacket, hstatus, -, -, -, -, -, htransfer⟩ := wire_values_read_back
  obtain ⟨hlossless, own, he, hread⟩ := hpacket widest
  obtain rfl : widestFields = own := obj.inj he
  exact ⟨hstatus _, hid, htransfer _ hid, hlossless, (hread _ presents_extended).2 proper_extended⟩

end Json

end UsbTransfer
