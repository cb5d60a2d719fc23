import UsbTransfer.Cli.Argument
import UsbTransfer.Proofs.Numerals

namespace UsbTransfer

namespace Text

variable {a b c : Char} {d : Nat} {s : List Char} {bytes : Bytes}

inductive Pairs : List Char → Bytes → Prop
  | nil : Pairs [] []
  | cons {a b : Char} {hi lo : Nat} {s : List Char} {bytes : Bytes} :
    IsDigit 16 a hi → IsDigit 16 b lo → Pairs s bytes →
      Pairs (a :: b :: s) (UInt8.ofNat (16 * hi + lo) :: bytes)

/-- What stands between two byte positions of a text. Both are at a character or at the end. -/
def Slice (text part : String) (start stop : Nat) : Prop :=
  ∃ before after, text = before ++ part ++ after ∧ before.utf8ByteSize = start ∧
    (before ++ part).utf8ByteSize = stop

/-- Cut by bytes, two at a time, the text falls into pairs that read as the bytes. -/
def FallsInto (text : String) (bytes : Bytes) : Prop :=
  text.utf8ByteSize = 2 * bytes.length ∧
    ∀ i (hi : i < bytes.length), ∃ pair, Slice text pair (2 * i) (2 * i + 2) ∧
      readNatural 16 UInt8.size pair.toList = .ok bytes[i].toNat

theorem toLower_of_isDigit (hc : IsDigit 16 c d) : c.toLower = Nat.digitChar d := by
  have hall : ∀ d : Fin 16, (Nat.digitChar d).toLower = Nat.digitChar d ∧
      (Nat.digitChar d).toUpper.toLower = Nat.digitChar d := by decide
  obtain ⟨hd, rfl | rfl⟩ := hc
  · exact (hall ⟨d, hd⟩).1
  · exact (hall ⟨d, hd⟩).2

theorem utf8Size_of_isDigit (hc : IsDigit 16 c d) : c.utf8Size = 1 := by
  have hall : digitChars.all (fun c => c.utf8Size = 1) = true := by decide
  simpa using List.all_eq_true.1 hall c (hc.mem_digitChars (by decide))

section Pairs

theorem ofHexPairs_eq_some_iff : ofHexPairs s = some bytes ↔ Pairs s bytes := by
  constructor
  · intro h
    fun_induction ofHexPairs s generalizing bytes with
    | case1 =>
      obtain rfl := Option.some.inj h
      exact .nil
    | case2 => cases h
    | case3 a b rest ih =>
      obtain ⟨hi, hhi, h⟩ := Option.bind_eq_some_iff.1 h
      obtain ⟨lo, hlo, h⟩ := Option.bind_eq_some_iff.1 h
      obtain ⟨tail, htail, h⟩ := Option.bind_eq_some_iff.1 h
      obtain rfl := Option.some.inj h
      exact .cons (isDigit_of_hexValue? hhi) (isDigit_of_hexValue? hlo) (ih htail)
  · intro h
    induction h with
    | nil => rfl
    | cons hhi hlo _ ih =>
      rw [ofHexPairs, hexValue?_of_isDigit hhi, hexValue?_of_isDigit hlo, ih]
      rfl

theorem Pairs.isDigit (h : Pairs s bytes) : ∀ c ∈ s, ∃ d, IsDigit 16 c d := by
  induction h with
  | nil => simp
  | cons hhi hlo _ ih =>
    exact List.forall_mem_cons.2 ⟨⟨_, hhi⟩, List.forall_mem_cons.2 ⟨⟨_, hlo⟩, ih⟩⟩

theorem Pairs.length (h : Pairs s bytes) : s.length = 2 * bytes.length := by
  induction h with
  | nil => rfl
  | cons _ _ _ ih =>
    simp only [List.length_cons, ih]
    omega

theorem exists_pairs (hs : ∀ c ∈ s, ∃ d, IsDigit 16 c d) (heven : Even s.length) :
    ∃ bytes, Pairs s bytes := by
  fun_induction ofHexPairs s with
  | case1 => exact ⟨[], .nil⟩
  | case2 => exact absurd heven (by simp)
  | case3 a b rest ih =>
    obtain ⟨⟨hi, hhi⟩, hs⟩ := List.forall_mem_cons.1 hs
    obtain ⟨⟨lo, hlo⟩, hs⟩ := List.forall_mem_cons.1 hs
    obtain ⟨bytes, hbytes⟩ := ih hs (by simpa [Nat.even_add_one] using heven)
    exact ⟨_, .cons hhi hlo hbytes⟩

theorem toNat_ofNat_pair {hi lo : Nat} (hhi : hi < 16) (hlo : lo < 16) :
    (UInt8.ofNat (16 * hi + lo)).toNat = 16 * hi + lo :=
  UInt8.toNat_ofNat_of_lt' (show 16 * hi + lo < 256 by omega)

theorem hexBytes_cons (x : UInt8) (bytes : Bytes) :
    hexBytes (x :: bytes) = hexPadded 2 x.toNat ++ hexBytes bytes := rfl

theorem Pairs.hexBytes (h : Pairs s bytes) : hexBytes bytes = s.map Char.toLower := by
  induction h with
  | nil => rfl
  | @cons a b hi lo s bytes hhi hlo _ ih =>
    have hbyte := toNat_ofNat_pair hhi.1 hlo.1
    have hhigh : (16 * hi + lo) / 16 % 16 = hi := by have := hhi.1; have := hlo.1; omega
    have hlow : (16 * hi + lo) % 16 = lo := by have := hlo.1; omega
    calc Text.hexBytes (UInt8.ofNat (16 * hi + lo) :: bytes)
        = hexPadded 2 (16 * hi + lo) ++ Text.hexBytes bytes := by
          rw [hexBytes_cons, hbyte]
      _ = [Nat.digitChar hi, Nat.digitChar lo] ++ s.map Char.toLower := by
          simp only [hexPadded, hexDigit, hhigh, hlow, ih, List.nil_append, List.singleton_append]
      _ = (a :: b :: s).map Char.toLower := by
          rw [List.map_cons, List.map_cons, toLower_of_isDigit hhi, toLower_of_isDigit hlo]
          rfl

end Pairs

section Slices

variable {hi lo : Nat}

theorem utf8ByteSize_pair (hhi : IsDigit 16 a hi) (hlo : IsDigit 16 b lo) :
    (String.ofList [a, b]).utf8ByteSize = 2 := by
  simp [utf8Size_of_isDigit hhi, utf8Size_of_isDigit hlo]

theorem readNatural_pair (hhi : IsDigit 16 a hi) (hlo : IsDigit 16 b lo) :
    readNatural 16 UInt8.size [a, b] = .ok (UInt8.ofNat (16 * hi + lo)).toNat := by
  have hdenotes : Denotes 16 [a, b] (16 * hi + lo) := by
    refine ⟨by simp, [hi, lo], .cons hhi (.cons hlo .nil), ?_⟩
    rw [List.reverse_cons, List.reverse_singleton, List.singleton_append, Nat.ofDigits_cons,
      Nat.ofDigits_singleton, Nat.add_comm]
  rw [toNat_ofNat_pair hhi.1 hlo.1, readNatural_eq_ok_iff (by decide) (by decide)]
  exact ⟨.bare hdenotes, show 16 * hi + lo < 256 by have := hhi.1; have := hlo.1; omega⟩

theorem Slice.append_left {text part : String} {start stop : Nat} (h : Slice text part start stop)
    (front : String) :
    Slice (front ++ text) part (front.utf8ByteSize + start) (front.utf8ByteSize + stop) := by
  obtain ⟨before, after, rfl, rfl, rfl⟩ := h
  refine ⟨front ++ before, after, ?_, String.utf8ByteSize_append, ?_⟩
  · rw [String.append_assoc, String.append_assoc, String.append_assoc]
  · rw [String.append_assoc, String.utf8ByteSize_append]

theorem Pairs.fallsInto (h : Pairs s bytes) : FallsInto (String.ofList s) bytes := by
  induction h with
  | nil => exact ⟨rfl, by simp⟩
  | @cons a b hi lo s bytes hhi hlo _ ih =>
    obtain ⟨hsize, hslices⟩ := ih
    have hpair := utf8ByteSize_pair hhi hlo
    have hcut : String.ofList (a :: b :: s) = String.ofList [a, b] ++ String.ofList s := by
      rw [← String.ofList_append]
      rfl
    constructor
    · rw [hcut, String.utf8ByteSize_append, hpair, hsize, List.length_cons]
      omega
    · rintro (_ | i) hi
      · refine ⟨String.ofList [a, b], ⟨"", String.ofList s, ?_, rfl, ?_⟩, ?_⟩
        · rw [hcut, String.empty_append]
        · rw [String.empty_append, hpair]
        · rw [String.toList_ofList]
          exact readNatural_pair hhi hlo
      · obtain ⟨pair, hslice, hread⟩ := hslices i (by simpa using hi)
        refine ⟨pair, ?_, hread⟩
        have hmoved := hslice.append_left (String.ofList [a, b])
        rw [hpair] at hmoved
        rw [hcut, show 2 * (i + 1) = 2 + 2 * i by omega, Nat.add_assoc]
        exact hmoved

end Slices

end Text

namespace Cli

open Text (IsDigit Pairs FallsInto isBlank hexBytes hexValue? ofHexPairs digitChars
  hexValue?_of_isDigit denotes_hexPadded ofHexPairs_hexBytes ofHexPairs_eq_some_iff exists_pairs)

variable {s : String} {w t : List Char} {bytes : Bytes}

def withoutSeparators (t : List Char) : List Char := t.filter fun c => !isBlank c && c ≠ ':'

/-- The second text is the first one with blanks and colons anywhere between its characters. -/
inductive Interspersed : List Char → List Char → Prop
  | nil : Interspersed [] []
  | keep {c : Char} {w t : List Char} : Interspersed w t → Interspersed (c :: w) (c :: t)
  | insert {c : Char} {w t : List Char} :
    isBlank c = true ∨ c = ':' → Interspersed w t → Interspersed w (c :: t)

theorem Interspersed.refl (w : List Char) : Interspersed w w := by
  induction w with
  | nil => exact .nil
  | cons c w ih => exact .keep ih

theorem withoutSeparators_of_interspersed (h : Interspersed w t)
    (hw : ∀ c ∈ w, isBlank c = false ∧ c ≠ ':') : withoutSeparators t = w := by
  induction h with
  | nil => rfl
  | keep _ ih =>
    obtain ⟨⟨hblank, hcolon⟩, hw⟩ := List.forall_mem_cons.1 hw
    rw [withoutSeparators, List.filter_cons_of_pos (by simp [hblank, hcolon])]
    exact congrArg _ (ih hw)
  | insert hc _ ih =>
    rw [withoutSeparators, List.filter_cons_of_neg]
    · exact ih hw
    · rcases hc with hc | hc <;> simp [hc]

theorem parseHex_eq_ok_iff : parseHex s = .ok bytes ↔ Pairs (withoutSeparators s.toList) bytes := by
  rw [← ofHexPairs_eq_some_iff, withoutSeparators]
  simp only [parseHex]
  constructor
  · intro h
    split at h
    · cases h
    · split at h
      · rename_i hpairs
        exact hpairs.trans (congrArg some (Except.ok.inj h))
      · cases h
  · intro h
    have hfind : (s.toList.filter fun c => !isBlank c && c ≠ ':').find?
        (fun c => (hexValue? c).isNone) = none := by
      refine List.find?_eq_none.2 fun c hc => ?_
      obtain ⟨d, hd⟩ := (ofHexPairs_eq_some_iff.1 h).isDigit c hc
      simp [hexValue?_of_isDigit hd]
    rw [hfind, h]

theorem mem_hexBytes {c : Char} (hc : c ∈ hexBytes bytes) : c ∈ digitChars := by
  obtain ⟨x, -, hx⟩ := List.mem_flatMap.1 hc
  obtain ⟨d, hd⟩ := (denotes_hexPadded 1 x.toNat).isDigit hx
  exact hd.mem_digitChars (by decide)

theorem parseHex_of_interspersed (h : Interspersed bytes.toHex.toList s.toList) :
    parseHex s = .ok bytes := by
  have hall : digitChars.all (fun c => !isBlank c && c ≠ ':') = true := by decide
  have hchars : bytes.toHex.toList = hexBytes bytes := String.toList_ofList
  rw [hchars] at h
  have hdigits : withoutSeparators s.toList = hexBytes bytes :=
    withoutSeparators_of_interspersed h fun c hc => by
      simpa using List.all_eq_true.1 hall c (mem_hexBytes hc)
  rw [parseHex_eq_ok_iff, hdigits, ← ofHexPairs_eq_some_iff, ofHexPairs_hexBytes]

/-- Without blanks and colons, the text of some bytes is their digits in either case, two a byte.
Every text of this kind is read, by slices that begin and end at its characters. -/
theorem hex_payloads_accepted (s : String) :
    ((∃ bytes, parseHex s = .ok bytes) ↔
      (∀ c ∈ withoutSeparators s.toList, ∃ d, IsDigit 16 c d) ∧
        Even (withoutSeparators s.toList).length) ∧
    (∀ bytes, parseHex s = .ok bytes →
      bytes.toHex.toList = (withoutSeparators s.toList).map Char.toLower ∧
        FallsInto (String.ofList (withoutSeparators s.toList)) bytes) ∧
    (∀ bytes, Interspersed bytes.toHex.toList s.toList → parseHex s = .ok bytes) ∧
    ∀ bytes, parseHex bytes.toHex = .ok bytes := by
  simp only [parseHex_eq_ok_iff]
  refine ⟨⟨?pairs, ?read⟩, ?returned, ?spaced, ?printed⟩
  case pairs =>
    rintro ⟨bytes, h⟩
    exact ⟨h.isDigit, by simp [h.length]⟩
  case read => exact fun ⟨hdigits, heven⟩ => exists_pairs hdigits heven
  case returned =>
    intro bytes h
    exact ⟨String.toList_ofList.trans h.hexBytes, h.fallsInto⟩
  case spaced => exact fun bytes h => parseHex_eq_ok_iff.1 (parseHex_of_interspersed h)
  case printed => exact fun bytes => parseHex_eq_ok_iff.1 (parseHex_of_interspersed (.refl _))

theorem spaced_payload_accepted : Interspersed (Bytes.toHex [0xde, 0xad]).toList " de:ad".toList ∧
    parseHex " de:ad" = .ok [0xde, 0xad] ∧ FallsInto "dead" [0xde, 0xad] := by
  have htext : " de:ad".toList = [' ', 'd', 'e', ':', 'a', 'd'] := by decide +kernel
  have hhex : (Bytes.toHex [0xde, 0xad]).toList = ['d', 'e', 'a', 'd'] := by decide +kernel
  have hspaced : Interspersed (Bytes.toHex [0xde, 0xad]).toList " de:ad".toList := by
    rw [htext, hhex]
    exact .insert (.inl (by decide)) (.keep (.keep (.insert (.inr rfl) (.keep (.keep .nil)))))
  obtain ⟨-, hreturned, haccepted, -⟩ := hex_payloads_accepted " de:ad"
  have hread := haccepted _ hspaced
  have hdigits : String.ofList (withoutSeparators " de:ad".toList) = "dead" := by decide +kernel
  exact ⟨hspaced, hread, hdigits ▸ (hreturned _ hread).2⟩

end Cli

end UsbTransfer
