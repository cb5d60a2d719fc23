import UsbTransfer.Cli.Argument
import UsbTransfer.Proofs.Numerals

namespace UsbTransfer.Cli

open Text (Numeral Marked hexMarks mem_hexMarks digitChars isBlank trimBlank readNatural
  readNatural_eq_ok_iff not_numeral_append exists_trimBlank trimBlank_append)

def Number (text : List Char) (n : Nat) : Prop :=
  Marked (Numeral 16) 1 text n ∨ Numeral 10 text n

def NumberText (s : String) (n : Nat) : Prop :=
  ∃ lead text trail, s.toList = lead ++ text ++ trail ∧ (∀ c ∈ lead ++ trail, isBlank c = true) ∧
    Number text n

variable {s : String} {text rest m : List Char} {n bits : Nat}

theorem mapError_eq_ok_iff {ε ε' α : Type} {f : ε → ε'} {x : Except ε α} {a : α} :
    x.mapError f = .ok a ↔ x = .ok a := by
  cases x <;> simp [Except.mapError]

theorem map_eq_ok_iff {ε α β : Type} {f : α → β} {x : Except ε α} {b : β} :
    x.map f = .ok b ↔ ∃ a, x = .ok a ∧ f a = b := by
  cases x <;> simp [Except.map]

theorem number_append_iff (hm : m ∈ hexMarks) : Number (m ++ rest) n ↔ Numeral 16 rest n := by
  have hlength : ∀ m ∈ hexMarks, m.length = 2 := by decide
  constructor
  · rintro (h | h)
    · generalize htext : m ++ rest = text at h
      cases h with
      | marked hm' h =>
        cases h with
        | bare h =>
          have heq := (List.append_inj htext ((hlength m hm).trans (hlength _ hm').symm)).2
          exact heq ▸ h
    · exact absurd h (not_numeral_append (by decide) hm)
  · exact fun h => .inl (.marked hm (.bare h))

theorem number_iff_of_unmarked (htext : ∀ m ∈ hexMarks, ∀ rest, text ≠ m ++ rest) :
    Number text n ↔ Numeral 10 text n := by
  constructor
  · rintro (h | h)
    · cases h with
      | marked hm h => exact absurd rfl (htext _ hm _)
    · exact h
  · exact .inr

theorem Number.mem_chars {c : Char} (h : Number text n) (hc : c ∈ text) :
    c ∈ 'x' :: 'X' :: '+' :: digitChars := by
  rcases h with h | h
  · exact h.mem_chars hc
  · exact List.mem_cons_of_mem _ (List.mem_cons_of_mem _ (h.mem_chars (by decide) hc))

theorem Number.not_blank (h : Number text n) : ∀ c ∈ text, isBlank c = false := by
  have hall : ('x' :: 'X' :: '+' :: digitChars).all (fun c => !isBlank c) = true := by decide
  intro c hc
  simpa using List.all_eq_true.1 hall c (h.mem_chars hc)

theorem numberText_iff : NumberText s n ↔ Number (trimBlank s.toList) n := by
  constructor
  · rintro ⟨lead, text, trail, hs, hblank, h⟩
    rwa [hs, trimBlank_append hblank h.not_blank]
  · intro h
    obtain ⟨lead, trail, hs, hblank⟩ := exists_trimBlank s.toList
    exact ⟨lead, trimBlank s.toList, trail, hs, hblank, h⟩

theorem parseNumber_eq_ok_iff : parseNumber s = .ok n ↔ NumberText s n ∧ n < 2 ^ 64 := by
  have hword : 0 < wordSize := by decide
  have hmarked : ∀ {m rest}, m ∈ hexMarks →
      (readNatural 16 wordSize rest = .ok n ↔ Number (m ++ rest) n ∧ n < 2 ^ 64) := fun hm => by
    rw [readNatural_eq_ok_iff (by decide) hword, number_append_iff hm]
    rfl
  rw [numberText_iff, parseNumber]
  generalize trimBlank s.toList = text
  simp only [mapError_eq_ok_iff]
  split
  · exact hmarked (m := ['0', 'x']) (by decide)
  · exact hmarked (m := ['0', 'X']) (by decide)
  · rename_i hlower hupper
    rw [readNatural_eq_ok_iff (by decide) hword, number_iff_of_unmarked]
    · rfl
    · intro m hm rest
      rcases mem_hexMarks.1 hm with rfl | rfl
      · exact hlower rest
      · exact hupper rest

theorem parseBits_eq_ok_iff_parseNumber :
    parseBits bits s = .ok n ↔ parseNumber s = .ok n ∧ n < 2 ^ bits := by
  unfold parseBits
  cases parseNumber s with
  | error e => simp
  | ok k =>
    have hpow : Nat.pow 2 bits = 2 ^ bits := rfl
    simp only [hpow, Except.ok.injEq]
    by_cases hk : k < 2 ^ bits
    · rw [if_pos hk, Except.ok.injEq]
      exact ⟨fun h => ⟨h, h ▸ hk⟩, And.left⟩
    · rw [if_neg hk]
      refine ⟨nofun, ?_⟩
      rintro ⟨rfl, hn⟩
      exact absurd hn hk

theorem parseBits_eq_ok_iff (hbits : bits ≤ 64) :
    parseBits bits s = .ok n ↔ NumberText s n ∧ n < 2 ^ bits := by
  have hpow : 2 ^ bits ≤ 2 ^ 64 := Nat.pow_le_pow_right (by decide) hbits
  rw [parseBits_eq_ok_iff_parseNumber, parseNumber_eq_ok_iff, and_assoc]
  exact and_congr_right fun _ => ⟨And.right, fun hn => ⟨by omega, hn⟩⟩

theorem toNat_parseBits_eq_ok_iff {α : Type} {ofNat : Nat → α} {toNat : α → Nat}
    (hbits : bits ≤ 64) (hround : ∀ k < 2 ^ bits, toNat (ofNat k) = k) :
    ((parseBits bits s).map ofNat).map toNat = .ok n ↔ NumberText s n ∧ n < 2 ^ bits := by
  simp only [map_eq_ok_iff]
  constructor
  · rintro ⟨b, ⟨k, hk, rfl⟩, rfl⟩
    have hread := (parseBits_eq_ok_iff hbits).1 hk
    rwa [hround k hread.2]
  · intro hn
    exact ⟨ofNat n, ⟨n, (parseBits_eq_ok_iff hbits).2 hn, rfl⟩, hround n hn.2⟩

theorem toNat_parseByte_eq_ok_iff :
    (parseByte s).map UInt8.toNat = .ok n ↔ NumberText s n ∧ n < 2 ^ 8 :=
  toNat_parseBits_eq_ok_iff (by decide) fun _ => UInt8.toNat_ofNat_of_lt'

theorem toNat_parseWord_eq_ok_iff :
    (parseWord s).map UInt16.toNat = .ok n ↔ NumberText s n ∧ n < 2 ^ 16 :=
  toNat_parseBits_eq_ok_iff (by decide) fun _ => UInt16.toNat_ofNat_of_lt'

theorem toNat_parseEndpoint_eq :
    (parseEndpoint s).map (·.address.toNat) = (parseByte s).map UInt8.toNat := by
  rw [parseEndpoint]
  cases parseByte s <;> rfl

/-- A number is read from every text of one below the bound, and from nothing else; no digit of it
is lost in a byte, a word or an endpoint. -/
theorem numbers_accepted (s : String) (n : Nat) :
    (parseNumber s = .ok n ↔ NumberText s n ∧ n < 2 ^ 64) ∧
    ((parseByte s).map UInt8.toNat = .ok n ↔ NumberText s n ∧ n < 2 ^ 8) ∧
    ((parseEndpoint s).map (·.address.toNat) = .ok n ↔ NumberText s n ∧ n < 2 ^ 8) ∧
    ((parseWord s).map UInt16.toNat = .ok n ↔ NumberText s n ∧ n < 2 ^ 16) := by
  refine ⟨parseNumber_eq_ok_iff, toNat_parseByte_eq_ok_iff, ?endpoint, toNat_parseWord_eq_ok_iff⟩
  case endpoint => rw [toNat_parseEndpoint_eq, toNat_parseByte_eq_ok_iff]

end UsbTransfer.Cli
