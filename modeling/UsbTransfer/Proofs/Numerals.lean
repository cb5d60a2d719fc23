import UsbTransfer.Text.Numeral
import Mathlib.Data.List.Forall2
import Mathlib.Data.List.TakeDrop
import Mathlib.Data.Nat.Digits.Defs

/-! Which texts the readers of natural numbers accept, and what number they read. -/

namespace UsbTransfer.Text

section Words

variable {p : Char → Bool} {w rest : List Char} {c d : Char}

theorem span_append (hw : ∀ c ∈ w, p c = true) (hr : ∀ c ∈ rest.head?, p c = false) :
    (w ++ rest).span p = (w, rest) := by
  have htake : rest.takeWhile p = [] := by
    cases rest with
    | nil => rfl
    | cons c rest => simp [hr c rfl]
  have hdrop : rest.dropWhile p = rest := by
    cases rest with
    | nil => rfl
    | cons c rest => simp [hr c rfl]
  rw [List.span_eq_takeWhile_dropWhile, List.takeWhile_append_of_pos hw,
    List.dropWhile_append_of_pos hw, htake, hdrop, List.append_nil]

theorem span_self (hw : ∀ c ∈ w, p c = true) : w.span p = (w, []) := by
  have h : (w ++ []).span p = (w, []) := span_append hw (by simp)
  rwa [List.append_nil] at h

theorem ne_of_class (hc : p c = true) (hd : p d = false) : c ≠ d := by
  rintro rfl
  rw [hc] at hd
  cases hd

end Words

/-- A digit below the base is written as its value is, a letter in either case. -/
def IsDigit (base : Nat) (c : Char) (d : Nat) : Prop :=
  d < base ∧ (c = Nat.digitChar d ∨ c = (Nat.digitChar d).toUpper)

def Denotes (base : Nat) (s : List Char) (n : Nat) : Prop :=
  s ≠ [] ∧ ∃ ds, List.Forall₂ (IsDigit base) s ds ∧ Nat.ofDigits base ds.reverse = n

inductive Numeral (base : Nat) : List Char → Nat → Prop
  | bare {s : List Char} {n : Nat} : Denotes base s n → Numeral base s n
  | signed {s : List Char} {n : Nat} : Denotes base s n → Numeral base ('+' :: s) n

def digitChars : List Char :=
  ['0', '1', '2', '3', '4', '5', '6', '7', '8', '9',
    'a', 'b', 'c', 'd', 'e', 'f', 'A', 'B', 'C', 'D', 'E', 'F']

def hexMarks : List (List Char) := [['0', 'x'], ['0', 'X']]

inductive Marked (q : List Char → Nat → Prop) : Nat → List Char → Nat → Prop
  | bare {s : List Char} {n : Nat} : q s n → Marked q 0 s n
  | marked {k : Nat} {m s : List Char} {n : Nat} :
    m ∈ hexMarks → Marked q k s n → Marked q (k + 1) (m ++ s) n

variable {base bound value n d k : Nat} {c : Char} {s m : List Char}

section Digits

theorem IsDigit.mem_digitChars (hb : base ≤ 16) (hc : IsDigit base c d) : c ∈ digitChars := by
  have hall : ∀ d : Fin 16, Nat.digitChar d ∈ digitChars ∧
    (Nat.digitChar d).toUpper ∈ digitChars := by
    decide
  obtain ⟨hd, rfl | rfl⟩ := hc
  · exact (hall ⟨d, by omega⟩).1
  · exact (hall ⟨d, by omega⟩).2

theorem IsDigit.mono (hb : base ≤ bound) (hc : IsDigit base c d) : IsDigit bound c d :=
  ⟨by have := hc.1; omega, hc.2⟩

theorem hexValue?_of_isDigit (hc : IsDigit 16 c d) : hexValue? c = some d := by
  have hall : ∀ d < 16, hexValue? (Nat.digitChar d) = some d ∧
      hexValue? (Nat.digitChar d).toUpper = some d := by decide
  obtain ⟨hd, rfl | rfl⟩ := hc
  · exact (hall d hd).1
  · exact (hall d hd).2

theorem exists_of_le_of_le {lo hi : Char} (hlo : lo ≤ c) (hhi : c ≤ hi) :
    ∃ k ≤ hi.toNat - lo.toNat, c = Char.ofNat (lo.toNat + k) := by
  have hlow : lo.toNat ≤ c.toNat := UInt32.le_iff_toNat_le.1 hlo
  have hhigh : c.toNat ≤ hi.toNat := UInt32.le_iff_toNat_le.1 hhi
  refine ⟨c.toNat - lo.toNat, by omega, ?_⟩
  rw [Nat.add_sub_cancel' hlow, Char.ofNat_toNat]

theorem isDigit_of_hexValue? (hc : hexValue? c = some d) : IsDigit 16 c d := by
  have hall : ∀ {lo hi : Char}, lo ≤ c ∧ c ≤ hi →
      (∀ k ≤ hi.toNat - lo.toNat, ∃ e < 16, hexValue? (Char.ofNat (lo.toNat + k)) = some e ∧
        (Char.ofNat (lo.toNat + k) = Nat.digitChar e ∨
          Char.ofNat (lo.toNat + k) = (Nat.digitChar e).toUpper)) → IsDigit 16 c d := by
    rintro lo hi ⟨hlo, hhi⟩ h
    obtain ⟨k, hk, rfl⟩ := exists_of_le_of_le hlo hhi
    obtain ⟨e, he, hvalue, hchar⟩ := h k hk
    obtain rfl : e = d := Option.some.inj (hvalue.symm.trans hc)
    exact ⟨he, hchar⟩
  by_cases hdecimal : '0' ≤ c ∧ c ≤ '9'
  · exact hall hdecimal (by decide)
  by_cases hlower : 'a' ≤ c ∧ c ≤ 'f'
  · exact hall hlower (by decide)
  by_cases hupper : 'A' ≤ c ∧ c ≤ 'F'
  · exact hall hupper (by decide)
  rw [hexValue?, if_neg hdecimal, if_neg hlower, if_neg hupper] at hc
  cases hc

theorem digitValue?_eq_some_iff (hb : base ≤ 16) :
    digitValue? base c = some d ↔ IsDigit base c d := by
  rw [digitValue?, Option.filter_eq_some_iff, decide_eq_true_eq]
  constructor
  · rintro ⟨hc, hd⟩
    exact ⟨hd, (isDigit_of_hexValue? hc).2⟩
  · intro hc
    exact ⟨hexValue?_of_isDigit (hc.mono hb), hc.1⟩

end Digits

section Numbers

theorem ofDigits_reverse_cons {ds : List Nat} (hlength : ds.length = k) :
    base ^ (k + 1) * value + Nat.ofDigits base (d :: ds).reverse =
      base ^ k * (base * value + d) + Nat.ofDigits base ds.reverse := by
  rw [List.reverse_cons, Nat.ofDigits_append, Nat.ofDigits_singleton, List.length_reverse, hlength]
  ring

/-- A number that ends below the bound has been below it at every digit. -/
theorem readDigits_eq_ok_iff (hb : base ≤ 16) (hvalue : value < bound) :
    readDigits base bound value s = .ok n ↔
      n < bound ∧ ∃ ds, List.Forall₂ (IsDigit base) s ds ∧
        base ^ s.length * value + Nat.ofDigits base ds.reverse = n := by
  induction s generalizing value with
  | nil =>
    simp only [readDigits, Except.ok.injEq, List.forall₂_nil_left_iff, exists_eq_left,
      List.length_nil, pow_zero, one_mul, List.reverse_nil, Nat.ofDigits_nil, Nat.add_zero]
    constructor
    · rintro rfl
      exact ⟨hvalue, rfl⟩
    · exact And.right
  | cons c s ih =>
    constructor
    · intro h
      rw [readDigits] at h
      split at h
      · cases h
      · rename_i d hd
        split at h
        · rename_i hlt
          obtain ⟨hn, ds, hds, hsum⟩ := (ih hlt).1 h
          exact ⟨hn, d :: ds, .cons ((digitValue?_eq_some_iff hb).1 hd) hds,
            (ofDigits_reverse_cons hds.length_eq.symm).trans hsum⟩
        · cases h
    · rintro ⟨hn, ds, hds, hsum⟩
      cases hds with
      | cons hc hds =>
        rename_i d ds
        rw [List.length_cons, ofDigits_reverse_cons hds.length_eq.symm] at hsum
        have hpos : 0 < base := by have := hc.1; omega
        have hle : base * value + d ≤ base ^ s.length * (base * value + d) :=
          Nat.le_mul_of_pos_left _ (Nat.pow_pos hpos)
        have hlt : base * value + d < bound := by omega
        rw [readDigits, (digitValue?_eq_some_iff hb).2 hc]
        simp only [if_pos hlt]
        exact (ih hlt).2 ⟨hn, ds, hds, hsum⟩

theorem readDigits_zero_eq_ok_iff (hb : base ≤ 16) (hbound : 0 < bound) (hs : s ≠ []) :
    readDigits base bound 0 s = .ok n ↔ Denotes base s n ∧ n < bound := by
  rw [readDigits_eq_ok_iff hb hbound]
  simp only [Nat.mul_zero, Nat.zero_add, Denotes, ne_eq, hs, not_false_eq_true, true_and, and_comm]

theorem Denotes.isDigit (hs : Denotes base s n) (hc : c ∈ s) : ∃ d, IsDigit base c d := by
  obtain ⟨-, ds, hds, -⟩ := hs
  induction hds with
  | nil => cases hc
  | cons hhead htail ih =>
    cases hc with
    | head => exact ⟨_, hhead⟩
    | tail _ hc => exact ih hc

theorem not_denotes_signed (hb : base ≤ 16) : ¬ Denotes base ('+' :: s) n := fun h => by
  obtain ⟨d, hd⟩ := h.isDigit List.mem_cons_self
  exact absurd (hd.mem_digitChars hb) (by decide)

theorem numeral_signed_iff (hb : base ≤ 16) :
    Numeral base ('+' :: s) n ↔ Denotes base s n := by
  constructor
  · intro h
    cases h with
    | bare h => exact absurd h (not_denotes_signed hb)
    | signed h => exact h
  · exact .signed

theorem numeral_iff_of_head (hs : ∀ t, s ≠ '+' :: t) : Numeral base s n ↔ Denotes base s n := by
  constructor
  · intro h
    cases h with
    | bare h => exact h
    | signed h => exact absurd rfl (hs _)
  · exact .bare

theorem readNatural_eq_ok_iff (hb : base ≤ 16) (hbound : 0 < bound) :
    readNatural base bound s = .ok n ↔ Numeral base s n ∧ n < bound := by
  unfold readNatural
  split
  · rw [numeral_iff_of_head (by simp)]
    simp [Denotes]
  · rw [numeral_signed_iff hb, readDigits_zero_eq_ok_iff hb hbound (by simp)]
  · rename_i hnil hsigned
    have hs : s ≠ [] := fun h => hnil h
    rw [readDigits_zero_eq_ok_iff hb hbound hs]
    by_cases hplus : s = ['+']
    · subst hplus
      rw [numeral_signed_iff hb]
      have hempty : ¬ Denotes base [] n := fun h => h.1 rfl
      simp only [not_denotes_signed hb, hempty, false_and]
    · rw [numeral_iff_of_head]
      rintro (_ | ⟨c, t⟩) rfl
      · exact hplus rfl
      · exact hsigned c t rfl

theorem isDigit_hexDigit (n : Nat) : IsDigit 16 (hexDigit n) (n % 16) :=
  ⟨Nat.mod_lt _ (by decide), .inl rfl⟩

theorem denotes_hexPadded (width n : Nat) :
    Denotes 16 (hexPadded (width + 1) n) (n % 16 ^ (width + 1)) := by
  have hdigits : ∀ width n, ∃ ds, List.Forall₂ (IsDigit 16) (hexPadded width n) ds ∧
      Nat.ofDigits 16 ds.reverse = n % 16 ^ width := by
    intro width
    induction width with
    | zero => exact fun n => ⟨[], .nil, by rw [pow_zero, Nat.mod_one]; rfl⟩
    | succ width ih =>
      intro n
      obtain ⟨ds, hds, hsum⟩ := ih (n / 16)
      refine ⟨ds ++ [n % 16], List.rel_append hds (.cons (isDigit_hexDigit n) .nil), ?_⟩
      rw [List.reverse_append, List.reverse_singleton, List.singleton_append, Nat.ofDigits_cons,
        hsum, Nat.pow_succ', Nat.mod_mul]
  exact ⟨by simp [hexPadded], hdigits _ n⟩

end Numbers

section Marks

theorem Numeral.mem_chars (hb : base ≤ 16) (hs : Numeral base s n) (hc : c ∈ s) :
    c ∈ '+' :: digitChars := by
  have hdigits : ∀ {s : List Char}, Denotes base s n → c ∈ s → c ∈ digitChars := fun h hc => by
    obtain ⟨d, hd⟩ := h.isDigit hc
    exact hd.mem_digitChars hb
  cases hs with
  | bare h => exact List.mem_cons_of_mem _ (hdigits h hc)
  | signed h =>
    rcases List.mem_cons.1 hc with rfl | hc
    · exact List.mem_cons_self
    · exact List.mem_cons_of_mem _ (hdigits h hc)

theorem Marked.mem_chars (hs : Marked (Numeral 16) k s n) (hc : c ∈ s) :
    c ∈ 'x' :: 'X' :: '+' :: digitChars := by
  have hmarks : ∀ m ∈ hexMarks, m ⊆ 'x' :: 'X' :: '+' :: digitChars := by decide
  induction hs with
  | bare h =>
    have hmem := h.mem_chars (by decide) hc
    exact List.mem_cons_of_mem _ (List.mem_cons_of_mem _ hmem)
  | marked hm _ ih =>
    rcases List.mem_append.1 hc with hc | hc
    · exact hmarks _ hm hc
    · exact ih hc

theorem mem_hexMarks : m ∈ hexMarks ↔ m = ['0', 'x'] ∨ m = ['0', 'X'] := by
  simp only [hexMarks, List.mem_cons, List.not_mem_nil, or_false]

theorem not_numeral_append (hb : base ≤ 16) (hm : m ∈ hexMarks) :
    ¬ Numeral base (m ++ s) n := fun h => by
  have hlower : 'x' ∉ '+' :: digitChars := by decide
  have hupper : 'X' ∉ '+' :: digitChars := by decide
  rcases mem_hexMarks.1 hm with rfl | rfl
  · exact hlower (h.mem_chars hb (by simp))
  · exact hupper (h.mem_chars hb (by simp))

end Marks

end UsbTransfer.Text
