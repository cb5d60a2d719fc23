namespace UsbTransfer.Text

def decimal (n : Nat) : List Char :=
  if n < 10 then [Nat.digitChar n] else decimal (n / 10) ++ [Nat.digitChar (n % 10)]
termination_by n
decreasing_by omega

def decimalInt : Int → List Char
  | .ofNat n => decimal n
  | .negSucc n => '-' :: decimal (n + 1)

def isDigit (c : Char) : Bool := '0' ≤ c && c ≤ '9'

def digit (c : Char) : Nat := c.toNat - '0'.toNat

def ofDigits (s : List Char) : Nat := s.foldl (fun n c => 10 * n + digit c) 0

/-- The lowest `width` decimal digits, highest first. -/
def decimalPadded : Nat → Nat → List Char
  | 0, _ => []
  | width + 1, n => decimalPadded width (n / 10) ++ [Nat.digitChar (n % 10)]

def dropTrailingZeros (digits : List Char) : List Char :=
  (digits.reverse.dropWhile (· = '0')).reverse

/-- `whole` and a fraction of `width` places, written with as few places as keep its value. -/
def fixedPoint (whole width fraction : Nat) : String :=
  match dropTrailingZeros (decimalPadded width fraction) with
  | [] => toString whole
  | places => toString whole ++ "." ++ String.ofList places

theorem digit_digitChar {n : Nat} (h : n < 10) : digit (Nat.digitChar n) = n := by
  have : ∀ m : Fin 10, digit (Nat.digitChar m.val) = m.val := by decide
  exact this ⟨n, h⟩

theorem isDigit_digitChar {n : Nat} (h : n < 10) : isDigit (Nat.digitChar n) = true := by
  have : ∀ m : Fin 10, isDigit (Nat.digitChar m.val) = true := by decide
  exact this ⟨n, h⟩

theorem ofDigits_decimal (n : Nat) : ofDigits (decimal n) = n := by
  fun_induction decimal n with
  | case1 n h => simp [ofDigits, digit_digitChar h]
  | case2 n h ih =>
    simp only [ofDigits, List.foldl_append, List.foldl_cons, List.foldl_nil] at ih ⊢
    rw [ih, digit_digitChar (by omega)]
    omega

theorem isDigit_of_mem_decimal {n : Nat} {c : Char} (h : c ∈ decimal n) : isDigit c = true := by
  fun_induction decimal n with
  | case1 n hn => simp_all [isDigit_digitChar hn]
  | case2 n hn ih =>
    rcases List.mem_append.1 h with h | h
    · exact ih h
    · simp only [List.mem_singleton] at h
      exact h ▸ isDigit_digitChar (by omega)

theorem decimal_eq_cons (n : Nat) :
    ∃ c s, decimal n = c :: s ∧ (s = [] ∨ digit c ≠ 0) := by
  fun_induction decimal n with
  | case1 n h => exact ⟨_, [], rfl, .inl rfl⟩
  | case2 n h ih =>
    obtain ⟨c, s, hs, hc⟩ := ih
    refine ⟨c, s ++ [Nat.digitChar (n % 10)], by rw [hs, List.cons_append], .inr ?_⟩
    rcases hc with rfl | hc
    · -- one digit is in front, which is the quotient itself
      have hvalue := ofDigits_decimal (n / 10)
      rw [hs] at hvalue
      simp only [ofDigits, List.foldl_cons, List.foldl_nil] at hvalue
      omega
    · exact hc

end UsbTransfer.Text
