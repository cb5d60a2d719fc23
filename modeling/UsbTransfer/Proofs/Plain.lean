import UsbTransfer.Toml.Parser
import UsbTransfer.Toml.Printer
import UsbTransfer.Proofs.Numerals

/-! Numbers, truth values and strings without escapes are read as they are printed. -/

namespace UsbTransfer.Toml

open Text (span_append span_self ne_of_class)

variable {s w rest : List Char} {c d : Char} {n : Nat} {v : Toml}

section Digits

theorem digitValue?_of_isDigit (hc : Text.isDigit c = true) :
    Text.digitValue? 10 c = some (Text.digit c) := by
  have hle : '0' ≤ c ∧ c ≤ '9' := by simpa [Text.isDigit] using hc
  have hlow : 48 ≤ c.toNat := UInt32.le_iff_toNat_le.1 hle.1
  have hhigh : c.toNat ≤ 57 := UInt32.le_iff_toNat_le.1 hle.2
  have hzero : '0'.toNat = 48 := rfl
  simp only [Text.digitValue?, Text.hexValue?, if_pos hle, Text.digit, Option.filter_some]
  rw [if_pos]
  simp only [decide_eq_true_eq]
  omega

theorem readDigits?_of_isDigit (hne : s ≠ []) (hs : ∀ c ∈ s, Text.isDigit c = true) :
    readDigits? 10 s = some (s.map Text.digit) := by
  induction s with
  | nil => exact absurd rfl hne
  | cons c s ih =>
    have hc := digitValue?_of_isDigit (hs c List.mem_cons_self)
    have hs' : ∀ d ∈ s, Text.isDigit d = true := fun d hd => hs d (List.mem_cons_of_mem _ hd)
    cases s with
    | nil => simp [readDigits?, hc]
    | cons d s =>
      have hd : d ≠ '_' := ne_of_class (hs' d List.mem_cons_self) rfl
      rw [readDigits?]
      · simp [hc, ih (by simp) hs']
      · simp
      · rintro rest ⟨⟩
        exact hd rfl

theorem ofDigits_map_digit (s : List Char) : ofDigits 10 (s.map Text.digit) = Text.ofDigits s := by
  simp only [ofDigits, Text.ofDigits, List.foldl_map]

theorem whole?_decimal (n : Nat) :
    whole? (Text.decimal n) = some ((Text.decimal n).map Text.digit) := by
  obtain ⟨c, s, hs, hc⟩ := Text.decimal_eq_cons n
  have hdigits : ∀ d ∈ c :: s, Text.isDigit d = true := hs ▸ fun d => Text.isDigit_of_mem_decimal
  rw [hs, whole?, readDigits?_of_isDigit (by simp) hdigits, Option.filter_some, if_pos]
  simpa using hc

variable (hs : ∀ c ∈ s, Text.isDigit c = true)
include hs

theorem not_mem_of_isDigit (hd : Text.isDigit d = false) : d ∉ s := fun hm =>
  ne_of_class (hs d hm) hd rfl

theorem isDate_of_isDigit : isDate s = false := by
  unfold isDate
  split
  · exact absurd (by simp) (not_mem_of_isDigit hs (d := '-') rfl)
  · rfl

theorem clock?_of_isDigit : clock? s = none := by
  unfold clock?
  split
  · exact absurd (by simp) (not_mem_of_isDigit hs (d := ':') rfl)
  · rfl

theorem isMoment_of_isDigit : isMoment s = false := by
  have htake : ∀ c ∈ s.take 10, Text.isDigit c = true := fun c hc => hs c (List.mem_of_mem_take hc)
  unfold isMoment
  split <;> simp [isDate_of_isDigit hs, isDate_of_isDigit htake, clock?_of_isDigit hs]

theorem unsign_of_isDigit : unsign s = (false, s) := by
  unfold unsign
  split
  · exact absurd (by simp) (not_mem_of_isDigit hs (d := '+') rfl)
  · exact absurd (by simp) (not_mem_of_isDigit hs (d := '-') rfl)
  · rfl

theorem isFloat_of_isDigit : isFloat s = false := by
  have hinf : s ≠ ['i', 'n', 'f'] := fun he =>
    not_mem_of_isDigit hs (d := 'i') rfl (by simp [he])
  have hnan : s ≠ ['n', 'a', 'n'] := fun he =>
    not_mem_of_isDigit hs (d := 'n') rfl (by simp [he])
  have hmantissa : s.span (fun c => c ≠ 'e' && c ≠ 'E') = (s, []) := span_self fun c hc => by
    simp [ne_of_class (hs c hc) (d := 'e') rfl, ne_of_class (hs c hc) (d := 'E') rfl]
  have hwhole : s.span (· ≠ '.') = (s, []) := span_self fun c hc => by
    simp [ne_of_class (hs c hc) (d := '.') rfl]
  simp only [isFloat, unsign_of_isDigit hs, hinf, hnan, or_self, if_false, hmantissa, hwhole]
  split <;> simp

end Digits

theorem integer?_decimal (hn : InRange n) : integer? (Text.decimal n) = some (n : Int) := by
  have hs : ∀ c ∈ Text.decimal n, Text.isDigit c = true := fun c => Text.isDigit_of_mem_decimal
  have hvalue : (whole? (Text.decimal n)).map (fun ds => signed false (ofDigits 10 ds)) =
      some (n : Int) := by
    rw [whole?_decimal, Option.map_some, ofDigits_map_digit, Text.ofDigits_decimal]
    rfl
  unfold integer?
  split
  · rename_i he
    exact absurd (by simp [he]) (not_mem_of_isDigit hs (d := 'x') rfl)
  · rename_i he
    exact absurd (by simp [he]) (not_mem_of_isDigit hs (d := 'o') rfl)
  · rename_i he
    exact absurd (by simp [he]) (not_mem_of_isDigit hs (d := 'b') rfl)
  · simp only [unsign_of_isDigit hs, hvalue, Option.filter_some]
    rw [if_pos (by simpa using hn)]

theorem ofWord?_decimal (hn : InRange n) : ofWord? (Text.decimal n) = some (int n) := by
  have hs : ∀ c ∈ Text.decimal n, Text.isDigit c = true := fun c => Text.isDigit_of_mem_decimal
  have htrue : Text.decimal n ≠ ['t', 'r', 'u', 'e'] := fun he =>
    not_mem_of_isDigit hs (d := 't') rfl (by simp [he])
  have hfalse : Text.decimal n ≠ ['f', 'a', 'l', 's', 'e'] := fun he =>
    not_mem_of_isDigit hs (d := 'f') rfl (by simp [he])
  simp [ofWord?, htrue, hfalse, isMoment_of_isDigit hs, isFloat_of_isDigit hs, integer?_decimal hn]

theorem isAlphanum_of_isDigit (hc : Text.isDigit c = true) : c.isAlphanum = true := by
  have hle : '0' ≤ c ∧ c ≤ '9' := by simpa [Text.isDigit] using hc
  have hdigit : c.isDigit = true := by
    simp only [Char.isDigit, Bool.and_eq_true, decide_eq_true_eq]
    exact hle
  simp [Char.isAlphanum, hdigit]

theorem isWordChar_of_isDigit (hc : Text.isDigit c = true) : isWordChar c = true := by
  simp [isWordChar, isAlphanum_of_isDigit hc]

theorem word?_line (hw : ∀ c ∈ w, isWordChar c = true) (hd : isDate w = false)
    (hv : ofWord? w = some v) : word? (w ++ '\n' :: rest) = some (v, '\n' :: rest) := by
  have hspan : (w ++ '\n' :: rest).span isWordChar = (w, '\n' :: rest) := by
    refine span_append hw fun c hc => ?_
    obtain rfl : '\n' = c := by simpa using hc
    rfl
  simp only [word?, hspan, hd, hv, Option.map_some]

def isUnescaped (c : Char) : Bool := ' ' ≤ c && c ≠ '\x7f' && c ≠ '"' && c ≠ '\\'

theorem quotesOf_of_isUnescaped (hs : ∀ c ∈ s, isUnescaped c = true) :
    quotesOf s = ⟨false, false⟩ := by
  have hcontrol : s.any isControl = false := by
    rw [List.any_eq_false]
    intro c hc
    have hu := hs c hc
    simp only [isUnescaped, Bool.and_eq_true, decide_eq_true_eq] at hu
    simp [isControl, hu.1.1.2, Char.not_lt.2 hu.1.1.1]
  have hnot : ∀ d, isUnescaped d = false → d ∉ s := fun d hd hm => ne_of_class (hs d hm) hd rfl
  simp [quotesOf, hcontrol, hnot '\n' rfl, hnot '"' rfl, hnot '\\' rfl]

theorem escape_of_isUnescaped (hc : isUnescaped c = true) : escape false c = [c] := by
  have hne : ∀ d, isUnescaped d = false → c ≠ d := fun d hd => ne_of_class hc hd
  have hcontrol : isControl c = false := by
    simp only [isUnescaped, Bool.and_eq_true, decide_eq_true_eq] at hc
    simp [isControl, hc.1.1.2, Char.not_lt.2 hc.1.1.1]
  simp [escape, hne '\\' rfl, hne '\t' rfl, hne '\n' rfl, hne '\r' rfl, hne '\x08' rfl,
    hne '\x0c' rfl, hcontrol]

theorem escapeAll_of_isUnescaped (hs : ∀ c ∈ s, isUnescaped c = true) :
    escapeAll false 0 s = s := by
  induction s with
  | nil => rfl
  | cons c s ih =>
    have hc := hs c List.mem_cons_self
    rw [escapeAll, escape_of_isUnescaped hc]
    · simp [ih fun d hd => hs d (List.mem_cons_of_mem _ hd)]
    · exact ne_of_class hc rfl

theorem readBasic_quote (rest : List Char) : readBasic false ('"' :: rest) = some ([], rest) := by
  by_cases h : ∃ after, rest = '"' :: '"' :: after
  · obtain ⟨after, rfl⟩ := h
    rw [readBasic]
    rfl
  · rw [readBasic]
    · rfl
    · exact fun after he => h ⟨after, he⟩

theorem readBasic_of_isUnescaped (hs : ∀ c ∈ s, isUnescaped c = true) (rest : List Char) :
    readBasic false (s ++ '"' :: rest) = some (s, rest) := by
  induction s with
  | nil => exact readBasic_quote rest
  | cons c s ih =>
    have hc := hs c List.mem_cons_self
    have hne : ∀ d, isUnescaped d = false → c ≠ d := fun d hd => ne_of_class hc hd
    have hplain : isPlain c = true := by
      simp only [isUnescaped, Bool.and_eq_true, decide_eq_true_eq] at hc
      simp [isPlain, hc.1.1.1, hc.1.1.2]
    have hstep : readBasic false (c :: (s ++ '"' :: rest)) =
        (readBasic false (s ++ '"' :: rest)).push c := by
      rw [readBasic]
      · simp [hplain, hne '\\' rfl]
      · exact hne '"' rfl
      · exact fun _ _ he => absurd he (hne '\\' rfl)
      · exact fun _ he => absurd he (hne '\r' rfl)
    rw [List.cons_append, hstep, ih fun d hd => hs d (List.mem_cons_of_mem _ hd)]
    rfl

def Plain : Toml → Prop
  | str s => ∀ c ∈ s.toList, isUnescaped c = true
  | int n => 0 ≤ n ∧ InRange n
  | bool _ => True
  | float _ | date _ | arr _ | table _ => False

theorem readString?_quote {text : String} (hs : ∀ c ∈ text.toList, isUnescaped c = true) :
    readString? (quote text ++ '\n' :: rest) = some (some (text.toList, '\n' :: rest)) := by
  have hquote : quote text ++ '\n' :: rest = '"' :: (text.toList ++ '"' :: '\n' :: rest) := by
    simp [quote, quotesOf_of_isUnescaped hs, Quotes.mark, escapeAll_of_isUnescaped hs]
  have hread := readBasic_of_isUnescaped hs ('\n' :: rest)
  rw [hquote, readString?]
  · rw [hread]
  · intro after he
    cases htext : text.toList with
    | nil => simp [htext] at he
    | cons c s =>
      have hc := hs c (by simp [htext])
      rw [htext] at he
      exact ne_of_class hc (d := '"') rfl (List.cons.inj he).1

theorem value?_word (hc : c.isAlphanum = true) (depth : Nat) :
    value? (n + 1) depth (c :: s) = word? (c :: s) := by
  have hne : ∀ d : Char, d.isAlphanum = false → c ≠ d := fun d hd => ne_of_class hc hd
  have hstring : readString? (c :: s) = none := by
    unfold readString?
    split
    · next he => exact absurd (List.cons.inj he).1 (hne '"' rfl)
    · next he => exact absurd (List.cons.inj he).1 (hne '"' rfl)
    · next he => exact absurd (List.cons.inj he).1 (hne '\'' rfl)
    · next he => exact absurd (List.cons.inj he).1 (hne '\'' rfl)
    · rfl
  simp only [value?, hstring]
  split
  · next he => exact absurd (List.cons.inj he).1 (hne '[' rfl)
  · next he => exact absurd (List.cons.inj he).1 (hne '{' rfl)
  · rfl

theorem value?_of_word (hw : ∀ c ∈ w, isWordChar c = true) (hd : isDate w = false)
    (hv : ofWord? w = some v) (hb : ∃ c s, w = c :: s ∧ c.isAlphanum = true) (depth : Nat) :
    value? (n + 1) depth (w ++ '\n' :: rest) = some (v, '\n' :: rest) := by
  obtain ⟨c, s, rfl, hc⟩ := hb
  exact (value?_word hc depth).trans (word?_line hw hd hv)

theorem value?_line (hv : Plain v) (depth : Nat) (rest : List Char) :
    value? (n + 1) depth (printPlain v ++ '\n' :: rest) = some (v, '\n' :: rest) := by
  cases v with
  | str text =>
    simp only [value?, printPlain, readString?_quote hv, Option.map_some, String.ofList_toList]
  | int i =>
    obtain ⟨m, rfl⟩ := Int.eq_ofNat_of_zero_le hv.1
    have hdigits : ∀ c ∈ Text.decimal m, Text.isDigit c = true :=
      fun c => Text.isDigit_of_mem_decimal
    obtain ⟨c, s, hs, -⟩ := Text.decimal_eq_cons m
    have hc : Text.isDigit c = true := hdigits c (by simp [hs])
    exact value?_of_word (fun c hc => isWordChar_of_isDigit (hdigits c hc))
      (isDate_of_isDigit hdigits) (ofWord?_decimal hv.2) ⟨c, s, hs, isAlphanum_of_isDigit hc⟩ depth
  | bool b =>
    cases b with
    | true =>
      exact value?_of_word (w := ['t', 'r', 'u', 'e']) (List.all_eq_true.1 rfl) rfl rfl
        ⟨_, _, rfl, rfl⟩ depth
    | false =>
      exact value?_of_word (w := ['f', 'a', 'l', 's', 'e']) (List.all_eq_true.1 rfl) rfl rfl
        ⟨_, _, rfl, rfl⟩ depth
  | float | date | arr | table => cases hv

end UsbTransfer.Toml
