import UsbTransfer.Json.Parser
import UsbTransfer.Json.Printer
import UsbTransfer.Proofs.Numerals

namespace UsbTransfer.Json

open Text (isDigit span_append ne_of_class hexDigit hexPadded hexValue?_hexDigit
  ofDigits_decimal isDigit_of_mem_decimal decimal_eq_cons)

variable {s w rest : List Char} {c : Char} {n : Nat}

section Strings

def marked : List Char := ['"', '\\', '\n', '\r', '\t', '\x08', '\x0c']

theorem escape_of_mem_marked (hc : c ∈ marked) :
    ∃ e, escape c = ['\\', e] ∧ unescape e = some c ∧ e ≠ 'u' := by
  simp only [marked, List.mem_cons, List.not_mem_nil, or_false] at hc
  rcases hc with rfl | rfl | rfl | rfl | rfl | rfl | rfl <;> exact ⟨_, rfl, rfl, by decide⟩

theorem escape_of_not_mem_marked (hc : c ∉ marked) :
    escape c = if c < ' ' then '\\' :: 'u' :: hexPadded 4 c.toNat else [c] := by
  simp only [marked, List.mem_cons, List.not_mem_nil, or_false, not_or] at hc
  simp only [escape, hc, if_false]

theorem unit?_hexPadded (hn : n < 0x10000) : ∃ a b c d, hexPadded 4 n = [a, b, c, d] ∧
    unit? a b c d = some n := by
  have hdigit (m : Nat) : hexDigit m = hexDigit (m % 16) := by simp [hexDigit]
  have hvalue (m : Nat) : Text.hexValue? (hexDigit m) = some (m % 16) := by
    rw [hdigit, hexValue?_hexDigit (Nat.mod_lt _ (by decide))]
  refine ⟨_, _, _, _, rfl, ?_⟩
  simp only [unit?, hvalue, bind, Option.bind, pure]
  congr 1
  omega

theorem readString_end (rest : List Char) : readString ('"' :: rest) = some (some [], rest) := by
  rw [readString]

theorem readString_mark {e : Char} (hc : unescape e = some c) (hu : e ≠ 'u') (rest : List Char) :
    readString ('\\' :: e :: rest) = (readString rest).map (push c) := by
  rw [readString]
  · rw [hc]
  · exact fun _ _ _ _ _ he => absurd he hu

theorem readString_unit (hc : c < ' ') (rest : List Char) :
    readString ('\\' :: 'u' :: hexPadded 4 c.toNat ++ rest) = (readString rest).map (push c) := by
  have hlt : c.toNat < 32 := UInt32.lt_iff_toNat_lt.1 hc
  obtain ⟨x, y, z, w, hdigits, hunit⟩ := unit?_hexPadded (show c.toNat < 0x10000 by omega)
  have hhigh : isHigh c.toNat = false := by simp [isHigh]; omega
  have hlow : isLow c.toNat = false := by simp [isLow]; omega
  simp only [hdigits, List.cons_append, List.nil_append]
  rw [readString]
  simp [hunit, hhigh, hlow, Char.ofNat_toNat]

theorem readString_plain (hc : ¬ c < ' ') (hquote : c ≠ '"') (hmark : c ≠ '\\') (rest : List Char) :
    readString (c :: rest) = (readString rest).map (push c) := by
  rw [readString]
  · rw [if_neg hc]
  · exact hquote
  · exact fun _ _ _ _ _ he => absurd he hmark
  · exact fun _ _ he => absurd he hmark

theorem readString_escape (c : Char) (rest : List Char) :
    readString (escape c ++ rest) = (readString rest).map (push c) := by
  by_cases hc : c ∈ marked
  · obtain ⟨e, hescape, hback, hu⟩ := escape_of_mem_marked hc
    rw [hescape]
    exact readString_mark hback hu rest
  · rw [escape_of_not_mem_marked hc]
    split
    · next hlow => exact readString_unit hlow rest
    · next hhigh =>
      exact readString_plain hhigh (fun he => hc (by simp [marked, he]))
        (fun he => hc (by simp [marked, he])) rest

theorem quote_append (t : String) (s : List Char) :
    quote t ++ s = '"' :: (t.toList.flatMap escape ++ '"' :: s) := by
  simp [quote]

theorem readString_quoted (s rest : List Char) :
    readString (s.flatMap escape ++ '"' :: rest) = some (some s, rest) := by
  induction s with
  | nil => exact readString_end rest
  | cons c s ih =>
    rw [List.flatMap_cons, List.append_assoc, readString_escape, ih]
    rfl

end Strings

section Numbers

variable {f e r sign : List Char}

structure Whole (w : List Char) : Prop where
  ne_nil : w ≠ []
  digits : ∀ c ∈ w, isDigit c = true
  zero : w.head? = some '0' → w = ['0']

inductive Fraction : List Char → Prop
  | none : Fraction []
  | point {ds : List Char} : ds ≠ [] → (∀ c ∈ ds, isDigit c = true) → Fraction ('.' :: ds)

inductive Exponent : List Char → Prop
  | none : Exponent []
  | letter {x : Char} {sign ds : List Char} : x = 'e' ∨ x = 'E' →
    sign = [] ∨ sign = ['+'] ∨ sign = ['-'] → ds ≠ [] → (∀ c ∈ ds, isDigit c = true) →
      Exponent (x :: sign ++ ds)

/-- Does not go on with what a number can go on with. -/
def Ends (rest : List Char) : Prop := ∀ c ∈ rest.head?, c = ',' ∨ c = ']' ∨ c = '}'

theorem Ends.not_digit (h : Ends rest) : ∀ c ∈ rest.head?, isDigit c = false := by
  intro c hc
  rcases h c hc with rfl | rfl | rfl <;> rfl

theorem whole_decimal (n : Nat) : Whole (Text.decimal n) := by
  obtain ⟨c, s, hs, hc⟩ := decimal_eq_cons n
  refine ⟨by simp [hs], fun c => isDigit_of_mem_decimal, fun hzero => ?_⟩
  rw [hs] at hzero ⊢
  obtain rfl := Option.some.inj hzero
  rcases hc with rfl | hc
  · rfl
  · exact absurd rfl hc

theorem readFraction_append (hf : Fraction f) (hr : ∀ c ∈ r.head?, isDigit c = false)
    (hpoint : ∀ c ∈ r.head?, c ≠ '.') : readFraction (f ++ r) = some (f, r) := by
  cases hf with
  | none =>
    unfold readFraction
    split
    · next he => exact absurd rfl (hpoint '.' (by rw [List.nil_append] at he; simp [he]))
    · rfl
  | @point ds hne hds =>
    have hspan : digits (ds ++ r) = (ds, r) := span_append hds hr
    simp only [List.cons_append, readFraction, hspan]

theorem readSign_append (hsign : sign = [] ∨ sign = ['+'] ∨ sign = ['-'])
    (hw : ∀ c ∈ w, isDigit c = true) (hne : w ≠ []) :
    readSign (sign ++ w ++ r) = (sign, w ++ r) := by
  rcases hsign with rfl | rfl | rfl
  · obtain ⟨c, w, rfl⟩ := List.exists_cons_of_ne_nil hne
    have hc := hw c List.mem_cons_self
    unfold readSign
    split
    · next he => exact absurd (List.cons.inj he).1 (ne_of_class hc rfl)
    · next he => exact absurd (List.cons.inj he).1 (ne_of_class hc rfl)
    · rfl
  · rfl
  · rfl

theorem readExponent_append (he : Exponent e) (hr : ∀ c ∈ r.head?, isDigit c = false)
    (hletter : ∀ c ∈ r.head?, c ≠ 'e' ∧ c ≠ 'E') : readExponent (e ++ r) = some (e, r) := by
  cases he with
  | none =>
    cases r with
    | nil => rfl
    | cons c r =>
      have hc := hletter c rfl
      simp [readExponent, hc]
  | @letter x sign ds hx hsign hne hds =>
    have hspan : digits (ds ++ r) = (ds, r) := span_append hds hr
    have hread := readSign_append (r := r) hsign hds hne
    simp only [List.cons_append, readExponent, if_pos hx, hread, hspan]

def number (negative : Bool) (w f e : List Char) : Json :=
  if f = [] ∧ e = [] ∧ ¬ (negative ∧ w = ['0']) then
    int (if negative then -(Text.ofDigits w : Int) else Text.ofDigits w)
  else real (String.ofList ((if negative then ['-'] else []) ++ w ++ f ++ e))

theorem readNumber_append (negative : Bool) (hw : Whole w) (hf : Fraction f) (he : Exponent e)
    (hr : Ends rest) :
    readNumber negative (w ++ (f ++ (e ++ rest))) = some (number negative w f e, rest) := by
  have hletter : ∀ c ∈ rest.head?, c ≠ 'e' ∧ c ≠ 'E' ∧ c ≠ '.' := fun c hc => by
    rcases hr c hc with rfl | rfl | rfl <;> decide
  have hafter : ∀ c ∈ (e ++ rest).head?, isDigit c = false ∧ c ≠ '.' := by
    cases he with
    | none => exact fun c hc => ⟨hr.not_digit c hc, (hletter c hc).2.2⟩
    | letter hx =>
      rintro c ⟨⟩
      rcases hx with rfl | rfl <;> exact ⟨rfl, by decide⟩
  have hbehind : ∀ c ∈ (f ++ (e ++ rest)).head?, isDigit c = false := by
    cases hf with
    | none => exact fun c hc => (hafter c hc).1
    | point =>
      rintro c ⟨⟩
      rfl
  have hwhole : digits (w ++ (f ++ (e ++ rest))) = (w, f ++ (e ++ rest)) :=
    span_append hw.digits hbehind
  have hfraction := readFraction_append hf (fun c hc => (hafter c hc).1) fun c hc => (hafter c hc).2
  have hexponent := readExponent_append he hr.not_digit fun c hc =>
    ⟨(hletter c hc).1, (hletter c hc).2.1⟩
  have hzero : ¬ (w = [] ∨ (w.head? = some '0' ∧ w ≠ ['0'])) := by
    rintro (hnil | ⟨hhead, hne⟩)
    · exact hw.ne_nil hnil
    · exact hne (hw.zero hhead)
  simp only [readNumber, hwhole, if_neg hzero, hfraction, Option.bind_eq_bind, Option.bind_some,
    hexponent, number]
  split <;> rfl

/-- The text of a number that is not written as an integer, or that is the negative zero. -/
inductive Real : List Char → Prop
  | mk {negative : Bool} {w f e : List Char} : Whole w → Fraction f → Exponent e →
    f ≠ [] ∨ e ≠ [] ∨ (negative = true ∧ w = ['0']) →
      Real ((if negative then ['-'] else []) ++ w ++ f ++ e)

theorem number_decimal {negative : Bool} (hn : negative = true → n ≠ 0) :
    number negative (Text.decimal n) [] [] = int (if negative then -(n : Int) else n) := by
  rw [number, if_pos, ofDigits_decimal]
  refine ⟨rfl, rfl, fun ⟨hneg, hzero⟩ => hn hneg ?_⟩
  have hvalue := ofDigits_decimal n
  rw [hzero] at hvalue
  exact hvalue.symm

theorem number_of_real {negative : Bool} (h : f ≠ [] ∨ e ≠ [] ∨ (negative = true ∧ w = ['0'])) :
    number negative w f e =
      real (String.ofList ((if negative then ['-'] else []) ++ w ++ f ++ e)) := by
  refine if_neg fun ⟨hf, he, hzero⟩ => ?_
  rcases h with h | h | h
  · exact h hf
  · exact h he
  · exact hzero h

end Numbers

section Trees

/-- A value that a text can be of: no half of a surrogate pair, and numbers by their own text where
they are no integers. -/
inductive Proper : Json → Prop
  | null : Proper null
  | bool (b : Bool) : Proper (bool b)
  | int (n : Int) : Proper (int n)
  | real {t : String} : Real t.toList → Proper (real t)
  | str (s : String) : Proper (str s)
  | arr {items : List Json} : (∀ v ∈ items, Proper v) → Proper (arr items)
  | obj {fields : List (String × Json)} : (∀ f ∈ fields, Proper f.2) → Proper (obj fields)

/-- The value is read where its text stands, in as many steps as the text has characters. -/
def Reads (v : Json) : Prop :=
  ∀ n rest, v.print.length ≤ n → Ends rest → read n (v.print ++ rest) = some (v, rest)

theorem skip_cons (hc : isSpace c = false) (s : List Char) : skip (c :: s) = c :: s := by
  simp [skip, hc]

theorem isSpace_of_isDigit (hc : isDigit c = true) : isSpace c = false := by
  have hne : ∀ d, isDigit d = false → c ≠ d := fun d hd => ne_of_class hc hd
  simp [isSpace, hne ' ' rfl, hne '\n' rfl, hne '\t' rfl, hne '\r' rfl]

theorem read_digits {s : List Char} (hc : isDigit c = true) :
    read (n + 1) (c :: s) = readNumber false (c :: s) := by
  have hne : ∀ d, isDigit d = false → c ≠ d := fun d hd => ne_of_class hc hd
  rw [read, skip_cons (isSpace_of_isDigit hc)]
  split
  all_goals rename_i he
  all_goals first
    | exact absurd (List.cons.inj he).1 (hne _ rfl)
    | rfl

theorem read_items (hc : isSpace c = false) (hne : c ≠ ']') (s : List Char) :
    read (n + 1) ('[' :: c :: s) = readItems n (c :: s) := by
  rw [read, skip_cons (by rfl)]
  simp only [skip_cons hc]
  split
  · next he => exact absurd (List.cons.inj he).1 hne
  · rfl

theorem read_fields (s : List Char) : read (n + 1) ('{' :: '"' :: s) = readFields n ('"' :: s) :=
  rfl

theorem reads_of_succ {v : Json} (hne : v.print ≠ [])
    (h : ∀ n rest, Ends rest → read (n + 1) (v.print ++ rest) = some (v, rest)) : Reads v := by
  intro n rest hn hr
  cases n with
  | zero => exact absurd (List.length_eq_zero_iff.1 (Nat.le_zero.1 hn)) hne
  | succ n => exact h n rest hr

theorem reads_null : Reads null := reads_of_succ (by simp [print]) fun _ _ _ => rfl

theorem reads_bool (b : Bool) : Reads (bool b) := by
  cases b <;> exact reads_of_succ (by simp [print]) fun _ _ _ => rfl

theorem reads_str (s : String) : Reads (str s) := by
  refine reads_of_succ (by simp [print, quote]) fun n rest _ => ?_
  rw [print, quote_append, read, skip_cons (by rfl)]
  simp [readString_quoted]

theorem read_number (negative : Bool) {w f e : List Char} (hw : Whole w) (hf : Fraction f)
    (he : Exponent e) (hr : Ends rest) :
    read (n + 1) ((if negative then ['-'] else []) ++ w ++ f ++ e ++ rest) =
      some (number negative w f e, rest) := by
  have hread := readNumber_append negative hw hf he hr
  cases negative with
  | true =>
    simp only [if_true, List.append_assoc, ← hread]
    rfl
  | false =>
    obtain ⟨c, s, rfl⟩ := List.exists_cons_of_ne_nil hw.ne_nil
    simp only [Bool.false_eq_true, if_false, List.nil_append, List.append_assoc, ← hread]
    exact read_digits (hw.digits c List.mem_cons_self)

theorem read_decimal (negative : Bool) {m : Nat} (hm : negative = true → m ≠ 0) (hr : Ends rest) :
    read (n + 1) ((if negative then ['-'] else []) ++ Text.decimal m ++ rest) =
      some (int (if negative then -(m : Int) else m), rest) := by
  have hread := read_number (n := n) negative (whole_decimal m) .none .none hr
  rwa [number_decimal hm, List.append_nil, List.append_nil] at hread

theorem reads_int (i : Int) : Reads (int i) := by
  cases i with
  | ofNat m =>
    have hne : print (int (.ofNat m)) ≠ [] := (whole_decimal m).ne_nil
    exact reads_of_succ hne fun n rest hr => read_decimal false (by simp) hr
  | negSucc m =>
    have hne : print (int (.negSucc m)) ≠ [] := List.cons_ne_nil _ _
    exact reads_of_succ hne fun n rest hr => read_decimal true (m := m + 1) (by simp) hr

theorem reads_real {t : String} (ht : Real t.toList) : Reads (real t) := by
  have hprint : print (real t) = t.toList := rfl
  generalize hs : t.toList = s at ht hprint
  obtain ⟨hw, hf, he, hno⟩ := ht
  refine reads_of_succ (by simp [hprint, hw.ne_nil]) fun n rest hr => ?_
  rw [hprint, read_number _ hw hf he hr, number_of_real hno, ← hs, String.ofList_toList]

theorem number_eq_cons (negative : Bool) (hw : Whole w) (s : List Char) :
    ∃ c t, (if negative then ['-'] else []) ++ w ++ s = c :: t ∧ isSpace c = false ∧ c ≠ ']' := by
  cases negative with
  | true => exact ⟨'-', w ++ s, rfl, rfl, by decide⟩
  | false =>
    obtain ⟨c, w, rfl⟩ := List.exists_cons_of_ne_nil hw.ne_nil
    have hc := hw.digits c List.mem_cons_self
    exact ⟨c, w ++ s, rfl, isSpace_of_isDigit hc, ne_of_class hc rfl⟩

theorem print_eq_cons {v : Json} (hv : Proper v) :
    ∃ c s, v.print = c :: s ∧ isSpace c = false ∧ c ≠ ']' := by
  cases hv with
  | null => exact ⟨_, _, rfl, rfl, by decide⟩
  | bool b => cases b <;> exact ⟨_, _, rfl, rfl, by decide⟩
  | int i =>
    cases i with
    | ofNat m =>
      simpa [print, Text.decimalInt] using number_eq_cons false (whole_decimal m) []
    | negSucc m => exact ⟨_, _, rfl, rfl, by decide⟩
  | @real t ht =>
    have hprint : print (real t) = t.toList := rfl
    generalize t.toList = s at ht hprint
    obtain ⟨hw, -, -, -⟩ := ht
    rw [hprint, List.append_assoc]
    exact number_eq_cons _ hw _
  | str s => exact ⟨_, _, rfl, rfl, by decide⟩
  | @arr items h => cases items <;> exact ⟨_, _, rfl, rfl, by decide⟩
  | @obj fields h => cases fields <;> exact ⟨_, _, rfl, rfl, by decide⟩

theorem ends_printItems (vs : List Json) (rest : List Char) : Ends (printItems vs ++ rest) := by
  cases vs <;> simp [Ends, printItems]

theorem ends_printFields (fs : List (String × Json)) (rest : List Char) :
    Ends (printFields fs ++ rest) := by
  cases fs <;> simp [Ends, printFields]

theorem readItems_print {v : Json} {vs : List Json} (hv : Reads v) (hvs : ∀ w ∈ vs, Reads w)
    (hn : v.print.length + (printItems vs).length ≤ n) (rest : List Char) :
    readItems n (v.print ++ (printItems vs ++ rest)) = some (arr (v :: vs), rest) := by
  induction vs generalizing v n with
  | nil =>
    cases n with
    | zero => simp [printItems] at hn
    | succ n =>
      simp only [printItems, List.length_singleton] at hn
      rw [readItems, hv n _ (by omega) (ends_printItems [] rest)]
      rfl
  | cons w vs ih =>
    obtain ⟨hw, hvs⟩ := List.forall_mem_cons.1 hvs
    cases n with
    | zero => simp [printItems] at hn
    | succ n =>
      simp only [printItems, List.cons_append, List.length_cons, List.length_append] at hn
      rw [readItems, hv n _ (by omega) (ends_printItems (w :: vs) rest)]
      simp only [printItems, List.cons_append, List.append_assoc]
      rw [skip_cons (by rfl)]
      simp [ih hw hvs (n := n) (by omega), item]

theorem readFields_last {k : String} {v : Json} {s : List Char}
    (h : read n s = some (v, '}' :: rest)) :
    readFields (n + 1) (quote k ++ ':' :: s) = some (obj [(k, v)], rest) := by
  rw [quote_append, readFields, skip_cons (by rfl)]
  simp [readString_quoted, skip, isSpace, h, field]

theorem readFields_next {k : String} {v : Json} {s : List Char}
    (h : read n s = some (v, ',' :: rest)) :
    readFields (n + 1) (quote k ++ ':' :: s) =
      (readFields n rest).map fun p => (field (some k.toList) v p.1, p.2) := by
  rw [quote_append, readFields, skip_cons (by rfl)]
  simp [readString_quoted, skip, isSpace, h]

theorem readFields_print {k : String} {v : Json} {fs : List (String × Json)} (hv : Reads v)
    (hfs : ∀ f ∈ fs, Reads f.2) (hn : v.print.length + (printFields fs).length ≤ n)
    (rest : List Char) :
    readFields n (quote k ++ ':' :: (v.print ++ (printFields fs ++ rest))) =
      some (obj ((k, v) :: fs), rest) := by
  induction fs generalizing k v n with
  | nil =>
    cases n with
    | zero => simp [printFields] at hn
    | succ n =>
      simp only [printFields, List.length_singleton] at hn
      exact readFields_last (hv n _ (by omega) (ends_printFields [] rest))
  | cons f fs ih =>
    obtain ⟨hf, hfs⟩ := List.forall_mem_cons.1 hfs
    cases n with
    | zero => simp [printFields] at hn
    | succ n =>
      simp only [printFields, List.cons_append, List.length_cons, List.length_append] at hn
      have hread := hv n _ (by omega) (ends_printFields (f :: fs) rest)
      simp only [printFields, List.cons_append, List.append_assoc] at hread ⊢
      rw [readFields_next hread]
      simp [ih hf hfs (n := n) (by omega), field]

theorem reads_arr {v : Json} {vs : List Json}
    (hhead : ∃ c s, v.print = c :: s ∧ isSpace c = false ∧ c ≠ ']') (hv : Reads v)
    (hvs : ∀ w ∈ vs, Reads w) : Reads (arr (v :: vs)) := by
  obtain ⟨c, s, hprint, hspace, hne⟩ := hhead
  intro n rest hn _
  cases n with
  | zero => simp [print] at hn
  | succ n =>
    simp only [print, List.cons_append, List.length_cons, List.length_append] at hn
    have hread := readItems_print hv hvs (n := n) (by omega) rest
    rw [hprint] at hread
    rw [← hread]
    simpa [print, hprint] using read_items hspace hne (s ++ (printItems vs ++ rest))

theorem reads_obj {f : String × Json} {fs : List (String × Json)} (hf : Reads f.2)
    (hfs : ∀ g ∈ fs, Reads g.2) : Reads (obj (f :: fs)) := by
  intro n rest hn _
  cases n with
  | zero => simp [print] at hn
  | succ n =>
    simp only [print, List.cons_append, List.length_cons, List.length_append] at hn
    have hread := readFields_print (k := f.1) hf hfs (n := n) (by omega) rest
    rw [← hread]
    simp only [print, quote, List.cons_append, List.append_assoc]
    exact read_fields _

theorem reads_of_proper {v : Json} (hv : Proper v) : Reads v := by
  induction hv with
  | null => exact reads_null
  | bool b => exact reads_bool b
  | int i => exact reads_int i
  | real ht => exact reads_real ht
  | str s => exact reads_str s
  | @arr items hitems ih =>
    cases items with
    | nil => exact reads_of_succ (List.cons_ne_nil _ _) fun _ _ _ => rfl
    | cons v vs =>
      obtain ⟨hv, hvs⟩ := List.forall_mem_cons.1 ih
      exact reads_arr (print_eq_cons (hitems v List.mem_cons_self)) hv hvs
  | @obj fields hfields ih =>
    cases fields with
    | nil => exact reads_of_succ (List.cons_ne_nil _ _) fun _ _ _ => rfl
    | cons f fs =>
      obtain ⟨hf, hfs⟩ := List.forall_mem_cons.1 ih
      exact reads_obj hf hfs

theorem parse?_compact {v : Json} (hv : Proper v) : parse? v.compact = some v := by
  have hread := reads_of_proper hv (v.print.length + 1) [] (by omega) (by simp [Ends])
  rw [List.append_nil] at hread
  simp [parse?, compact, hread, skip]

end Trees

end UsbTransfer.Json
