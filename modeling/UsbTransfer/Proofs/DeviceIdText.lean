import UsbTransfer.Cli.Argument
import UsbTransfer.Proofs.Numerals

namespace UsbTransfer

namespace Text

variable {s : List Char} {n k : Nat}

theorem not_marked_signed : ¬ Marked (Denotes 16) k ('+' :: s) n := fun h => by
  generalize hs : '+' :: s = text at h
  cases h with
  | bare h =>
    subst hs
    exact not_denotes_signed (by decide) h
  | marked hm h => rcases mem_hexMarks.1 hm with rfl | rfl <;> cases hs

end Text

namespace Cli

open Text (Numeral Denotes Marked hexMarks mem_hexMarks readNatural readNatural_eq_ok_iff
  not_numeral_append span_append span_self hexPadded denotes_hexPadded not_marked_signed)

variable {s rest : List Char} {x : Char} {j k n : Nat} {v p : UInt16}

def marks (x : Char) (k : Nat) : List Char := (List.replicate k ['0', x]).flatten

/-- Two numerals around the only colon, one behind `j` marks and one behind `k`. -/
def IdPair (j k : Nat) (s : List Char) (v p : Nat) : Prop :=
  s.count ':' = 1 ∧
    ∃ a b, s = a ++ ':' :: b ∧ Marked (Numeral 16) j a v ∧ Marked (Numeral 16) k b p

def printId (v p : UInt16) : String :=
  String.ofList (hexPadded 4 v.toNat ++ ':' :: hexPadded 4 p.toNat)

section Stripping

theorem marks_succ (x : Char) (k : Nat) : marks x (k + 1) = ['0', x] ++ marks x k := rfl

theorem stripRadix_marks (x : Char) (k : Nat) (s : List Char) :
    stripRadix x (marks x k ++ s) = stripRadix x s := by
  induction k with
  | zero => rfl
  | succ k ih =>
    rw [marks_succ, List.append_assoc, List.cons_append, List.cons_append, List.nil_append,
      stripRadix, if_pos rfl, ih]

theorem stripRadix_of_unmarked (hs : ∀ rest, s ≠ '0' :: x :: rest) : stripRadix x s = s := by
  unfold stripRadix
  split
  · rename_i c rest
    rw [if_neg]
    rintro rfl
    exact hs rest rfl
  · rfl

theorem exists_stripRadix (x : Char) (s : List Char) : ∃ k, s = marks x k ++ stripRadix x s := by
  fun_induction stripRadix x s with
  | case1 rest ih =>
    obtain ⟨k, hk⟩ := ih
    refine ⟨k + 1, ?_⟩
    rw [marks_succ, List.append_assoc, ← hk]
    rfl
  | case2 | case3 => exact ⟨0, rfl⟩

theorem Numeral.unmarked (hs : Numeral 16 s n) (hm : ['0', x] ∈ hexMarks) (rest : List Char) :
    s ≠ '0' :: x :: rest := by
  rintro rfl
  exact not_numeral_append (by decide) hm hs

/-- The marks of one kind come before those of the other. -/
theorem strip_eq_iff (hs : Numeral 16 rest n) :
    stripRadix 'X' (stripRadix 'x' s) = rest ↔ ∃ j k, s = marks 'x' j ++ (marks 'X' k ++ rest) := by
  constructor
  · rintro rfl
    obtain ⟨j, hj⟩ := exists_stripRadix 'x' s
    obtain ⟨k, hk⟩ := exists_stripRadix 'X' (stripRadix 'x' s)
    exact ⟨j, k, by rw [← hk, ← hj]⟩
  · rintro ⟨j, k, rfl⟩
    have hlower : ∀ t, marks 'X' k ++ rest ≠ '0' :: 'x' :: t := by
      cases k with
      | zero => exact Numeral.unmarked hs (by decide)
      | succ k => exact fun t ht => absurd (List.cons.inj (List.cons.inj ht).2).1 (by decide)
    rw [stripRadix_marks, stripRadix_of_unmarked hlower, stripRadix_marks,
      stripRadix_of_unmarked (Numeral.unmarked hs (by decide))]

end Stripping

section Ids

theorem parseId_eq_ok_iff_strip :
    parseId s = .ok v ↔ Numeral 16 (stripRadix 'X' (stripRadix 'x' s)) v.toNat := by
  have hiff : ∀ n, readNatural 16 UInt16.size (stripRadix 'X' (stripRadix 'x' s)) = .ok n ↔
      Numeral 16 (stripRadix 'X' (stripRadix 'x' s)) n ∧ n < UInt16.size := fun n =>
    readNatural_eq_ok_iff (by decide) (by decide)
  simp only [parseId]
  constructor
  · intro h
    split at h
    · rename_i n hn
      obtain rfl := Except.ok.inj h
      obtain ⟨hnumeral, hlt⟩ := (hiff n).1 hn
      rwa [UInt16.toNat_ofNat_of_lt' hlt]
    · cases h
  · intro h
    rw [(hiff v.toNat).2 ⟨h, v.toNat_lt⟩]
    exact congrArg Except.ok v.ofNat_toNat

theorem parseId_eq_ok_iff : parseId s = .ok v ↔
    ∃ j k rest, s = marks 'x' j ++ (marks 'X' k ++ rest) ∧ Numeral 16 rest v.toNat := by
  rw [parseId_eq_ok_iff_strip]
  constructor
  · intro h
    obtain ⟨j, k, hs⟩ := (strip_eq_iff h).1 rfl
    exact ⟨j, k, _, hs, h⟩
  · rintro ⟨j, k, rest, hs, h⟩
    rwa [(strip_eq_iff h).2 ⟨j, k, hs⟩]

theorem marked_marks_append (hx : ['0', x] ∈ hexMarks) (hs : Marked (Numeral 16) j s n) (k : Nat) :
    Marked (Numeral 16) (j + k) (marks x k ++ s) n := by
  induction k with
  | zero => exact hs
  | succ k ih =>
    rw [marks_succ, List.append_assoc]
    exact .marked hx ih

theorem exists_marked_of_parseId (h : parseId s = .ok v) :
    ∃ k, Marked (Numeral 16) k s v.toNat := by
  obtain ⟨j, k, rest, rfl, hrest⟩ := parseId_eq_ok_iff.1 h
  exact ⟨0 + k + j,
    marked_marks_append (by decide) (marked_marks_append (by decide) (.bare hrest) k) j⟩

theorem parseId_of_marked (hk : k ≤ 1) (h : Marked (Numeral 16) k s v.toNat) :
    parseId s = .ok v := by
  rw [parseId_eq_ok_iff]
  cases h with
  | bare h => exact ⟨0, 0, s, rfl, h⟩
  | marked hm h =>
    cases h with
    | marked => omega
    | bare h =>
      rcases mem_hexMarks.1 hm with rfl | rfl
      · exact ⟨1, 0, _, rfl, h⟩
      · exact ⟨0, 1, _, rfl, h⟩

theorem Marked.not_colon (h : Marked (Numeral 16) k s n) : ':' ∉ s := fun hc =>
  absurd (h.mem_chars hc) (by decide)

end Ids

section Pairs

variable {t : String} {a b : List Char}

theorem parseDeviceId_of_split (ht : t.toList = a ++ ':' :: b) (ha : ':' ∉ a) :
    parseDeviceId t = do return (← parseId a, ← parseId b) := by
  have hspan : (a ++ ':' :: b).span (fun c => decide (c ≠ ':')) = (a, ':' :: b) := by
    refine span_append (fun c hc => ?_) (by simp)
    rw [decide_eq_true_eq]
    rintro rfl
    exact ha hc
  unfold parseDeviceId
  rw [ht, hspan]

theorem parseDeviceId_of_not_mem (ht : ':' ∉ t.toList) : parseDeviceId t = .error (.device t) := by
  have hspan : t.toList.span (fun c => decide (c ≠ ':')) = (t.toList, []) := by
    refine span_self fun c hc => ?_
    rw [decide_eq_true_eq]
    rintro rfl
    exact ht hc
  unfold parseDeviceId
  rw [hspan]

theorem parseDeviceId_eq_ok_iff : parseDeviceId t = .ok (v, p) ↔
    ∃ a b, t.toList = a ++ ':' :: b ∧ ':' ∉ a ∧ parseId a = .ok v ∧ parseId b = .ok p := by
  have hpair : ∀ a b, (do return (← parseId a, ← parseId b)) = Except.ok (v, p) ↔
      parseId a = .ok v ∧ parseId b = .ok p := fun a b => by
    cases parseId a <;> cases parseId b <;> simp [bind, Except.bind, pure, Except.pure]
  constructor
  · intro h
    by_cases hcolon : ':' ∈ t.toList
    · obtain ⟨a, b, ht, ha⟩ := List.eq_append_cons_of_mem hcolon
      rw [parseDeviceId_of_split ht ha, hpair] at h
      exact ⟨a, b, ht, ha, h⟩
    · rw [parseDeviceId_of_not_mem hcolon] at h
      cases h
  · rintro ⟨a, b, ht, ha, h⟩
    rw [parseDeviceId_of_split ht ha, hpair]
    exact h

theorem exists_idPair_of_parseDeviceId (h : parseDeviceId t = .ok (v, p)) :
    ∃ j k, IdPair j k t.toList v.toNat p.toNat := by
  obtain ⟨a, b, ht, ha, hv, hp⟩ := parseDeviceId_eq_ok_iff.1 h
  obtain ⟨j, hv⟩ := exists_marked_of_parseId hv
  obtain ⟨k, hp⟩ := exists_marked_of_parseId hp
  refine ⟨j, k, ?_, a, b, ht, hv, hp⟩
  rw [ht, List.count_append, List.count_cons_self, List.count_eq_zero.2 ha,
    List.count_eq_zero.2 (Marked.not_colon hp)]

theorem parseDeviceId_of_idPair (hj : j ≤ 1) (hk : k ≤ 1)
    (h : IdPair j k t.toList v.toNat p.toNat) : parseDeviceId t = .ok (v, p) := by
  obtain ⟨-, a, b, ht, hv, hp⟩ := h
  exact parseDeviceId_eq_ok_iff.2
    ⟨a, b, ht, Marked.not_colon hv, parseId_of_marked hj hv, parseId_of_marked hk hp⟩

theorem numeral_hexPadded (v : UInt16) : Numeral 16 (hexPadded 4 v.toNat) v.toNat := by
  have hlt : v.toNat < 16 ^ 4 := v.toNat_lt
  have h := denotes_hexPadded 3 v.toNat
  rw [Nat.mod_eq_of_lt hlt] at h
  exact .bare h

theorem parseDeviceId_printId (v p : UInt16) : parseDeviceId (printId v p) = .ok (v, p) := by
  have hv := numeral_hexPadded v
  have hp := numeral_hexPadded p
  refine parseDeviceId_eq_ok_iff.2 ⟨hexPadded 4 v.toNat, hexPadded 4 p.toNat, String.toList_ofList,
    Marked.not_colon (.bare hv), parseId_of_marked (Nat.zero_le 1) (.bare hv),
    parseId_of_marked (Nat.zero_le 1) (.bare hp)⟩

/-- A vendor and a product are two hexadecimal numerals around the only colon, each behind marks or
none. A pair with at most one mark on each side is always read, and so is what is printed. -/
theorem device_ids_accepted (t : String) (v p : UInt16) :
    (parseDeviceId t = .ok (v, p) → ∃ j k, IdPair j k t.toList v.toNat p.toNat) ∧
    (∀ j ≤ 1, ∀ k ≤ 1, IdPair j k t.toList v.toNat p.toNat → parseDeviceId t = .ok (v, p)) ∧
    parseDeviceId (printId v p) = .ok (v, p) :=
  ⟨exists_idPair_of_parseDeviceId, fun _ hj _ hk => parseDeviceId_of_idPair hj hk,
    parseDeviceId_printId v p⟩

theorem signed_pair_accepted : IdPair 1 0 "0X+12:3a".toList 0x12 0x3a ∧
    parseDeviceId "0X+12:3a" = .ok (0x12, 0x3a) := by
  have hvendor : Marked (Numeral 16) 1 ['0', 'X', '+', '1', '2'] 0x12 :=
    .marked (m := ['0', 'X']) (by decide) (.bare (.signed (denotes_hexPadded 1 0x12)))
  have hproduct : Marked (Numeral 16) 0 ['3', 'a'] 0x3a := .bare (.bare (denotes_hexPadded 1 0x3a))
  have hpair : IdPair 1 0 "0X+12:3a".toList 0x12 0x3a :=
    ⟨by decide +kernel, _, _, by decide +kernel, hvendor, hproduct⟩
  exact ⟨hpair, (device_ids_accepted "0X+12:3a" 0x12 0x3a).2.1 1 (by decide) 0 (by decide) hpair⟩

theorem sign_accepted : parseDeviceId "+1234:5678" = .ok (0x1234, 0x5678) ∧
    ¬ ∃ j k a b n m, "+1234:5678".toList = a ++ ':' :: b ∧
      Marked (Denotes 16) j a n ∧ Marked (Denotes 16) k b m := by
  refine ⟨by decide +kernel, ?_⟩
  rintro ⟨j, k, a, b, n, m, ht, ha, -⟩
  have hchars : "+1234:5678".toList = ['+', '1', '2', '3', '4', ':', '5', '6', '7', '8'] := by
    decide +kernel
  rw [hchars] at ht
  cases a with
  | nil => cases ht
  | cons c a =>
    obtain rfl := (List.cons.inj ht).1
    exact not_marked_signed ha

end Pairs

end Cli

end UsbTransfer
