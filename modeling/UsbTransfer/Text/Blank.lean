namespace UsbTransfer.Text

/-- The code points of the property White_Space, as closed ranges. -/
def blankRanges : List (Nat × Nat) :=
  [(0x9, 0xD), (0x20, 0x20), (0x85, 0x85), (0xA0, 0xA0), (0x1680, 0x1680), (0x2000, 0x200A),
    (0x2028, 0x2029), (0x202F, 0x202F), (0x205F, 0x205F), (0x3000, 0x3000)]

def isWithin (ranges : List (Nat × Nat)) (c : Char) : Bool :=
  ranges.any fun (lo, hi) => lo ≤ c.toNat && c.toNat ≤ hi

def isBlank (c : Char) : Bool := isWithin blankRanges c

def trimBlank (s : List Char) : List Char :=
  ((s.dropWhile isBlank).reverse.dropWhile isBlank).reverse

theorem isBlank_of_mem_takeWhile {s : List Char} {c : Char} (h : c ∈ s.takeWhile isBlank) :
    isBlank c = true :=
  List.all_eq_true.1 (List.all_takeWhile (p := isBlank)) c h

theorem exists_trimBlank (s : List Char) :
    ∃ lead trail, s = lead ++ trimBlank s ++ trail ∧ ∀ c ∈ lead ++ trail, isBlank c = true := by
  let rest := (s.dropWhile isBlank).reverse
  refine ⟨s.takeWhile isBlank, (rest.takeWhile isBlank).reverse, ?_, ?_⟩
  · have hrest : trimBlank s ++ (rest.takeWhile isBlank).reverse = s.dropWhile isBlank := by
      rw [trimBlank, ← List.reverse_append, List.takeWhile_append_dropWhile, List.reverse_reverse]
    rw [List.append_assoc, hrest, List.takeWhile_append_dropWhile]
  · intro c hc
    rcases List.mem_append.1 hc with hc | hc
    · exact isBlank_of_mem_takeWhile hc
    · exact isBlank_of_mem_takeWhile (List.mem_reverse.1 hc)

theorem dropWhile_isBlank {text : List Char} (htext : ∀ c ∈ text, isBlank c = false) :
    text.dropWhile isBlank = text := by
  cases text with
  | nil => rfl
  | cons c text => rw [List.dropWhile_cons_of_neg (by simp [htext c List.mem_cons_self])]

theorem trimBlank_append {lead text trail : List Char}
    (hblank : ∀ c ∈ lead ++ trail, isBlank c = true) (htext : ∀ c ∈ text, isBlank c = false) :
    trimBlank (lead ++ text ++ trail) = text := by
  have hlead : ∀ c ∈ lead, isBlank c = true := fun c hc => hblank c (List.mem_append_left _ hc)
  have htrail : ∀ c ∈ trail.reverse, isBlank c = true := fun c hc =>
    hblank c (List.mem_append_right _ (List.mem_reverse.1 hc))
  have hreverse : ∀ c ∈ text.reverse, isBlank c = false := fun c hc =>
    htext c (List.mem_reverse.1 hc)
  rw [trimBlank, List.append_assoc, List.dropWhile_append_of_pos hlead]
  cases text with
  | nil =>
    have hall : (trail ++ []).dropWhile isBlank = [] :=
      List.dropWhile_append_of_pos fun c hc => hblank c (List.mem_append_right _ hc)
    rw [List.nil_append, ← List.append_nil trail, hall]
    rfl
  | cons c text =>
    have hfirst : (c :: text ++ trail).dropWhile isBlank = c :: text ++ trail := by
      rw [List.cons_append, List.dropWhile_cons_of_neg (by simp [htext c List.mem_cons_self])]
    rw [hfirst, List.reverse_append, List.dropWhile_append_of_pos htrail,
      dropWhile_isBlank hreverse, List.reverse_reverse]

end UsbTransfer.Text
