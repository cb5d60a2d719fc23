import UsbTransfer.Cli.Report

namespace UsbTransfer

namespace Outcome

variable {o : Outcome} {n : Nat}

def Fits (o : Outcome) : Prop := ∀ n, o = .ok n → n < wordSize / 2

theorem code_neg_iff_of_fits (ho : o.Fits) : o.code < 0 ↔ ∃ e, o = .error e := by
  cases o with
  | ok n =>
    have hcode := code_of_lt (ho n rfl)
    constructor
    · intro hneg
      omega
    · rintro ⟨e, ⟨⟩⟩
  | error e => exact ⟨fun _ => ⟨e, rfl⟩, fun _ => e.code_neg⟩

theorem ofCode_code_of_fits (ho : o.Fits) : ofCode o.code = o := by
  cases o with
  | ok n =>
    have hcode := code_of_lt (ho n rfl)
    have hnonneg : ¬ (n : Int) < 0 := by omega
    rw [hcode, ofCode, if_neg hnonneg, Int.toNat_natCast]
  | error e => exact ofCode_code_error e

theorem code_neg_of_le (hn : wordSize / 2 ≤ n) (hword : n < wordSize) : code (.ok n) < 0 := by
  rw [code_of_le hn hword]
  omega

theorem ofCode_of_neg {c : Int} (hc : c < 0) : ofCode c = .error (UsbError.ofCode c) := if_pos hc

/-- An outcome is one signed word, on its own and in a report. It is read back as it was, and the
word is negative for errors alone, where its count is below `2 ^ 63`. From there on the word of a
count is negative too, and read back as an error. -/
theorem code_read_back (r : Cli.Report) (ho : ∀ n, o = .ok n → n < wordSize) :
    (r.withOutcome o).status = o.code ∧
    (o.Fits → (o.code < 0 ↔ ∃ e, o = .error e) ∧ ofCode o.code = o) ∧
    (∀ n, o = .ok n → wordSize / 2 ≤ n →
      o.code = n - wordSize ∧ o.code < 0 ∧ ofCode o.code = .error (UsbError.ofCode o.code)) := by
  refine ⟨r.status_withOutcome o, fun hfits => ?fitting, ?wrapped⟩
  case fitting => exact ⟨code_neg_iff_of_fits hfits, ofCode_code_of_fits hfits⟩
  case wrapped =>
    rintro n rfl hn
    have hneg := code_neg_of_le hn (ho n rfl)
    exact ⟨code_of_le hn (ho n rfl), hneg, ofCode_of_neg hneg⟩

theorem wrapped_read_back : wordSize - 7 < wordSize ∧
    (Cli.Report.withOutcome { operation := "bulk", device := ⟨0, 0⟩, asynchronous := false }
      (.ok (wordSize - 7))).status = -7 ∧
    ofCode (code (.ok (wordSize - 7))) = .error .timeout := by
  have hword : ∀ n, (.ok (wordSize - 7) : Outcome) = .ok n → n < wordSize := by
    rintro n ⟨⟩
    decide
  obtain ⟨hstatus, -, hwrapped⟩ := code_read_back
    { operation := "bulk", device := ⟨0, 0⟩, asynchronous := false } hword
  obtain ⟨hcode, -, hread⟩ := hwrapped _ rfl (by decide)
  have hseven : ((wordSize - 7 : Nat) : Int) - wordSize = -7 := rfl
  rw [hseven] at hcode
  exact ⟨by decide, hstatus.trans hcode, by rw [hread, hcode]; rfl⟩

/-- The first count that is taken for an error. -/
theorem half_word_misread : wordSize / 2 < wordSize ∧ code (.ok (wordSize / 2)) < 0 ∧
    ofCode (code (.ok (wordSize / 2))) ≠ .ok (wordSize / 2) := by
  have hneg : code (.ok (wordSize / 2)) < 0 := code_neg_of_le Nat.le.refl (by decide)
  refine ⟨by decide, hneg, ?_⟩
  rw [ofCode_of_neg hneg]
  rintro ⟨⟩

end Outcome

end UsbTransfer
