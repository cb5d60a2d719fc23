import UsbTransfer.Config.File
import UsbTransfer.Proofs.Printed
import Mathlib.Tactic.Conv
import Mathlib.Tactic.DefEqTransformations

namespace UsbTransfer

namespace Disk

variable {d d' : Disk} {names other here place : List String} {e : Entry} {parts : List String}
  {p : Path} {text : String}

/-- A file can be written to the path: no file is in the way of the directories above it, and it is
no directory. -/
def Takes (d : Disk) (p : Path) : Prop :=
  ∃ made place, d.makeDirectories? [] p.parent.parts = some made ∧
    made.follow? [] p.parts = some place ∧ made.entry? place ≠ some .directory

theorem entry?_put_self (hn : names ≠ []) : entry? (d.put names e) names = some e := by
  simp [put, entry?, hn]

theorem lookup_filter_of_ne (hn : other ≠ names) (entries : List (List String × Entry)) :
    (entries.filter (·.1 ≠ names)).lookup other = entries.lookup other := by
  induction entries with
  | nil => rfl
  | cons x entries ih =>
    obtain ⟨k, x⟩ := x
    by_cases hk : k = names
    · subst hk
      have hne : (other == k) = false := by simpa using hn
      rw [List.filter_cons_of_neg (by simp), ih, List.lookup_cons, hne]
    · rw [List.filter_cons_of_pos (by simpa using hk), List.lookup_cons, List.lookup_cons, ih]

theorem entry?_put_of_ne (hn : other ≠ names) : entry? (d.put names e) other = d.entry? other := by
  have hne : (other == names) = false := by simpa using hn
  simp only [put, entry?, List.lookup_cons, hne, lookup_filter_of_ne hn]

theorem follow?_put (hp : d.entry? names ≠ some .directory)
    (hf : d.follow? here parts = some place) : (d.put names e).follow? here parts = some place := by
  induction parts generalizing here with
  | nil => exact hf
  | cons part parts ih =>
    have hhere : d.entry? here = some .directory := by
      by_contra hne
      simp [follow?, hne] at hf
    have hkept : entry? (d.put names e) here = some .directory := by
      rw [entry?_put_of_ne, hhere]
      rintro rfl
      exact hp hhere
    simp only [follow?, hhere, hkept, ne_eq, not_true_eq_false, if_false] at hf ⊢
    split
    · rename_i hpart
      rw [if_pos hpart] at hf
      exact ih hf
    · rename_i hpart
      rw [if_neg hpart] at hf
      split
      · rename_i hdots
        rw [if_pos hdots] at hf
        exact ih hf
      · rename_i hdots
        rw [if_neg hdots] at hf
        exact ih hf

theorem read?_of_write? (hw : d.write? p text = some d') : d'.read? p = some text := by
  obtain ⟨place, hf, hput⟩ := Option.bind_eq_some_iff.1 hw
  split at hput
  · cases hput
  · rename_i hp
    obtain rfl := Option.some.inj hput
    have hne : place ≠ [] := by
      rintro rfl
      exact hp rfl
    simp only [read?, at?, follow?_put hp hf, Option.bind_some, entry?_put_self hne]

end Disk

namespace Config

variable {c : Config} {n : Nat}

/-- The numbers that no check bounds from above are integers of the format. -/
structure Representable (c : Config) : Prop where
  pollInterval : Toml.InRange c.events.pollInterval.toNat
  packets : Toml.InRange c.isochronous.packets.toNat
  packetSize : ∀ n ∈ c.isochronous.packetSize, Toml.InRange n.toNat

def sections (c : Config) : List (String × List (String × Toml)) :=
  [("logging", [("level", .str c.logging.level)]),
    ("transfers", [("default_timeout_ms", .int c.transfers.timeout.toNat),
      ("control_buffer_size", .int c.transfers.controlBuffer.toNat)]),
    ("events", [("poll_interval_ms", .int c.events.pollInterval.toNat),
      ("auto_start_pump", .bool c.events.autoStart)]),
    ("isochronous", ("default_packets", .int c.isochronous.packets.toNat) ::
      (c.isochronous.packetSize.map fun n => ("packet_size", .int n.toNat)).toList)]

theorem integer?_of_inRange (hn : Toml.InRange n) : integer? n = some (.int n) := if_pos hn

theorem integer?_of_not_inRange (hn : ¬ Toml.InRange n) : integer? n = none := if_neg hn

theorem inRange_timeout (c : Config) : Toml.InRange c.transfers.timeout.toNat := by
  have hlt := c.transfers.timeout.toNat_lt
  unfold Toml.InRange
  omega

theorem Valid.inRange_controlBuffer (hv : c.Valid) :
    Toml.InRange c.transfers.controlBuffer.toNat := by
  have hle := hv.controlBuffer
  unfold longestControlStage at hle
  unfold Toml.InRange
  omega

theorem toSections?_of_representable (hv : c.Valid) (hr : c.Representable) :
    c.toSections? = some c.sections := by
  unfold toSections? sections
  rw [integer?_of_inRange c.inRange_timeout, integer?_of_inRange hv.inRange_controlBuffer,
    integer?_of_inRange hr.pollInterval, integer?_of_inRange hr.packets]
  cases hsize : c.isochronous.packetSize with
  | none => rfl
  | some n =>
    simp only [integer?_of_inRange (hr.packetSize n hsize)]
    rfl

theorem toSections?_eq_none (hv : c.Valid) (hr : ¬ c.Representable) : c.toSections? = none := by
  unfold toSections?
  rw [integer?_of_inRange c.inRange_timeout, integer?_of_inRange hv.inRange_controlBuffer]
  by_cases hinterval : Toml.InRange c.events.pollInterval.toNat
  · by_cases hpackets : Toml.InRange c.isochronous.packets.toNat
    · rw [integer?_of_inRange hinterval, integer?_of_inRange hpackets]
      cases hsize : c.isochronous.packetSize with
      | none => exact absurd ⟨hinterval, hpackets, by simp [hsize]⟩ hr
      | some n =>
        have hn : ¬ Toml.InRange n.toNat := fun hn =>
          hr ⟨hinterval, hpackets, by simpa [hsize] using hn⟩
        simp only [integer?_of_not_inRange hn]
        rfl
    · rw [integer?_of_inRange hinterval, integer?_of_not_inRange hpackets]
      rfl
  · rw [integer?_of_not_inRange hinterval]
    rfl

theorem u64?_toNat (n : UInt64) : u64? (.int n.toNat) = some n := by
  have hn : n.toNat < wordSize := n.toNat_lt
  have hbelow : (Toml.int n.toNat).below? wordSize = some n.toNat := if_pos hn
  rw [u64?, hbelow, Option.map_some, UInt64.ofNat_toNat]

theorem ofToml?_logging (c : Config) :
    Logging.ofToml? (.table [("level", .str c.logging.level)]) = some c.logging := rfl

theorem ofToml?_transfers (c : Config) :
    Transfers.ofToml? (.table [("default_timeout_ms", .int c.transfers.timeout.toNat),
      ("control_buffer_size", .int c.transfers.controlBuffer.toNat)]) = some c.transfers := by
  have ht : (Toml.int c.transfers.timeout.toNat).below? UInt32.size =
      some c.transfers.timeout.toNat := if_pos c.transfers.timeout.toNat_lt
  simp [Transfers.ofToml?, Toml.record?, List.lookup_cons, field, u64?_toNat, ht]

theorem ofToml?_events (c : Config) :
    Events.ofToml? (.table [("poll_interval_ms", .int c.events.pollInterval.toNat),
      ("auto_start_pump", .bool c.events.autoStart)]) = some c.events := by
  simp [Events.ofToml?, Toml.record?, List.lookup_cons, field, u64?_toNat, Toml.bool?]

theorem ofToml?_isochronous (c : Config) :
    Isochronous.ofToml? (.table (("default_packets", .int c.isochronous.packets.toNat) ::
      (c.isochronous.packetSize.map fun n => ("packet_size", Toml.int n.toNat)).toList)) =
        some c.isochronous := by
  obtain ⟨packets, _ | n⟩ := c.isochronous <;>
    simp [Isochronous.ofToml?, Toml.record?, List.lookup_cons, field, u64?_toNat]

theorem ofToml?_sections (c : Config) :
    ofToml? (.table (c.sections.map fun t => (t.1, .table t.2))) = some c := by
  have hlogging := ofToml?_logging c
  have htransfers := ofToml?_transfers c
  have hevents := ofToml?_events c
  have hisochronous := ofToml?_isochronous c
  simp [ofToml?, sections, Toml.record?, List.lookup_cons, field, hlogging, htransfers, hevents,
    hisochronous]

theorem plain_of_mem_levels {level : String} (hl : level ∈ levels) : Toml.Plain (.str level) := by
  have hall : ∀ l ∈ levels, l.toList.all Toml.isUnescaped = true := by decide +kernel
  exact List.all_eq_true.1 (hall level hl)

theorem plain_of_inRange (hn : Toml.InRange n) : Toml.Plain (.int n) :=
  ⟨Int.natCast_nonneg n, hn⟩

theorem section_sections (hv : c.Valid) (hr : c.Representable) :
    ∀ t ∈ c.sections, Toml.Section t := by
  have hlevel := plain_of_mem_levels hv.level
  have htimeout := plain_of_inRange c.inRange_timeout
  have hbuffer := plain_of_inRange hv.inRange_controlBuffer
  have hinterval := plain_of_inRange hr.pollInterval
  have hpackets := plain_of_inRange hr.packets
  have hbool : Toml.Plain (.bool c.events.autoStart) := trivial
  simp only [sections, List.forall_mem_cons, List.not_mem_nil, false_imp_iff, implies_true,
    and_true]
  refine ⟨?logging, ?transfers, ?events, ?isochronous⟩
  case logging =>
    exact .of_keys ["level"] rfl (by decide +kernel) (by decide) (by simpa using hlevel)
  case transfers =>
    exact .of_keys ["default_timeout_ms", "control_buffer_size"] rfl (by decide +kernel) (by decide)
      (by simpa using ⟨htimeout, hbuffer⟩)
  case events =>
    exact .of_keys ["poll_interval_ms", "auto_start_pump"] rfl (by decide +kernel) (by decide)
      (by simpa using ⟨hinterval, hbool⟩)
  case isochronous =>
    cases hsize : c.isochronous.packetSize with
    | none =>
      exact .of_keys ["default_packets"] rfl (by decide +kernel) (by decide)
        (by simpa using hpackets)
    | some n =>
      have hn := plain_of_inRange (hr.packetSize n hsize)
      exact .of_keys ["default_packets", "packet_size"] rfl (by decide +kernel) (by decide)
        (by simpa using ⟨hpackets, hn⟩)

theorem print?_of_representable (hv : c.Valid) (hr : c.Representable) :
    ∃ text, c.print? = some text ∧ parse? text = some c := by
  have hnames : (c.sections.map (·.1)).Nodup := by
    have hmap : c.sections.map (·.1) = ["logging", "transfers", "events", "isochronous"] := rfl
    rw [hmap]
    decide
  refine ⟨_, by rw [print?, toSections?_of_representable hv hr, Option.map_some], ?_⟩
  rw [parse?, Toml.parse?_printSections (section_sections hv hr) hnames, Option.bind_some]
  exact ofToml?_sections c

theorem print?_eq_none (hv : c.Valid) (hr : ¬ c.Representable) : c.print? = none := by
  rw [print?, toSections?_eq_none hv hr, Option.map_none]

/-- A valid configuration whose numbers the format has is written to every file that can be written,
and read again from there under every path that leads there. One with a larger number is not
written. -/
theorem saved_and_loaded {d : Disk} {p : Path} (hc : c.fault? = none) (hp : d.Takes p) :
    (c.Representable → ∃ d', c.save d p = (d', .ok ()) ∧
      ∀ (e : Environment) (q : Path), e.expand q = p → load e d' (some q) = .ok c) ∧
    (¬ c.Representable → c.save d p = (d, .error .unprintable)) := by
  have hv := fault?_eq_none_iff.1 hc
  refine ⟨fun hr => ?_, fun hr => save_of_print? d p (print?_eq_none hv hr)⟩
  obtain ⟨text, hprint, hparse⟩ := print?_of_representable hv hr
  obtain ⟨made, place, hmade, hfollow, hplace⟩ := hp
  have hwrite : made.write? p text = some (made.put place (.text text)) := by
    rw [Disk.write?, hfollow, Option.bind_some, if_neg hplace]
  have hsave : c.save d p = (made.put place (.text text), .ok ()) := by
    simp only [save_of_print? d p hprint, saveText, hmade, hwrite]
  refine ⟨_, hsave, ?_⟩
  rintro e q rfl
  simp only [load, read, Disk.read?_of_write? hwrite, hparse, hc]

def slow : Config where
  logging := { level := "debug" }
  events := { pollInterval := 60000, autoStart := true }
  isochronous := { packets := 4, packetSize := some 192 }

theorem slow_saved_and_loaded : slow.fault? = none ∧ ({} : Disk).Takes "/home/u/host.toml" ∧
    ∃ d, slow.save {} "/home/u/host.toml" = (d, .ok ()) ∧
      load { home := some "/home/u" } d (some "~/host.toml") = .ok slow := by
  have hc : slow.fault? = none := by decide
  have hp : ({} : Disk).Takes "/home/u/host.toml" := by
    have hparts : Path.parts "/home/u/host.toml" = ["", "home", "u", "host.toml"] := by
      decide +kernel
    have habove : (Path.parent "/home/u/host.toml").parts = ["", "home", "u"] := by decide +kernel
    exact ⟨_, ["home", "u", "host.toml"], by rw [habove]; rfl, by rw [hparts]; rfl, by decide⟩
  have hr : slow.Representable := by
    refine ⟨by decide, by decide, ?_⟩
    rintro n ⟨⟩
    decide
  have hexpand : Environment.expand { home := some "/home/u" } "~/host.toml" =
    "/home/u/host.toml" := rfl
  obtain ⟨d, hsave, hload⟩ := (saved_and_loaded hc hp).1 hr
  exact ⟨hc, hp, d, hsave, hload _ _ hexpand⟩

def endless : Config where
  events := { pollInterval := 9223372036854775808 }

theorem endless_unsaved : endless.fault? = none ∧ ({} : Disk).Takes "/host.toml" ∧
    endless.save {} "/host.toml" = ({}, .error .unprintable) := by
  have hc : endless.fault? = none := by decide
  have hp : ({} : Disk).Takes "/host.toml" := by
    have hparts : Path.parts "/host.toml" = ["", "host.toml"] := by decide +kernel
    have habove : (Path.parent "/host.toml").parts = ["", ""] := by decide +kernel
    exact ⟨_, ["host.toml"], by rw [habove]; rfl, by rw [hparts]; rfl, by decide⟩
  have hr : ¬ endless.Representable := fun hr => absurd hr.pollInterval (by decide)
  exact ⟨hc, hp, save_of_print? _ _ (print?_eq_none (fault?_eq_none_iff.1 hc) hr)⟩

end Config

end UsbTransfer
