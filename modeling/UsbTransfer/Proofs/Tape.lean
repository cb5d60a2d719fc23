import UsbTransfer.Proofs.Answer
import UsbTransfer.Proofs.Slot

namespace UsbTransfer

structure Cue where
  serial : Nat
  key : UInt32 × Endpoint
  response : Response

/-- The script as a history tells it: what nobody has taken yet, and what was taken. -/
structure Tape where
  count : Nat := 0
  unread : List Cue := []
  given : List Nat := []

namespace Tape

def next (t : Tape) (key : UInt32 × Endpoint) : Option Cue := t.unread.find? (·.key = key)

def give (t : Tape) (key : UInt32 × Endpoint) : Tape :=
  { t with
    unread := t.unread.eraseP (·.key = key)
    given := t.given ++ ((t.next key).map (·.serial)).toList }

/-- Blocking transfers past the check of the connection take an answer, and accepted submissions. -/
def read (t : Tape) : Note → Tape
  | .scripted key response =>
    { t with count := t.count + 1, unread := t.unread ++ [⟨t.count, key, response⟩] }
  | .exchanged _ key => t.give key
  | .placed _ _ _ (some key) .done => t.give key
  | _ => t

def of (history : List Note) : Tape := history.foldl read {}

def answers (t : Tape) : List ((UInt32 × Endpoint) × Response) :=
  t.unread.map fun u => (u.key, u.response)

theorem of_snoc (history : List Note) (n : Note) : of (history ++ [n]) = (of history).read n := by
  simp [of]

structure Sound (t : Tape) : Prop where
  nodup : (t.given ++ t.unread.map (·.serial)).Nodup
  drawn : ∀ s ∈ t.given ++ t.unread.map (·.serial), s < t.count

variable {t : Tape}

theorem give_cases (t : Tape) (key : UInt32 × Endpoint) :
    t.give key = t ∨ ∃ u before after, t.next key = some u ∧ t.unread = before ++ u :: after ∧
      t.give key = { t with unread := before ++ after, given := t.given ++ [u.serial] } := by
  cases hn : t.next key with
  | none =>
    left
    have hnone : t.unread.eraseP (·.key = key) = t.unread := by
      rw [List.eraseP_eq_self_iff]
      simpa [next] using hn
    simp [give, hn, hnone]
  | some u =>
    right
    obtain ⟨hu, before, after, hs, hb⟩ := List.find?_eq_some_iff_append.1 hn
    have hk : u.key = key := by simpa using hu
    have he : t.unread.eraseP (·.key = key) = before ++ after := by
      rw [hs, List.eraseP_append_right _ (by simpa using hb)]
      simp [hk]
    exact ⟨u, before, after, rfl, hs, by simp [give, hn, he]⟩

theorem Sound.give (hs : t.Sound) (key : UInt32 × Endpoint) : (t.give key).Sound := by
  rcases t.give_cases key with he | ⟨u, before, after, -, hu, he⟩
  · rw [he]
    exact hs
  · have hp : (t.given ++ t.unread.map (·.serial)).Perm
        (t.given ++ [u.serial] ++ (before ++ after).map (·.serial)) := by
      rw [hu, List.append_assoc, List.map_append, List.map_append, List.map_cons]
      exact List.Perm.append_left _ List.perm_middle
    rw [he]
    exact ⟨hp.nodup_iff.1 hs.nodup, fun s hm => hs.drawn s (hp.mem_iff.2 hm)⟩

theorem Sound.read (hs : t.Sound) (n : Note) : (t.read n).Sound := by
  unfold Tape.read
  split
  · have hn := hs.nodup
    have hd := hs.drawn
    constructor
    · simp only [List.map_append, List.map_cons, List.map_nil, ← List.append_assoc]
      rw [List.nodup_append]
      refine ⟨hn, by simp, ?_⟩
      rintro a ha b hb rfl
      rw [List.mem_singleton.1 hb] at ha
      exact Nat.lt_irrefl _ (hd _ ha)
    · intro s hm
      simp only [List.map_append, List.map_cons, List.map_nil, ← List.append_assoc] at hm
      rcases List.mem_append.1 hm with hm | hm
      · exact Nat.lt_succ_of_lt (hd s hm)
      · rw [List.mem_singleton.1 hm]
        exact Nat.lt_succ_self _
  · exact hs.give _
  · exact hs.give _
  · exact hs

theorem sound_of (history : List Note) : (of history).Sound := by
  unfold of
  generalize ht : ({} : Tape) = t
  have hs : t.Sound := by
    subst ht
    exact ⟨.nil, by simp⟩
  clear ht
  induction history generalizing t with
  | nil => exact hs
  | cons n history ih => exact ih _ (hs.read n)

theorem answers_give (t : Tape) (key : UInt32 × Endpoint) :
    (t.give key).answers = t.answers.eraseP (·.1 = key) := by
  simp only [answers, give, List.eraseP_map]
  rfl

theorem find?_answers (t : Tape) (key : UInt32 × Endpoint) :
    (t.answers.find? (·.1 = key)).map (·.2) = (t.next key).map (·.response) := by
  simp only [answers, next, List.find?_map, Option.map_map]
  rfl

end Tape

namespace Host

variable {h h' : SimulatedHost} {history : List Note} {n : Note} {target : TargetId} {o : Order}
  {device : UInt32} {x : Transfer}

theorem Drafts.answerKey?_eq (hs : Slots h) (hd : h.Drafts target o device x) :
    h.answerKey? o = some (Simulated.answerKey device x) := by
  cases hd with
  | @transfer t r contracts id c ha hr =>
    have hl := lookup_of_admission ha
    simp only [answerKey?, hl]
    exact congrArg some (Transfer.answerKey_ofRoute h.nextTransfer r c.device).symm
  | @stream id b timeout s contracts connection c d hi ha hb hslot =>
    have hl := lookup_of_admission ha
    have ho := (hs.idle hi hslot).1
    have hk : (h.rebind target contracts connection id b timeout d).kind = .isochronous := ho.kind
    have he : (h.rebind target contracts connection id b timeout d).endpoint = s.endpoint :=
      ho.endpoint
    simp [answerKey?, hi, hl, Simulated.answerKey, hk, he]

theorem script_take (s : Simulated) (key : UInt32 × Endpoint) :
    (s.take key).1.script = s.script.eraseP (·.1 = key) := rfl

theorem script_move (hs : Slots h) (ht : h.controller.script = (Tape.of history).answers)
    (hm : Move h n h') : h'.controller.script = (Tape.of (history ++ [n])).answers := by
  rw [Tape.of_snoc]
  -- most steps touch neither the script nor the tape
  have hskip : ∀ {k : SimulatedHost}, k.controller.script = h.controller.script →
      (Tape.of history).read n = Tape.of history →
      k.controller.script = ((Tape.of history).read n).answers := by
    intro k hk hr
    rw [hr, hk, ht]
  cases hm with
  | upkeep u =>
    have hq : Quiet h (h.perform u) := quiet_perform u
    exact hskip hq.controller.script rfl
  | allocate t e packets given =>
    rcases h.allocate_cases t e packets given with he | ⟨packetLength, he⟩
    · rw [he]
      exact hskip rfl rfl
    · rw [he]
      exact hskip rfl rfl
  | script device e r =>
    change h.controller.script ++ [((device, e), r)] = _
    rw [ht]
    simp [Tape.read, Tape.answers]
  | exchange hc hd hr =>
    obtain ⟨sent, rfl⟩ := run_eq hc hd hr
    exact (script_take _ _).trans (by rw [ht]; exact (Tape.answers_give _ _).symm)
  | place target o =>
    rcases h.place_outcome target o with
      ⟨hp, hne⟩ | ⟨device, x, c, e, hd, hc, hp⟩ | ⟨device, x, hd, hp⟩
    · rw [hp]
      refine hskip rfl ?_
      unfold Tape.read
      split <;> simp_all
    · rw [hp] at hskip ⊢
      refine hskip (k := h.turnedAway x c e) hc.script ?_
      cases h.answerKey? o <;> rfl
    · rw [hp, hd.answerKey?_eq hs]
      exact (script_take _ _).trans (by rw [ht]; exact (Tape.answers_give _ _).symm)
  | poll hb => exact hskip rfl rfl
  | deliver hb hp hset =>
    exact hskip (congrArg Simulated.script (controller_deliver _ _ _ _ _)) rfl

theorem script_run (hr : Run fresh history h) :
    h.controller.script = (Tape.of history).answers := by
  induction hr with
  | refl => rfl
  | snoc hr hm ih => exact script_move (slots_fresh.run hr) ih hm

theorem take_run (hr : Run fresh history h) (key : UInt32 × Endpoint) :
    (h.controller.take key).2 = ((Tape.of history).next key).map (·.response) := by
  rw [← Tape.find?_answers, ← script_run hr]
  rfl

end Host

end UsbTransfer
