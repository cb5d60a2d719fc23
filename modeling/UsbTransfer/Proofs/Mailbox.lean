import UsbTransfer.Proofs.Audience
import UsbTransfer.Proofs.Conclusion
import UsbTransfer.Proofs.Reference

namespace UsbTransfer

namespace Channel

variable {α : Type} {c c' : Channel α} {m : α}

def unread (c : Channel α) : List α := c.queue ++ c.waiting

def Orderly (c : Channel α) : Prop := c.waiting = [] ∨ bound ≤ c.queue.length

theorem Orderly.send (ho : c.Orderly) (hr : 0 < c.receivers) (m : α) :
    (c.send m).1.Orderly ∧ (c.send m).1.unread = c.unread ++ [m] ∧
      (c.send m).1.receivers = c.receivers := by
  have hlive : ¬ c.receivers = 0 := Nat.ne_of_gt hr
  unfold Channel.send
  rw [if_neg hlive]
  by_cases hf : c.IsFull
  · rw [if_pos hf]
    exact ⟨.inr hf, (List.append_assoc _ _ _).symm, rfl⟩
  · have hw : c.waiting = [] := ho.resolve_right hf
    rw [if_neg hf]
    refine ⟨.inl hw, ?_, rfl⟩
    simp [unread, hw]

theorem Orderly.receive (ho : c.Orderly) (hr : c.receive? = some (c', m)) :
    c.unread = m :: c'.unread ∧ c'.Orderly ∧ c'.receivers = c.receivers := by
  unfold receive? at hr
  split at hr
  · cases hr
  · rename_i q hq
    obtain ⟨rfl, rfl⟩ := Prod.mk.inj (Option.some.inj hr)
    refine ⟨?_, ?_, rfl⟩
    · simp only [unread, hq, List.append_assoc, List.take_append_drop, List.cons_append]
    · -- one message leaves the queue, and one that waited takes its place
      cases hw : c.waiting with
      | nil => exact .inl rfl
      | cons w ws =>
        right
        have hlen : bound ≤ c.queue.length := ho.resolve_left (by simp [hw])
        simpa [hq, hw] using hlen

theorem Orderly.unread_eq_nil (ho : c.Orderly) (hr : c.receive? = none) : c.unread = [] := by
  unfold receive? at hr
  split at hr
  · rename_i hq
    have hw : c.waiting = [] := ho.resolve_right (by simp [hq, bound])
    simp [unread, hq, hw]
  · cases hr

end Channel

def Note.Reads (t : TargetId) : Note → Prop
  | .upkeep (.receive u) | .upkeep (.dropReceiver u) => u = t
  | _ => False

/-- A completion as a reader has it, with what had happened and what the buffers held when it was
read. -/
structure Reading where
  before : List Note
  buffers : Buffers
  completion : Completion

/-- What is read of a completion, against what was told when it was announced. The bytes of a stream
are those of its buffer, which others may have used since. -/
structure Echoes (g : Reading) (d : Delivery) : Prop where
  kind : g.completion.kind = d.completion.kind
  result : g.completion.result = d.completion.result
  plain : d.completion.kind ≠ .isochronous → g.completion = d.completion
  shared : d.completion.kind = .isochronous → ∃ b earlier between,
    g.before = earlier ++ .notified d :: between ∧ BoundIn earlier d.transfer b ∧
      g.completion = (Message.filled (some b) d.completion.result).read g.buffers ∧
        (d.completion.valid.isSome → (∀ n ∈ between, ¬ n.Alters g.before b) →
          g.completion = d.completion)

inductive Sent (history : List Note) (buffers : Buffers) : Message → Delivery → Prop
  | received {kind : TransferKind} {data : Option Bytes} {result : Outcome} {d : Delivery}
      (hk : kind ≠ .isochronous) (hd : d.completion = { kind, data, result }) :
      Sent history buffers (.received kind data result) d
  | filled {b : BufferId} {result : Outcome} {earlier between : List Note} {d : Delivery}
      (he : history = earlier ++ .notified d :: between) (hb : BoundIn earlier d.transfer b)
      (hk : d.completion.kind = .isochronous) (hr : d.completion.result = result)
      (hc : d.completion.valid.isSome → (∀ n ∈ between, ¬ n.Alters history b) →
        (Message.filled (some b) result).read buffers = d.completion) :
      Sent history buffers (.filled (some b) result) d

theorem Sent.echoes {history : List Note} {buffers : Buffers} {m : Message} {d : Delivery}
    (hs : Sent history buffers m d) : Echoes ⟨history, buffers, m.read buffers⟩ d := by
  cases hs with
  | received hk hd =>
    have hread := hd.symm
    exact ⟨congrArg _ hread, congrArg _ hread, fun _ => hread,
      fun hi => absurd ((congrArg _ hread).trans hi) hk⟩
  | filled he hb hk hr hc =>
    exact ⟨hk.symm, hr.symm, fun hne => absurd hk hne, fun _ => ⟨_, _, _, he, hb, by rw [hr], hc⟩⟩

/-- A completion of a stream has the valid length of its buffer, and as many bytes come with a
result as it counts. -/
structure Completion.Measured (c : Completion) : Prop where
  valid : c.kind = .isochronous → c.valid.isSome
  length : ∀ n bytes, c.result = .ok n → c.data = some bytes → bytes.length = n

theorem length_expected {direction : Direction} {limit n : Nat} {response : Option Response}
    {bytes : Bytes} (hn : (expected direction limit response).2 = .ok n)
    (hb : (expected direction limit response).1 = some bytes) : bytes.length = n := by
  rcases response with _ | ⟨p | st | actual⟩
  · cases direction <;> cases hb
  · cases direction with
    | hostToDevice => cases hb
    | deviceToHost =>
      simp only [expected] at hn hb
      split at hb
      · rename_i hp
        rw [if_pos hp] at hn
        cases hn
        cases hb
        rfl
      · cases hb
  · obtain ⟨rfl, rfl⟩ := TransferStatus.outcome_eq_ok_iff.1 hn
    simp only [expected] at hb
    split at hb
    · cases hb
      rfl
    · cases hb
  · cases direction <;> cases hb

theorem Request.measured_delivery (r : Request) (id : TransferId) (target : TargetId)
    (contracts : Contracts) (response : Option Response) :
    (r.delivery id target contracts response).completion.Measured := by
  constructor
  · intro hk
    cases hr : r.route <;> simp [Request.delivery, hr, Route.kind] at hk
  · intro n bytes hn hb
    exact length_expected hn hb

theorem Concluded.measured {s : Stream} {answer : Option Response} {x : Transfer}
    {status : TransferStatus} {cell : Storage} {result : Outcome} {m : Buffers} {b : BufferId}
    (hc : Concluded s answer x status cell result) (hb : m[b]? = some cell) :
    ((Message.filled (some b) result).read m).Measured := by
  refine ⟨fun _ => by simp [Message.read, hb], ?_⟩
  intro n bytes hn hbytes
  have hstatus : status = .completed := by
    by_contra hne
    obtain ⟨-, e, -, he⟩ := hc.failed hne
    cases he.symm.trans hn
  have hvalid : cell.valid = n := Except.ok.inj ((hc.completed hstatus).1.symm.trans hn)
  obtain rfl : cell.contents = bytes := by simpa [Message.read, hb] using hbytes
  rw [Storage.contents, List.length_take, ← hvalid]
  exact Nat.min_eq_left hc.bounded.2

namespace Host

variable {h h' : SimulatedHost} {history later : List Note} {n : Note} {m : Message} {d : Delivery}
  {t : TargetId} {c c' : Channel Message} {got : List Reading} {old new : List Delivery}

theorem sent_move (hr : Run fresh history h) (hm : Move h n h') (hs : Sent history h.buffers m d) :
    Sent (history ++ [n]) h'.buffers m d := by
  cases hs with
  | received hk hd => exact .received hk hd
  | @filled b result earlier between d he hb hk hres hc =>
    have he' : history ++ [n] = earlier ++ .notified d :: (between ++ [n]) := by rw [he]; simp
    refine .filled he' hb hk hres ?_
    intro hv hn
    have hread := hc hv fun k hk ha => hn k (List.mem_append_left _ hk) (ha.mono (by simp))
    -- the buffer exists, as a valid length was recorded of it
    obtain ⟨cell, hcell⟩ : ∃ cell, h.buffers[b]? = some cell := by
      rw [← hread] at hv
      cases hcell : h.buffers[b]? with
      | none => simp [Message.read, hcell] at hv
      | some cell => exact ⟨cell, rfl⟩
    have hkept : h'.buffers[b]? = some cell := by
      apply (restocked_move (slots_fresh.run hr) hm).keep hr hcell
      intro ha
      exact hn n (by simp) (ha.mono (by simp))
    rw [← hread]
    simp only [Message.read, Option.bind_some, hcell, hkept]

theorem sent_told {x : Transfer} {p : Pending} {result : Outcome} {data : Option Bytes}
    (hr : Run fresh history h) (hx : x ∈ h.inFlight) (hp : x.pending = some p)
    (hb : h'.buffers = (h.mark p.buffer result).buffers) :
    Sent (history ++ [.notified (h.deliveryOf x p result data)]) h'.buffers
      (p.message x.kind data result) (h.deliveryOf x p result data) := by
  have hkind := kind_iff hr hx hp
  cases hbuf : p.buffer with
  | none =>
    have hk : x.kind ≠ .isochronous := by simpa [hbuf] using hkind
    rw [Pending.message, if_neg hk]
    refine .received hk ?_
    simp only [deliveryOf, completion, hbuf]
  | some b =>
    have hk : x.kind = .isochronous := hkind.2 (by rw [hbuf]; rfl)
    have hresult : (h.deliveryOf x p result data).completion.result = result := result_deliveryOf ..
    rw [Pending.message, if_pos hk, hbuf]
    refine .filled rfl (bound_in hr hx hp hbuf)
      ((kind_of_deliveryOf hr hx hp result data).trans hk) hresult ?_
    intro _ _
    simp only [deliveryOf, completion, hbuf, hb]

/-- The target is a channel from the time on at which it is added, and is read now and then. -/
inductive Listening (t : TargetId) : List Note → List Reading → SimulatedHost → Prop
  | opened {history : List Note} {h : SimulatedHost} (hr : Run fresh history h)
      (ht : h.targets.length = t) (hs : h.told t = []) :
      Listening t (history ++ [.upkeep (.addTarget (.channel {}))]) []
        (h.perform (.addTarget (.channel {})))
  | move {history : List Note} {got : List Reading} {h h' : SimulatedHost} {n : Note}
      (hl : Listening t history got h) (hm : Move h n h') (hn : ¬ n.Reads t) :
      Listening t (history ++ [n]) got h'
  | read {history : List Note} {got : List Reading} {h : SimulatedHost} {c c' : Channel Message}
      {m : Message} (hl : Listening t history got h) (hc : h.channel? t = some c)
      (hr : c.receive? = some (c', m)) :
      Listening t (history ++ [.upkeep (.receive t)])
        (got ++ [⟨history, h.buffers, m.read h.buffers⟩]) (h.setChannel t c')

theorem move_receive (hc : h.channel? t = some c) (hr : c.receive? = some (c', m)) :
    Move h (.upkeep (.receive t)) (h.setChannel t c') := by
  have hm := Move.upkeep h (.receive t)
  simp only [perform, hc, Option.bind_some, hr] at hm
  exact hm

theorem Listening.since (hl : Listening t history got h) :
    ∃ earlier later h₀, history = earlier ++ .upkeep (.addTarget (.channel {})) :: later ∧
      Run fresh earlier h₀ ∧ h₀.targets.length = t ∧
        Run (h₀.perform (.addTarget (.channel {}))) later h := by
  induction hl with
  | @opened history h hr ht hs => exact ⟨history, [], h, rfl, hr, ht, .refl _⟩
  | move hl hm hn ih =>
    obtain ⟨earlier, later, h₀, rfl, hr, ht, hlater⟩ := ih
    exact ⟨earlier, _, h₀, by simp, hr, ht, hlater.snoc hm⟩
  | read hl hc hr ih =>
    obtain ⟨earlier, later, h₀, rfl, hr₀, ht, hlater⟩ := ih
    exact ⟨earlier, _, h₀, by simp, hr₀, ht, hlater.snoc (move_receive hc hr)⟩

theorem Listening.run (hl : Listening t history got h) : Run fresh history h := by
  obtain ⟨earlier, later, h₀, rfl, hr, -, hlater⟩ := hl.since
  exact hr.trans (.cons (.upkeep _ _) hlater)

structure Backlog (t : TargetId) (history : List Note) (got : List Reading) (h : SimulatedHost)
    (c : Channel Message) (old new : List Delivery) : Prop where
  channel : h.targets[t]? = some (.channel c)
  live : 0 < c.receivers
  orderly : c.Orderly
  told : h.told t = old ++ new
  read : List.Forall₂ Echoes got old
  unread : List.Forall₂ (Sent history h.buffers) c.unread new

theorem Backlog.move (hb : Backlog t history got h c old new) (hr : Run fresh history h)
    (hm : Move h n h') (hn : ¬ n.Reads t) :
    ∃ c' new', Backlog t (history ++ [n]) got h' c' old new' := by
  have htold := told_move hm t
  have hsent : List.Forall₂ (Sent (history ++ [n]) h'.buffers) c.unread new :=
    hb.unread.imp fun _ _ => sent_move hr hm
  rcases addressed_move hm hb.channel with
    ⟨hheard, ht⟩ | ⟨c₀, c', hc, ht, hu⟩ | ⟨x, p, result, data, hx, hp, hs, hpt, hf, hbuf, ht⟩
  · rw [hheard, List.append_nil, hb.told] at htold
    exact ⟨c, new, ht, hb.live, hb.orderly, htold, hb.read, hsent⟩
  · -- the reader stays, so that it is the sender who lets go
    obtain rfl : c = c₀ := Target.channel.inj hc
    rcases hu with rfl | rfl | ⟨rfl, rfl⟩
    · exact absurd rfl hn
    · exact absurd rfl hn
    · rw [hb.told] at htold
      exact ⟨_, new, ht, hb.live, hb.orderly, by simpa [Note.heard] using htold, hb.read, hsent⟩
  · obtain ⟨horderly, hunread, hlive⟩ := hb.orderly.send hb.live (p.message x.kind data result)
    rw [Note.heard, if_pos ⟨hpt, hf⟩, hb.told, List.append_assoc] at htold
    refine ⟨_, _, ht, hlive ▸ hb.live, horderly, htold, hb.read, ?_⟩
    rw [hunread]
    exact List.rel_append hsent (.cons (sent_told hr hx hp hbuf) .nil)

theorem Listening.backlog (hl : Listening t history got h) :
    ∃ c old new, Backlog t history got h c old new := by
  induction hl with
  | @opened history h hr ht hs =>
    refine ⟨{}, [], [], ?_, Nat.one_pos, .inl rfl, hs, .nil, .nil⟩
    rw [← ht]
    exact List.getElem?_concat_length
  | move hl hm hn ih =>
    obtain ⟨c, old, new, hb⟩ := ih
    obtain ⟨c', new', hb'⟩ := hb.move hl.run hm hn
    exact ⟨c', old, new', hb'⟩
  | @read history got h c c' m hl hc hr ih =>
    obtain ⟨c₀, old, new, hb⟩ := ih
    obtain rfl : c = c₀ := Option.some.inj (hc.symm.trans (channel?_eq_some.2 hb.channel))
    obtain ⟨hunread, horderly, hlive⟩ := hb.orderly.receive hr
    have hsent := hb.unread
    rw [hunread, List.forall₂_cons_left_iff] at hsent
    obtain ⟨r, new', hm, hrest, rfl⟩ := hsent
    refine ⟨c', old ++ [r], new', ?_, hlive ▸ hb.live, horderly, ?_, ?_, ?_⟩
    · exact List.getElem?_set_self (List.getElem?_eq_some_iff.1 hb.channel).1
    · rw [List.append_assoc]
      exact hb.told
    · exact List.rel_append hb.read (.cons hm.echoes .nil)
    · exact hrest.imp fun _ _ => sent_move hl.run (move_receive hc hr)

structure Worded (history : List Note) (h : SimulatedHost) : Prop where
  streams : ∀ s ∈ h.streams, s.packets * s.packetLength < wordSize
  requests : ∀ id target token r key,
    .placed id target (.transfer token r) key .done ∈ history → r.dataLength < wordSize

theorem Worded.before (hw : Worded (history ++ [n]) h') (hm : Move h n h') : Worded history h := by
  constructor
  · intro s hs
    obtain ⟨i, hi⟩ := List.mem_iff_getElem?.1 hs
    obtain ⟨y, hy⟩ := stream_step (step_of_move hm) hi
    have hsize := hw.streams _ (List.mem_of_getElem? hy)
    exact hsize
  · intro id target token r key hr
    exact hw.requests id target token r key (List.mem_append_left _ hr)

theorem measured_deliveryOf {x : Transfer} {p : Pending} {result : Outcome} {data : Option Bytes}
    (hr : Run fresh history h) (hw : Worded history h) (hx : x ∈ h.inFlight)
    (hp : x.pending = some p) (hs : h.settle x = some (result, data)) :
    (h.deliveryOf x p result data).completion.Measured := by
  by_cases hk : x.kind = .isochronous
  · obtain ⟨s, b, answer, hb, hstream, hc⟩ := concluded_of_settle hr hx hp hk hs
    obtain ⟨s', hs', hsize⟩ := List.mem_map.1 hstream.size_mem
    obtain ⟨hpackets, hlength⟩ := Prod.mk.inj hsize
    obtain ⟨status, cell, hcell, hconc⟩ := hc (hpackets ▸ hlength ▸ hw.streams s' hs')
    have hfound := Buffers.getElem?_setValid hcell (result.toOption.getD 0)
    simp only [deliveryOf, completion, mark, hb]
    exact hconc.measured hfound
  · obtain ⟨earlier, h₁, target, o, device, y, later, hr₁, hd, -, -, rfl, he⟩ := drafted_in hr hx
    cases hd with
    | @transfer token q contracts id c ha hq =>
      rw [he] at hw
      have hword := hw.requests _ target token q _ (List.mem_append_right _ List.mem_cons_self)
      rw [h₁.promised_draft target contracts id c.device hword h p result data hp hs]
      exact q.measured_delivery _ _ _ _
    | stream hi ha hcap hslot =>
      -- streams are isochronous
      refine absurd ?_ hk
      rw [Transfer.kind_of_frame (h₁.frame_finished _ _)]
      exact ((slots_fresh.run hr₁).idle hi hslot).1.kind

theorem measured_run (hr : Run fresh history h) (hw : Worded history h) (t : TargetId) :
    ∀ d ∈ h.told t, d.completion.Measured := by
  induction hr with
  | refl =>
    intro d hd
    cases hd
  | snoc hr hm ih =>
    intro d hd
    rw [told_move hm, List.mem_append] at hd
    rcases hd with hd | hd
    · exact ih (hw.before hm) d hd
    · cases hm with
      | deliver hb hp hs =>
        obtain ⟨-, rfl⟩ := by simpa [Note.heard] using hd
        have hw := hw.before (.deliver hb hp hs)
        exact measured_deliveryOf hr hw (by simp [inFlight_eq, hb]) hp hs
      | upkeep | allocate | script | exchange | place | poll => cases hd

/-- What was read of a channel, against a host with a recorder in its place. -/
structure Mirrors (t : TargetId) (history : List Note) (got : List Reading) (h k : SimulatedHost) :
    Prop where
  recorded : k.seen t = (k.told t).map (·.completion)
  echoed : List.Forall₂ Echoes got ((k.told t).take got.length)
  drained : (h.channel? t).bind Channel.receive? = none → got.length = (k.told t).length
  measured : Worded history h → ∀ d ∈ k.told t, d.completion.Measured

theorem Backlog.mirrors (hb : Backlog t history got h c old new) (hr : Run fresh history h)
    {k : SimulatedHost} (hk : k.told t = h.told t) : Mirrors t history got h k := by
  have hlen := hb.read.length_eq
  refine ⟨rfl, ?_, ?_, fun hw => hk ▸ measured_run hr hw t⟩
  · rw [hk, hb.told, hlen, List.take_left]
    exact hb.read
  · intro hnone
    rw [channel?_eq_some.2 hb.channel, Option.bind_some] at hnone
    have hunread := hb.unread
    rw [hb.orderly.unread_eq_nil hnone, List.forall₂_nil_left_iff] at hunread
    rw [hk, hb.told, hunread, List.append_nil, hlen]

theorem channel_mirrors (hl : Listening t history got h) :
    ∃ earlier later h₀ k, history = earlier ++ .upkeep (.addTarget (.channel {})) :: later ∧
      Run fresh earlier h₀ ∧ h₀.targets.length = t ∧
        Run (h₀.perform (.addTarget .recorder)) later k ∧ k.targets[t]? = some .recorder ∧
          Mirrors t history got h k := by
  obtain ⟨earlier, later, h₀, he, hr₀, ht, hlater⟩ := hl.since
  obtain ⟨targets, hk⟩ := run_withTargets hlater (h₀.targets ++ [.recorder])
  obtain ⟨c, old, new, hb⟩ := hl.backlog
  refine ⟨earlier, later, h₀, h.withTargets targets, he, hr₀, ht, hk, ?_, hb.mirrors hl.run rfl⟩
  refine recorder_run hk ?_
  rw [← ht]
  exact List.getElem?_concat_length

/-- A stream is submitted again before its first completion has been read, and fails. -/
def lagging (target : Target) : List Act :=
  [.upkeep (.resolve .standard), .upkeep (.adopt 1), .upkeep (.setPacketSize 1 ⟨0x82⟩ 4),
    .allocate ⟨0, 0⟩ ⟨0x82⟩ 1 none, .upkeep (.addBuffer (.zeroed 4)), .upkeep (.addTarget target),
    .script 1 ⟨0x82⟩ (.packets [4]), .place 0 (.stream 0 0 0),
    .processEvents (fun _ _ => {}) none, .place 0 (.stream 0 0 0),
    .processEvents (fun _ _ => {}) none]

/-- The recorder has the bytes of the first round. The reader finds none. -/
theorem lagging_diverges :
    let read := (after (lagging (.channel {}))).messages 0 |>.map
      (·.read (after (lagging (.channel {}))).buffers)
    let seen := (after (lagging .recorder)).seen 0
    read.map (·.data) = [some [], some []] ∧ seen.map (·.data) = [some [0, 0, 0, 0], some []] ∧
      read.map (·.result) = [.ok 4, .error .timeout] ∧
        seen.map (·.result) = [.ok 4, .error .timeout] := by
  decide

theorem lagging_mirrors :
    ∃ history got h, ∃ k : SimulatedHost, Listening 0 history got h ∧
      got.map (·.completion.data) = [some [0, 0, 0, 0]] ∧ Mirrors 0 history got h k ∧
        (k.told 0).length = 1 := by
  obtain ⟨earlier, hr, -⟩ := after_run ((lagging .recorder).take 5)
  have hopen := Listening.opened hr rfl rfl
  have hscript := hopen.move (.script _ 1 ⟨0x82⟩ (.packets [4])) id
  have hplace := hscript.move (.place _ 0 (.stream 0 0 0)) id
  have hpoll := hplace.move (.poll rfl) id
  have hdeliver := hpoll.move (.deliver rfl rfl rfl) id
  obtain ⟨history, h, c, c', m, hl, hc, hm, hdata, hempty⟩ :
      ∃ history h c c' m, Listening 0 history [] h ∧ h.channel? 0 = some c ∧
        c.receive? = some (c', m) ∧ (m.read h.buffers).data = some [0, 0, 0, 0] ∧
          ((h.setChannel 0 c').channel? 0).bind Channel.receive? = none :=
    ⟨_, _, _, _, _, hdeliver, rfl, rfl, by decide, by decide⟩
  have hread := hl.read hc hm
  obtain ⟨-, -, -, k, -, -, -, -, -, hk⟩ := channel_mirrors hread
  exact ⟨_, _, _, k, hread, by simp [hdata], hk, (hk.drained hempty).symm⟩

end Host

end UsbTransfer
