import UsbTransfer.Proofs.Custody
import UsbTransfer.Proofs.Lawful
import UsbTransfer.Proofs.Pass

namespace UsbTransfer

namespace Link

theorem aside_status (l : Link) (c : NativeCall) (e : NativeEntry) :
    Bus.Aside l.bus (l.status c e).1.bus := Bus.aside_code l.bus c e

theorem aside_releaseOnce (l : Link) (d : Nat) (i : UInt8) :
    Bus.Aside l.bus (l.releaseOnce d i).1.bus := by
  have ha := l.aside_status .releaseInterface (.release (l.handleOf d) i)
  unfold releaseOnce
  split <;> rename_i hs <;> rw [hs] at ha <;> exact ha

theorem aside_releaseAll (l : Link) (d : Nat) (is : List Nat) :
    Bus.Aside l.bus (is.foldl (fun l i => (l.releaseOnce d (.ofNat i)).1) l).bus := by
  induction is generalizing l with
  | nil => exact .refl _
  | cons i is ih => exact (l.aside_releaseOnce d _).trans (ih _)

theorem aside_leave (l : Link) : Bus.Aside l.bus l.leave.bus := by
  unfold leave
  split
  · exact .refl _
  · exact Bus.aside_code _ _ _

theorem aside_abandon (l : Link) (d : Nat) : Bus.Aside l.bus (l.abandon d).bus := by
  unfold abandon
  refine Bus.Aside.trans ?_ (aside_leave _)
  exact (l.aside_releaseAll d _).trans (Bus.aside_code _ _ _)

theorem finish_head {b : Bus} {x : NativeTransfer} {rest : List NativeTransfer}
    (hp : b.pending = x :: rest) (m : Buffers) (r : NativeReport) :
    b.finish m 0 r =
      some ({ b with pending := rest, done := b.done ++ [(x.finish m r).1] },
        (x.finish m r).2) := by
  simp [Bus.finish, hp]

theorem crossings_finishAll (xs : List NativeTransfer) (l : Link) (m : Buffers)
    (hp : l.bus.pending = xs) :
    ∃ es, Crossings l es { l with bus := (l.bus.finishAll m xs).1 } ∧ entered es = [] ∧
      reclaimed es = [] := by
  induction xs generalizing l m with
  | nil => exact ⟨[], .refl l, rfl, rfl⟩
  | cons x rest ih =>
    rcases ht : l.bus.take .complete with ⟨bus, a⟩
    have ha := Bus.aside_take l.bus .complete
    rw [ht] at ha
    -- each takes its answer, and is the first of those that are left
    have hfinish := Cross.finish (l := { l with bus })
      (finish_head (ha.pending.trans hp) m a.report)
    obtain ⟨es, hc, hin, he⟩ := ih
      { l with bus := { bus with pending := rest, done := bus.done ++ [(x.finish m a.report).1] } }
      (x.finish m a.report).2 rfl
    simp only [Bus.finishAll, ht]
    exact ⟨_, ((Crossings.single (.aside ha)).snoc hfinish).trans hc, hin, he⟩

theorem crossings_drain (xs : List NativeTransfer) (l : Link) (hd : l.bus.done = xs) :
    ∃ es, Crossings l es { l with bus := (l.bus.drain xs).1 } ∧ entered es = [] ∧
      (reclaimed es).map (·.2) = (l.bus.drain xs).2 ∧
      ∀ y ∈ (l.bus.drain xs).2, ∃ x ∈ xs, y = x.completed := by
  induction xs generalizing l with
  | nil => exact ⟨[], .refl l, rfl, rfl, by simp [Bus.drain]⟩
  | cons x rest ih =>
    rcases hc : Bus.complete { l.bus with done := rest } (some x) with ⟨bus, _ | y⟩
    · have hstep := Cross.lose hd hc
      obtain ⟨-, rfl⟩ := complete_eq_none hc
      obtain ⟨es, hes, hin, ht, hy⟩ := ih
        { l with bus := { l.bus with done := rest, lost := l.bus.lost ++ [x] } } rfl
      simp only [Bus.drain, hc]
      refine ⟨_, (Crossings.single hstep).trans hes, hin, ht, fun y hmem => ?_⟩
      obtain ⟨z, hz, he⟩ := hy y hmem
      exact ⟨z, List.mem_cons_of_mem _ hz, he⟩
    · have hstep := Cross.complete hd hc
      obtain ⟨-, rfl, rfl⟩ := complete_eq_some hc
      obtain ⟨es, hes, hin, ht, hy⟩ := ih
        { l with bus := Bus.free { l.bus with done := rest } x.raw } rfl
      simp only [Bus.drain, hc]
      refine ⟨_, (Crossings.single hstep).trans hes, hin, congrArg (x.completed :: ·) ht,
        fun y hmem => ?_⟩
      rcases List.mem_cons.1 hmem with rfl | hmem
      · exact ⟨x, List.mem_cons_self, rfl⟩
      · obtain ⟨z, hz, he⟩ := hy y hmem
        exact ⟨z, List.mem_cons_of_mem _ hz, he⟩

theorem Tame.done {l : Link} {x : NativeTransfer} (ht : l.Tame) (hx : x ∈ l.bus.done) :
    x.actual < UInt32.size :=
  ht x (Bus.mem_outstanding.2 (.inr (.inl hx)))

theorem actual_completed_lt {x : NativeTransfer} (hx : x.actual < UInt32.size) :
    x.completed.actual < UInt32.size := by
  have ha : x.completed.actual = x.actual.toNat := rfl
  have hsize : UInt32.size = 2 ^ 32 := rfl
  omega

/-- A look at the events takes back what is finished, or nothing at all, and nothing in. -/
theorem poll_cases (l : Link) (m : Buffers) (timeout : Option Nat) :
    ∃ es, Crossings l es (l.poll m timeout).1 ∧ entered es = [] ∧
      ((∃ u, (l.poll m timeout).2.2 = .failed u ∧ reclaimed es = []) ∨
        ∃ batch, (l.poll m timeout).2.2 = .finished batch ∧ (reclaimed es).map (·.2) = batch ∧
          (l.Tame → ∀ y ∈ batch, y.actual < UInt32.size)) := by
  obtain ⟨first, hfirst, hin, hnone⟩ : ∃ es, Crossings l es { l with
      bus := (if l.bus.auto then l.bus.finishAll m l.bus.pending else (l.bus, m)).1 } ∧
        entered es = [] ∧ reclaimed es = [] := by
    split
    · exact crossings_finishAll _ l m rfl
    · exact ⟨[], .refl l, rfl, rfl⟩
  unfold poll
  generalize (if l.bus.auto then l.bus.finishAll m l.bus.pending else (l.bus, m)) = q at hfirst ⊢
  obtain ⟨bus, m'⟩ := q
  dsimp only at hfirst ⊢
  split
  · exact ⟨first, hfirst, hin, .inr ⟨[], rfl, by rw [hnone]; rfl, by simp⟩⟩
  · have hcode := Bus.aside_code bus .handleEvents (.events (timeout.map (· * 1000)))
    generalize bus.code .handleEvents (.events (timeout.map (· * 1000))) = c at hcode ⊢
    obtain ⟨bus', code⟩ := c
    dsimp only at hcode ⊢
    have hpass : Crossings l (first ++ [.aside]) { l with bus := bus' } :=
      hfirst.snoc (.aside hcode)
    have hpin : entered (first ++ [.aside]) = [] := by rw [entered_append, hin]; rfl
    have hpnone : reclaimed (first ++ [.aside]) = [] := by rw [reclaimed_append, hnone]; rfl
    split
    · exact ⟨_, hpass, hpin, .inl ⟨_, rfl, hpnone⟩⟩
    · split
      · obtain ⟨later, hlater, hlin, ht, hy⟩ := crossings_drain bus'.done { l with bus := bus' } rfl
        refine ⟨_, hpass.trans hlater, ?_, .inr ⟨_, rfl, ?_, fun htame y hmem => ?_⟩⟩
        · rw [entered_append, hpin, hlin, List.append_nil]
        · rw [reclaimed_append, hpnone, List.nil_append]
          exact ht
        · obtain ⟨x, hx, rfl⟩ := hy y hmem
          exact actual_completed_lt ((htame.crossings hpass).done hx)
      · exact ⟨_, hpass, hpin, .inr ⟨[], rfl, by rw [hpnone]; rfl, by simp⟩⟩

section Lawful

variable {l l' : Link} {es : List Crossing}

theorem descends_of_aside {b b' : Bus} (ha : Bus.Aside b b') :
    Descends (b'.outstanding.map (·.owner)) (b.outstanding.map (·.owner)) := by
  rw [ha.outstanding]
  exact .refl _

theorem descends_of_crossings (hc : Crossings l es l') (hin : entered es = []) :
    Descends (l'.bus.outstanding.map (·.owner) ++ (reclaimed es).map (·.2))
      (l.bus.outstanding.map (·.owner)) := by
  have howners := (owners_of_crossings hc).map (·.2)
  rw [hin, List.append_nil] at howners
  have hframe : ∀ y ∈ l'.bus.outstanding.map (·.owner) ++ (reclaimed es).map (·.2),
      y.frame ∈ l.holdings.map (·.2) := by
    intro y hy
    apply howners.subset
    rw [List.map_append]
    rcases List.mem_append.1 hy with hy | hy
    · obtain ⟨n, hn, rfl⟩ := List.mem_map.1 hy
      exact List.mem_append_left _ (List.mem_map_of_mem (List.mem_map_of_mem hn))
    · obtain ⟨p, hp, rfl⟩ := List.mem_map.1 hy
      exact List.mem_append_right _ (List.mem_map_of_mem (List.mem_map_of_mem hp))
  intro y hy
  obtain ⟨p, hp, he⟩ := List.mem_map.1 (hframe y hy)
  obtain ⟨n, hn, rfl⟩ := List.mem_map.1 hp
  exact ⟨n.owner, List.mem_map_of_mem hn, he.symm⟩

instance : LawfulController Link where
  accepted {k k' device x m m'} hs := by
    obtain ⟨n, hn, -, hp, hd, hl, -⟩ := submit_accepted hs
    intro y hy
    obtain ⟨z, hz, rfl⟩ := List.mem_map.1 hy
    rw [Bus.mem_outstanding, hp, hd, hl, List.mem_append, List.mem_singleton] at hz
    rcases hz with (hz | rfl) | hz
    · exact ⟨z.owner, List.mem_cons_of_mem _
        (List.mem_map_of_mem (Bus.mem_outstanding.2 (.inl hz))), rfl⟩
    · exact ⟨x, List.mem_cons_self, (congrArg Prod.snd hn)⟩
    · exact ⟨z.owner, List.mem_cons_of_mem _
        (List.mem_map_of_mem (Bus.mem_outstanding.2 (.inr hz))), rfl⟩
  refused {k k' device x y m m' e} hs := by
    obtain ⟨rfl, ho, -⟩ := submit_refused hs
    have hd : Descends (k'.bus.outstanding.map (·.owner)) (k.bus.outstanding.map (·.owner)) := by
      rw [ho]
      exact .refl _
    exact ⟨rfl, hd⟩
  polled k m timeout := by
    have hpoll : Controller.poll k m timeout = k.poll m timeout := rfl
    obtain ⟨es, hc, hin, hcases⟩ := k.poll_cases m timeout
    have hd := descends_of_crossings hc hin
    have ht : (k.poll m timeout).2.2.transfers = (reclaimed es).map (·.2) := by
      rcases hcases with ⟨u, hu, hnone⟩ | ⟨batch, hb, ht, -⟩
      · rw [hu, hnone]
        rfl
      · rw [hb, ht]
        rfl
    rw [hpoll, ht]
    exact hd
  measured _ _ _ := descends_of_aside (Bus.aside_code _ _ _)
  abandoned k device := descends_of_aside (k.aside_abandon device)

end Lawful

end Link

abbrev NativeHost := Host Link Nat

namespace Host

/-- From one state to another by steps of the controller and its library: what is taken back from
the library meanwhile, and who is notified. -/
def Leads (h : NativeHost) (taken : List (Nat × Transfer)) (ds : List Delivery) (h' : NativeHost) :
    Prop :=
  (∃ es, Link.Crossings h.controller es h'.controller ∧ reclaimed es = taken) ∧
    h'.deliveries = h.deliveries ++ ds

variable {h h' h₁ h₂ h₃ : NativeHost} {taken taken' : List (Nat × Transfer)}
  {ds ds' : List Delivery} {x : Transfer} {p : Pending} {result : Outcome} {data : Option Bytes}

theorem Leads.of_eq (hc : h'.controller = h.controller) (hd : h'.deliveries = h.deliveries) :
    Leads h [] [] h' :=
  ⟨⟨[], by rw [hc]; exact .refl _, rfl⟩, by rw [hd, List.append_nil]⟩

theorem Leads.of_cross {e : Crossing} (hc : Link.Cross h.controller e h'.controller)
    (he : reclaimed [e] = []) (hd : h'.deliveries = h.deliveries) : Leads h [] [] h' :=
  ⟨⟨[e], .single hc, he⟩, by rw [hd, List.append_nil]⟩

theorem Leads.trans (hl : Leads h₁ taken ds h₂) (hl' : Leads h₂ taken' ds' h₃) :
    Leads h₁ (taken ++ taken') (ds ++ ds') h₃ := by
  obtain ⟨⟨es, hc, rfl⟩, hd⟩ := hl
  obtain ⟨⟨es', hc', rfl⟩, hd'⟩ := hl'
  exact ⟨⟨es ++ es', hc.trans hc', List.filterMap_append⟩, by rw [hd', hd, List.append_assoc]⟩

theorem leads_hand (h : NativeHost) (d : Nat) (x : Transfer) : Leads h [] [] (h.hand d x).1 := by
  unfold hand
  rcases hs : Controller.submit h.controller d x h.buffers with ⟨c, m, _ | ⟨u, y⟩⟩
  · exact .of_cross (.submit hs) rfl (by simp only [deliveries, journal_setSlot?])
  · exact .of_cross (.refuse hs) rfl (by simp only [deliveries, journal_setSlot?])

theorem leads_place (h : NativeHost) (target : TargetId) (o : Order) :
    Leads h [] [] (h.place target o).1 := by
  rcases h.place_cases target o with he | ⟨e, -, he⟩ | ⟨d, x, hd⟩
  · rw [he]
    exact .of_eq rfl rfl
  · rw [he]
    exact .of_eq rfl rfl
  · rw [place_hand hd]
    exact leads_hand h d x

theorem leads_react (h : NativeHost) (target : TargetId) (orders : List Order) :
    Leads h [] [] (h.react target orders) := by
  induction orders generalizing h with
  | nil => exact .of_eq rfl rfl
  | cons o rest ih =>
    have hstep : ∀ q : NativeHost × Answer, Leads h [] [] q.1 →
        Leads h [] [] ((q.1.log (.answered target q.2)).react target rest) := by
      intro q hq
      have hlog : Leads q.1 [] [] (q.1.log (.answered target q.2)) :=
        .of_eq rfl (deliveries_log_answered _ _)
      exact (hq.trans hlog).trans (ih _)
    unfold react
    refine hstep (if h.owned then h.place target o else (h, .noHost)) ?_
    split
    · exact leads_place h target o
    · exact .of_eq rfl rfl

theorem leads_respond (h : NativeHost) (target : TargetId) (r : Reaction) :
    Leads h [] [] (h.respond target r) :=
  (leads_react h target r.orders).trans (.of_eq rfl rfl)

theorem leads_reap? (h : NativeHost) (id : Option ConnectionId) : Leads h [] [] (h.reap? id) := by
  cases id with
  | none => exact .of_eq rfl rfl
  | some id =>
    rw [reap?, reap]
    split
    · exact .of_eq rfl rfl
    · rename_i c hc
      split
      · exact .of_cross (.aside (Link.aside_abandon h.controller c.device)) rfl rfl
      · exact .of_eq rfl rfl

theorem leads_retire (h : NativeHost) (x : Transfer) (slot : Option StreamId) :
    Leads h [] [] (h.retire x slot) := by
  unfold retire
  split
  · rename_i s _
    have hparked : Leads h [] [] (h.park s x) := .of_eq rfl rfl
    exact hparked.trans (leads_reap? _ _)
  · exact leads_reap? _ _

theorem leads_mark (h : NativeHost) (b : Option BufferId) (result : Outcome) :
    Leads h [] [] (h.mark b result) := by
  cases b <;> exact .of_eq rfl rfl

theorem leads_announce (h : NativeHost) (id : TransferId) (p : Pending) (kind : TransferKind)
    (data : Option Bytes) (result : Outcome) :
    Leads h [] [⟨id, p.target, p.contracts.notifier kind, h.completion kind data p.buffer result⟩]
      (h.announce id p kind data result) := by
  obtain ⟨targets, he⟩ := announce_eq h id p kind data result
  rw [he]
  exact ⟨⟨[], .refl _, rfl⟩, by simp [deliveries, log]⟩

theorem leads_dispatch (reactions : Reactions) (h : NativeHost)
    (hx : x.header = 0 ∨ x.header + x.actual < wordSize) :
    (dispatch reactions h x).2 = true ∧ ∃ ds, Leads h [] ds (dispatch reactions h x).1 ∧
      List.Forall₂ Delivery.Reports ds ([x].filter (·.pending.isSome)) := by
  cases hp : x.pending with
  | none =>
    simp only [dispatch, hp]
    exact ⟨trivial, [], leads_reap? h _, by simp [hp]⟩
  | some p =>
    obtain ⟨result, data, hs⟩ := h.settle_of_deliverable (x := x) ⟨⟨p, hp⟩, hx⟩
    simp only [dispatch, hp, hs]
    have hparked := (leads_mark h p.buffer result).trans (leads_retire _ x p.park)
    have htold := hparked.trans (leads_announce _ x.id p x.kind data result)
    refine ⟨trivial, _, htold.trans (leads_respond _ p.target _), ?_⟩
    simp only [List.filter_cons, hp, Option.isSome_some, if_true, List.filter_nil]
    exact .cons ⟨rfl, p, hp, rfl, rfl⟩ .nil

theorem leads_dispatchAll (reactions : Reactions) (xs : List Transfer) (h : NativeHost)
    (hx : ∀ x ∈ xs, x.header = 0 ∨ x.header + x.actual < wordSize) :
    (dispatchAll reactions h xs).2 = true ∧ ∃ ds, Leads h [] ds (dispatchAll reactions h xs).1 ∧
      List.Forall₂ Delivery.Reports ds (xs.filter (·.pending.isSome)) := by
  induction xs generalizing h with
  | nil => exact ⟨rfl, [], .of_eq rfl rfl, .nil⟩
  | cons x rest ih =>
    have hbatch : Leads h [] [] { h with batch := rest } := .of_eq rfl rfl
    obtain ⟨hok, ds, hl, hrep⟩ :=
      leads_dispatch reactions { h with batch := rest } (hx x List.mem_cons_self)
    rcases hd : dispatch reactions { h with batch := rest } x with ⟨k, ok⟩
    rw [hd] at hok hl
    obtain rfl : ok = true := hok
    obtain ⟨hoks, ds', hl', hrep'⟩ := ih k fun y hy => hx y (List.mem_cons_of_mem _ hy)
    simp only [dispatchAll, hd]
    refine ⟨hoks, _, (hbatch.trans hl).trans hl', ?_⟩
    rw [List.nil_append, ← List.singleton_append, List.filter_append]
    exact List.rel_append hrep hrep'

theorem header_add_lt (hx : x.actual < UInt32.size) : x.header + x.actual < wordSize := by
  have hsize : UInt32.size = 2 ^ 32 := rfl
  have hw : wordSize = 2 ^ 64 := rfl
  have hheader : x.header ≤ 8 := by
    unfold Transfer.header
    split
    · exact Nat.le_refl _
    · exact Nat.zero_le _
  omega

/-- One callback of the library takes one descriptor back and dispatches it, whatever else has ended
by then and whatever it submits. -/
theorem leads_complete (h : NativeHost) (ht : h.controller.Tame) {n : NativeTransfer}
    {rest : List NativeTransfer} {bus : Bus} (hd : h.controller.bus.done = n :: rest)
    (hc : Bus.complete { h.controller.bus with done := rest } (some n) = (bus, some x))
    (reactions : Reactions) :
    (dispatch reactions { h with controller := { h.controller with bus } } x).2 = true ∧
      ∃ ds, Leads h [(n.raw, x)] ds
          (dispatch reactions { h with controller := { h.controller with bus } } x).1 ∧
        List.Forall₂ Delivery.Reports ds ([x].filter (·.pending.isSome)) := by
  have htaken : Leads h [(n.raw, x)] [] { h with controller := { h.controller with bus } } :=
    ⟨⟨_, .single (.complete hd hc), rfl⟩, (List.append_nil _).symm⟩
  obtain ⟨-, -, rfl⟩ := Link.complete_eq_some hc
  have hlt := header_add_lt (Link.actual_completed_lt (ht.done (x := n) (by simp [hd])))
  obtain ⟨hok, ds, hl, hrep⟩ :=
    leads_dispatch reactions { h with controller := { h.controller with bus } } (.inr hlt)
  exact ⟨hok, ds, htaken.trans hl, hrep⟩

theorem leads_processEvents (h : NativeHost) (ht : h.controller.Tame) (reactions : Reactions)
    (timeout : Option Nat) :
    (h.processEvents reactions timeout).2 ≠ .crashed ∧
      ∃ taken ds, Leads h taken ds (h.processEvents reactions timeout).1 ∧
        List.Forall₂ Delivery.Reports ds ((taken.map (·.2)).filter (·.pending.isSome)) := by
  have hpoll : Controller.poll h.controller h.buffers timeout =
    h.controller.poll h.buffers timeout := rfl
  obtain ⟨es, hc, -, hcases⟩ := h.controller.poll_cases h.buffers timeout
  unfold processEvents
  rw [hpoll]
  rcases hq : h.controller.poll h.buffers timeout with ⟨l, m, poll⟩
  rw [hq] at hc hcases
  rcases hcases with ⟨u, hu, hnone⟩ | ⟨batch, hb, htaken, hlt⟩
  · obtain rfl : poll = .failed u := hu
    exact ⟨by simp, [], [], ⟨⟨es, hc, hnone⟩, (List.append_nil _).symm⟩, .nil⟩
  · obtain rfl : poll = .finished batch := hb
    have hpassed : Leads h (reclaimed es) []
        { h with controller := l, buffers := m, batch } :=
      ⟨⟨es, hc, rfl⟩, (List.append_nil _).symm⟩
    obtain ⟨hok, ds, hl, hrep⟩ := leads_dispatchAll reactions batch
      { h with controller := l, buffers := m, batch }
      fun y hy => .inr (header_add_lt (hlt ht y hy))
    rcases hd : dispatchAll reactions { h with controller := l, buffers := m, batch } batch with
      ⟨k, ok⟩
    rw [hd] at hok hl
    obtain rfl : ok = true := hok
    refine ⟨by simp [hd], reclaimed es ++ [], [] ++ ds, ?_, ?_⟩
    · simp only [hd]
      exact hpassed.trans hl
    · rw [List.append_nil, List.nil_append, htaken]
      exact hrep

end Host

namespace Link

/-- Who owns what, after some steps from a library that nobody has used. -/
structure Custody (es : List Crossing) (l : Link) : Prop where
  raws : (l.bus.outstanding.map (·.raw) ++ l.bus.released).Perm (List.range l.bus.allocated)
  once : ((entered es).map (·.1)).Nodup
  owners : (l.bus.outstanding.map (·.holding) ++ (reclaimed es).map fun p => (p.1, p.2.frame)).Perm
    (entered es)
  reclaimed : ∀ p ∈ reclaimed es, p.1 ∈ l.bus.released
  unchanged : ∀ x back u, .refused x back u ∈ es → back = x
  refusal : ∀ d x m l' m' u back, l.submit d x m = (l', m', some (u, back)) →
    back = x ∧ l'.bus.outstanding = l.bus.outstanding ∧
      ((l'.bus.allocated = l.bus.allocated ∧ l'.bus.released = l.bus.released) ∨
        (l'.bus.allocated = l.bus.allocated + 1 ∧
          l'.bus.released = l.bus.released ++ [l.bus.allocated]))
  ignored : ∀ n : Option NativeTransfer, (∀ x, n = some x → x.orphan = true) →
    l.bus.complete n = (l.bus, none)
  callback : ∀ h : NativeHost, h.controller = l → ∀ x rest bus y, l.bus.done = x :: rest →
    Bus.complete { l.bus with done := rest } (some x) = (bus, some y) → ∀ reactions,
      (Host.dispatch reactions { h with controller := { l with bus } } y).2 = true ∧
        ∃ ds, h.Leads [(x.raw, y)] ds
            (Host.dispatch reactions { h with controller := { l with bus } } y).1 ∧
          List.Forall₂ Delivery.Reports ds ([y].filter (·.pending.isSome))
  dispatched : ∀ h : NativeHost, h.controller = l → ∀ reactions timeout,
    (h.processEvents reactions timeout).2 ≠ .crashed ∧
      ∃ taken ds, h.Leads taken ds (h.processEvents reactions timeout).1 ∧
        List.Forall₂ Delivery.Reports ds ((taken.map (·.2)).filter (·.pending.isSome))

theorem custody_of_crossings {l l' : Link} {es : List Crossing} (hu : l.Untouched)
    (hc : Crossings l es l') : Custody es l' := by
  obtain ⟨hb, hn⟩ := balanced_of_crossings hu hc
  refine ⟨?_, hn.nodup, hb.owners, fun p hp => released_of_reclaimed hb hn hp,
    fun x back u he => refused_unchanged hc he, fun d x m k m' u back hs => submit_refused hs,
    ?_, ?_, ?_⟩
  · have hraws := hb.raws
    rw [holdings, List.map_map] at hraws
    exact hraws
  · intro n ho
    cases n with
    | none => rfl
    | some x => simp [Bus.complete, ho x rfl]
  · rintro h rfl x rest bus y hd hcomplete reactions
    exact Host.leads_complete h (hu.tame.crossings hc) hd hcomplete reactions
  · rintro h rfl reactions timeout
    exact Host.leads_processEvents h (hu.tame.crossings hc) reactions timeout

def fickle : Link where
  bus := { answers := [(.submitTransfer, {}), (.submitTransfer, { code := some (-1) })] }

def lone : Transfer := .ofStream 1 .bulk ⟨0x81⟩ 4 [] 0

theorem refusing_custody :
    ∃ es l, Untouched fickle ∧ Crossings fickle es l ∧ Custody es l ∧ l.bus.released = [1, 0] ∧
      l.bus.outstanding = [] ∧ (reclaimed es).map (·.1) = [0] := by
  have hu : Untouched fickle := ⟨rfl, rfl, rfl⟩
  have accepted := Crossings.single (Cross.submit (l := fickle) (d := 0) (x := lone) (m := []) rfl)
  have refused := accepted.snoc (.refuse (d := 0) (x := lone) (m := []) rfl)
  have finished := refused.snoc (.finish (i := 0) (m := []) (r := {}) rfl)
  have completed := finished.snoc (.complete rfl rfl)
  exact ⟨_, _, hu, completed, custody_of_crossings hu completed, rfl, rfl, rfl⟩

end Link

end UsbTransfer
