import Mathlib.Data.List.Induction
import UsbTransfer.Storage

/-! References to shared storages: what each of them shows after any calls, and how many are
left. -/

namespace UsbTransfer

def Bytes.first? (bytes : Bytes) (n : Nat) : Option Bytes :=
  if n ≤ bytes.length then some (bytes.take n) else none

structure Edit where
  run : Bytes → Bytes
  length_run : ∀ bytes, (run bytes).length = bytes.length

def Edit.patch (start : Nat) (data : Bytes) : Edit :=
  ⟨fun bytes => bytes.patch start data, fun _ => Bytes.length_patch ..⟩

namespace Storage

def edit (x : Storage) (e : Edit) : Storage := { x with bytes := e.run x.bytes }

def Sound (x : Storage) : Prop := x.valid ≤ x.capacity

def changed (x : Storage) (changes : List (Storage → Storage)) : Storage :=
  changes.foldl (fun x f => f x) x

theorem capacity_edit (x : Storage) (e : Edit) : (x.edit e).capacity = x.capacity :=
  e.length_run x.bytes

@[simp] theorem changed_nil (x : Storage) : x.changed [] = x := rfl

theorem changed_append (x : Storage) (fs gs : List (Storage → Storage)) :
    x.changed (fs ++ gs) = (x.changed fs).changed gs := List.foldl_append

theorem Sound.first?_valid {x : Storage} (h : x.Sound) :
    x.bytes.first? x.valid = some x.contents := if_pos h

end Storage

namespace Shelf

def stored? (s : Shelf) (c : Nat) : Option Storage := s.cells[c]?.map (·.storage)

inductive Call where
  | zeroed (capacity : Nat)
  | wrap (bytes : Bytes)
  | share (h : Handle)
  | drop (h : Handle)
  | edit (h : Handle) (e : Edit)
  | setValid (h : Handle) (n : Nat)

namespace Call

def begun? : Call → Option Storage
  | zeroed capacity => some (.zeroed capacity)
  | wrap bytes => some (.ofBytes bytes)
  | _ => none

def through? : Call → Option Handle
  | zeroed _ | wrap _ => none
  | share h | drop h | edit h _ | setValid h _ => some h

def change? : Call → Option (Storage → Storage)
  | edit _ e => some (·.edit e)
  | setValid _ n => some (·.setValid n)
  | _ => none

def changes (k : Call) (s : Shelf) (c : Nat) : List (Storage → Storage) :=
  if k.through?.bind s.cellOf? = some c then k.change?.toList else []

end Call

/-- A call through a reference that is gone changes nothing. -/
def call (s : Shelf) : Call → Shelf
  | .zeroed capacity => (s.create (.zeroed capacity)).1
  | .wrap bytes => (s.create (.ofBytes bytes)).1
  | .share h => ((s.share h).map Prod.fst).getD s
  | .drop h => (s.drop h).getD s
  | .edit h e => (s.update h (·.edit e)).getD s
  | .setValid h n => (s.update h (·.setValid n)).getD s

def callAll (s : Shelf) (ks : List Call) : Shelf := ks.foldl call s

def begun (ks : List Call) : List Storage := ks.filterMap Call.begun?

def changes (c : Nat) : Shelf → List Call → List (Storage → Storage)
  | _, [] => []
  | s, k :: ks => k.changes s c ++ changes c (s.call k) ks

inductive Effect (s : Shelf) : Call → Shelf → Prop
  | begun {k : Call} {x : Storage} : k.begun? = some x → k.through? = none →
    Effect s k
      { cells := s.cells ++ [{ storage := x }], handles := s.handles ++ [some s.cells.length] }
  | shared {h : Handle} {c : Nat} : s.cellOf? h = some c →
    Effect s (.share h) { cells := s.cells.modify c fun x => { x with refs := x.refs + 1 },
                          handles := s.handles ++ [some c] }
  | dropped {h : Handle} {c : Nat} : s.cellOf? h = some c →
    Effect s (.drop h) { cells := s.cells.modify c fun x => { x with refs := x.refs - 1 },
                         handles := s.handles.set h none }
  | changed {k : Call} {h : Handle} {f : Storage → Storage} {c : Nat} : k.through? = some h →
    k.change? = some f → s.cellOf? h = some c →
    Effect s k { s with cells := s.cells.modify c fun x => { x with storage := f x.storage } }
  | missed {k : Call} {h : Handle} : k.through? = some h → s.cellOf? h = none → Effect s k s

variable {s t : Shelf} {k : Call} {ks : List Call} {h : Handle} {c : Nat} {f : Storage → Storage}

theorem cellOf?_eq_some_iff : s.cellOf? h = some c ↔ s.handles[h]? = some (some c) := by
  simp [cellOf?, Option.join_eq_some_iff]

theorem effect_call (s : Shelf) (k : Call) : Effect s k (s.call k) := by
  cases k with
  | zeroed capacity => exact .begun rfl rfl
  | wrap bytes => exact .begun rfl rfl
  | share h =>
    cases hc : s.cellOf? h with
    | none => simpa [call, share, hc] using Effect.missed rfl hc
    | some c => simpa [call, share, hc] using Effect.shared hc
  | drop h =>
    cases hc : s.cellOf? h with
    | none => simpa [call, drop, hc] using Effect.missed rfl hc
    | some c => simpa [call, drop, hc] using Effect.dropped hc
  | edit h e =>
    cases hc : s.cellOf? h with
    | none => simpa [call, update, hc] using Effect.missed rfl hc
    | some c => simpa [call, update, hc] using Effect.changed (k := .edit h e) rfl rfl hc
  | setValid h n =>
    cases hc : s.cellOf? h with
    | none => simpa [call, update, hc] using Effect.missed rfl hc
    | some c => simpa [call, update, hc] using Effect.changed (k := .setValid h n) rfl rfl hc

theorem Call.change?_cases (hf : k.change? = some f) :
    (∃ h e, k = .edit h e ∧ f = (·.edit e)) ∨ ∃ h n, k = .setValid h n ∧ f = (·.setValid n) := by
  cases k with
  | edit h e => exact .inl ⟨h, e, rfl, (Option.some.inj hf).symm⟩
  | setValid h n => exact .inr ⟨h, n, rfl, (Option.some.inj hf).symm⟩
  | zeroed | wrap | share | drop => cases hf

theorem Call.capacity_change (hf : k.change? = some f) (x : Storage) :
    (f x).capacity = x.capacity ∧ (x.Sound → (f x).Sound) := by
  obtain ⟨h, e, -, rfl⟩ | ⟨h, n, -, rfl⟩ := change?_cases hf
  · exact ⟨x.capacity_edit e, fun hx => Nat.le_trans hx (Nat.le_of_eq (x.capacity_edit e).symm)⟩
  · exact ⟨x.capacity_setValid n, fun _ => x.valid_setValid_le n⟩

theorem Call.sound_begun {x : Storage} (hx : k.begun? = some x) : x.Sound := by
  cases k with
  | zeroed capacity =>
    cases hx
    exact Nat.zero_le _
  | wrap bytes =>
    cases hx
    exact Nat.le_refl _
  | share | drop | edit | setValid => cases hx

/-- References lead to storages, and each storage knows how many lead to it. -/
structure Counted (s : Shelf) : Prop where
  placed : ∀ c, some c ∈ s.handles → c < s.cells.length
  counted : ∀ c x, s.cells[c]? = some x → x.refs = s.handles.count (some c)

theorem mem_handles (hc : s.cellOf? h = some c) : some c ∈ s.handles :=
  List.mem_of_getElem? (cellOf?_eq_some_iff.1 hc)

theorem Counted.count_fresh (hs : Counted s) : s.handles.count (some s.cells.length) = 0 :=
  List.count_eq_zero.2 fun hm => Nat.lt_irrefl _ (hs.placed _ hm)

theorem Counted.effect (hs : Counted s) (he : Effect s k t) : Counted t := by
  cases he with
  | begun =>
    refine ⟨fun c hm => ?_, fun c x hx => ?_⟩
    · rw [List.length_append, List.length_singleton]
      rcases List.mem_append.1 hm with hm | hm
      · exact Nat.lt_succ_of_lt (hs.placed c hm)
      · obtain rfl := Option.some.inj (List.mem_singleton.1 hm)
        exact Nat.lt_succ_self _
    · rw [List.getElem?_append] at hx
      rw [List.count_append, List.count_singleton]
      split at hx
      · next hlt =>
        rw [hs.counted c x hx, if_neg (by simpa using Nat.ne_of_gt hlt), Nat.add_zero]
      · next hle =>
        rw [List.getElem?_singleton] at hx
        split at hx <;> cases hx
        obtain rfl : c = s.cells.length := by omega
        simp [hs.count_fresh]
  | @shared h c hc =>
    have hm := mem_handles hc
    refine ⟨fun c' hm' => ?_, fun c' x hx => ?_⟩
    · rw [List.length_modify]
      rcases List.mem_append.1 hm' with hm' | hm'
      · exact hs.placed c' hm'
      · cases List.mem_singleton.1 hm'
        exact hs.placed c hm
    · rw [List.getElem?_modify] at hx
      obtain ⟨y, hy, rfl⟩ := Option.map_eq_some_iff.1 hx
      rw [List.count_append, List.count_singleton, ← hs.counted c' y hy]
      by_cases hcc : c = c' <;> simp [hcc]
  | @dropped h c hc =>
    obtain ⟨hlt, hget⟩ := List.getElem?_eq_some_iff.1 (cellOf?_eq_some_iff.1 hc)
    refine ⟨fun c' hm' => ?_, fun c' x hx => ?_⟩
    · rw [List.length_modify]
      rcases List.mem_or_eq_of_mem_set hm' with hm' | hm'
      · exact hs.placed c' hm'
      · cases hm'
    · rw [List.getElem?_modify] at hx
      obtain ⟨y, hy, rfl⟩ := Option.map_eq_some_iff.1 hx
      rw [List.count_set hlt, hget, ← hs.counted c' y hy]
      by_cases hcc : c = c' <;> simp [hcc]
  | changed hk hf hc =>
    refine ⟨fun c' hm' => ?_, fun c' x hx => ?_⟩
    · rw [List.length_modify]
      exact hs.placed c' hm'
    · rw [List.getElem?_modify] at hx
      obtain ⟨y, hy, rfl⟩ := Option.map_eq_some_iff.1 hx
      rw [← hs.counted c' y hy]
      split <;> rfl
  | missed => exact hs

/-- A storage is there from its beginning on, as it was begun and then changed. -/
structure Kept (ks : List Call) (s : Shelf) : Prop where
  length : s.cells.length = (begun ks).length
  unreached : ∀ c, s.cells.length ≤ c → changes c {} ks = []
  stored : ∀ c, s.stored? c = (begun ks)[c]?.map fun x => x.changed (changes c {} ks)

theorem callAll_concat (s : Shelf) (ks : List Call) (k : Call) :
    s.callAll (ks ++ [k]) = (s.callAll ks).call k := by
  simp [callAll]

theorem changes_concat (c : Nat) (s : Shelf) (ks : List Call) (k : Call) :
    changes c s (ks ++ [k]) = changes c s ks ++ k.changes (s.callAll ks) c := by
  induction ks generalizing s with
  | nil => simp [changes, callAll]
  | cons k' ks ih => simp [changes, callAll, ih, List.append_assoc]

theorem begun_concat (ks : List Call) (k : Call) :
    begun (ks ++ [k]) = begun ks ++ k.begun?.toList := by
  cases hk : k.begun? <;> simp [begun, hk]

theorem Call.begun?_of_through? (hk : k.through? = some h) : k.begun? = none := by
  cases k with
  | zeroed | wrap => cases hk
  | share | drop | edit | setValid => rfl

theorem Counted.changes_eq_nil (hs : Counted s) (hc : s.cells.length ≤ c) : k.changes s c = [] := by
  refine if_neg fun hk => ?_
  obtain ⟨h, -, hh⟩ := Option.bind_eq_some_iff.1 hk
  have := hs.placed c (mem_handles hh)
  omega

theorem stored?_modify (s : Shelf) (c : Nat) (g : Cell → Cell) (handles : List (Option Nat))
    (i : Nat) :
    stored? { cells := s.cells.modify c g, handles } i =
      s.cells[i]?.map fun x => if c = i then (g x).storage else x.storage := by
  simp only [stored?, List.getElem?_modify, Option.map_eq_map, Option.map_map]
  refine congrArg (Option.map · _) (funext fun x => ?_)
  simp only [Function.comp]
  split <;> rfl

theorem Effect.stored?_old (he : Effect s k t) (hc : c < s.cells.length) :
    t.stored? c = (s.stored? c).map fun x => x.changed (k.changes s c) := by
  cases he with
  | begun hx hk =>
    simp [stored?, List.getElem?_append_left hc, Call.changes, hk, Function.comp_def]
  | shared | dropped =>
    rw [stored?_modify]
    simp [stored?, Call.changes, Call.change?, Function.comp_def]
  | @changed _ h f i hk hf hh =>
    rw [stored?_modify]
    by_cases hi : i = c <;>
      simp [stored?, Call.changes, hk, hf, hh, hi, Storage.changed, Function.comp_def]
  | missed hk hh => simp [Call.changes, hk, hh]

theorem Effect.length (he : Effect s k t) :
    t.cells.length = s.cells.length + k.begun?.toList.length := by
  cases he with
  | begun hx hk => simp [hx]
  | shared | dropped => simp [Call.begun?]
  | changed hk hf hh => simp [Call.begun?_of_through? hk]
  | missed hk hh => simp [Call.begun?_of_through? hk]

theorem stored?_eq_none (hc : s.cells.length ≤ c) : s.stored? c = none := by
  simp [stored?, hc]

theorem Effect.stored?_new (he : Effect s k t) (hc : s.cells.length ≤ c) :
    t.stored? c = k.begun?.toList[c - s.cells.length]? := by
  cases hk : k.begun? with
  | none =>
    have hlength := he.length
    rw [hk, Option.toList_none, List.length_nil, Nat.add_zero] at hlength
    rw [stored?_eq_none (hlength ▸ hc), Option.toList_none, List.getElem?_nil]
  | some x =>
    cases he with
    | begun hx =>
      obtain rfl := Option.some.inj (hx.symm.trans hk)
      rw [stored?, List.getElem?_append_right hc, ← List.getElem?_map]
      rfl
    | shared | dropped => cases hk
    | changed hthrough | missed hthrough => simp [Call.begun?_of_through? hthrough] at hk

theorem Kept.concat (hk : Kept ks (callAll {} ks)) (hs : Counted (callAll {} ks)) (k : Call) :
    Kept (ks ++ [k]) (callAll {} (ks ++ [k])) := by
  have he := effect_call (callAll {} ks) k
  rw [callAll_concat]
  constructor
  case length => rw [he.length, hk.length, begun_concat, List.length_append]
  case unreached =>
    intro c hc
    have hold : (callAll {} ks).cells.length ≤ c := by have := he.length; omega
    rw [changes_concat, hk.unreached c hold, hs.changes_eq_nil hold, List.append_nil]
  case stored =>
    intro c
    rw [begun_concat, changes_concat]
    rcases Nat.lt_or_ge c (callAll {} ks).cells.length with hc | hc
    · rw [he.stored?_old hc, hk.stored c, List.getElem?_append_left (hk.length ▸ hc),
        Option.map_map]
      exact congrArg (Option.map · _) (funext fun x => (x.changed_append _ _).symm)
    · rw [he.stored?_new hc, hk.unreached c hc, hs.changes_eq_nil hc,
        List.getElem?_append_right (hk.length ▸ hc), hk.length]
      simp

theorem counted_empty : Counted {} := ⟨by simp, by simp⟩

theorem kept_empty : Kept [] {} := ⟨rfl, fun _ _ => rfl, fun _ => rfl⟩

theorem counted_callAll (ks : List Call) : Counted (callAll {} ks) := by
  induction ks using List.reverseRecOn with
  | nil => exact counted_empty
  | append_singleton ks k ih =>
    rw [callAll_concat]
    exact ih.effect (effect_call _ k)

theorem kept_callAll (ks : List Call) : Kept ks (callAll {} ks) := by
  induction ks using List.reverseRecOn with
  | nil => exact kept_empty
  | append_singleton ks k ih => exact ih.concat (counted_callAll ks) k

theorem exists_of_mem_changes (hf : f ∈ changes c s ks) : ∃ k : Call, k.change? = some f := by
  induction ks generalizing s with
  | nil => cases hf
  | cons k ks ih =>
    rcases List.mem_append.1 hf with hf | hf
    · unfold Call.changes at hf
      split at hf
      · exact ⟨k, Option.mem_toList.1 hf⟩
      · cases hf
    · exact ih hf

theorem changed_keeps (fs : List (Storage → Storage))
    (hfs : ∀ f ∈ fs, ∃ k : Call, k.change? = some f) (x : Storage) :
    (x.changed fs).capacity = x.capacity ∧ (x.Sound → (x.changed fs).Sound) := by
  induction fs generalizing x with
  | nil => exact ⟨rfl, id⟩
  | cons f fs ih =>
    obtain ⟨⟨k, hk⟩, hfs⟩ := List.forall_mem_cons.1 hfs
    obtain ⟨hcapacity, hsound⟩ := Call.capacity_change hk x
    obtain ⟨hcapacity', hsound'⟩ := ih hfs (f x)
    exact ⟨hcapacity'.trans hcapacity, hsound' ∘ hsound⟩

theorem sound_of_mem_begun {x : Storage} (hx : x ∈ begun ks) : x.Sound := by
  obtain ⟨k, -, hk⟩ := List.mem_filterMap.1 hx
  exact Call.sound_begun hk

theorem storage?_eq (s : Shelf) (h : Handle) : s.storage? h = (s.cellOf? h).bind s.stored? := by
  cases hc : s.cellOf? h with
  | none => simp [storage?, hc]
  | some c => cases hx : s.cells[c]? <;> simp [storage?, stored?, hc, hx]

theorem refs?_of_cellOf? (hs : Counted s) (hc : s.cellOf? h = some c) :
    s.refs? h = some (s.handles.count (some c)) := by
  have hx := List.getElem?_eq_getElem (hs.placed c (mem_handles hc))
  simp [refs?, hc, hx, hs.counted c _ hx]

theorem call_of_change? (hk : k.through? = some h) (hf : k.change? = some f)
    (hc : s.cellOf? h = some c) :
    s.call k = { s with cells := s.cells.modify c fun x => { x with storage := f x.storage } } := by
  obtain ⟨h, e, rfl, rfl⟩ | ⟨h, n, rfl, rfl⟩ := Call.change?_cases hf
  · cases hk
    simp [call, update, hc]
  · cases hk
    simp [call, update, hc]

theorem storage?_call_of_change? (hk : k.through? = some h) (hf : k.change? = some f)
    (hc : s.cellOf? h = some c) (i : Handle) :
    (s.call k).storage? i =
      if s.cellOf? i = some c then (s.storage? i).map f else s.storage? i := by
  have hcall := call_of_change? hk hf hc
  have hcell : (s.call k).cellOf? i = s.cellOf? i := by rw [hcall]; rfl
  rw [storage?_eq, storage?_eq, hcell, hcall]
  cases s.cellOf? i with
  | none => simp
  | some d =>
    rw [Option.bind_some, Option.bind_some, stored?_modify]
    by_cases hd : d = c
    · simp [hd, stored?, Function.comp_def]
    · simp [hd, Ne.symm hd, stored?]

theorem cellOf?_call_of_begun (hk : k.begun?.isSome) :
    (s.call k).cellOf? s.handles.length = some s.cells.length := by
  cases k with
  | zeroed | wrap => simp [call, create, cellOf?]
  | share | drop | edit | setValid => cases hk

theorem cellOf?_call_share (hc : s.cellOf? h = some c) :
    (s.call (.share h)).cellOf? s.handles.length = some c := by
  simp only [call, share, hc]
  simp [cellOf?]

theorem cellOf?_call_drop (s : Shelf) (h : Handle) : (s.call (.drop h)).cellOf? h = none := by
  cases hc : s.cellOf? h with
  | none => simp [call, drop, hc]
  | some c =>
    simp only [call, drop, hc]
    by_cases hh : h < s.handles.length <;> simp [cellOf?, hh]

theorem cellOf?_call (hh : h < s.handles.length) (hk : ∀ i, k = .drop i → i ≠ h) :
    (s.call k).cellOf? h = s.cellOf? h := by
  have he := effect_call s k
  generalize s.call k = t at he
  cases he with
  | begun | shared => simp [cellOf?, List.getElem?_append_left hh]
  | dropped => simp [cellOf?, hk _ rfl]
  | changed | missed => rfl

/-- What the references of an empty shelf come to show by some calls. A reference shows its storage
as it was begun and then changed through any reference to it, and by nothing else. -/
structure Faithful (ks : List Call) (s : Shelf) : Prop where
  shows : ∀ h c, s.cellOf? h = some c → ∃ x y, (begun ks)[c]? = some x ∧ s.storage? h = some y ∧
    y = x.changed (changes c {} ks) ∧ y.capacity = x.capacity ∧ y.Sound ∧
    y.bytes.first? y.valid = some y.contents
  refs : ∀ h c, s.cellOf? h = some c → s.refs? h = some (s.handles.count (some c))
  change : ∀ k h f c, k.through? = some h → k.change? = some f → s.cellOf? h = some c →
    ∀ i, (s.call k).storage? i = if s.cellOf? i = some c then (s.storage? i).map f else s.storage? i
  begins : ∀ k : Call, k.begun?.isSome →
    (s.call k).cellOf? s.handles.length = some (begun ks).length ∧
    ∀ h, s.cellOf? h ≠ some (begun ks).length
  shares : ∀ h c, s.cellOf? h = some c → (s.call (.share h)).cellOf? s.handles.length = some c
  drops : ∀ h, (s.call (.drop h)).cellOf? h = none
  keeps : ∀ k h, h < s.handles.length → (∀ i, k = .drop i → i ≠ h) →
    (s.call k).cellOf? h = s.cellOf? h

theorem shows_of_cellOf? (hc : (callAll {} ks).cellOf? h = some c) :
    ∃ x y, (begun ks)[c]? = some x ∧ (callAll {} ks).storage? h = some y ∧
      y = x.changed (changes c {} ks) ∧ y.capacity = x.capacity ∧ y.Sound ∧
      y.bytes.first? y.valid = some y.contents := by
  have hk := kept_callAll ks
  have hlt : c < (begun ks).length := hk.length ▸ (counted_callAll ks).placed c (mem_handles hc)
  have hx := List.getElem?_eq_getElem hlt
  obtain ⟨hcapacity, hsound⟩ :=
    changed_keeps (changes c {} ks) (fun f hf => exists_of_mem_changes hf) (begun ks)[c]
  have hsound := hsound (sound_of_mem_begun (List.getElem_mem hlt))
  refine ⟨_, _, hx, ?_, rfl, hcapacity, hsound, hsound.first?_valid⟩
  rw [storage?_eq, hc, Option.bind_some, hk.stored, hx, Option.map_some]

theorem faithful_callAll (ks : List Call) : Faithful ks (callAll {} ks) := by
  have hs := counted_callAll ks
  constructor
  case shows => exact fun h c hc => shows_of_cellOf? hc
  case refs => exact fun h c hc => refs?_of_cellOf? hs hc
  case change => exact fun k h f c hk hf hc i => storage?_call_of_change? hk hf hc i
  case begins =>
    intro k hk
    rw [← (kept_callAll ks).length]
    exact ⟨cellOf?_call_of_begun hk, fun h hc => Nat.lt_irrefl _ (hs.placed _ (mem_handles hc))⟩
  case shares => exact fun h c hc => cellOf?_call_share hc
  case drops => exact fun h => cellOf?_call_drop _ h
  case keeps => exact fun k h hh hk => cellOf?_call hh hk

/-- Two references to one storage, of which one is dropped in the end, and one to another
storage. -/
def aliased : List Call :=
  [.zeroed 4, .share 0, .wrap [1, 2, 3], .edit 1 (.patch 0 [9, 8, 7, 6, 5]), .setValid 0 2,
    .setValid 2 100, .drop 0]

theorem aliased_faithful : Faithful aliased (callAll {} aliased) ∧
    (callAll {} aliased).storage? 0 = none ∧
    (callAll {} aliased).storage? 1 = some ⟨[9, 8, 7, 6], 2⟩ ∧
    (callAll {} aliased).refs? 1 = some 1 ∧
    (callAll {} aliased).storage? 2 = some ⟨[1, 2, 3], 3⟩ :=
  ⟨faithful_callAll aliased, by decide, by decide, by decide, by decide⟩

end Shelf

end UsbTransfer
