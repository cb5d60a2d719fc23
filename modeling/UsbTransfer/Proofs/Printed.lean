import UsbTransfer.Proofs.Plain
import Mathlib.Data.List.Nodup

/-! Tables of plain values are read as they are printed. -/

namespace UsbTransfer.Toml

open Text (span_append ne_of_class)

variable {s rest : List Char} {c : Char} {n : Nat} {k : String} {v : Toml}

structure Bare (k : String) : Prop where
  nonempty : k.toList ≠ []
  chars : ∀ c ∈ k.toList, isBareKey c = true

instance (k : String) : Decidable (Bare k) :=
  decidable_of_iff (k.toList ≠ [] ∧ k.toList.all isBareKey = true)
    ⟨fun h => ⟨h.1, List.all_eq_true.1 h.2⟩, fun h => ⟨h.nonempty, List.all_eq_true.2 h.chars⟩⟩

theorem Bare.eq_cons (hk : Bare k) : ∃ c s, k.toList = c :: s ∧ isBareKey c = true := by
  obtain ⟨c, s, hs⟩ := List.exists_cons_of_ne_nil hk.nonempty
  exact ⟨c, s, hs, hk.chars c (by simp [hs])⟩

theorem skipBlanks_cons (hc : isBlank c = false) (s : List Char) :
    skipBlanks (c :: s) = c :: s := by
  simp [skipBlanks, hc]

theorem key?_bare (hk : Bare k) (hr : ∀ c ∈ rest.head?, isBareKey c = false) :
    key? (k.toList ++ rest) = some (k, rest) := by
  obtain ⟨c, s, hs, hc⟩ := hk.eq_cons
  have hne : ∀ d, isBareKey d = false → c ≠ d := fun d hd => ne_of_class hc hd
  have hspan := span_append hk.chars hr
  rw [hs] at hspan ⊢
  unfold key?
  split
  · next he => exact absurd (List.cons.inj he).1 (hne '"' rfl)
  · next he => exact absurd (List.cons.inj he).1 (hne '\'' rfl)
  · rw [hspan]
    simp [← hs]

theorem path?_bare (hk : Bare k) (rest : List Char) (hr : ∀ c ∈ rest.head?, isBareKey c = false)
    (hd : ∀ after, skipBlanks rest ≠ '.' :: after) :
    path? limit (k.toList ++ rest) = some ([k], skipBlanks rest) := by
  obtain ⟨c, s, hs, hc⟩ := hk.eq_cons
  have hblank : skipBlanks (k.toList ++ rest) = k.toList ++ rest := by
    have hb : isBlank c = false := by
      simp [isBlank, ne_of_class hc (d := ' ') rfl, ne_of_class hc (d := '\t') rfl]
    rw [hs, List.cons_append, skipBlanks_cons hb]
  have hlimit : limit = 78 + 1 := rfl
  rw [hlimit, path?, hblank, key?_bare hk hr]
  simp only

theorem assignment?_bare (hk : Bare k) (hc : isBlank c = false) :
    assignment? (k.toList ++ ' ' :: '=' :: ' ' :: c :: s) = some ([k], c :: s) := by
  have heq : skipBlanks (' ' :: '=' :: ' ' :: c :: s) = '=' :: ' ' :: c :: s := rfl
  have hpath := path?_bare hk (' ' :: '=' :: ' ' :: c :: s) (by simp; rfl) (by simp [heq])
  have hvalue : skipBlanks (' ' :: c :: s) = c :: s := skipBlanks_cons hc s
  rw [assignment?, hpath, heq]
  simp only [hvalue]

theorem header?_bare (hk : Bare k) (rest : List Char) :
    header? [']'] (k.toList ++ ']' :: '\n' :: rest) = some ([k], rest) := by
  have heq : skipBlanks (']' :: '\n' :: rest) = ']' :: '\n' :: rest := rfl
  have hpath := path?_bare hk (']' :: '\n' :: rest) (by simp; rfl) (by simp [heq])
  rw [header?, hpath, heq]
  rfl

structure Line (s : List Char) (x : Statement) (rest : List Char) : Prop where
  begins : ∃ c after, s = c :: after ∧ isBlank c = false ∧ c ≠ '#' ∧ c ≠ '\n' ∧ c ≠ '\r'
  read : statement? s = some (x, rest)

inductive Lines : List Char → List Statement → Prop
  | done : Lines [] []
  | empty {rest : List Char} {xs : List Statement} (h : Lines rest xs) : Lines ('\n' :: rest) xs
  | line {s rest : List Char} {x : Statement} {xs : List Statement} (hx : Line s x rest)
      (hlt : rest.length < s.length) (h : Lines rest xs) : Lines s (x :: xs)

theorem lineEnd?_eq_none (hb : isBlank c = false) (hh : c ≠ '#') (hn : c ≠ '\n') (hr : c ≠ '\r') :
    lineEnd? (c :: s) = none := by
  have hcomment : skipComment (c :: s) = c :: s := by
    rw [skipComment]
    exact fun _ he => hh (List.cons.inj he).1
  have hnewline : newline? (c :: s) = none := by
    rw [newline?]
    · exact fun _ he => hn (List.cons.inj he).1
    · exact fun _ he => hr (List.cons.inj he).1
  rw [lineEnd?, skipBlanks_cons hb, hcomment]
  exact hnewline

theorem statements?_of_lines {xs : List Statement} (h : Lines s xs) (hn : s.length < n) :
    statements? n s = some xs := by
  induction h generalizing n with
  | done =>
    obtain ⟨n, rfl⟩ := Nat.exists_eq_add_one_of_ne_zero (Nat.ne_zero_of_lt hn)
    rfl
  | @empty rest xs h ih =>
    obtain ⟨n, rfl⟩ := Nat.exists_eq_add_one_of_ne_zero (Nat.ne_zero_of_lt hn)
    have hblank : skipBlanks ('\n' :: rest) = '\n' :: rest := rfl
    have hend : lineEnd? ('\n' :: rest) = some rest := rfl
    simp only [statements?, hblank, hend]
    exact ih (by simpa using hn)
  | @line s rest x xs hx hlt h ih =>
    obtain ⟨n, rfl⟩ := Nat.exists_eq_add_one_of_ne_zero (Nat.ne_zero_of_lt hn)
    obtain ⟨c, after, rfl, hblank, hhash, hnew, hreturn⟩ := hx.begins
    have hend := lineEnd?_eq_none (s := after) hblank hhash hnew hreturn
    simp only [statements?, skipBlanks_cons hblank, hend, hx.read]
    rw [ih (by omega)]
    rfl

theorem line_header (hk : Bare k) (rest : List Char) :
    Line ('[' :: k.toList ++ ']' :: '\n' :: rest) (.table [k]) rest := by
  refine ⟨⟨'[', _, rfl, rfl, by decide, by decide, by decide⟩, ?_⟩
  obtain ⟨c, s, hs, hc⟩ := hk.eq_cons
  have hhead := header?_bare hk rest
  rw [hs] at hhead ⊢
  rw [List.cons_append, statement?]
  · rw [hhead]
    rfl
  · intro after he
    exact ne_of_class hc (d := '[') rfl (List.cons.inj he).1

theorem printPlain_eq_cons (hv : Plain v) : ∃ c s, printPlain v = c :: s ∧ isBlank c = false := by
  cases v with
  | str text =>
    refine ⟨'"', (quote text).tail, ?_, rfl⟩
    simp [printPlain, quote, quotesOf_of_isUnescaped hv, Quotes.mark]
  | int i =>
    obtain ⟨m, rfl⟩ := Int.eq_ofNat_of_zero_le hv.1
    obtain ⟨c, s, hs, -⟩ := Text.decimal_eq_cons m
    have hc : Text.isDigit c = true := Text.isDigit_of_mem_decimal (n := m) (by simp [hs])
    exact ⟨c, s, hs,
      by simp [isBlank, ne_of_class hc (d := ' ') rfl, ne_of_class hc (d := '\t') rfl]⟩
  | bool b => cases b <;> exact ⟨_, _, rfl, rfl⟩
  | float | date | arr | table => cases hv

theorem line_field (hk : Bare k) (hv : Plain v) (rest : List Char) :
    Line (printField (k, v) ++ rest) (.entry [k] v) rest := by
  obtain ⟨c, s, hs, hc⟩ := hk.eq_cons
  obtain ⟨d, after, hd, hblank⟩ := printPlain_eq_cons hv
  have hne : ∀ d, isBareKey d = false → c ≠ d := fun d hd => ne_of_class hc hd
  have hfield : printField (k, v) ++ rest =
      k.toList ++ ' ' :: '=' :: ' ' :: d :: (after ++ '\n' :: rest) := by
    simp [printField, hd]
  have hassign := assignment?_bare (s := after ++ '\n' :: rest) hk hblank
  have hvalue := value?_line (n := (d :: (after ++ '\n' :: rest)).length) hv limit rest
  have hend : lineEnd? ('\n' :: rest) = some rest := rfl
  rw [hd, List.cons_append] at hvalue
  rw [hs, List.cons_append] at hassign
  rw [hfield, hs, List.cons_append]
  refine ⟨⟨c, _, rfl, ?_, hne '#' rfl, hne '\n' rfl, hne '\r' rfl⟩, ?_⟩
  · simp [isBlank, hne ' ' rfl, hne '\t' rfl]
  · rw [statement?]
    · rw [hassign]
      simp only [hvalue, hend, Option.map_some]
    · exact fun _ he => hne '[' rfl (List.cons.inj he).1
    · exact fun _ he => hne '[' rfl (List.cons.inj he).1

structure Section (t : String × List (String × Toml)) : Prop where
  name : Bare t.1
  keys : ∀ f ∈ t.2, Bare f.1
  plain : ∀ f ∈ t.2, Plain f.2
  nodup : (t.2.map (·.1)).Nodup

theorem Section.of_keys {name : String} {fs : List (String × Toml)} (keys : List String)
    (hkeys : fs.map (·.1) = keys) (hb : ∀ k ∈ name :: keys, Bare k) (hn : keys.Nodup)
    (hv : ∀ f ∈ fs, Plain f.2) : Section (name, fs) where
  name := hb name List.mem_cons_self
  keys f hf := hb f.1 (List.mem_cons_of_mem _ (hkeys ▸ List.mem_map_of_mem hf))
  plain := hv
  nodup := hkeys ▸ hn

def Statement.ofField (f : String × Toml) : Statement := .entry [f.1] f.2

def statementsOf (t : String × List (String × Toml)) : List Statement :=
  .table [t.1] :: t.2.map Statement.ofField

variable {t : String × List (String × Toml)} {ts : List (String × List (String × Toml))}
  {fs : List (String × Toml)} {xs : List Statement}

theorem lines_fields (hk : ∀ f ∈ fs, Bare f.1) (hv : ∀ f ∈ fs, Plain f.2) (h : Lines rest xs) :
    Lines (fs.flatMap printField ++ rest) (fs.map Statement.ofField ++ xs) := by
  induction fs with
  | nil => exact h
  | cons f fs ih =>
    have hrest := ih (fun g hg => hk g (List.mem_cons_of_mem _ hg)) fun g hg =>
      hv g (List.mem_cons_of_mem _ hg)
    have hline := line_field (hk f List.mem_cons_self) (hv f List.mem_cons_self)
      (fs.flatMap printField ++ rest)
    rw [List.flatMap_cons, List.append_assoc, List.map_cons, List.cons_append]
    exact .line hline (by simp [printField]; omega) hrest

theorem lines_section (ht : Section t) (h : Lines rest xs) :
    Lines (printSection t ++ rest) (statementsOf t ++ xs) := by
  have hfields := lines_fields ht.keys ht.plain h
  have hline := line_header ht.name (t.2.flatMap printField ++ rest)
  have htext : printSection t ++ rest =
      '[' :: t.1.toList ++ ']' :: '\n' :: (t.2.flatMap printField ++ rest) := by
    simp [printSection]
  rw [htext]
  exact .line hline (by simp; omega) hfields

theorem lines_sections (hts : ∀ t ∈ ts, Section t) :
    Lines (printSections ts) (ts.flatMap statementsOf) := by
  induction ts with
  | nil => exact .done
  | cons t ts ih =>
    have ht := hts t List.mem_cons_self
    have hrest := ih fun u hu => hts u (List.mem_cons_of_mem _ hu)
    cases ts with
    | nil => simpa [printSections] using lines_section ht .done
    | cons u ts =>
      rw [List.flatMap_cons, printSections]
      · exact lines_section ht hrest.empty
      · simp

section Tables

variable {fields : Fields} {current : List String} {gs : List (String × Toml)}
  {us : List (String × List (String × Toml))}

def leaves (fs : List (String × Toml)) : Fields := fs.map fun f => (f.1, .leaf f.2)

def built (ts : List (String × List (String × Toml))) : Fields :=
  ts.map fun t => (t.1, .branch .declared (leaves t.2))

theorem lookup_leaves (hk : k ∉ fs.map (·.1)) : (leaves fs).lookup k = none := by
  rw [List.lookup_eq_none_iff]
  intro f hf
  obtain ⟨g, hg, rfl⟩ := List.mem_map.1 hf
  simpa using fun he : k = g.1 => hk (he ▸ List.mem_map_of_mem hg)

theorem lookup_built (hk : k ∉ ts.map (·.1)) : (built ts).lookup k = none := by
  rw [List.lookup_eq_none_iff]
  intro f hf
  obtain ⟨t, ht, rfl⟩ := List.mem_map.1 hf
  simpa using fun he : k = t.1 => hk (he ▸ List.mem_map_of_mem ht)

theorem put_of_lookup_eq_none (hn : fields.lookup k = none) (x : Node) :
    fields.put k x = fields ++ [(k, x)] := by
  simp [Fields.put, hn]

theorem put_append_self (hn : fields.lookup k = none) (x y : Node) :
    Fields.put (fields ++ [(k, x)]) k y = fields ++ [(k, y)] := by
  have hnamed : (List.lookup k (fields ++ [(k, x)])).isSome := by simp [List.lookup_append, hn]
  rw [Fields.put, if_pos hnamed, List.map_append]
  refine congrArg₂ (· ++ ·) ?_ (by simp)
  conv_rhs => rw [← List.map_id fields]
  refine List.map_congr_left fun f hm => ?_
  obtain ⟨k', z⟩ := f
  have hk : k' ≠ k := fun he => by simpa [he] using List.lookup_eq_none_iff.1 hn _ hm
  simp [hk]

theorem add_header (hk : k ∉ ts.map (·.1)) :
    Draft.add? ⟨built ts, current⟩ (.table [k]) = some ⟨built (ts ++ [(k, [])]), [k]⟩ := by
  have hdeclare : declare k (built ts) = some (built (ts ++ [(k, [])])) := by
    simp only [declare, lookup_built hk, put_of_lookup_eq_none (lookup_built hk)]
    simp [built, leaves]
  simp only [Draft.add?, Draft.open?]
  simp [within, hdeclare]

theorem add_field {name : String} (hn : name ∉ ts.map (·.1)) (hk : k ∉ fs.map (·.1)) :
    Draft.add? ⟨built (ts ++ [(name, fs)]), [name]⟩ (.ofField (k, v)) =
      some ⟨built (ts ++ [(name, fs ++ [(k, v)])]), [name]⟩ := by
  have hinsert : insert true v [k] (leaves fs) = some (leaves (fs ++ [(k, v)])) := by
    simp only [insert, lookup_leaves hk, put_of_lookup_eq_none (lookup_leaves hk)]
    simp [leaves]
  have hroot : ∀ gs, built (ts ++ [(name, gs)]) =
      built ts ++ [(name, .branch .declared (leaves gs))] := fun gs => by simp [built]
  have hlookup : (built ts ++ [(name, Node.branch .declared (leaves fs))]).lookup name =
      some (Node.branch .declared (leaves fs)) := by
    simp [List.lookup_append, lookup_built hn]
  simp only [Draft.add?, Statement.ofField, hroot, within, hlookup, hinsert, Option.map_some,
    put_append_self (lookup_built hn)]

theorem name_not_mem {α : Type} {xs ys : List (String × α)} {x : String × α}
    (hn : ((xs ++ x :: ys).map (·.1)).Nodup) : x.1 ∉ xs.map (·.1) := by
  rw [List.map_append, List.map_cons, List.nodup_middle, List.nodup_cons] at hn
  exact fun hm => hn.1 (List.mem_append_left _ hm)

theorem add_fields {name : String} (hn : name ∉ ts.map (·.1)) (hk : ((fs ++ gs).map (·.1)).Nodup) :
    (gs.map Statement.ofField).foldlM Draft.add? ⟨built (ts ++ [(name, fs)]), [name]⟩ =
      some ⟨built (ts ++ [(name, fs ++ gs)]), [name]⟩ := by
  induction gs generalizing fs with
  | nil => simp
  | cons g gs ih =>
    have hk' : (((fs ++ [g]) ++ gs).map (·.1)).Nodup := by simpa using hk
    rw [List.map_cons, List.foldlM_cons, add_field hn (name_not_mem hk), Option.bind_eq_bind,
      Option.bind_some, ih hk', List.append_assoc]
    rfl

theorem add_sections (current : List String) (hu : ∀ u ∈ us, (u.2.map (·.1)).Nodup)
    (hn : ((ts ++ us).map (·.1)).Nodup) :
    ∃ d, (us.flatMap statementsOf).foldlM Draft.add? ⟨built ts, current⟩ = some d ∧
      d.root = built (ts ++ us) := by
  induction us generalizing ts current with
  | nil => exact ⟨_, rfl, by simp⟩
  | cons u us ih =>
    have hnew := name_not_mem hn
    have hn' : (((ts ++ [u]) ++ us).map (·.1)).Nodup := by simpa using hn
    obtain ⟨d, hd, hroot⟩ := ih [u.1] (fun w hw => hu w (List.mem_cons_of_mem _ hw)) hn'
    refine ⟨d, ?_, by simpa using hroot⟩
    have hfields :
      (u.2.map Statement.ofField).foldlM Draft.add? ⟨built (ts ++ [(u.1, [])]), [u.1]⟩ =
        some ⟨built (ts ++ [u]), [u.1]⟩ := add_fields hnew (hu u List.mem_cons_self)
    rw [List.flatMap_cons, statementsOf, List.cons_append, List.foldlM_cons, add_header hnew,
      Option.bind_eq_bind, Option.bind_some, List.foldlM_append, hfields, Option.bind_eq_bind,
      Option.bind_some]
    exact hd

theorem valueFields_leaves (fs : List (String × Toml)) : valueFields (leaves fs) = fs := by
  induction fs with
  | nil => rfl
  | cons f fs ih =>
    rw [leaves, List.map_cons, valueFields]
    exact congrArg _ ih

theorem valueFields_built (ts : List (String × List (String × Toml))) :
    valueFields (built ts) = ts.map fun t => (t.1, .table t.2) := by
  induction ts with
  | nil => rfl
  | cons t ts ih =>
    rw [built, List.map_cons, valueFields, Node.value, valueFields_leaves, List.map_cons]
    exact congrArg _ ih

theorem ofStatements?_sections (hu : ∀ t ∈ ts, (t.2.map (·.1)).Nodup)
    (hn : (ts.map (·.1)).Nodup) :
    ofStatements? (ts.flatMap statementsOf) =
      some (.table (ts.map fun t => (t.1, .table t.2))) := by
  obtain ⟨d, hd, hroot⟩ := add_sections [] hu ((List.nil_append ts).symm ▸ hn)
  have hempty : ({} : Draft) = ⟨built [], []⟩ := rfl
  rw [ofStatements?, hempty, hd, Option.map_some, hroot, List.nil_append, valueFields_built]

end Tables

theorem parse?_printSections (hts : ∀ t ∈ ts, Section t) (hn : (ts.map (·.1)).Nodup) :
    parse? (String.ofList (printSections ts)) =
      some (.table (ts.map fun t => (t.1, .table t.2))) := by
  have hmark : skipMark (printSections ts) = printSections ts := by
    rcases ts with _ | ⟨t, _ | ⟨u, ts⟩⟩ <;> rfl
  have hread := statements?_of_lines (lines_sections hts) (Nat.lt_succ_self _)
  simp only [parse?, String.toList_ofList, hmark]
  rw [hread, Option.bind_some]
  exact ofStatements?_sections (fun t ht => (hts t ht).nodup) hn

end UsbTransfer.Toml
