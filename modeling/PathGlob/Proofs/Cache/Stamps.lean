-- SUMMARY: Stamps never collide, so what a store gives up does not depend on the order of its entries.
import PathGlob.Proofs.Cache.Recency

/-!
# Stamps

The clock ticks on each use, so every entry carries the tick at which its key was used last, and no
two carry the same. The entries themselves stand in no particular order: `Reaches` lets any other
take its place between two operations. `evicted_by_stamp` says that the stamps alone decide which
entry makes room.
-/

namespace PathGlob.Recent

variable {α : Type}

/-! ## Operations -/

inductive Op (α : Type) where
  | touch (key : String)
  | store (key : String) (value : α)
  | clear

/-- The key that an operation uses, if it uses one. -/
def Op.key? : Op α → Option String
  | .touch key | .store key _ => some key
  | .clear => none

def apply (r : Recent α) : Op α → Recent α
  | .touch key => (r.touch key).2
  | .store key value => (r.store key value).2
  | .clear => r.clear

/-- How often the clock ticks in some operations. -/
def ticks (ops : List (Op α)) : Nat := ops.countP fun op => op.key?.isSome

/-- The tick of the last use of a key in some operations, given last one first. -/
def lastUse (key : String) (ops : List (Op α)) : Nat :=
  ticks (ops.dropWhile fun op => op.key? ≠ some key)

/-- The stores that come of some operations, given last one first. At any time the entries may take
another order. -/
inductive Reaches (capacity : Nat) : List (Op α) → Recent α → Prop where
  | start : Reaches capacity [] (ofCapacity capacity)
  | apply {ops : List (Op α)} {r : Recent α} (h : Reaches capacity ops r) (op : Op α) :
      Reaches capacity (op :: ops) (r.apply op)
  | reorder {ops : List (Op α)} {r : Recent α} {es : List (Entry α)} (h : Reaches capacity ops r)
      (hperm : es.Perm r.entries) : Reaches capacity ops { r with entries := es }

variable {r r' : Recent α} {es : List (Entry α)} {e f : Entry α} {op : Op α} {ops : List (Op α)}
  {key : String} {capacity : Nat}

theorem ticks_cons_of_use (h : op.key? = some key) : ticks (op :: ops) = ticks ops + 1 :=
  List.countP_cons_of_pos (by simp [h])

theorem lastUse_cons_of_use (h : op.key? = some key) : lastUse key (op :: ops) = ticks ops + 1 := by
  rw [lastUse, List.dropWhile_cons_of_neg (by simp [h]), ticks_cons_of_use h]

theorem lastUse_cons_of_ne (h : op.key? ≠ some key) :
    lastUse key (op :: ops) = lastUse key ops := by
  rw [lastUse, List.dropWhile_cons_of_pos (by simp [h]), lastUse]

/-! ## Entries after an operation -/

theorem mem_replace (h : f ∈ replace es e) : f = e ∨ f ∈ es ∧ f.key ≠ e.key := by
  obtain ⟨d, hd, heq⟩ := List.mem_map.1 h
  split at heq
  · exact .inl heq.symm
  · next hne => exact .inr ⟨heq ▸ hd, heq ▸ hne⟩

theorem key_ne_of_find?_eq_none (h : r.find? key = none) (hf : f ∈ r.entries) : f.key ≠ key := by
  simpa using List.find?_eq_none.1 h f hf

/-- An entry is stamped when its key is used, and left alone otherwise. -/
theorem mem_entries_apply (h : f ∈ (r.apply op).entries) :
    op.key? = some f.key ∧ f.lastUsed = r.clock + 1 ∨ op.key? ≠ some f.key ∧ f ∈ r.entries := by
  have hused {key : String} (value : α) (hop : op.key? = some key)
      (hf : f = ⟨key, value, r.clock + 1⟩ ∨ f ∈ r.entries ∧ f.key ≠ key) :
      op.key? = some f.key ∧ f.lastUsed = r.clock + 1 ∨ op.key? ≠ some f.key ∧ f ∈ r.entries := by
    rcases hf with rfl | ⟨hmem, hne⟩
    · exact .inl ⟨hop, rfl⟩
    · exact .inr ⟨fun heq => hne (Option.some.inj (heq.symm.trans hop)), hmem⟩
  cases op with
  | touch key =>
    rw [apply, touch] at h
    cases hfind : r.find? key with
    | some e =>
      rw [hfind] at h
      have hkey : e.key = key := by simpa using List.find?_some hfind
      exact hused e.value (congrArg some hkey.symm) (mem_replace h)
    | none =>
      rw [hfind] at h
      refine .inr ⟨fun heq => key_ne_of_find?_eq_none hfind h ?_, h⟩
      exact (Option.some.inj heq).symm
  | store key value =>
    refine hused value rfl ?_
    rw [apply, store] at h
    cases hfind : r.find? key with
    | some e =>
      rw [hfind] at h
      exact mem_replace h
    | none =>
      rw [hfind] at h
      have hold (hf : f ∈ r.entries) : f ∈ r.entries ∧ f.key ≠ key :=
        ⟨hf, key_ne_of_find?_eq_none hfind hf⟩
      dsimp only at h
      split at h
      · split at h
        · exact (List.mem_cons.1 h).imp_right fun hf => hold (List.mem_of_mem_filter hf)
        · exact (List.mem_cons.1 h).imp_right hold
      · exact (List.mem_cons.1 h).imp_right hold
  | clear => cases h

theorem clock_apply : (r.apply op).clock = r.clock + ticks [op] := by
  cases op with
  | touch key =>
    rw [apply, touch]
    split <;> rfl
  | store key value =>
    rw [apply, store]
    repeat' split
    all_goals rfl
  | clear => rfl

/-! ## Order of the entries -/

/-- Whether two stores differ in the order of their entries at most. -/
structure Reorders (r r' : Recent α) : Prop where
  capacity_eq : r.capacity = r'.capacity
  clock_eq : r.clock = r'.clock
  perm : r.entries.Perm r'.entries

theorem Ordered.reorder (h : r.Ordered es) (hr : r.Reorders r') : r'.Ordered es where
  perm := h.perm.trans hr.perm
  keys := h.keys
  stamps := h.stamps
  clock := hr.clock_eq ▸ h.clock
  length_le := hr.capacity_eq ▸ h.length_le
  capacity_pos := hr.capacity_eq ▸ h.capacity_pos

theorem Ordered.find?_reorder (h : r.Ordered es) (hr : r.Reorders r') :
    r.find? key = r'.find? key := by
  ext e
  rw [h.find?_eq_some_iff, (h.reorder hr).find?_eq_some_iff]

/-- A lookup does not depend on the order of the entries. -/
theorem Ordered.touch_reorder (h : r.Ordered es) (hr : r.Reorders r') (key : String) :
    (r.touch key).1 = (r'.touch key).1 ∧ (r.touch key).2.Reorders (r'.touch key).2 := by
  rw [Recent.touch, Recent.touch, ← h.find?_reorder hr, hr.clock_eq]
  cases r.find? key with
  | some e => exact ⟨rfl, hr.capacity_eq, rfl, hr.perm.map _⟩
  | none => exact ⟨rfl, hr.capacity_eq, rfl, hr.perm⟩

/-- Nor does what makes room for a new key. -/
theorem Ordered.store_reorder (h : r.Ordered es) (hr : r.Reorders r') (key : String) (value : α) :
    (r.store key value).1 = (r'.store key value).1 ∧
      (r.store key value).2.Reorders (r'.store key value).2 := by
  have hsize : r.size = r'.size := hr.perm.length_eq
  have hstalest : stalest r.entries = stalest r'.entries :=
    h.stalest_eq_getLast?.trans (h.reorder hr).stalest_eq_getLast?.symm
  rw [Recent.store, Recent.store, ← h.find?_reorder hr, hr.clock_eq, hr.capacity_eq, hsize,
    hstalest]
  cases r.find? key with
  | some e => exact ⟨rfl, rfl, rfl, hr.perm.map _⟩
  | none =>
    dsimp only
    split
    · cases stalest r'.entries with
      | some s => exact ⟨rfl, rfl, rfl, (hr.perm.filter _).cons _⟩
      | none => exact ⟨rfl, rfl, rfl, hr.perm.cons _⟩
    · exact ⟨rfl, rfl, rfl, hr.perm.cons _⟩

theorem Ordered.apply_reorder (h : r.Ordered es) (hr : r.Reorders r') (op : Op α) :
    (r.apply op).Reorders (r'.apply op) := by
  cases op with
  | touch key => exact (h.touch_reorder hr key).2
  | store key value => exact (h.store_reorder hr key value).2
  | clear => exact ⟨hr.capacity_eq, hr.clock_eq, .nil⟩

/-! ## What makes room -/

/-- As stamps differ, the entry that makes room is the only one with the smallest. -/
theorem store_eq_some_iff (hstamps : (r.entries.map Entry.lastUsed).Nodup) (value : α)
    {evicted : String} :
    (r.store key value).1 = some evicted ↔
      key ∉ r.entries.map Entry.key ∧ r.capacity ≤ r.size ∧
        ∃ e ∈ r.entries, e.key = evicted ∧ ∀ f ∈ r.entries, f ≠ e → e.lastUsed < f.lastUsed := by
  rw [store]
  cases hfind : r.find? key with
  | some e =>
    have hkey : e.key = key := by simpa using List.find?_some hfind
    have hmem : key ∈ r.entries.map Entry.key :=
      List.mem_map.2 ⟨e, List.mem_of_find?_eq_some hfind, hkey⟩
    exact iff_of_false nofun fun h => h.1 hmem
  | none =>
    have hkey : key ∉ r.entries.map Entry.key := by
      intro hmem
      obtain ⟨f, hf, heq⟩ := List.mem_map.1 hmem
      exact key_ne_of_find?_eq_none hfind hf heq
    dsimp only
    split
    · next hfull =>
      cases hs : stalest r.entries with
      | some s =>
        obtain ⟨hmem, hle⟩ := stalest_eq_some hs
        constructor
        · rintro ⟨⟩
          refine ⟨hkey, hfull, s, hmem, rfl, fun f hf hne => ?_⟩
          refine Nat.lt_of_le_of_ne (hle f hf) fun heq => hne ?_
          exact List.inj_on_of_nodup_map hstamps hf hmem heq.symm
        · rintro ⟨-, -, e, he, rfl, hlt⟩
          have heq : s = e := by
            by_contra hne
            exact Nat.not_lt.2 (hle e he) (hlt s hmem hne)
          rw [heq]
      | none =>
        rw [stalest_eq_none hs]
        exact iff_of_false nofun nofun
    · next hroom => exact iff_of_false nofun fun h => hroom h.2.1

/-! ## Runs -/

theorem Ordered.apply (h : r.Ordered es) (op : Op α) : ∃ fs, (r.apply op).Ordered fs := by
  have hholds : r.Holds (es.map Entry.pair) := ⟨es, h, rfl⟩
  cases op with
  | touch key =>
    obtain ⟨value, -, -, fs, hfs, -⟩ | ⟨-, -, fs, hfs, -⟩ := hholds.touch key
    · exact ⟨fs, hfs⟩
    · exact ⟨fs, hfs⟩
  | store key value =>
    by_cases hkey : key ∈ es.map Entry.key
    · obtain ⟨e, he, rfl⟩ := List.mem_map.1 hkey
      obtain ⟨before, after, rfl⟩ := List.append_of_mem he
      refine ⟨⟨e.key, value, r.clock + 1⟩ :: (before ++ after), ?_⟩
      rw [Recent.apply, Recent.store, h.find?_eq_some_iff.2 ⟨he, rfl⟩]
      exact h.replace rfl rfl
    · exact ⟨_, h.store hkey value⟩
  | clear =>
    obtain ⟨fs, hfs, -⟩ := hholds.clear
    exact ⟨fs, hfs⟩

/-- The store that some operations leave if its entries never change their order in between. -/
def ofOps (capacity : Nat) (ops : List (Op α)) : Recent α :=
  ops.foldr (fun op r => r.apply op) (ofCapacity capacity)

theorem exists_ordered_ofOps (capacity : Nat) (ops : List (Op α)) :
    ∃ es, (ofOps capacity ops).Ordered es := by
  induction ops with
  | nil =>
    obtain ⟨es, hes, -⟩ := holds_ofCapacity (α := α) capacity
    exact ⟨es, hes⟩
  | cons op ops ih =>
    obtain ⟨es, hes⟩ := ih
    exact hes.apply op

/-- Operations decide what a store holds, and only the order of the entries is left open. -/
theorem Reaches.reorders (h : Reaches capacity ops r) : (ofOps capacity ops).Reorders r := by
  induction h with
  | start => exact ⟨rfl, rfl, .refl _⟩
  | @apply ops r _ op ih =>
    obtain ⟨es, hes⟩ := exists_ordered_ofOps capacity ops
    exact hes.apply_reorder ih op
  | reorder _ hperm ih => exact ⟨ih.capacity_eq, ih.clock_eq, ih.perm.trans hperm.symm⟩

theorem Reaches.clock_eq (h : Reaches capacity ops r) : r.clock = ticks ops := by
  induction h with
  | start => rfl
  | @apply ops r _ op ih =>
    rw [clock_apply, ih, Nat.add_comm, ticks, ticks, ticks, ← List.countP_append]
    rfl
  | reorder _ _ ih => exact ih

/-- Each stamp is the tick of its key's last use. -/
theorem Reaches.lastUsed_eq (h : Reaches capacity ops r) (he : e ∈ r.entries) :
    1 ≤ e.lastUsed ∧ e.lastUsed = lastUse e.key ops := by
  induction h with
  | start => cases he
  | @apply ops r h op ih =>
    obtain ⟨hkey, hstamp⟩ | ⟨hkey, he⟩ := mem_entries_apply he
    · rw [lastUse_cons_of_use hkey, hstamp, h.clock_eq]
      exact ⟨Nat.le_add_left 1 _, rfl⟩
    · rw [lastUse_cons_of_ne hkey]
      exact ih he
  | reorder _ hperm ih => exact ih (hperm.mem_iff.1 he)

/-- Whatever the operations so far and whatever the order of the entries, keys and stamps are unique
and the stamps lie between one and the clock, each the tick of the last use of its key. So what
makes room for a new key in a full store is the one entry that was used longest ago, in any order of
the entries. -/
theorem evicted_by_stamp (h : Reaches capacity ops r) :
    (r.entries.map Entry.key).Nodup ∧ r.size ≤ r.capacity ∧ 1 ≤ r.capacity ∧
    r.clock = ticks ops ∧
    (∀ e ∈ r.entries,
      1 ≤ e.lastUsed ∧ e.lastUsed ≤ r.clock ∧ e.lastUsed = lastUse e.key ops) ∧
    (r.entries.map Entry.lastUsed).Nodup ∧
    ∀ (key : String) (value : α),
      (∀ evicted, (r.store key value).1 = some evicted ↔
        key ∉ r.entries.map Entry.key ∧ r.size = r.capacity ∧
          ∃ e ∈ r.entries, e.key = evicted ∧
            ∀ f ∈ r.entries, f ≠ e → e.lastUsed < f.lastUsed) ∧
      ∀ r', Reaches capacity ops r' → (r'.store key value).1 = (r.store key value).1 := by
  obtain ⟨es, hofOps⟩ := exists_ordered_ofOps capacity ops
  have hes : r.Ordered es := hofOps.reorder h.reorders
  have hsize : r.size ≤ r.capacity := by
    rw [Recent.size, ← hes.perm.length_eq]
    exact hes.length_le
  have hstamps : (r.entries.map Entry.lastUsed).Nodup := by
    rw [← (hes.perm.map Entry.lastUsed).nodup_iff]
    exact List.pairwise_map.2 (hes.stamps.imp Nat.ne_of_gt)
  refine ⟨(hes.perm.map Entry.key).nodup_iff.1 hes.keys, hsize, hes.capacity_pos, h.clock_eq,
    fun e he => ?_, hstamps, fun key value => ⟨fun evicted => ?_, fun r' h' => ?_⟩⟩
  · obtain ⟨hpos, hlast⟩ := h.lastUsed_eq he
    exact ⟨hpos, hes.clock e (hes.perm.mem_iff.2 he), hlast⟩
  · rw [store_eq_some_iff hstamps value, Nat.le_antisymm_iff, and_iff_right hsize]
  · have hsame := (hofOps.store_reorder h.reorders key value).1
    exact (hofOps.store_reorder h'.reorders key value).1.symm.trans hsame

/-- A use saves `a`, stored first, from giving way, also when the entries have changed places. -/
theorem evicted_by_stamp_reordered :
    ∃ r : Recent Nat, Reaches 2 [.touch "a", .store "b" 1, .store "a" 0] r ∧
      r.entries = [⟨"a", 0, 3⟩, ⟨"b", 1, 2⟩] ∧ (r.store "c" 2).1 = some "b" := by
  have hreaches : Reaches 2 [.touch "a", .store "b" 1, .store "a" 0] _ :=
    ((Reaches.start.apply (.store "a" 0)).apply (.store "b" 1)).apply (.touch "a")
  have hperm : ([⟨"a", 0, 3⟩, ⟨"b", 1, 2⟩] : List (Entry Nat)).Perm [⟨"b", 1, 2⟩, ⟨"a", 0, 3⟩] :=
    .swap _ _ []
  have hreordered := hreaches.reorder hperm
  refine ⟨_, hreordered, rfl, ?_⟩
  refine (((evicted_by_stamp hreordered).2.2.2.2.2.2 "c" 2).1 "b").2 ⟨by decide, rfl, ?_⟩
  refine ⟨⟨"b", 1, 2⟩, .tail _ (.head _), rfl, fun f hf hne => ?_⟩
  rcases hf with _ | ⟨_, _ | ⟨_, ⟨⟩⟩⟩
  · exact Nat.lt_succ_self 2
  · exact absurd rfl hne

end PathGlob.Recent
