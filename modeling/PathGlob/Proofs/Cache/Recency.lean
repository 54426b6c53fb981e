-- SUMMARY: A store of recent entries is a list by recency, cut off at its capacity.
import Mathlib.Data.List.Nodup
import PathGlob.Cache.Recent

/-!
# Stores by recency

The stamps of a store tell in which order its entries were used. `Holds` reads its contents in that
order, last used first. A use moves a key to the front, and what a full store gives up for a new key
is what falls off the end.
-/

namespace PathGlob.Recent

variable {α : Type}

/-- Puts a key with a value in front, in place of what the key had before. -/
def promote (key : String) (value : α) (cs : List (String × α)) : List (String × α) :=
  (key, value) :: cs.filter fun c => c.1 ≠ key

def Entry.pair (e : Entry α) : String × α := (e.key, e.value)

/-- Whether some entries are those of a store, last used first. -/
structure Ordered (r : Recent α) (es : List (Entry α)) : Prop where
  perm : es.Perm r.entries
  keys : (es.map Entry.key).Nodup
  stamps : es.Pairwise fun e f => f.lastUsed < e.lastUsed
  clock : ∀ e ∈ es, e.lastUsed ≤ r.clock
  length_le : es.length ≤ r.capacity
  capacity_pos : 0 < r.capacity

/-- Whether a store holds some values by key, last used first. -/
def Holds (r : Recent α) (cs : List (String × α)) : Prop :=
  ∃ es, r.Ordered es ∧ es.map Entry.pair = cs

variable {r : Recent α} {es fs before after : List (Entry α)} {e f : Entry α} {key : String}
  {value : α} {cs : List (String × α)}

/-! ## Entries by key -/

theorem Ordered.find?_eq_some_iff (h : r.Ordered es) :
    r.find? key = some e ↔ e ∈ es ∧ e.key = key := by
  have hmem : ∀ f, f ∈ r.entries ↔ f ∈ es := fun f => h.perm.mem_iff.symm
  constructor
  · intro hfind
    refine ⟨(hmem e).1 (List.mem_of_find?_eq_some hfind), ?_⟩
    simpa using List.find?_some hfind
  · rintro ⟨he, hkey⟩
    cases hfind : r.find? key with
    | none =>
      have := List.find?_eq_none.1 hfind e ((hmem e).2 he)
      simp [hkey] at this
    | some f =>
      have hf := (hmem f).1 (List.mem_of_find?_eq_some hfind)
      have hfkey : f.key = key := by simpa using List.find?_some hfind
      rw [List.inj_on_of_nodup_map h.keys hf he (hfkey.trans hkey.symm)]

theorem Ordered.find?_eq_none_iff (h : r.Ordered es) :
    r.find? key = none ↔ key ∉ es.map Entry.key := by
  rw [Option.eq_none_iff_forall_ne_some]
  simp only [ne_eq, h.find?_eq_some_iff, List.mem_map]
  exact ⟨fun hnone ⟨e, he⟩ => hnone e he, fun hnone e he => hnone ⟨e, he⟩⟩

/-- Apart from an entry, no entry of a store has its key. -/
theorem key_ne_of_append (hkeys : ((before ++ e :: after).map Entry.key).Nodup) :
    ∀ d ∈ before ++ after, d.key ≠ e.key := by
  rw [(List.perm_middle.map Entry.key).nodup_iff, List.map_cons, List.nodup_cons] at hkeys
  intro d hd heq
  exact hkeys.1 (heq ▸ List.mem_map_of_mem hd)

theorem filter_key_ne (hkeys : ((before ++ e :: after).map Entry.key).Nodup) :
    (before ++ e :: after).filter (fun d => d.key ≠ e.key) = before ++ after := by
  have hne := key_ne_of_append hkeys
  rw [List.filter_append, List.filter_cons_of_neg (by simp), ← List.filter_append,
    List.filter_eq_self]
  intro d hd
  simpa using hne d hd

theorem replace_append (hkeys : ((before ++ e :: after).map Entry.key).Nodup)
    (hkey : f.key = e.key) : replace (before ++ e :: after) f = before ++ f :: after := by
  have hkeep : ∀ ds, (∀ d ∈ ds, d.key ≠ e.key) → replace ds f = ds := by
    intro ds hds
    refine (List.map_congr_left fun d hd => ?_).trans (List.map_id ds)
    rw [if_neg (hkey ▸ hds d hd), id]
  have hne := List.forall_mem_append.1 (key_ne_of_append hkeys)
  show List.map _ (before ++ e :: after) = _
  rw [List.map_append, List.map_cons, if_pos hkey.symm]
  exact congrArg₂ _ (hkeep before hne.1) (congrArg _ (hkeep after hne.2))

/-! ## The entry used longest ago -/

theorem stalest_eq_none (h : stalest es = none) : es = [] := by
  cases es with
  | nil => rfl
  | cons e es =>
    rw [stalest] at h
    split at h
    · split at h <;> cases h
    · cases h

theorem stalest_eq_some (h : stalest es = some e) : e ∈ es ∧ ∀ f ∈ es, e.lastUsed ≤ f.lastUsed := by
  induction es generalizing e with
  | nil => cases h
  | cons d ds ih =>
    rw [stalest] at h
    split at h
    · next s hs =>
      obtain ⟨hmem, hle⟩ := ih hs
      split at h
      · next hlt =>
        cases h
        refine ⟨List.mem_cons_of_mem d hmem, fun f hf => ?_⟩
        rcases List.mem_cons.1 hf with rfl | hf
        · exact Nat.le_of_lt hlt
        · exact hle f hf
      · next hlt =>
        cases h
        refine ⟨List.mem_cons_self, fun f hf => ?_⟩
        rcases List.mem_cons.1 hf with rfl | hf
        · exact Nat.le_refl _
        · exact Nat.le_trans (Nat.not_lt.1 hlt) (hle f hf)
    · next hs =>
      cases h
      obtain rfl := stalest_eq_none hs
      refine ⟨List.mem_cons_self, fun f hf => ?_⟩
      exact Nat.le_of_eq (congrArg _ (List.mem_singleton.1 hf).symm)

/-- Stamps differ, so only the last entry can be the stalest. -/
theorem Ordered.stalest_eq (h : r.Ordered (es ++ [e])) : stalest r.entries = some e := by
  cases hs : stalest r.entries with
  | none =>
    have hnil := h.perm.symm
    rw [stalest_eq_none hs] at hnil
    exact absurd (List.nil_perm.1 hnil) (by simp)
  | some s =>
    obtain ⟨hmem, hle⟩ := stalest_eq_some hs
    have hlast := hle e (h.perm.mem_iff.1 (by simp))
    rcases List.mem_append.1 (h.perm.mem_iff.2 hmem) with hs | hs
    · have := (List.pairwise_append.1 h.stamps).2.2 s hs e (by simp)
      omega
    · rw [List.mem_singleton.1 hs]

theorem Ordered.stalest_eq_getLast? (h : r.Ordered es) : stalest r.entries = es.getLast? := by
  obtain rfl | ⟨front, last, rfl⟩ := List.eq_nil_or_concat es
  · rw [List.nil_perm.1 h.perm]
    rfl
  · rw [List.concat_eq_append] at h ⊢
    rw [h.stalest_eq, List.getLast?_concat]

theorem Ordered.perm_filter_last (h : r.Ordered (es ++ [e])) :
    es.Perm (r.entries.filter fun f => f.key ≠ e.key) := by
  have hfilter : (es ++ [e]).filter (fun f => f.key ≠ e.key) = es ++ [] := filter_key_ne h.keys
  rw [← es.append_nil, ← hfilter]
  exact h.perm.filter _

/-! ## Operations -/

theorem promote_of_not_mem (hkey : key ∉ cs.map Prod.fst) :
    promote key value cs = (key, value) :: cs := by
  rw [promote, List.filter_eq_self.2]
  exact fun c hc => decide_eq_true fun heq => hkey (heq ▸ List.mem_map_of_mem hc)

/-- The clock has gone on, so the entry used now comes before all others. -/
theorem Ordered.cons (h : r.Ordered es) (hsub : fs.Sublist es) {r' : Recent α}
    (hperm : (e :: fs).Perm r'.entries) (hkey : ∀ f ∈ fs, f.key ≠ e.key)
    (hstamp : e.lastUsed = r.clock + 1) (hclock : r'.clock = r.clock + 1)
    (hcapacity : r'.capacity = r.capacity) (hlength : fs.length < r.capacity) :
    r'.Ordered (e :: fs) where
  perm := hperm
  keys := by
    rw [List.map_cons, List.nodup_cons]
    refine ⟨fun hmem => ?_, (hsub.map Entry.key).nodup h.keys⟩
    obtain ⟨f, hf, heq⟩ := List.mem_map.1 hmem
    exact hkey f hf heq
  stamps := by
    refine List.pairwise_cons.2 ⟨fun f hf => ?_, h.stamps.sublist hsub⟩
    have := h.clock f (hsub.subset hf)
    omega
  clock f hf := by
    rcases List.mem_cons.1 hf with rfl | hf
    · omega
    · have := h.clock f (hsub.subset hf)
      omega
  length_le := by rw [hcapacity, List.length_cons]; omega
  capacity_pos := hcapacity ▸ h.capacity_pos

theorem holds_ofCapacity (capacity : Nat) : (ofCapacity capacity : Recent α).Holds [] := by
  refine ⟨[], ⟨.nil, .nil, .nil, nofun, Nat.zero_le _, ?_⟩, rfl⟩
  exact Nat.lt_of_lt_of_le Nat.one_pos (Nat.le_max_right capacity 1)

theorem Holds.clear (h : r.Holds cs) : r.clear.Holds [] := by
  obtain ⟨es, hes, -⟩ := h
  exact ⟨[], ⟨.nil, .nil, .nil, nofun, Nat.zero_le _, hes.capacity_pos⟩, rfl⟩

@[simp] theorem capacity_touch : (r.touch key).2.capacity = r.capacity := by
  unfold touch
  split <;> rfl

@[simp] theorem capacity_store : (r.store key value).2.capacity = r.capacity := by
  unfold store
  repeat' split
  all_goals rfl

theorem Holds.size_eq (h : r.Holds cs) : r.size = cs.length := by
  obtain ⟨es, hes, rfl⟩ := h
  rw [List.length_map]
  exact hes.perm.length_eq.symm

theorem Holds.nodup (h : r.Holds cs) : (cs.map Prod.fst).Nodup := by
  obtain ⟨es, hes, rfl⟩ := h
  rw [List.map_map]
  exact hes.keys

theorem keys_eq_map_fst (es : List (Entry α)) :
    (es.map Entry.pair).map Prod.fst = es.map Entry.key := List.map_map

/-- A key that is there moves to the front, with the value it is given. -/
theorem Ordered.replace (h : r.Ordered (before ++ e :: after)) (hkey : f.key = e.key)
    (hstamp : f.lastUsed = r.clock + 1) :
    Ordered { r with clock := r.clock + 1, entries := replace r.entries f }
      (f :: (before ++ after)) := by
  have hreplace : (f :: (before ++ after)).Perm (Recent.replace r.entries f) := by
    refine .trans ?_ (h.perm.map _)
    show (f :: (before ++ after)).Perm (Recent.replace (before ++ e :: after) f)
    rw [replace_append h.keys hkey]
    exact List.perm_middle.symm
  have hlength := h.length_le
  rw [List.length_append, List.length_cons] at hlength
  refine h.cons ((List.sublist_cons_self e after).append_left before) hreplace
    (hkey ▸ key_ne_of_append h.keys) hstamp rfl rfl ?_
  rw [List.length_append]
  omega

/-- A key that is found moves to the front. -/
theorem Holds.touch (h : r.Holds cs) (key : String) :
    (∃ value, (key, value) ∈ cs ∧ (r.touch key).1 = some value ∧
      (r.touch key).2.Holds (promote key value cs)) ∨
    (key ∉ cs.map Prod.fst ∧ (r.touch key).1 = none ∧ (r.touch key).2.Holds cs) := by
  obtain ⟨es, hes, rfl⟩ := h
  unfold Recent.touch
  cases hfind : r.find? key with
  | some e =>
    obtain ⟨he, rfl⟩ := hes.find?_eq_some_iff.1 hfind
    obtain ⟨before, after, rfl⟩ := List.append_of_mem he
    refine .inl ⟨e.value, List.mem_map_of_mem he, rfl, _, hes.replace rfl rfl, ?_⟩
    rw [promote, List.filter_map]
    exact congrArg (_ :: List.map Entry.pair ·) (filter_key_ne hes.keys).symm
  | none =>
    rw [keys_eq_map_fst]
    refine .inr ⟨hes.find?_eq_none_iff.1 hfind, rfl, es, ⟨hes.perm, hes.keys, hes.stamps, ?_,
      hes.length_le, hes.capacity_pos⟩, rfl⟩
    exact fun e he => Nat.le_succ_of_le (hes.clock e he)

/-- A new key comes first. If the store is full, the last one makes room. -/
theorem Ordered.store (h : r.Ordered es) (hkey : key ∉ es.map Entry.key) (value : α) :
    (r.store key value).2.Ordered (⟨key, value, r.clock + 1⟩ :: es.take (r.capacity - 1)) := by
  have hlength : r.size = es.length := h.perm.length_eq.symm
  have hpos := h.capacity_pos
  have hcons {rest : List (Entry α)} (hperm : (es.take (r.capacity - 1)).Perm rest) :
      Ordered { r with clock := r.clock + 1, entries := ⟨key, value, r.clock + 1⟩ :: rest }
        (⟨key, value, r.clock + 1⟩ :: es.take (r.capacity - 1)) := by
    refine h.cons (List.take_sublist _ _) (.cons _ hperm) (fun e he heq => hkey ?_) rfl rfl rfl ?_
    · exact List.mem_map.2 ⟨e, List.mem_of_mem_take he, heq⟩
    · rw [List.length_take]
      omega
  unfold Recent.store
  rw [h.find?_eq_none_iff.2 hkey]
  dsimp only
  split
  · next hfull =>
    have hfits := h.length_le
    obtain rfl | ⟨front, last, rfl⟩ := List.eq_nil_or_concat es
    · rw [hlength, List.length_nil] at hfull
      omega
    rw [List.concat_eq_append] at h hlength hfits hcons ⊢
    rw [List.length_append, List.length_singleton] at hlength hfits
    have htake : (front ++ [last]).take (r.capacity - 1) = front := by
      rw [show r.capacity - 1 = front.length by omega, List.take_left]
    rw [h.stalest_eq]
    exact hcons (htake.symm ▸ h.perm_filter_last)
  · next hroom =>
    have hall : es.take (r.capacity - 1) = es := List.take_of_length_le (by omega)
    exact hcons (hall.symm ▸ h.perm)

/-- What makes room for a new key is the last key of a full store. -/
theorem Holds.evicted (h : r.Holds cs) (hkey : key ∉ cs.map Prod.fst) (value : α) :
    (r.store key value).1 = if r.capacity ≤ cs.length then cs.getLast?.map Prod.fst else none := by
  have hsize := h.size_eq
  obtain ⟨es, hes, rfl⟩ := h
  unfold Recent.store
  rw [hes.find?_eq_none_iff.2 (keys_eq_map_fst es ▸ hkey), ← hsize]
  dsimp only
  split
  · rw [hes.stalest_eq_getLast?, List.getLast?_map]
    cases es.getLast? <;> rfl
  · rfl

theorem Holds.store (h : r.Holds cs) (hkey : key ∉ cs.map Prod.fst) (value : α) :
    (r.store key value).2.Holds ((promote key value cs).take r.capacity) := by
  obtain ⟨es, hes, rfl⟩ := h
  have hstored := hes.store (keys_eq_map_fst es ▸ hkey) value
  refine ⟨_, hstored, ?_⟩
  rw [promote_of_not_mem hkey, List.take_cons hes.capacity_pos, List.map_cons, List.map_take]
  rfl

end PathGlob.Recent
