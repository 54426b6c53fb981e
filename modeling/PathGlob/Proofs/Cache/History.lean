-- SUMMARY: What a cache holds is decided by what earlier requests found; a hit and a compilation agree.
import Mathlib.Data.List.Dedup
import PathGlob.Cache
import PathGlob.Proofs.Cache.Recency

/-!
# Histories of a cache

A run of requests leaves a history of what it found. `Follows` ties a cache to its history: it holds
what was found most recently, each pattern with what its compilation gives. From that,
`isHit_iff_lastFound` decides hits by counting the patterns found since, and
`outcome_lookup_eq_compile` says that a cache changes no result.
-/

namespace PathGlob

/-- A request to a cache. -/
inductive Request where
  | lookup (pattern : String)
  | matchPath (path pattern : String)
  | clear

/-- What a request came to. -/
inductive Served where
  | found (pattern : String) (handle : Handle)
  | refused (pattern : String) (error : CompileError)
  | cleared

/-- What the requests of a run came to, the last one first. -/
abbrev History := List Served

namespace Served

def ofOutcome (pattern : String) : Except CompileError Handle → Served
  | .ok handle => .found pattern handle
  | .error e => .refused pattern e

/-- The pattern that was found, if one was. -/
def pattern? : Served → Option String
  | .found pattern _ => some pattern
  | _ => none

end Served

namespace History

/-- The patterns that were found. -/
def patterns (hist : History) : List String := hist.filterMap Served.pattern?

/-- What was found for each pattern since the last clearing, last found first. -/
def recent : History → List (String × Handle)
  | [] => []
  | .found pattern handle :: hist => Recent.promote pattern handle (recent hist)
  | .refused _ _ :: hist => recent hist
  | .cleared :: _ => []

/-- Whether `handle` is what was found last for a pattern, and `since` all that came after. -/
def LastFound (hist : History) (pattern : String) (handle : Handle) (since : History) : Prop :=
  (∃ before, hist = since ++ .found pattern handle :: before) ∧ pattern ∉ since.patterns

end History

namespace Cache

/-- Serves a request and tells what it came to. -/
def serve (c : Cache) : Request → Served × Cache
  | .lookup pattern => (.ofOutcome pattern (c.lookup pattern).1.outcome, (c.lookup pattern).2)
  | .matchPath path pattern =>
    (.ofOutcome pattern (c.lookup pattern).1.outcome, (c.matchPath path pattern).2)
  | .clear => (.cleared, c.clear)

/-- The caches that come of serving requests one after another, each with its history. -/
inductive Reaches (built : Cache) : History → Cache → Prop where
  | start : Reaches built [] built
  | serve {hist : History} {c : Cache} (h : Reaches built hist c) (request : Request) :
      Reaches built ((c.serve request).1 :: hist) (c.serve request).2

/-- Whether a lookup counts as a hit. -/
def IsHit (c : Cache) (pattern : String) : Prop := (c.lookup pattern).2.hits = c.hits + 1

end Cache

/-! ## Promoting -/

namespace Recent

variable {α : Type} {key : String} {value : α} {cs : List (String × α)}

/-- A cut before a promotion is lost in a cut after it: at most one key goes away in front. -/
theorem take_promote (hkeys : (cs.map Prod.fst).Nodup) {n : Nat} (hn : 0 < n) :
    (promote key value (cs.take n)).take n = (promote key value cs).take n := by
  obtain ⟨m, rfl⟩ := Nat.exists_eq_add_one.2 hn
  rw [promote, promote, List.take_succ_cons, List.take_succ_cons]
  refine congrArg (_ :: ·) ?_
  induction cs generalizing m with
  | nil => rfl
  | cons c cs ih =>
    rw [List.map_cons, List.nodup_cons] at hkeys
    rw [List.take_succ_cons]
    by_cases hc : c.1 = key
    · have hkeep : ∀ d ∈ cs, decide (d.1 ≠ key) = true := fun d hd =>
        decide_eq_true fun heq => hkeys.1 (hc ▸ heq ▸ List.mem_map_of_mem hd)
      rw [List.filter_cons_of_neg (by simp [hc]), List.filter_cons_of_neg (by simp [hc]),
        List.filter_eq_self.2 hkeep, List.filter_eq_self.2 fun d hd =>
          hkeep d (List.mem_of_mem_take hd), List.take_take, Nat.min_self]
    · rw [List.filter_cons_of_pos (by simp [hc]), List.filter_cons_of_pos (by simp [hc])]
      cases m with
      | zero => rfl
      | succ m => rw [List.take_succ_cons, List.take_succ_cons, ih hkeys.2 m (Nat.succ_pos m)]

theorem nodup_promote (hkeys : (cs.map Prod.fst).Nodup) :
    ((promote key value cs).map Prod.fst).Nodup := by
  rw [promote, List.map_cons, List.nodup_cons]
  refine ⟨fun hmem => ?_, hkeys.sublist (List.filter_sublist.map Prod.fst)⟩
  obtain ⟨c, hc, hkey⟩ := List.mem_map.1 hmem
  have hne := (List.mem_filter.1 hc).2
  exact of_decide_eq_true hne hkey

theorem Holds.length_le {r : Recent α} (h : r.Holds cs) : cs.length ≤ r.capacity := by
  obtain ⟨es, hes, rfl⟩ := h
  rw [List.length_map]
  exact hes.length_le

end Recent

/-! ## What was found last -/

namespace History

variable {hist since : History} {pattern : String} {handle : Handle}

@[simp] theorem patterns_found :
    patterns (.found pattern handle :: hist) = pattern :: patterns hist := rfl

theorem nodup_recent (hist : History) : (hist.recent.map Prod.fst).Nodup := by
  induction hist with
  | nil => exact .nil
  | cons served hist ih =>
    cases served with
    | found pattern handle => exact Recent.nodup_promote ih
    | refused pattern e => exact ih
    | cleared => exact .nil

theorem LastFound.mem (h : hist.LastFound pattern handle since) :
    .found pattern handle ∈ hist := by
  obtain ⟨⟨before, rfl⟩, -⟩ := h
  simp

/-- What was found since stands before what was found last, each pattern once. -/
theorem LastFound.recent_eq (h : hist.LastFound pattern handle since) (hkept : .cleared ∉ since) :
    ∃ newer older, hist.recent = newer ++ (pattern, handle) :: older ∧
      ∀ p, p ∈ newer.map Prod.fst ↔ p ∈ since.patterns := by
  obtain ⟨⟨before, rfl⟩, hsince⟩ := h
  induction since with
  | nil => exact ⟨[], _, rfl, fun p => Iff.rfl⟩
  | cons served since ih =>
    rw [List.mem_cons, not_or] at hkept
    cases served with
    | found q k =>
      rw [patterns_found, List.mem_cons, not_or] at hsince
      obtain ⟨newer, older, hrecent, hnewer⟩ := ih hkept.2 hsince.2
      refine ⟨(q, k) :: newer.filter (fun c => c.1 ≠ q), older.filter (fun c => c.1 ≠ q), ?_, ?_⟩
      · show Recent.promote q k (recent (since ++ _)) = _
        rw [hrecent, Recent.promote, List.filter_append,
          List.filter_cons_of_pos (by simpa using hsince.1), List.cons_append]
      · intro p
        rw [patterns_found, List.map_cons, List.mem_cons, List.mem_cons, ← hnewer]
        by_cases hp : p = q
        · exact iff_of_true (.inl hp) (.inl hp)
        · simp only [hp, false_or, List.mem_map, List.mem_filter, decide_eq_true_eq]
          exact exists_congr fun c => ⟨fun hc => ⟨hc.1.1, hc.2⟩,
            fun hc => ⟨⟨hc.1, hc.2 ▸ hp⟩, hc.2⟩⟩
    | refused q e => exact ih hkept.2 hsince
    | cleared => exact absurd rfl hkept.1

theorem exists_lastFound (h : (pattern, handle) ∈ hist.recent) :
    ∃ since, hist.LastFound pattern handle since ∧ .cleared ∉ since := by
  -- One request more neither hides what was found nor clears it away.
  have hskip {served : Served} {hist : History} (hcleared : served ≠ .cleared)
      (hpattern : served.pattern? ≠ some pattern)
      (ih : ∃ since, LastFound hist pattern handle since ∧ .cleared ∉ since) :
      ∃ since, LastFound (served :: hist) pattern handle since ∧ .cleared ∉ since := by
    obtain ⟨since, ⟨⟨before, rfl⟩, hsince⟩, hkept⟩ := ih
    refine ⟨served :: since, ⟨⟨before, rfl⟩, fun hmem => ?_⟩, fun hmem => ?_⟩
    · obtain ⟨s, hs, heq⟩ := List.mem_filterMap.1 hmem
      rcases List.mem_cons.1 hs with rfl | hs
      · exact hpattern heq
      · exact hsince (List.mem_filterMap.2 ⟨s, hs, heq⟩)
    · rcases List.mem_cons.1 hmem with heq | hmem
      · exact hcleared heq.symm
      · exact hkept hmem
  induction hist with
  | nil => cases h
  | cons served hist ih =>
    cases served with
    | found q k =>
      rcases List.mem_cons.1 h with heq | h
      · cases heq
        exact ⟨[], ⟨⟨hist, rfl⟩, List.not_mem_nil⟩, List.not_mem_nil⟩
      · obtain ⟨h, hne⟩ := List.mem_filter.1 h
        refine hskip (by simp) (fun heq => ?_) (ih h)
        exact of_decide_eq_true hne (Option.some.inj heq).symm
    | refused q e => exact hskip (by simp) (by simp [Served.pattern?]) (ih h)
    | cleared => cases h

/-- The place of a pattern by recency is the number of patterns found since. -/
theorem mem_take_recent_iff {n : Nat} : (pattern, handle) ∈ hist.recent.take n ↔
    ∃ since, hist.LastFound pattern handle since ∧ .cleared ∉ since ∧
      since.patterns.dedup.length < n := by
  have hplace {newer older : List (String × Handle)} {since : History}
      (hrecent : hist.recent = newer ++ (pattern, handle) :: older)
      (hnewer : ∀ p, p ∈ newer.map Prod.fst ↔ p ∈ since.patterns) :
      newer.length = since.patterns.dedup.length := by
    have hkeys := nodup_recent hist
    rw [hrecent, List.map_append] at hkeys
    have hperm : (newer.map Prod.fst).Perm since.patterns.dedup :=
      (List.perm_ext_iff_of_nodup (List.nodup_append.1 hkeys).1 (List.nodup_dedup _)).2
        fun p => (hnewer p).trans List.mem_dedup.symm
    rw [← hperm.length_eq, List.length_map]
  constructor
  · intro h
    obtain ⟨since, hlast, hkept⟩ := exists_lastFound (List.mem_of_mem_take h)
    obtain ⟨newer, older, hrecent, hnewer⟩ := hlast.recent_eq hkept
    refine ⟨since, hlast, hkept, ?_⟩
    rw [← hplace hrecent hnewer]
    by_contra hle
    rw [hrecent, List.take_append_of_le_length (Nat.not_lt.1 hle)] at h
    exact hlast.2 ((hnewer pattern).1 (List.mem_map_of_mem (List.mem_of_mem_take h)))
  · rintro ⟨since, hlast, hkept, hlt⟩
    obtain ⟨newer, older, hrecent, hnewer⟩ := hlast.recent_eq hkept
    rw [← hplace hrecent hnewer] at hlt
    obtain ⟨m, hm⟩ := Nat.exists_eq_add_of_lt hlt
    rw [hrecent, List.take_append, List.mem_append, hm, Nat.add_assoc, Nat.add_sub_cancel_left,
      List.take_succ_cons]
    exact .inr List.mem_cons_self

end History

/-! ## Lookups -/

namespace Cache

variable {c built : Cache} {pattern : String} {hist : History} {capacity : Nat} {options : Options}

/-- What a lookup in a cache comes to, and the cache after it, by what the cache holds. -/
inductive Looked (c : Cache) (held : List (String × Handle)) (pattern : String) :
    Except CompileError Handle → Cache → Prop where
  | hit {handle : Handle} {r : Recent Handle} (hmem : (pattern, handle) ∈ held)
      (hcapacity : r.capacity = c.recent.capacity)
      (hholds : r.Holds (Recent.promote pattern handle held)) :
      Looked c held pattern (.ok handle) { c with recent := r, hits := c.hits + 1 }
  | refused {e : CompileError} {r : Recent Handle} (hmem : pattern ∉ held.map Prod.fst)
      (hcompile : (Matcher.compile pattern c.options).outcome = .error e)
      (hcapacity : r.capacity = c.recent.capacity) (hholds : r.Holds held) :
      Looked c held pattern (.error e) { c with recent := r, misses := c.misses + 1 }
  | made {m : Matcher} {r : Recent Handle} (hmem : pattern ∉ held.map Prod.fst)
      (hcompile : (Matcher.compile pattern c.options).outcome = .ok m)
      (hcapacity : r.capacity = c.recent.capacity)
      (hholds : r.Holds ((Recent.promote pattern ⟨c.made, m⟩ held).take c.recent.capacity)) :
      Looked c held pattern (.ok ⟨c.made, m⟩)
        { c with recent := r, misses := c.misses + 1, made := c.made + 1 }

theorem looked {held : List (String × Handle)} (h : c.recent.Holds held) (pattern : String) :
    c.Looked held pattern (c.lookup pattern).1.outcome (c.lookup pattern).2 := by
  have hcapacity : (c.recent.touch pattern).2.capacity = c.recent.capacity := Recent.capacity_touch
  have htouch := h.touch pattern
  unfold lookup
  generalize c.recent.touch pattern = touched at hcapacity htouch
  obtain ⟨found, r⟩ := touched
  rcases htouch with ⟨handle, hmem, rfl, hholds⟩ | ⟨hmem, rfl, hholds⟩
  · exact .hit hmem hcapacity hholds
  · dsimp only
    cases hcompile : (Matcher.compile pattern c.options).outcome with
    | error e => exact .refused hmem hcompile hcapacity hholds
    | ok m =>
      refine .made hmem hcompile (Recent.capacity_store.trans hcapacity) ?_
      rw [← hcapacity]
      exact hholds.store hmem _

/-- Whether a cache stands as its history has left it. -/
structure Follows (capacity : Nat) (options : Options) (hist : History) (c : Cache) : Prop where
  options_eq : c.options = options
  capacity_eq : c.recent.capacity = max capacity 1
  holds : c.recent.Holds (hist.recent.take (max capacity 1))
  compiled : ∀ p h, .found p h ∈ hist → (Matcher.compile p options).outcome = .ok h.matcher
  serial_lt : ∀ p h, .found p h ∈ hist → h.serial < c.made

theorem withOptions_default (capacity : Nat) :
    withOptions capacity {} = .ok (ofCapacity capacity) := rfl

theorem eq_of_withOptions (h : withOptions capacity options = .ok built) :
    built = { options, recent := .ofCapacity capacity } := by
  unfold withOptions at h
  cases hvalid : options.validate with
  | error e =>
    rw [hvalid] at h
    cases h
  | ok =>
    rw [hvalid] at h
    cases h
    rfl

theorem follows_of_withOptions (h : withOptions capacity options = .ok built) :
    built.Follows capacity options [] := by
  obtain rfl := eq_of_withOptions h
  refine ⟨rfl, rfl, ?_, nofun, nofun⟩
  rw [History.recent, List.take_nil]
  exact Recent.holds_ofCapacity capacity

theorem Follows.lookup (h : c.Follows capacity options hist) (pattern : String) :
    (c.lookup pattern).2.Follows capacity options
      (.ofOutcome pattern (c.lookup pattern).1.outcome :: hist) := by
  have hlooked := looked h.holds pattern
  have hpos : 0 < max capacity 1 := Nat.lt_of_lt_of_le Nat.one_pos (Nat.le_max_right capacity 1)
  generalize (c.lookup pattern).1.outcome = outcome, (c.lookup pattern).2 = after at hlooked ⊢
  cases hlooked with
  | @hit handle r hmem hcapacity hholds =>
    obtain ⟨since, hlast, -⟩ := History.mem_take_recent_iff.1 hmem
    have hcut := hholds.length_le
    rw [hcapacity, h.capacity_eq] at hcut
    refine ⟨h.options_eq, hcapacity.trans h.capacity_eq, ?_, ?_, ?_⟩
    · rw [← List.take_of_length_le hcut, Recent.take_promote hist.nodup_recent hpos] at hholds
      exact hholds
    · rintro p k (_ | ⟨_, hmem⟩)
      · exact h.compiled pattern handle hlast.mem
      · exact h.compiled p k hmem
    · rintro p k (_ | ⟨_, hmem⟩)
      · exact h.serial_lt pattern handle hlast.mem
      · exact h.serial_lt p k hmem
  | @refused e r hmem hcompile hcapacity hholds =>
    refine ⟨h.options_eq, hcapacity.trans h.capacity_eq, hholds, ?_, ?_⟩
    · rintro p k (_ | ⟨_, hmem⟩)
      exact h.compiled p k hmem
    · rintro p k (_ | ⟨_, hmem⟩)
      exact h.serial_lt p k hmem
  | @made m r hmem hcompile hcapacity hholds =>
    refine ⟨h.options_eq, hcapacity.trans h.capacity_eq, ?_, ?_, ?_⟩
    · rw [h.capacity_eq, Recent.take_promote hist.nodup_recent hpos] at hholds
      exact hholds
    · rintro p k (_ | ⟨_, hmem⟩)
      · exact h.options_eq ▸ hcompile
      · exact h.compiled p k hmem
    · rintro p k (_ | ⟨_, hmem⟩)
      · exact Nat.lt_succ_self c.made
      · exact Nat.lt_succ_of_lt (h.serial_lt p k hmem)

theorem Follows.clear (h : c.Follows capacity options hist) :
    c.clear.Follows capacity options (.cleared :: hist) where
  options_eq := h.options_eq
  capacity_eq := h.capacity_eq
  holds := by
    rw [History.recent, List.take_nil]
    exact h.holds.clear
  compiled := by
    rintro p k (_ | ⟨_, hmem⟩)
    exact h.compiled p k hmem
  serial_lt := by
    rintro p k (_ | ⟨_, hmem⟩)
    exact h.serial_lt p k hmem

theorem Follows.serve (h : c.Follows capacity options hist) (request : Request) :
    (c.serve request).2.Follows capacity options ((c.serve request).1 :: hist) := by
  cases request with
  | lookup pattern => exact h.lookup pattern
  | matchPath path pattern => exact h.lookup pattern
  | clear => exact h.clear

theorem Reaches.follows (hbuilt : withOptions capacity options = .ok built)
    (h : built.Reaches hist c) : c.Follows capacity options hist := by
  induction h with
  | start => exact follows_of_withOptions hbuilt
  | serve _ request ih => exact ih.serve request

/-! ## Hits and results -/

/-- Eviction goes by last use. A lookup is a hit if its pattern has been found since the last
clearing, with fewer other patterns found since than the cache has room for. It then gives what was
found, and otherwise nothing that was ever found. -/
theorem isHit_iff_lastFound (hbuilt : withOptions capacity options = .ok built)
    (h : built.Reaches hist c) (pattern : String) :
    (c.IsHit pattern ↔ ∃ handle since, hist.LastFound pattern handle since ∧ .cleared ∉ since ∧
      since.patterns.dedup.length < max capacity 1) ∧
    (c.IsHit pattern → ∃ handle since, hist.LastFound pattern handle since ∧
      (c.lookup pattern).1.outcome = .ok handle) ∧
    (¬c.IsHit pattern → (c.lookup pattern).2.misses = c.misses + 1 ∧
      ∀ handle, (c.lookup pattern).1.outcome = .ok handle →
        ∀ p k, .found p k ∈ hist → k.serial ≠ handle.serial) := by
  have hfollows := h.follows hbuilt
  have hlooked := looked hfollows.holds pattern
  unfold IsHit
  generalize (c.lookup pattern).1.outcome = outcome, (c.lookup pattern).2 = after at hlooked ⊢
  have habsent (hmem : pattern ∉ (hist.recent.take (max capacity 1)).map Prod.fst) :
      ¬∃ handle since, hist.LastFound pattern handle since ∧ .cleared ∉ since ∧
        since.patterns.dedup.length < max capacity 1 := by
    rintro ⟨handle, hlast⟩
    exact hmem (List.mem_map_of_mem (History.mem_take_recent_iff.2 hlast))
  cases hlooked with
  | @hit handle r hmem hcapacity hholds =>
    obtain ⟨since, hlast⟩ := History.mem_take_recent_iff.1 hmem
    refine ⟨iff_of_true rfl ⟨handle, since, hlast⟩, fun _ => ⟨handle, since, hlast.1, rfl⟩, ?_⟩
    exact fun hmiss => absurd rfl hmiss
  | @refused e r hmem hcompile hcapacity hholds =>
    refine ⟨iff_of_false (Nat.ne_add_one c.hits) (habsent hmem), ?_, fun _ => ⟨rfl, nofun⟩⟩
    exact fun hhit => absurd hhit (Nat.ne_add_one c.hits)
  | @made m r hmem hcompile hcapacity hholds =>
    refine ⟨iff_of_false (Nat.ne_add_one c.hits) (habsent hmem), ?_, fun _ => ⟨rfl, ?_⟩⟩
    · exact fun hhit => absurd hhit (Nat.ne_add_one c.hits)
    · rintro handle ⟨⟩ p k hfound
      exact Nat.ne_of_lt (hfollows.serial_lt p k hfound)

/-- Even without capacity there is room for the pattern found last. -/
theorem isHit_iff_lastFound_latest :
    ∃ hist c, withOptions 0 {} = .ok (ofCapacity 0) ∧ (ofCapacity 0).Reaches hist c ∧
      c.IsHit "b" := by
  have hreaches : (ofCapacity 0).Reaches _ _ :=
    (Reaches.start.serve (.lookup "a")).serve (.lookup "b")
  obtain ⟨handle, hfound⟩ : ∃ handle, (((ofCapacity 0).serve (.lookup "a")).2.serve
      (.lookup "b")).1 = .found "b" handle := ⟨_, rfl⟩
  rw [hfound] at hreaches
  have hbuilt := withOptions_default 0
  refine ⟨_, _, hbuilt, hreaches, (isHit_iff_lastFound hbuilt hreaches "b").1.2 ?_⟩
  exact ⟨handle, [], ⟨⟨_, rfl⟩, List.not_mem_nil⟩, List.not_mem_nil, Nat.one_pos⟩

/-- A cache only saves work: whatever it has served, its results are those of compiling afresh. -/
theorem outcome_lookup_eq_compile (hbuilt : withOptions capacity options = .ok built)
    (h : built.Reaches hist c) (pattern : String) :
    (c.lookup pattern).1.outcome.map Handle.matcher = (Matcher.compile pattern options).outcome ∧
    ∀ path, (c.matchPath path pattern).1.outcome =
      (do (← Matcher.compile pattern options).matchPath path : Traced _ _).outcome := by
  have hfollows := h.follows hbuilt
  have hsame : (c.lookup pattern).1.outcome.map Handle.matcher =
      (Matcher.compile pattern options).outcome := by
    have hlooked := looked hfollows.holds pattern
    generalize (c.lookup pattern).1.outcome = outcome, (c.lookup pattern).2 = after at hlooked ⊢
    cases hlooked with
    | @hit handle r hmem hcapacity hholds =>
      obtain ⟨since, hlast, -⟩ := History.mem_take_recent_iff.1 hmem
      exact (hfollows.compiled pattern handle hlast.mem).symm
    | @refused e r hmem hcompile hcapacity hholds => rw [← hfollows.options_eq, hcompile]; rfl
    | @made m r hmem hcompile hcapacity hholds => rw [← hfollows.options_eq, hcompile]; rfl
  refine ⟨hsame, fun path => ?_⟩
  show (do (← (c.lookup pattern).1).matcher.matchPath path : Traced _ _).outcome = _
  cases houtcome : (c.lookup pattern).1.outcome with
  | error e =>
    rw [houtcome] at hsame
    rw [Traced.bind_of_error houtcome, Traced.bind_of_error hsame.symm]
  | ok handle =>
    rw [houtcome] at hsame
    rw [Traced.bind_of_ok houtcome, Traced.bind_of_ok hsame.symm]

/-- The second lookup of a pattern does not compile it. -/
theorem outcome_lookup_eq_compile_again :
    ∃ hist c handle, withOptions 2 {} = .ok (ofCapacity 2) ∧ (ofCapacity 2).Reaches hist c ∧
      c.IsHit "a" ∧ (c.lookup "a").1.outcome = .ok handle ∧
      (Matcher.compile "a").outcome = .ok handle.matcher := by
  have hreaches : (ofCapacity 2).Reaches _ _ := Reaches.start.serve (.matchPath "a" "a")
  obtain ⟨handle, hhit, houtcome⟩ : ∃ handle,
      ((ofCapacity 2).serve (.matchPath "a" "a")).2.IsHit "a" ∧
      (((ofCapacity 2).serve (.matchPath "a" "a")).2.lookup "a").1.outcome = .ok handle :=
    ⟨_, rfl, rfl⟩
  have hbuilt := withOptions_default 2
  have hsame := (outcome_lookup_eq_compile hbuilt hreaches "a").1
  rw [houtcome] at hsame
  exact ⟨_, _, handle, hbuilt, hreaches, hhit, houtcome, hsame.symm⟩

end Cache

end PathGlob
