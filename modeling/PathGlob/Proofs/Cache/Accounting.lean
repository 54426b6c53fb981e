-- SUMMARY: The counters of a cache, its evictions and its clearings account for every matcher it has made.
import PathGlob.Proofs.Announcements
import PathGlob.Proofs.Cache.Omission

/-!
# Accounts of a cache

`Charge` says all that a lookup can do to the counters and the size of a cache and which key it can
announce as evicted. From that one request keeps the accounts (`Reaches.balance_respond`), and by
induction so does a run (`Reaches.balance`).
-/

namespace PathGlob

/-- The pattern that a request asks for, unless it clears. -/
def Request.pattern? : Request → Option String
  | .lookup pattern | .matchPath _ pattern => some pattern
  | .clear => none

theorem Request.eq_clear_of_pattern? {request : Request} (h : request.pattern? = none) :
    request = .clear := by
  cases request with
  | clear => rfl
  | _ => cases h

/-- The key that an entry announces as evicted, if it does. -/
def Entry.evictedKey? : Entry → Option String
  | .event (.evicted key) => some key
  | _ => none

/-! ## Stores -/

namespace Recent

variable {α : Type} {r : Recent α} {cs : List (String × α)} {key : String}

@[simp] theorem size_touch : (r.touch key).2.size = r.size := by
  unfold touch
  split
  · exact List.length_map _
  · rfl

theorem Holds.mem_keys_iff (h : r.Holds cs) :
    key ∈ r.entries.map Entry.key ↔ key ∈ cs.map Prod.fst := by
  obtain ⟨es, hes, rfl⟩ := h
  rw [keys_eq_map_fst, (hes.perm.map Entry.key).mem_iff]

/-- A new key adds an entry, or in a full store takes the place of another. -/
theorem Holds.store_cases (h : r.Holds cs) (hkey : key ∉ cs.map Prod.fst) (value : α) :
    (r.store key value).1 = none ∧ (r.store key value).2.size = cs.length + 1 ∨
      cs.length = r.capacity ∧ (r.store key value).2.size = r.capacity ∧
        ∃ evicted ∈ cs.map Prod.fst, (r.store key value).1 = some evicted := by
  have hevicted := h.evicted hkey value
  have hsize : (r.store key value).2.size = min r.capacity (cs.length + 1) := by
    rw [(h.store hkey value).size_eq, promote_of_not_mem hkey, List.length_take, List.length_cons]
  have hfits := h.length_le
  rcases Nat.lt_or_ge cs.length r.capacity with hroom | hfull
  · rw [if_neg (Nat.not_le.2 hroom)] at hevicted
    exact .inl ⟨hevicted, hsize.trans (Nat.min_eq_right hroom)⟩
  · rw [if_pos hfull] at hevicted
    have hne : cs ≠ [] := by
      obtain ⟨es, hes, -⟩ := h
      exact List.ne_nil_of_length_pos (Nat.lt_of_lt_of_le hes.capacity_pos hfull)
    rw [List.getLast?_eq_some_getLast hne] at hevicted
    exact .inr ⟨Nat.le_antisymm hfits hfull, hsize.trans (Nat.min_eq_left (by omega)), _,
      List.mem_map_of_mem (List.getLast_mem hne), hevicted⟩

end Recent

namespace Cache

variable {c c' built : Cache} {pattern : String} {held : List (String × Handle)}
  {capacity : Nat} {options : Options} {hist : History}

/-- The patterns in a cache. -/
def keys (c : Cache) : List String := c.recent.entries.map Recent.Entry.key

/-! ## Lookups -/

/-- What a lookup comes to, the keys that it announces as evicted, and the cache after it. -/
inductive Charge (c : Cache) (pattern : String) :
    Except CompileError Handle → List String → Cache → Prop where
  | hit {handle : Handle} {c' : Cache} (hhits : c'.hits = c.hits + 1)
      (hmisses : c'.misses = c.misses) (hsize : c'.size = c.size) :
      Charge c pattern (.ok handle) [] c'
  | refused {e : CompileError} {c' : Cache} (hhits : c'.hits = c.hits)
      (hmisses : c'.misses = c.misses + 1) (hsize : c'.size = c.size) :
      Charge c pattern (.error e) [] c'
  | stored {handle : Handle} {c' : Cache} (hhits : c'.hits = c.hits)
      (hmisses : c'.misses = c.misses + 1) (hsize : c'.size = c.size + 1) :
      Charge c pattern (.ok handle) [] c'
  | evicting {handle : Handle} {c' : Cache} {key : String} (hhits : c'.hits = c.hits)
      (hmisses : c'.misses = c.misses + 1) (hfull : c.size = c.capacity)
      (hkey : key ∈ c.keys) (hne : key ≠ pattern) (hcapacity : c'.capacity = c.capacity)
      (hsize : c'.size = c'.capacity) : Charge c pattern (.ok handle) [key] c'

theorem evictedKeys_log_compile (pattern : String) (options : Options) :
    (Matcher.compile pattern options).log.filterMap Entry.evictedKey? = [] := by
  refine List.filterMap_eq_nil_iff.2 fun entry hentry => ?_
  obtain ⟨s, rfl⟩ | ⟨name, rfl⟩ | ⟨name, raw, rfl⟩ | ⟨n, source, rfl⟩ :=
    Matcher.mem_log_compile hentry <;> rfl

theorem charge_lookup (h : c.recent.Holds held) (pattern : String) :
    c.Charge pattern (c.lookup pattern).1.outcome
      ((c.lookup pattern).1.log.filterMap Entry.evictedKey?) (c.lookup pattern).2 := by
  have hcapacity : (c.recent.touch pattern).2.capacity = c.recent.capacity := Recent.capacity_touch
  have hsize : (c.recent.touch pattern).2.size = c.recent.size := Recent.size_touch
  have htouch := h.touch pattern
  unfold lookup
  generalize c.recent.touch pattern = touched at hcapacity hsize htouch
  obtain ⟨found, r⟩ := touched
  rcases htouch with ⟨handle, -, rfl, -⟩ | ⟨hmem, rfl, hholds⟩
  · exact .hit rfl rfl hsize
  have hlog := evictedKeys_log_compile pattern c.options
  dsimp only at hcapacity hsize hholds ⊢
  cases (Matcher.compile pattern c.options).outcome with
  | error e =>
    dsimp only
    rw [List.filterMap_cons, hlog]
    exact .refused rfl rfl hsize
  | ok m =>
    dsimp only
    have hheld : c.size = held.length := h.size_eq
    have hstored := hholds.store_cases hmem ⟨c.made, m⟩
    have hsame : (r.store pattern ⟨c.made, m⟩).2.capacity = r.capacity := Recent.capacity_store
    generalize r.store pattern ⟨c.made, m⟩ = stored at hstored hsame ⊢
    obtain ⟨evicted, r'⟩ := stored
    dsimp only at hstored hsame ⊢
    rw [List.filterMap_append, List.filterMap_cons, hlog]
    rcases hstored with ⟨rfl, hadded⟩ | ⟨hfull, hkept, key, hkey, rfl⟩
    · exact .stored rfl rfl (hadded.trans (congrArg (· + 1) hheld.symm))
    · exact .evicting rfl rfl (hheld.trans (hfull.trans hcapacity)) (h.mem_keys_iff.2 hkey)
        (fun heq => hmem (heq ▸ hkey)) (hsame.trans hcapacity) (hkept.trans hsame.symm)

/-! ## Requests -/

/-- The keys that a request announces as evicted. -/
def evictions (c : Cache) (request : Request) : List String :=
  (c.respond request).1.log.filterMap Entry.evictedKey?

/-- Whether a request is a miss whose pattern compiles. -/
def makesMatcher (c : Cache) (request : Request) : Bool :=
  decide ((c.respond request).2.misses = c.misses + 1) && (c.respond request).1.outcome.isOk

/-- The number of entries that a request clears away. -/
def dropped (c : Cache) : Request → Nat
  | .clear => c.size
  | _ => 0

theorem dropped_of_pattern {request : Request} (h : request.pattern? = some pattern) :
    c.dropped request = 0 := by
  cases request with
  | clear => cases h
  | _ => rfl

theorem log_respond_lookup (pattern : String) :
    (c.respond (.lookup pattern)).1.log = (c.lookup pattern).1.log := by
  show (do return .handle (← (c.lookup pattern).1) : Traced CompileError Answer).log = _
  rw [Traced.log_bind]
  cases (c.lookup pattern).1.outcome <;> simp

theorem log_respond_matchPath (path pattern : String) :
    (c.respond (.matchPath path pattern)).1.log = (c.lookup pattern).1.log ++
      if (c.lookup pattern).1.outcome.isOk then [.span (.matchPath path.utf8ByteSize)] else [] := by
  show (do return .result (← (c.matchPath path pattern).1) : Traced CompileError Answer).log = _
  rw [matchPath, Traced.log_bind, Traced.log_bind, Traced.outcome_bind]
  cases (c.lookup pattern).1.outcome with
  | ok handle => exact List.append_nil _
  | error e => exact List.append_nil _

/-- A request charges a cache for the lookup of its pattern. -/
theorem charge_respond (h : c.recent.Holds held) {request : Request}
    (hrequest : request.pattern? = some pattern) :
    ∃ outcome : Except CompileError Handle,
      outcome.isOk = (c.respond request).1.outcome.isOk ∧
        c.Charge pattern outcome (c.evictions request) (c.respond request).2 := by
  have hcharge := charge_lookup h pattern
  refine ⟨(c.lookup pattern).1.outcome, ?_⟩
  cases request with
  | lookup pattern =>
    cases hrequest
    rw [evictions, log_respond_lookup, outcome_respond_lookup]
    refine ⟨?_, hcharge⟩
    cases (c.lookup pattern).1.outcome <;> rfl
  | matchPath path pattern =>
    cases hrequest
    have hlog : (c.respond (.matchPath path pattern)).1.log.filterMap Entry.evictedKey? =
        (c.lookup pattern).1.log.filterMap Entry.evictedKey? := by
      rw [log_respond_matchPath, List.filterMap_append]
      cases (c.lookup pattern).1.outcome <;> exact List.append_nil _
    rw [evictions, hlog, outcome_respond_matchPath]
    refine ⟨?_, hcharge⟩
    cases (c.lookup pattern).1.outcome <;> rfl
  | clear => cases hrequest

/-- One request keeps the accounts. -/
theorem balance_respond (h : c.recent.Holds held) (request : Request) :
    (c.respond request).2.hits + (c.respond request).2.misses =
        c.hits + c.misses + (if request.pattern?.isSome then 1 else 0) ∧
      c.size + (c.makesMatcher request).toNat =
        (c.respond request).2.size + (c.evictions request).length + c.dropped request := by
  cases hrequest : request.pattern? with
  | none =>
    obtain rfl := Request.eq_clear_of_pattern? hrequest
    have hmade : c.makesMatcher .clear = false := by simp [makesMatcher, respond, clear]
    rw [hmade]
    exact ⟨rfl, (Nat.zero_add c.size).symm⟩
  | some pattern =>
    obtain ⟨outcome, hok, hcharge⟩ := charge_respond h hrequest
    rw [makesMatcher, ← hok, dropped_of_pattern hrequest, Option.isSome_some, if_pos rfl]
    generalize c.evictions request = evicted, (c.respond request).2 = c' at hcharge ⊢
    cases hcharge with
    | hit hhits hmisses hsize =>
      rw [hhits, hmisses, hsize]
      simp [Nat.add_right_comm]
    | refused hhits hmisses hsize =>
      rw [hhits, hmisses, hsize]
      simp [Nat.add_assoc, Except.isOk, Except.toBool]
    | stored hhits hmisses hsize =>
      rw [hhits, hmisses, hsize]
      simp [Nat.add_assoc, Except.isOk, Except.toBool]
    | evicting hhits hmisses hfull hkey hne hcapacity hsize =>
      rw [hhits, hmisses, hsize, hfull, hcapacity]
      simp [Nat.add_assoc, Except.isOk, Except.toBool]

/-- A key that is evicted made room in a full cache for a pattern that compiles. -/
theorem of_mem_evictions (h : c.recent.Holds held) {request : Request} {key : String}
    (hkey : key ∈ c.evictions request) :
    c.makesMatcher request = true ∧ c.size = c.capacity ∧ key ∈ c.keys ∧
      (∃ pattern, request.pattern? = some pattern ∧ key ≠ pattern) ∧
      (c.respond request).2.size = (c.respond request).2.capacity := by
  cases hrequest : request.pattern? with
  | none =>
    obtain rfl := Request.eq_clear_of_pattern? hrequest
    cases hkey
  | some pattern =>
    obtain ⟨outcome, hok, hcharge⟩ := charge_respond h hrequest
    rw [makesMatcher, ← hok]
    generalize c.evictions request = evicted, (c.respond request).2 = c' at hcharge hkey ⊢
    cases hcharge with
    | evicting hhits hmisses hfull hcached hne hcapacity hsize =>
      obtain rfl := List.mem_singleton.1 hkey
      exact ⟨by rw [hmisses]; simp; rfl, hfull, hcached, ⟨pattern, rfl, hne⟩, hsize⟩
    | _ => cases hkey

/-! ## Runs -/

/-- The cache after some requests, served one after another. -/
def after (c : Cache) (requests : List Request) : Cache :=
  requests.foldl (fun c request => (c.respond request).2) c

/-- What the requests of a run amount to, where `f` says it of one request to a cache. -/
def total (f : Cache → Request → Nat) (c : Cache) : List Request → Nat
  | [] => 0
  | request :: requests => f c request + total f (c.respond request).2 requests

theorem after_cons (c : Cache) (request : Request) (requests : List Request) :
    c.after (request :: requests) = (c.respond request).2.after requests := rfl

theorem serve_eq_respond (request : Request) : (c.serve request).2 = (c.respond request).2 := by
  cases request <;> rfl

theorem Reaches.respond (h : built.Reaches hist c) (request : Request) :
    built.Reaches ((c.serve request).1 :: hist) (c.respond request).2 :=
  serve_eq_respond request ▸ h.serve request

theorem Reaches.after (h : built.Reaches hist c) (requests : List Request) :
    ∃ hist', built.Reaches hist' (c.after requests) := by
  induction requests generalizing hist c with
  | nil => exact ⟨hist, h⟩
  | cons request requests ih => exact ih (h.respond request)

/-- A run keeps the accounts. -/
theorem Reaches.balance (hbuilt : withOptions capacity options = .ok built)
    (h : built.Reaches hist c) (requests : List Request) :
    (c.after requests).hits + (c.after requests).misses =
        c.hits + c.misses + requests.countP (·.pattern?.isSome) ∧
      c.size + c.total (fun c request => (c.makesMatcher request).toNat) requests =
        (c.after requests).size + c.total (fun c request => (c.evictions request).length) requests +
          c.total dropped requests := by
  induction requests generalizing hist c with
  | nil => exact ⟨rfl, rfl⟩
  | cons request requests ih =>
    obtain ⟨hcalls, hentries⟩ := balance_respond (h.follows hbuilt).holds request
    obtain ⟨hcalls', hentries'⟩ := ih (h.respond request)
    rw [after_cons, List.countP_cons, total, total, total]
    constructor
    · rw [hcalls', hcalls]
      omega
    · omega

theorem fresh_of_withOptions (h : withOptions capacity options = .ok built) :
    built.hits = 0 ∧ built.misses = 0 ∧ built.size = 0 := by
  obtain rfl := eq_of_withOptions h
  exact ⟨rfl, rfl, rfl⟩

/-- In every run each call is a hit or a miss, and every matcher that was made is in the cache, was
evicted or was cleared away. Only a miss that compiles evicts a key, and only from a full cache,
which stays full; the key was in the cache and is not the one asked for. -/
theorem accounts_balance (hbuilt : withOptions capacity options = .ok built)
    (requests : List Request) :
    (built.after requests).hits + (built.after requests).misses =
        requests.countP (·.pattern?.isSome) ∧
      built.total (fun c request => (c.makesMatcher request).toNat) requests =
        (built.after requests).size +
          built.total (fun c request => (c.evictions request).length) requests +
          built.total dropped requests ∧
      ∀ request, ∀ key ∈ (built.after requests).evictions request,
        (built.after requests).makesMatcher request = true ∧
        (built.after requests).size = (built.after requests).capacity ∧
        key ∈ (built.after requests).keys ∧
        (∃ pattern, request.pattern? = some pattern ∧ key ≠ pattern) ∧
        ((built.after requests).respond request).2.size =
          ((built.after requests).respond request).2.capacity := by
  have hstart : built.Reaches [] built := .start
  obtain ⟨hcalls, hentries⟩ := hstart.balance hbuilt requests
  obtain ⟨hhits, hmisses, hsize⟩ := fresh_of_withOptions hbuilt
  obtain ⟨hist, hreaches⟩ := hstart.after requests
  refine ⟨by omega, by omega, fun request key hkey => ?_⟩
  exact of_mem_evictions (hreaches.follows hbuilt).holds hkey

/-- In a cache for one matcher, `b` takes the place of `a`, which a failed lookup has left there,
and is cleared away itself. -/
theorem accounts_balance_evicting :
    withOptions 1 {} = .ok (ofCapacity 1) ∧
      "a" ∈ ((ofCapacity 1).after [.lookup "a", .lookup "("]).evictions (.matchPath "x" "b") ∧
      "a" ∈ ((ofCapacity 1).after [.lookup "a", .lookup "("]).keys ∧
      (ofCapacity 1).total (fun c request => (c.makesMatcher request).toNat)
        [.lookup "a", .lookup "(", .matchPath "x" "b", .clear] = 2 := by
  have hbuilt := withOptions_default 1
  have hkey : "a" ∈
      ((ofCapacity 1).after [.lookup "a", .lookup "("]).evictions (.matchPath "x" "b") := by
    decide
  refine ⟨hbuilt, hkey, ((accounts_balance hbuilt _).2.2 _ _ hkey).2.2.1, ?_⟩
  exact (accounts_balance hbuilt [.lookup "a", .lookup "(", .matchPath "x" "b", .clear]).2.1

end Cache

end PathGlob
