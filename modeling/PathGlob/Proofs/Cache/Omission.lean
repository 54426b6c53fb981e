-- SUMMARY: Leaving failed lookups out of a run changes nothing that is seen of the other requests, the miss counter apart.
import PathGlob.Proofs.Cache.History

/-!
# Runs without their failed lookups

A failed lookup moves the clock on, so a run without it stamps later uses differently. What decides
hits and evictions is the order of uses, and that stays: caches that are `Alike` hold the same
entries by recency. Serving one request keeps them alike (`Alike.respond`), and so does failing to
serve one in the first cache only (`Alike.omit`).
-/

namespace PathGlob

/-! ## What is seen of a run -/

/-- What a request is answered with. -/
inductive Answer where
  | handle (h : Handle)
  | result (r : MatchResult)
  | cleared

/-- What is seen of a request: the answer, what is announced on the way, whether it was a hit, and
the counters and the size after it. -/
structure Seen where
  answer : Except CompileError Answer
  log : List Entry
  hit : Bool
  hits : Nat
  misses : Nat
  size : Nat

namespace Seen

def Failed (s : Seen) : Prop := ∃ e, s.answer = .error e

/-- Whether what is seen differs by some misses only. -/
def Exceeds (s : Seen) (misses : Nat) (t : Seen) : Prop :=
  s = { t with misses := t.misses + misses }

/-- What is seen of the requests that are not left out, each with how many were left out before.
The marked ones are left out; `n` were so earlier. -/
def kept (n : Nat) : List (Seen × Bool) → List (Seen × Nat)
  | [] => []
  | (_, true) :: rest => kept (n + 1) rest
  | (s, false) :: rest => (s, n) :: kept n rest

end Seen

namespace Cache

/-- Answers a request. -/
def respond (c : Cache) : Request → Traced CompileError Answer × Cache
  | .lookup pattern => (do return .handle (← (c.lookup pattern).1), (c.lookup pattern).2)
  | .matchPath path pattern =>
    (do return .result (← (c.matchPath path pattern).1), (c.matchPath path pattern).2)
  | .clear => (pure .cleared, c.clear)

def see (c : Cache) (request : Request) : Seen :=
  let (answer, after) := c.respond request
  { answer := answer.outcome
    log := answer.log
    hit := after.hits = c.hits + 1
    hits := after.hits
    misses := after.misses
    size := after.size }

/-- What is seen of some requests served one after another. -/
def watch (c : Cache) : List Request → List Seen
  | [] => []
  | request :: requests => c.see request :: (c.respond request).2.watch requests

end Cache

/-! ## Stores with the same entries -/

namespace Recent

variable {α : Type} {r r' : Recent α} {cs : List (String × α)}

/-- Whether two stores hold the same by recency. Their clocks and stamps may differ. -/
structure Twins (cs : List (String × α)) (r r' : Recent α) : Prop where
  capacity_eq : r.capacity = r'.capacity
  left : r.Holds cs
  right : r'.Holds cs

theorem Twins.touch (h : Twins cs r r') (key : String) :
    (r.touch key).1 = (r'.touch key).1 ∧
      ∃ ds, Twins ds (r.touch key).2 (r'.touch key).2 ∧
        ((r.touch key).1 = none → key ∉ ds.map Prod.fst) := by
  have hcapacity : (r.touch key).2.capacity = (r'.touch key).2.capacity := by
    simp [h.capacity_eq]
  rcases h.left.touch key with ⟨value, hmem, heq, hholds⟩ | ⟨hmem, heq, hholds⟩ <;>
    rcases h.right.touch key with ⟨value', hmem', heq', hholds'⟩ | ⟨hmem', heq', hholds'⟩
  · have hvalue := List.inj_on_of_nodup_map h.left.nodup hmem hmem' rfl
    cases hvalue
    exact ⟨heq.trans heq'.symm, _, ⟨hcapacity, hholds, hholds'⟩, fun hnone => by simp [heq] at hnone⟩
  · exact absurd (List.mem_map_of_mem hmem) hmem'
  · exact absurd (List.mem_map_of_mem hmem') hmem
  · exact ⟨heq.trans heq'.symm, _, ⟨hcapacity, hholds, hholds'⟩, fun _ => hmem⟩

theorem Twins.store (h : Twins cs r r') {key : String} (hkey : key ∉ cs.map Prod.fst) (value : α) :
    (r.store key value).1 = (r'.store key value).1 ∧
      ∃ ds, Twins ds (r.store key value).2 (r'.store key value).2 := by
  constructor
  · rw [h.left.evicted hkey, h.right.evicted hkey, h.capacity_eq]
  · refine ⟨_, by simp [h.capacity_eq], h.left.store hkey value, ?_⟩
    rw [h.capacity_eq]
    exact h.right.store hkey value

end Recent

/-! ## Caches that are alike -/

namespace Cache

variable {n : Nat} {c d built : Cache} {capacity : Nat} {options : Options}

/-- Whether all that tells two caches apart is their clocks and `n` misses more in the first. -/
structure Alike (n : Nat) (c d : Cache) : Prop where
  options_eq : c.options = d.options
  recent : ∃ cs, Recent.Twins cs c.recent d.recent
  hits_eq : c.hits = d.hits
  misses_eq : c.misses = d.misses + n
  made_eq : c.made = d.made

theorem Alike.size_eq (h : c.Alike n d) : c.size = d.size := by
  obtain ⟨cs, hcs⟩ := h.recent
  exact hcs.left.size_eq.trans hcs.right.size_eq.symm

theorem alike_of_withOptions (h : withOptions capacity options = .ok built) :
    built.Alike 0 built where
  options_eq := rfl
  recent := ⟨_, rfl, (follows_of_withOptions h).holds, (follows_of_withOptions h).holds⟩
  hits_eq := rfl
  misses_eq := rfl
  made_eq := rfl

theorem Alike.lookup (h : c.Alike n d) (pattern : String) :
    (c.lookup pattern).1 = (d.lookup pattern).1 ∧
      (c.lookup pattern).2.Alike n (d.lookup pattern).2 := by
  obtain ⟨cs, hcs⟩ := h.recent
  obtain ⟨hfound, ds, hds, habsent⟩ := hcs.touch pattern
  unfold Cache.lookup
  generalize c.recent.touch pattern = touched, d.recent.touch pattern = touched' at hfound hds habsent
  obtain ⟨found, r⟩ := touched
  obtain ⟨found', r'⟩ := touched'
  obtain rfl : found = found' := hfound
  cases found with
  | some handle =>
    refine ⟨rfl, h.options_eq, ⟨ds, hds⟩, ?_, h.misses_eq, h.made_eq⟩
    simp [h.hits_eq]
  | none =>
    have hmisses : c.misses + 1 = d.misses + 1 + n := by
      rw [h.misses_eq]
      omega
    dsimp only
    rw [h.options_eq, h.made_eq]
    cases (Matcher.compile pattern d.options).outcome with
    | error e => exact ⟨rfl, rfl, ⟨ds, hds⟩, h.hits_eq, hmisses, rfl⟩
    | ok m =>
      obtain ⟨hevicted, hstored⟩ := hds.store (habsent rfl) (⟨d.made, m⟩ : Handle)
      refine ⟨?_, rfl, hstored, h.hits_eq, hmisses, rfl⟩
      dsimp only
      rw [hevicted]

theorem Alike.clear (h : c.Alike n d) : c.clear.Alike n d.clear := by
  obtain ⟨cs, hcs⟩ := h.recent
  exact ⟨h.options_eq, ⟨[], hcs.capacity_eq, hcs.left.clear, hcs.right.clear⟩, h.hits_eq,
    h.misses_eq, h.made_eq⟩

/-- Alike caches give the same answers, and stay alike. -/
theorem Alike.respond (h : c.Alike n d) (request : Request) :
    (c.respond request).1 = (d.respond request).1 ∧
      (c.respond request).2.Alike n (d.respond request).2 := by
  cases request with
  | lookup pattern =>
    obtain ⟨heq, hafter⟩ := h.lookup pattern
    refine ⟨?_, hafter⟩
    simp only [Cache.respond, heq]
  | matchPath path pattern =>
    obtain ⟨heq, hafter⟩ := h.lookup pattern
    refine ⟨?_, hafter⟩
    simp only [Cache.respond, matchPath, heq]
  | clear => exact ⟨rfl, h.clear⟩

theorem Alike.see (h : c.Alike n d) (request : Request) :
    (c.see request).Exceeds n (d.see request) := by
  obtain ⟨heq, hafter⟩ := h.respond request
  simp only [Seen.Exceeds, Cache.see, heq, hafter.hits_eq, hafter.misses_eq, hafter.size_eq,
    h.hits_eq]

/-- A failed lookup is a miss and no more. -/
theorem Alike.omit_lookup (h : c.Alike n d) {pattern : String} {e : CompileError}
    (hfail : (c.lookup pattern).1.outcome = .error e) : (c.lookup pattern).2.Alike (n + 1) d := by
  obtain ⟨cs, hcs⟩ := h.recent
  have hlooked := looked hcs.left pattern
  rw [hfail] at hlooked
  generalize (c.lookup pattern).2 = after at hlooked ⊢
  cases hlooked with
  | refused hmem hcompile hcapacity hholds =>
    refine ⟨h.options_eq, ⟨cs, hcapacity.trans hcs.capacity_eq, hholds, hcs.right⟩, h.hits_eq, ?_,
      h.made_eq⟩
    show c.misses + 1 = d.misses + (n + 1)
    rw [h.misses_eq, Nat.add_assoc]

theorem outcome_respond_lookup (pattern : String) : (c.respond (.lookup pattern)).1.outcome =
    (c.lookup pattern).1.outcome.map .handle := by
  show (do return .handle (← (c.lookup pattern).1) : Traced CompileError Answer).outcome = _
  rw [Traced.outcome_bind]
  cases (c.lookup pattern).1.outcome <;> rfl

theorem outcome_respond_matchPath (path pattern : String) :
    (c.respond (.matchPath path pattern)).1.outcome =
      (c.lookup pattern).1.outcome.map fun h => .result (h.matcher.run path) := by
  show (do return .result (← (c.matchPath path pattern).1) : Traced CompileError Answer).outcome = _
  rw [matchPath, Traced.outcome_bind, Traced.outcome_bind]
  cases (c.lookup pattern).1.outcome <;> rfl

/-- A request that fails may be left out. -/
theorem Alike.omit (h : c.Alike n d) {request : Request} (hfail : (c.see request).Failed) :
    (c.respond request).2.Alike (n + 1) d := by
  obtain ⟨e, hfail⟩ := hfail
  change (c.respond request).1.outcome = .error e at hfail
  have herror {α : Type} {f : Handle → α} {x : Except CompileError Handle}
      (hx : x.map f = .error e) : x = .error e := by
    cases x <;> cases hx
    rfl
  cases request with
  | lookup pattern =>
    rw [outcome_respond_lookup] at hfail
    exact h.omit_lookup (herror hfail)
  | matchPath path pattern =>
    rw [outcome_respond_matchPath] at hfail
    exact h.omit_lookup (herror hfail)
  | clear => cases hfail

/-! ## Runs -/

theorem Alike.watch (h : c.Alike n d) {calls : List (Request × Bool)}
    (hfail : ∀ s ∈ (c.watch (calls.map Prod.fst)).zip (calls.map Prod.snd),
      s.2 = true → s.1.Failed) :
    List.Forall₂ (fun s t => s.1.Exceeds s.2 t)
      (Seen.kept n ((c.watch (calls.map Prod.fst)).zip (calls.map Prod.snd)))
      (d.watch ((calls.filter fun call => !call.2).map Prod.fst)) := by
  induction calls generalizing n c d with
  | nil => exact .nil
  | cons call calls ih =>
    obtain ⟨request, omitted⟩ := call
    obtain ⟨hhead, htail⟩ := List.forall_mem_cons.1 hfail
    cases omitted with
    | true => exact ih (h.omit (hhead rfl)) htail
    | false => exact .cons (h.see request) (ih (h.respond request).2 htail)

/-- If some requests of a run fail, leaving them out changes nothing that is seen of the others:
their answers, what they announce and evict, whether they are hits, and the size after them. There
are fewer misses, by as many as have been left out. -/
theorem watch_without_failed (hbuilt : withOptions capacity options = .ok built)
    (calls : List (Request × Bool))
    (hfail : ∀ s ∈ (built.watch (calls.map Prod.fst)).zip (calls.map Prod.snd),
      s.2 = true → s.1.Failed) :
    List.Forall₂ (fun s t => s.1.Exceeds s.2 t)
      (Seen.kept 0 ((built.watch (calls.map Prod.fst)).zip (calls.map Prod.snd)))
      (built.watch ((calls.filter fun call => !call.2).map Prod.fst)) :=
  (alike_of_withOptions hbuilt).watch hfail

/-- Failed lookups around the use that saves `a` from giving way to `c`. -/
theorem watch_without_failed_evicting :
    ∃ calls : List (Request × Bool),
      calls = [(.lookup "a", false), (.lookup "(", true), (.lookup "b", false),
        (.matchPath "x" "a", false), (.matchPath "x" "\x7b", true), (.lookup "c", false)] ∧
      withOptions 2 {} = .ok (ofCapacity 2) ∧
      (∀ s ∈ ((ofCapacity 2).watch (calls.map Prod.fst)).zip (calls.map Prod.snd),
        s.2 = true → s.1.Failed) ∧
      List.Forall₂ (fun s t => s.1.Exceeds s.2 t)
        (Seen.kept 0 (((ofCapacity 2).watch (calls.map Prod.fst)).zip (calls.map Prod.snd)))
        ((ofCapacity 2).watch ((calls.filter fun call => !call.2).map Prod.fst)) ∧
      ∃ s ∈ (ofCapacity 2).watch (calls.map Prod.fst), .event (.evicted "b") ∈ s.log := by
  refine ⟨_, rfl, withOptions_default 2, ?_⟩
  have hfail : ∀ s ∈ ((ofCapacity 2).watch [.lookup "a", .lookup "(", .lookup "b",
      .matchPath "x" "a", .matchPath "x" "\x7b", .lookup "c"]).zip
        [false, true, false, false, true, false], s.2 = true → s.1.Failed := by
    rintro s (_ | ⟨_, _ | ⟨_, _ | ⟨_, _ | ⟨_, _ | ⟨_, _ | ⟨_, ⟨⟩⟩⟩⟩⟩⟩⟩) h
    · cases h
    · exact ⟨_, rfl⟩
    · cases h
    · cases h
    · exact ⟨_, rfl⟩
    · cases h
  refine ⟨hfail, watch_without_failed (withOptions_default 2) _ hfail, ?_⟩
  refine ⟨_, List.mem_of_getElem? (i := 5) rfl, ?_⟩
  decide

end Cache

end PathGlob
