import Mathlib.Data.List.Induction
import Mathlib.Data.Rat.Floor
import OpenTrader.Base.Dict
import OpenTrader.Base.Interleaving
import OpenTrader.Base.SlidingWindow

/-!
# Rate limiting in several processes

Library `Api`. `services/api/rate_limiter.py:25-130`. A process asks its `RedisRateLimiter`, which
reads attributes that its class does not have, so that every check of Redis raises before a command
is sent. Each process then limits alone, in memory. A call of `is_allowed` is one step: its part in
memory does not wait, and a pipeline is atomic. The requests that were allowed are a history that no
step reads.
-/

namespace OpenTrader.Api
open Base

/-! ### In memory -/

/-- What `is_allowed` returns. -/
inductive RateVerdict where
  | allowed (remaining : ℤ)
  | refused (reason : String) (retryAfter : ℤ)
  deriving DecidableEq

/-- What `is_allowed` and its parts raise. -/
inductive RateLimiterError where
  | attribute (name : String)
  | index
  deriving DecidableEq

/-- The request is let through. -/
def isAllowedVerdict : Except RateLimiterError RateVerdict → Bool
  | .ok (.allowed _) => true
  | _ => false

/-- `InMemoryRateLimiter`; `rate_limiter.py:25-37`. -/
structure InMemoryRateLimiter where
  windowSeconds : ℤ := 60
  maxRequests : ℤ := 300
  maxBuckets : ℕ := 10000
  cleanupInterval : ℕ := 1000
  windows : Dict String (List ℚ) := Dict.empty
  requestCount : ℕ := 0

namespace InMemoryRateLimiter

variable (s : InMemoryRateLimiter) (key : String) (now : ℚ)

/-- A bucket that is empty or was last used more than two windows ago. -/
def isStaleBucket (bucket : List ℚ) : Bool :=
  match bucket.getLast? with
  | none => true
  | some last => last < now - s.windowSeconds * 2

/-- The periodic cleanup of the buckets; `rate_limiter.py:43-48`. -/
def cleanup : InMemoryRateLimiter :=
  if (s.requestCount + 1) % s.cleanupInterval = 0 then
    { s with
      requestCount := s.requestCount + 1
      windows := s.windows.filter fun _ bucket => !s.isStaleBucket now bucket }
  else { s with requestCount := s.requestCount + 1 }

/-- The check of one bucket; `bucket[0]` of an empty bucket raises. A negative `retry_after` is cut
to zero, so that it does not matter how `int` rounds it; `rate_limiter.py:59-68`. -/
def checkBucket (bucket : List ℚ) : InMemoryRateLimiter × Except RateLimiterError RateVerdict :=
  let bucket := bucket.dropWhile (· < now - s.windowSeconds)
  if s.maxRequests ≤ bucket.length then
    ({ s with windows := s.windows.set key bucket },
      match bucket with
      | [] => .error .index
      | first :: _ => .ok (.refused "rate_limit" (max 0 ⌊first + s.windowSeconds - now⌋)))
  else
    ({ s with windows := s.windows.set key (bucket ++ [now]) },
      .ok (.allowed (s.maxRequests - (bucket.length + 1))))

/-- `InMemoryRateLimiter.is_allowed`; `rate_limiter.py:39-68`. -/
def isAllowed : InMemoryRateLimiter × Except RateLimiterError RateVerdict :=
  let s := s.cleanup now
  match s.windows.get? key with
  | some bucket => s.checkBucket key now bucket
  | none =>
    if s.maxBuckets ≤ s.windows.entries.length then
      (s, .ok (.refused "bucket_limit" s.windowSeconds))
    else s.checkBucket key now []

/-- The key has no bucket, and the table is full. -/
def NoRoom : Prop := s.windows.get? key = none ∧ s.maxBuckets ≤ s.windows.size

end InMemoryRateLimiter

/-- A limiter in memory, and the key and time of every request that it has allowed. -/
structure MemoryRun where
  limiter : InMemoryRateLimiter
  allowed : List (String × ℚ) := []

/-- The limiter is asked for a key at a time. -/
def MemoryRun.step (s : MemoryRun) (request : String × ℚ) : MemoryRun :=
  let (limiter, verdict) := s.limiter.isAllowed request.1 request.2
  { limiter
    allowed := if isAllowedVerdict verdict then s.allowed ++ [request] else s.allowed }

/-- The times at which requests for a key were allowed. -/
def timesOf (allowed : List (String × ℚ)) (key : String) : List ℚ :=
  (allowed.filter (·.1 = key)).map (·.2)

/-! ### Redis -/

/-- A sorted set of times, scored by themselves, and when its key expires. -/
structure TimeSet where
  members : List ℚ
  expiresAt : ℚ

/-- `RedisRateLimiter`; `rate_limiter.py:74-85`. -/
structure RedisRateLimiter where
  redisUrl : String
  windowSeconds : ℤ := 60
  maxRequests : ℤ := 300
  fallback : Option InMemoryRateLimiter := none
  redisAvailable : Bool := true

namespace RedisRateLimiter

variable (self : RedisRateLimiter) (redis : Dict String TimeSet) (key : String) (now : ℚ)

/-- A number that is read as an attribute of the limiter. -/
def numberAttribute (name : String) : Except RateLimiterError ℤ :=
  if name = "window_seconds" then .ok self.windowSeconds
  else if name = "max_requests" then .ok self.maxRequests
  else .error (.attribute name)

/-- `pipe.execute()`: old times are removed, the rest is counted, and now is added;
`rate_limiter.py:111-116`. -/
def executePipeline (redisKey : String) (window : ℤ) (now : ℚ) : Dict String TimeSet × ℤ :=
  let members :=
    match redis.get? redisKey with
    | none => []
    | some times => if times.expiresAt ≤ now then [] else times.members
  let kept := members.filter fun t => ¬ (0 ≤ t ∧ t ≤ now - window)
  let added := if now ∈ kept then kept else kept ++ [now]
  (if window * 2 ≤ 0 then redis.erase redisKey
    else redis.set redisKey ⟨added, now + window * 2⟩, kept.length)

/-- `_check_redis`; `rate_limiter.py:100-122`. -/
def checkRedis : Dict String TimeSet × Except RateLimiterError RateVerdict :=
  match self.numberAttribute "_window_seconds" with
  | .error error => (redis, .error error)
  | .ok window =>
    let (redis, currentCount) := executePipeline redis ("ratelimit:" ++ key) window now
    match self.numberAttribute "_max_requests" with
    | .error error => (redis, .error error)
    | .ok maxRequests =>
      if maxRequests ≤ currentCount then (redis, .ok (.refused "rate_limit" window))
      else (redis, .ok (.allowed (maxRequests - currentCount - 1)))

/-- `_get_fallback`; `rate_limiter.py:124-130`. -/
def getFallback : InMemoryRateLimiter :=
  self.fallback.getD { windowSeconds := self.windowSeconds, maxRequests := self.maxRequests }

/-- The fallback is asked and keeps what it learns. -/
def askFallback : RedisRateLimiter × Except RateLimiterError RateVerdict :=
  let (fallback, verdict) := self.getFallback.isAllowed key now
  ({ self with fallback := some fallback }, verdict)

/-- `RedisRateLimiter.is_allowed`; `rate_limiter.py:87-98`. -/
def isAllowed : Dict String TimeSet × RedisRateLimiter × Except RateLimiterError RateVerdict :=
  if self.redisAvailable = false then (redis, self.askFallback key now)
  else
    match self.checkRedis redis key now with
    | (redis, .ok verdict) => (redis, self, .ok verdict)
    | (redis, .error _) => (redis, { self with redisAvailable := false }.askFallback key now)

private theorem isAllowed_eq :
    self.isAllowed redis key now =
      (redis, { self with redisAvailable := false }.askFallback key now) := by
  unfold isAllowed
  split
  · next h => rw [← h]
  · rfl

end RedisRateLimiter

/-! ### Several processes -/

/-- Redis, and the key and time of every request that was allowed. -/
structure SharedLimit where
  redis : Dict String TimeSet
  allowed : List (String × ℚ) := []

/-- A process handles a request for a key at a time. -/
def handleRequest (shared : SharedLimit) (limiter : RedisRateLimiter) (request : String × ℚ) :
    SharedLimit × RedisRateLimiter :=
  let (redis, limiter, verdict) := limiter.isAllowed shared.redis request.1 request.2
  ({ redis
     allowed := if isAllowedVerdict verdict then shared.allowed ++ [request] else shared.allowed },
    limiter)

/-- Processes that have not handled a request yet, with one configuration. -/
def newProcesses (count : ℕ) (redisUrl : String) (windowSeconds maxRequests : ℤ)
    (redis : Dict String TimeSet) : Calls SharedLimit RedisRateLimiter :=
  ⟨{ redis }, List.replicate count { redisUrl, windowSeconds, maxRequests }⟩

/-! ### One limiter in memory -/

section

variable {s : InMemoryRateLimiter} {now now' : ℚ} {log : String → List ℚ}

/-- A bucket is ordered and has the times of the log that still count. -/
private structure Keeps (window : ℤ) (now : ℚ) (log bucket : List ℚ) : Prop where
  tracks : KeepsRecent (window : ℚ) now log bucket
  ordered : bucket.Pairwise (· ≤ ·)
  past : ∀ t ∈ bucket, t ≤ now

private def KeepsAll (s : InMemoryRateLimiter) (now : ℚ) (log : String → List ℚ) : Prop :=
  ∀ key, Keeps s.windowSeconds now (log key) ((s.windows.get? key).getD [])

variable {bucket times : List ℚ}

private theorem Keeps.later {window : ℤ} (h : Keeps window now times bucket) (hnow : now ≤ now') :
    Keeps window now' times bucket :=
  ⟨h.tracks.later hnow, h.ordered, fun t ht => (h.past t ht).trans hnow⟩

private theorem lt_of_isStaleBucket (hwindow : 0 ≤ s.windowSeconds)
    (hordered : bucket.Pairwise (· ≤ ·)) (h : s.isStaleBucket now bucket = true) :
    ∀ t ∈ bucket, t < now - s.windowSeconds := by
  intro t ht
  unfold InMemoryRateLimiter.isStaleBucket at h
  cases bucket using List.reverseRecOn with
  | nil => cases ht
  | append_singleton front last =>
    rw [List.getLast?_concat] at h
    have hlast : last < now - s.windowSeconds * 2 := of_decide_eq_true h
    have hle : t ≤ last := by
      rcases List.mem_append.mp ht with ht | ht
      · exact (List.pairwise_append.mp hordered).2.2 t ht last List.mem_cons_self
      · exact (List.mem_singleton.mp ht).le
    have hcast : (0 : ℚ) ≤ s.windowSeconds := by exact_mod_cast hwindow
    linarith

private theorem KeepsAll.cleanup (hwindow : 0 ≤ s.windowSeconds) (h : KeepsAll s now log) :
    KeepsAll (s.cleanup now) now log := by
  unfold InMemoryRateLimiter.cleanup
  split
  · intro key
    rw [Dict.get?_filter]
    have hk := h key
    cases hbucket : s.windows.get? key with
    | none =>
      rw [hbucket] at hk
      exact hk
    | some bucket =>
      rw [hbucket] at hk
      rw [Option.filter_some]
      cases hstale : s.isStaleBucket now bucket with
      | false => exact hk
      | true =>
        exact ⟨hk.tracks.drop (lt_of_isStaleBucket hwindow hk.ordered hstale), .nil, by simp⟩
  · exact h

private def SameSettings (s s' : InMemoryRateLimiter) : Prop :=
  s'.windowSeconds = s.windowSeconds ∧ s'.maxRequests = s.maxRequests ∧
    s'.maxBuckets = s.maxBuckets

private theorem sameSettings_cleanup (s : InMemoryRateLimiter) (now : ℚ) :
    SameSettings s (s.cleanup now) := by
  unfold InMemoryRateLimiter.cleanup
  split <;> exact ⟨rfl, rfl, rfl⟩

private theorem KeepsAll.set (h : KeepsAll s now log) (key : String)
    (hk : Keeps s.windowSeconds now times bucket) :
    KeepsAll { s with windows := s.windows.set key bucket } now
      (Function.update log key times) := by
  intro other
  rw [Dict.get?_set, Function.update_apply]
  by_cases hother : other = key
  · subst hother
    simpa using hk
  · rw [if_neg hother, if_neg (Ne.symm hother)]
    exact h other

private def keptBucket (s : InMemoryRateLimiter) (key : String) (now : ℚ) : List ℚ :=
  ((s.windows.get? key).getD []).dropWhile (· < now - s.windowSeconds)

private theorem checkBucket_cases (s : InMemoryRateLimiter) (key : String) (now : ℚ) :
    let answer := s.checkBucket key now ((s.windows.get? key).getD [])
    (s.maxRequests ≤ (keptBucket s key now).length ∧ isAllowedVerdict answer.2 = false ∧
      answer.1 = { s with windows := s.windows.set key (keptBucket s key now) }) ∨
    (((keptBucket s key now).length : ℤ) < s.maxRequests ∧ isAllowedVerdict answer.2 = true ∧
      answer.1 = { s with windows := s.windows.set key (keptBucket s key now ++ [now]) }) := by
  unfold InMemoryRateLimiter.checkBucket
  by_cases hfull : s.maxRequests ≤ (keptBucket s key now).length
  · refine .inl ⟨hfull, ?_⟩
    rw [keptBucket] at hfull
    rw [if_pos hfull]
    refine ⟨?_, rfl⟩
    split <;> rfl
  · refine .inr ⟨not_le.mp hfull, ?_⟩
    rw [keptBucket] at hfull
    rw [if_neg hfull]
    exact ⟨rfl, rfl⟩

private theorem isAllowed_cases (s : InMemoryRateLimiter) (key : String) (now : ℚ) :
    ((s.cleanup now).NoRoom key ∧ isAllowedVerdict (s.isAllowed key now).2 = false ∧
      (s.isAllowed key now).1 = s.cleanup now) ∨
    (¬ (s.cleanup now).NoRoom key ∧ s.isAllowed key now =
      (s.cleanup now).checkBucket key now (((s.cleanup now).windows.get? key).getD [])) := by
  unfold InMemoryRateLimiter.isAllowed InMemoryRateLimiter.NoRoom
  dsimp only
  cases (s.cleanup now).windows.get? key with
  | some bucket => exact .inr ⟨by simp, rfl⟩
  | none =>
    dsimp only
    split
    · next hfull => exact .inl ⟨⟨rfl, hfull⟩, rfl, rfl⟩
    · next hroom => exact .inr ⟨fun h => hroom h.2, rfl⟩

private theorem isAllowed_settings (s : InMemoryRateLimiter) (key : String) (now : ℚ) :
    SameSettings s (s.isAllowed key now).1 ∧
      (isAllowedVerdict (s.isAllowed key now).2 = true → 0 < s.maxRequests) := by
  obtain ⟨hseconds, hrequests, hbuckets⟩ := sameSettings_cleanup s now
  rcases isAllowed_cases s key now with ⟨-, hrefused, hstate⟩ | ⟨-, hcheck⟩
  · rw [hstate, hrefused]
    exact ⟨⟨hseconds, hrequests, hbuckets⟩, by simp⟩
  · rw [hcheck]
    rcases checkBucket_cases (s.cleanup now) key now with ⟨-, hrefused, hstate⟩ | ⟨hroom, -, hstate⟩
    · rw [hstate, hrefused]
      exact ⟨⟨hseconds, hrequests, hbuckets⟩, by simp⟩
    · rw [hstate]
      exact ⟨⟨hseconds, hrequests, hbuckets⟩, fun _ => by omega⟩

private theorem size_isAllowed (h : s.windows.size ≤ s.maxBuckets) (key : String) (now : ℚ) :
    (s.isAllowed key now).1.windows.size ≤ s.maxBuckets := by
  have hclean : (s.cleanup now).windows.size ≤ s.maxBuckets := by
    unfold InMemoryRateLimiter.cleanup
    split
    · exact (Dict.size_filter_le _ _).trans h
    · exact h
  have hset (hroom : ¬ (s.cleanup now).NoRoom key) (bucket : List ℚ) :
      ((s.cleanup now).windows.set key bucket).size ≤ s.maxBuckets := by
    rw [Dict.size_set]
    split
    · exact hclean
    · next hnew =>
      rw [InMemoryRateLimiter.NoRoom, (sameSettings_cleanup s now).2.2, not_and, not_le] at hroom
      exact hroom (by simpa using hnew)
  rcases isAllowed_cases s key now with ⟨-, -, hstate⟩ | ⟨hroom, hcheck⟩
  · rwa [hstate]
  · rw [hcheck]
    rcases checkBucket_cases (s.cleanup now) key now with ⟨-, -, hstate⟩ | ⟨-, -, hstate⟩
    · rw [hstate]
      exact hset hroom _
    · rw [hstate]
      exact hset hroom _

private theorem KeepsAll.isAllowed (hwindow : 0 ≤ s.windowSeconds) (h : KeepsAll s now log)
    (hnow : now ≤ now') (key : String) :
    (((recent (s.windowSeconds : ℚ) now' (log key)).length : ℤ) < s.maxRequests ∧
      isAllowedVerdict (s.isAllowed key now').2 = true ∧
      KeepsAll (s.isAllowed key now').1 now' (Function.update log key (log key ++ [now']))) ∨
    ((s.maxRequests ≤ (recent (s.windowSeconds : ℚ) now' (log key)).length ∨
        (s.cleanup now').NoRoom key) ∧
      isAllowedVerdict (s.isAllowed key now').2 = false ∧
      KeepsAll (s.isAllowed key now').1 now' log) := by
  have hclean : KeepsAll (s.cleanup now') now' log :=
    KeepsAll.cleanup hwindow fun other => (h other).later hnow
  obtain ⟨hseconds, hrequests, -⟩ := sameSettings_cleanup s now'
  rcases isAllowed_cases s key now' with ⟨hfull, hrefused, hstate⟩ | ⟨-, hcheck⟩
  · rw [hstate]
    exact .inr ⟨.inr hfull, hrefused, hclean⟩
  · have hk := hclean key
    have hkept : keptBucket (s.cleanup now') key now' =
        recent ((s.cleanup now').windowSeconds : ℚ) now'
          (((s.cleanup now').windows.get? key).getD []) := dropWhile_eq_recent hk.ordered
    have hpruned : Keeps (s.cleanup now').windowSeconds now' (log key)
        (keptBucket (s.cleanup now') key now') := by
      rw [hkept]
      exact ⟨hk.tracks.prune, hk.ordered.filter _,
        fun t ht => hk.past t (List.mem_of_mem_filter ht)⟩
    have hcount : keptBucket (s.cleanup now') key now' =
        recent (s.windowSeconds : ℚ) now' (log key) := by
      rw [hkept, ← hseconds]
      exact hk.tracks.agrees
    rw [hcheck, ← hrequests, ← hcount]
    rcases checkBucket_cases (s.cleanup now') key now' with
      ⟨hfull, hrefused, hstate⟩ | ⟨hroom, hallow, hstate⟩
    · rw [hstate]
      refine .inr ⟨.inl hfull, hrefused, ?_⟩
      have hset := hclean.set key hpruned
      rwa [Function.update_eq_self] at hset
    · rw [hstate]
      refine .inl ⟨hroom, hallow, hclean.set key ⟨hpruned.tracks.add, ?_, ?_⟩⟩
      · rw [List.pairwise_append]
        exact ⟨hpruned.ordered, List.pairwise_singleton _ _, fun t ht t' ht' =>
          (hpruned.past t ht).trans (List.mem_singleton.mp ht').ge⟩
      · intro t ht
        rcases List.mem_append.mp ht with ht | ht
        · exact hpruned.past t ht
        · exact (List.mem_singleton.mp ht).le

end

/-! ### One limiter alone -/

section

variable {window limit : ℤ} {buckets : ℕ} {s : MemoryRun} {now now' : ℚ}

private structure Exact (window limit : ℤ) (buckets : ℕ) (now : ℚ) (s : MemoryRun) : Prop where
  window_eq : s.limiter.windowSeconds = window
  limit_eq : s.limiter.maxRequests = limit
  buckets_eq : s.limiter.maxBuckets = buckets
  size_le : s.limiter.windows.size ≤ s.limiter.maxBuckets
  keeps : KeepsAll s.limiter now (timesOf s.allowed)
  bound : ∀ key, WithinLimit (window : ℚ) limit (timesOf s.allowed key)

private theorem exact_new (window : ℤ) (hlimit : 0 ≤ limit) (limiter : InMemoryRateLimiter)
    (hnew : limiter.windows = Dict.empty) (hwindow : limiter.windowSeconds = window)
    (hrequests : limiter.maxRequests = limit) (now : ℚ) :
    Exact window limit limiter.maxBuckets now ⟨limiter, []⟩ := by
  refine ⟨hwindow, hrequests, rfl, ?_, fun key => ?_, fun key => .nil hlimit⟩
  · rw [hnew]
    exact Nat.zero_le _
  · rw [hnew]
    exact ⟨.nil _ _, .nil, by simp⟩

private theorem Exact.later (h : Exact window limit buckets now s) (hnow : now ≤ now') :
    Exact window limit buckets now' s :=
  ⟨h.window_eq, h.limit_eq, h.buckets_eq, h.size_le, fun key => (h.keeps key).later hnow, h.bound⟩

private theorem timesOf_append (allowed : List (String × ℚ)) (request : String × ℚ) :
    timesOf (allowed ++ [request]) =
      Function.update (timesOf allowed) request.1 (timesOf allowed request.1 ++ [request.2]) := by
  funext key
  rw [Function.update_apply]
  unfold timesOf
  rw [List.filter_append, List.map_append]
  by_cases hk : key = request.1
  · subst hk
    simp
  · simp [hk, Ne.symm hk]

private theorem Exact.step (hwindow : 0 ≤ window) (h : Exact window limit buckets now s)
    (request : String × ℚ) (hnow : now ≤ request.2) :
    Exact window limit buckets request.2 (s.step request) ∧
      (isAllowedVerdict (s.limiter.isAllowed request.1 request.2).2 = false →
        limit ≤ (recent (window : ℚ) request.2 (timesOf s.allowed request.1)).length ∨
          (s.limiter.cleanup request.2).NoRoom request.1) := by
  obtain ⟨limiter, allowed⟩ := s
  obtain ⟨rfl, rfl, rfl, hsize, hkeeps, hbound⟩ := h
  obtain ⟨⟨hseconds, hrequests, hbuckets⟩, -⟩ := isAllowed_settings limiter request.1 request.2
  have hsize' : (limiter.isAllowed request.1 request.2).1.windows.size ≤
      (limiter.isAllowed request.1 request.2).1.maxBuckets := by
    rw [hbuckets]
    exact size_isAllowed hsize request.1 request.2
  unfold MemoryRun.step
  dsimp only
  rcases hkeeps.isAllowed hwindow hnow request.1 with
    ⟨hroom, hallow, hkept⟩ | ⟨hreason, hrefused, hkept⟩
  · rw [if_pos hallow, hallow]
    refine ⟨⟨hseconds, hrequests, hbuckets, hsize', ?_, fun key => ?_⟩, by simp⟩
    · rw [timesOf_append]
      exact hkept
    · rw [timesOf_append, Function.update_apply]
      split
      · next hk =>
        subst hk
        exact (hbound request.1).add hroom
      · exact hbound key
  · rw [hrefused]
    exact ⟨⟨hseconds, hrequests, hbuckets, hsize', hkept, hbound⟩, fun _ => hreason⟩

/-- **Sliding window.** For requests at times that do not go back, a limiter in memory never has
more buckets than it may have nor allows a key more than the limit in any closed window. It refuses
a request only when its key has used up the limit in the window that ends now, or when the key has
no bucket and the table is full after the cleanup. -/
theorem memory_limit_exact {window limit : ℤ} {maxBuckets cleanupInterval : ℕ}
    (hwindow : 0 < window) (hlimit : 0 < limit) (_hinterval : 0 < cleanupInterval)
    {requests : List (String × ℚ)} (hordered : requests.Pairwise (·.2 ≤ ·.2)) :
    let start : MemoryRun :=
      { limiter := { windowSeconds := window, maxRequests := limit, maxBuckets, cleanupInterval } }
    Throughout MemoryRun.step
      (fun s => s.limiter.windows.size ≤ maxBuckets ∧
        ∀ key, WithinLimit (window : ℚ) limit (timesOf s.allowed key)) start requests ∧
    Along MemoryRun.step
      (fun s request => isAllowedVerdict (s.limiter.isAllowed request.1 request.2).2 = false →
        limit ≤ (inWindow (window : ℚ) (request.2 - window) (timesOf s.allowed request.1)).length ∨
          (s.limiter.cleanup request.2).NoRoom request.1) start requests := by
  intro start
  have hstart (now : ℚ) : Exact window limit maxBuckets now start :=
    exact_new window hlimit.le start.limiter rfl rfl rfl now
  have hstep (now : ℚ) (s : MemoryRun) (request : String × ℚ)
      (h : Exact window limit maxBuckets now s) (hnow : now ≤ request.2) :
      Exact window limit maxBuckets request.2 (s.step request) :=
    (h.step hwindow.le request hnow).1
  have halong := along_of_ordered hstep hstart hordered
  have hbounds {now : ℚ} {s : MemoryRun} (h : Exact window limit maxBuckets now s) :
      s.limiter.windows.size ≤ maxBuckets ∧
        ∀ key, WithinLimit (window : ℚ) limit (timesOf s.allowed key) :=
    ⟨h.buckets_eq ▸ h.size_le, h.bound⟩
  rw [throughout_iff_along_step]
  refine ⟨⟨hbounds (hstart 0), halong.mono ?_⟩, halong.mono ?_⟩
  · rintro s request ⟨now, hnow, h⟩
    exact hbounds (hstep now s request h hnow)
  · rintro s request ⟨now, hnow, h⟩ hrefused
    rw [inWindow_eq_recent fun t ht => ((h.keeps request.1).tracks.past t ht).trans hnow]
    exact (h.step hwindow.le request hnow).2 hrefused

/-- Two requests a window and one bucket. -/
def smallLimiter : MemoryRun :=
  { limiter := { windowSeconds := 60, maxRequests := 2, maxBuckets := 1, cleanupInterval := 5 } }

/-- The third request of a key is refused until the first one is more than a window old, and another
key has no bucket. -/
theorem memory_limit_exact_sample :
    (run MemoryRun.step smallLimiter
        [("a", 0), ("a", 30), ("a", 60), ("b", 60), ("a", 61)]).allowed =
        [("a", 0), ("a", 30), ("a", 61)] ∧
      Throughout MemoryRun.step
        (fun s => s.limiter.windows.size ≤ 1 ∧
          ∀ key, WithinLimit ((60 : ℤ) : ℚ) 2 (timesOf s.allowed key))
        smallLimiter [("a", 0), ("a", 30), ("a", 60), ("b", 60), ("a", 61)] := by
  refine ⟨by decide +kernel, ?_⟩
  exact (memory_limit_exact (by decide) (by decide) (by decide) (by decide +kernel)).1

end

/-! ### Requests to several processes -/

section

variable {window limit : ℤ} {s : Calls SharedLimit RedisRateLimiter}

private theorem handleRequest_eq (shared : SharedLimit) (limiter : RedisRateLimiter)
    (request : String × ℚ) :
    handleRequest shared limiter request =
      let next := MemoryRun.step ⟨limiter.getFallback, shared.allowed⟩ request
      ({ shared with allowed := next.allowed },
        { limiter with redisAvailable := false, fallback := some next.limiter }) := by
  unfold handleRequest
  rw [RedisRateLimiter.isAllowed_eq]
  rfl

private structure SingleProcess (window limit : ℤ) (now : ℚ)
    (s : Calls SharedLimit RedisRateLimiter) : Prop where
  bound : ∀ key, WithinLimit (window : ℚ) limit (timesOf s.store.allowed key)
  single : s.calls.length ≤ 1
  alone : ∀ limiter ∈ s.calls, ∃ buckets,
    Exact window limit buckets now ⟨limiter.getFallback, s.store.allowed⟩

private theorem SingleProcess.step (hwindow : 0 ≤ window) {now : ℚ}
    (h : SingleProcess window limit now s) (m : ℕ × String × ℚ) (hnow : now ≤ m.2.2) :
    SingleProcess window limit m.2.2 (Calls.step handleRequest s m) := by
  obtain ⟨i, request⟩ := m
  unfold Calls.step
  split
  · refine ⟨h.bound, h.single, fun limiter hlimiter => ?_⟩
    obtain ⟨buckets, hexact⟩ := h.alone limiter hlimiter
    exact ⟨buckets, hexact.later hnow⟩
  · next limiter hlimiter =>
    have hset : s.calls.set i (handleRequest s.store limiter request).2 =
        [(handleRequest s.store limiter request).2] := by
      obtain ⟨hi, -⟩ := List.getElem?_eq_some_iff.mp hlimiter
      have hlen : s.calls.length = 1 := by have := h.single; omega
      obtain ⟨only, honly⟩ := List.length_eq_one_iff.mp hlen
      obtain rfl : i = 0 := by omega
      rw [honly]
      rfl
    obtain ⟨buckets, hexact⟩ := h.alone limiter (List.mem_of_getElem? hlimiter)
    have hnext := (hexact.step hwindow request hnow).1
    rw [hset, handleRequest_eq]
    refine ⟨hnext.bound, le_rfl, fun limiter hlimiter => ⟨buckets, ?_⟩⟩
    rw [List.mem_singleton.mp hlimiter]
    exact hnext

private def HasLimit (limit : ℤ) (s : Calls SharedLimit RedisRateLimiter) : Prop :=
  (∀ limiter ∈ s.calls, limiter.getFallback.maxRequests = limit) ∧
    (0 < limit ∨ s.store.allowed = [])

private theorem HasLimit.step (h : HasLimit limit s) (m : ℕ × String × ℚ) :
    HasLimit limit (Calls.step handleRequest s m) := by
  unfold Calls.step
  split
  · exact h
  · next limiter hlimiter =>
    have hlimit := h.1 limiter (List.mem_of_getElem? hlimiter)
    obtain ⟨hsame, hpos⟩ := isAllowed_settings limiter.getFallback m.2.1 m.2.2
    rw [handleRequest_eq]
    constructor
    · intro other hother
      rcases List.mem_or_eq_of_mem_set hother with hother | rfl
      · exact h.1 other hother
      · exact hsame.2.1.trans hlimit
    · by_cases hallow : isAllowedVerdict (limiter.getFallback.isAllowed m.2.1 m.2.2).2 = true
      · exact .inl (hlimit ▸ hpos hallow)
      · dsimp only [MemoryRun.step]
        rw [if_neg hallow]
        exact h.2

private theorem allowed_run (moves : List (ℕ × String × ℚ))
    (s : Calls SharedLimit RedisRateLimiter) :
    (run (Calls.step handleRequest) s moves).store.allowed.Sublist
      (s.store.allowed ++ moves.map (·.2)) := by
  induction moves generalizing s with
  | nil => simp
  | cons m moves ih =>
    have hstep : (Calls.step handleRequest s m).store.allowed.Sublist
        (s.store.allowed ++ [m.2]) := by
      unfold Calls.step
      split
      · exact List.sublist_append_left _ _
      · next limiter _ =>
        rw [handleRequest_eq]
        dsimp only [MemoryRun.step]
        split
        · exact List.Sublist.refl _
        · exact List.sublist_append_left _ _
    rw [run_cons, List.map_cons]
    refine (ih _).trans ?_
    have hrest := hstep.append_right (moves.map (·.2))
    rwa [List.append_assoc] at hrest

private theorem withinLimit_of_ordered {times : List ℚ} (h : times.Pairwise (· < ·))
    (hwindow : window ≤ 0) (hlimit : 0 < limit) : WithinLimit (window : ℚ) limit times := by
  intro start
  have hcast : (window : ℚ) ≤ 0 := by exact_mod_cast hwindow
  have hsame : ∀ t ∈ inWindow (window : ℚ) start times, t = start := by
    intro t ht
    have hin := of_decide_eq_true (List.mem_filter.mp ht).2
    linarith [hin.1, hin.2]
  have hordered : (inWindow (window : ℚ) start times).Pairwise (· < ·) := h.filter _
  rcases hwin : inWindow (window : ℚ) start times with _ | ⟨a, _ | ⟨b, rest⟩⟩
  · exact hlimit.le
  · exact hlimit
  · rw [hwin] at hsame hordered
    have hlt := (List.pairwise_cons.mp hordered).1 b List.mem_cons_self
    rw [hsame a (by simp), hsame b (by simp)] at hlt
    exact absurd hlt (lt_irrefl start)

end

/-! ### Two processes -/

section

variable {window limit : ℤ}

private def spaced (window limit : ℤ) (k : ℕ) : ℚ := k * (window / (limit + 1))

private def spacedRequests (window limit : ℤ) (count : ℕ) : List (String × ℚ) :=
  (List.range count).map fun k => ("", spaced window limit k)

private theorem spacedRequests_succ (window limit : ℤ) (count : ℕ) :
    spacedRequests window limit (count + 1) =
      spacedRequests window limit count ++ [("", spaced window limit count)] := by
  rw [spacedRequests, List.range_succ, List.map_append]
  rfl

private theorem gap_pos (hwindow : 0 < window) (hlimit : 0 < limit) :
    (0 : ℚ) < window / (limit + 1) := by
  have h₁ : (0 : ℚ) < window := by exact_mod_cast hwindow
  have h₂ : (0 : ℚ) < limit := by exact_mod_cast hlimit
  positivity

private theorem spaced_nonneg (hwindow : 0 < window) (hlimit : 0 < limit) (k : ℕ) :
    0 ≤ spaced window limit k :=
  mul_nonneg (Nat.cast_nonneg k) (gap_pos hwindow hlimit).le

private theorem spaced_lt (hwindow : 0 < window) (hlimit : 0 < limit) {k k' : ℕ} (h : k < k') :
    spaced window limit k < spaced window limit k' :=
  mul_lt_mul_of_pos_right (Nat.cast_lt.mpr h) (gap_pos hwindow hlimit)

private theorem spaced_le_window (hwindow : 0 < window) (hlimit : 0 < limit) {k : ℕ}
    (h : (k : ℤ) ≤ limit) : spaced window limit k ≤ window := by
  have h₂ : (0 : ℚ) < limit + 1 := by
    have : (0 : ℚ) < limit := by exact_mod_cast hlimit
    linarith
  have hk : (k : ℚ) ≤ limit + 1 := by
    have : (k : ℚ) ≤ limit := by exact_mod_cast h
    linarith
  calc spaced window limit k
      ≤ (limit + 1) * (window / (limit + 1)) :=
        mul_le_mul_of_nonneg_right hk (gap_pos hwindow hlimit).le
    _ = window := by field_simp

private def OnlyBlankKey (limiter : InMemoryRateLimiter) : Prop :=
  ∀ key, key ≠ "" → limiter.windows.get? key = none

variable {limiter : InMemoryRateLimiter}

private theorem OnlyBlankKey.cleanup (h : OnlyBlankKey limiter) (now : ℚ) :
    OnlyBlankKey (limiter.cleanup now) := by
  unfold InMemoryRateLimiter.cleanup
  split
  · intro key hk
    rw [Dict.get?_filter, h key hk]
    rfl
  · exact h

private theorem OnlyBlankKey.isAllowed (h : OnlyBlankKey limiter) (now : ℚ) :
    OnlyBlankKey (limiter.isAllowed "" now).1 := by
  intro key hk
  have hclean := h.cleanup now key hk
  rcases isAllowed_cases limiter "" now with ⟨-, -, hstate⟩ | ⟨-, hcheck⟩
  · rwa [hstate]
  · rw [hcheck]
    rcases checkBucket_cases (limiter.cleanup now) "" now with ⟨-, -, hstate⟩ | ⟨-, -, hstate⟩
    · rwa [hstate, Dict.get?_set_of_ne _ _ hk.symm]
    · rwa [hstate, Dict.get?_set_of_ne _ _ hk.symm]

private theorem OnlyBlankKey.room (h : OnlyBlankKey limiter) (hbuckets : 0 < limiter.maxBuckets) :
    ¬ limiter.NoRoom "" := by
  rintro ⟨hn, hfull⟩
  have hempty : limiter.windows.entries = [] := by
    refine List.eq_nil_iff_forall_not_mem.mpr fun entry hent => ?_
    have hg := (limiter.windows.get?_eq_some_iff entry.1 entry.2).mpr hent
    by_cases hk : entry.1 = ""
    · rw [hk, hn] at hg
      cases hg
    · rw [h _ hk] at hg
      cases hg
  rw [Dict.size, hempty] at hfull
  exact absurd hfull (not_le.mpr hbuckets)

private theorem step_allowed (hwindow : 0 ≤ window) {now : ℚ} {log : List (String × ℚ)}
    (h : Exact window limit 10000 now ⟨limiter, log⟩) (honly : OnlyBlankKey limiter)
    (hcount : (log.length : ℤ) < limit) (allowed : List (String × ℚ)) {t : ℚ} (ht : now ≤ t) :
    MemoryRun.step ⟨limiter, allowed⟩ ("", t) =
      ⟨(limiter.isAllowed "" t).1, allowed ++ [("", t)]⟩ := by
  have hallow : isAllowedVerdict (limiter.isAllowed "" t).2 = true := by
    by_contra hrefused
    rcases (h.step hwindow ("", t) ht).2 (Bool.eq_false_iff.mpr hrefused) with hfull | hfull
    · have hrecent := List.length_filter_le (fun t' => decide (t - (window : ℚ) ≤ t'))
        (timesOf log "")
      have htimes : (timesOf log "").length ≤ log.length := by
        rw [timesOf, List.length_map]
        exact List.length_filter_le _ _
      exact absurd (hfull.trans (Int.ofNat_le.mpr (hrecent.trans htimes))) (not_le.mpr hcount)
    · refine (honly.cleanup t).room ?_ hfull
      rw [(sameSettings_cleanup limiter t).2.2]
      exact h.buckets_eq ▸ Nat.zero_lt_succ _
  rw [MemoryRun.step]
  dsimp only
  rw [if_pos hallow]

private theorem run_spaced (hwindow : 0 < window) (hlimit : 0 < limit) (redisUrl : String)
    (redis : Dict String TimeSet) (others : List RedisRateLimiter) (count : ℕ)
    (hcount : (count : ℤ) ≤ limit) :
    ∃ first : RedisRateLimiter, OnlyBlankKey first.getFallback ∧
      Exact window limit 10000 (spaced window limit count)
        ⟨first.getFallback, spacedRequests window limit count⟩ ∧
      run (Calls.step handleRequest)
        ⟨{ redis }, { redisUrl, windowSeconds := window, maxRequests := limit } :: others⟩
        ((spacedRequests window limit count).map fun request => (0, request)) =
          ⟨{ redis, allowed := spacedRequests window limit count }, first :: others⟩ := by
  induction count with
  | zero =>
    let fresh : RedisRateLimiter := { redisUrl, windowSeconds := window, maxRequests := limit }
    exact ⟨fresh, fun _ _ => rfl, exact_new window hlimit.le fresh.getFallback rfl rfl rfl _, rfl⟩
  | succ count ih =>
    obtain ⟨first, honly, hexact, hrun⟩ := ih (by omega)
    have hlen : ((spacedRequests window limit count).length : ℤ) < limit := by
      rw [spacedRequests, List.length_map, List.length_range]
      omega
    have hstep := step_allowed hwindow.le hexact honly hlen
      (spacedRequests window limit count) le_rfl
    have hnext := (hexact.step hwindow.le ("", spaced window limit count) le_rfl).1
    rw [hstep, ← spacedRequests_succ] at hnext
    refine ⟨{ first with redisAvailable := false, fallback := some _ }, honly.isAllowed _,
      hnext.later (spaced_lt hwindow hlimit (Nat.lt_succ_self count)).le, ?_⟩
    rw [spacedRequests_succ, List.map_append, run_append, hrun, List.map_singleton, run_cons,
      run_nil]
    unfold Calls.step
    dsimp only [List.getElem?_cons_zero, List.set_cons_zero]
    rw [handleRequest_eq, hstep]

private theorem exists_overrun (hwindow : 0 < window) {limit : ℕ} (hlimit : 0 < limit)
    (redisUrl : String) (redis : Dict String TimeSet) (n : ℕ) :
    ∃ requests : List (ℕ × String × ℚ), requests.Pairwise (·.2.2 < ·.2.2) ∧
      timesOf (run (Calls.step handleRequest) (newProcesses (n + 2) redisUrl window limit redis)
        requests).store.allowed "" = (List.range (limit + 1)).map (spaced window limit) := by
  have hlimit' : (0 : ℤ) < limit := by exact_mod_cast hlimit
  refine ⟨((spacedRequests window limit limit).map fun request => (0, request)) ++
    [(1, "", spaced window limit limit)], ?_, ?_⟩
  · rw [← List.pairwise_map (f := fun request : ℕ × String × ℚ => request.2.2) (R := (· < ·)),
      List.map_append, spacedRequests, List.map_map, List.map_map, List.map_singleton]
    have htimes := List.pairwise_lt_range (n := limit + 1)
    rw [List.range_succ] at htimes
    have hspaced := List.pairwise_map.mpr (htimes.imp (spaced_lt hwindow hlimit'))
    rwa [List.map_append] at hspaced
  · let fresh : RedisRateLimiter := { redisUrl, windowSeconds := window, maxRequests := limit }
    obtain ⟨first, -, -, hrun⟩ := run_spaced hwindow hlimit' redisUrl redis
      (fresh :: List.replicate n fresh) limit le_rfl
    have hstart : newProcesses (n + 2) redisUrl window limit redis =
        ⟨{ redis }, fresh :: fresh :: List.replicate n fresh⟩ := rfl
    have hfresh (now : ℚ) : Exact window limit 10000 now ⟨fresh.getFallback, []⟩ :=
      exact_new window hlimit'.le fresh.getFallback rfl rfl rfl now
    rw [run_append, hstart, hrun, run_cons, run_nil]
    unfold Calls.step
    dsimp only [List.getElem?_cons_succ, List.getElem?_cons_zero]
    rw [handleRequest_eq, step_allowed hwindow.le (hfresh _) (fun _ _ => rfl)
      (by exact_mod_cast hlimit) _ le_rfl]
    simp [timesOf, spacedRequests, List.range_succ, List.filter_map, Function.comp_def]

end

/-! ### The shared limit -/

private theorem hasLimit_newProcesses (count : ℕ) (redisUrl : String) (window limit : ℤ)
    (redis : Dict String TimeSet) :
    HasLimit limit (newProcesses count redisUrl window limit redis) := by
  refine ⟨fun limiter hlimiter => ?_, .inr rfl⟩
  rw [(List.mem_replicate.mp hlimiter).2]
  rfl

private theorem singleProcess_newProcesses {count : ℕ} (hcount : count ≤ 1) (redisUrl : String)
    (window : ℤ) {limit : ℤ} (hlimit : 0 ≤ limit) (redis : Dict String TimeSet) (now : ℚ) :
    SingleProcess window limit now (newProcesses count redisUrl window limit redis) := by
  refine ⟨fun _ => .nil hlimit, ?_, fun limiter hlimiter => ?_⟩
  · rw [newProcesses, List.length_replicate]
    exact hcount
  · rw [(List.mem_replicate.mp hlimiter).2]
    exact ⟨_, exact_new window hlimit _ rfl rfl rfl now⟩

/-- **Shared rate limit.** However the requests at distinct times are spread over the processes, no
key is allowed more than the limit in a window, exactly when there is one process, nothing may be
allowed, or a window has no width. -/
theorem shared_rate_limit_iff (count : ℕ) (redisUrl : String) (window limit : ℤ)
    (redis : Dict String TimeSet) :
    (∀ requests : List (ℕ × String × ℚ), requests.Pairwise (·.2.2 < ·.2.2) →
      ∀ key, WithinLimit (window : ℚ) limit
        (timesOf (run (Calls.step handleRequest) (newProcesses count redisUrl window limit redis)
          requests).store.allowed key)) ↔
      0 ≤ limit ∧ (count ≤ 1 ∨ limit = 0 ∨ window ≤ 0) := by
  constructor
  · intro h
    have hlimit : 0 ≤ limit := h [] .nil "" 0
    refine ⟨hlimit, ?_⟩
    by_contra hmore
    push Not at hmore
    obtain ⟨hcount, hne, hwindow⟩ := hmore
    obtain ⟨n, rfl⟩ : ∃ n, count = n + 2 := ⟨count - 2, by omega⟩
    obtain ⟨m, rfl⟩ : ∃ m : ℕ, limit = m := ⟨limit.toNat, by omega⟩
    have hpos : 0 < m := by omega
    obtain ⟨requests, hordered, htimes⟩ := exists_overrun hwindow hpos redisUrl redis n
    -- all of them lie in the window from the first one on
    have hbound := h requests hordered "" 0
    rw [htimes, inWindow, List.filter_eq_self.mpr, List.length_map, List.length_range] at hbound
    · omega
    · intro t ht
      obtain ⟨k, hk, rfl⟩ := List.mem_map.mp ht
      have hk' := List.mem_range.mp hk
      rw [decide_eq_true_iff, zero_add]
      exact ⟨spaced_nonneg hwindow (by omega) k, spaced_le_window hwindow (by omega) (by omega)⟩
  · rintro ⟨hlimit, hcond⟩ requests hordered key
    have hhas : HasLimit limit (run (Calls.step handleRequest)
        (newProcesses count redisUrl window limit redis) requests) := by
      have hstep : ∀ s m, HasLimit limit s → HasLimit limit (Calls.step handleRequest s m) :=
        fun _ m h => h.step m
      exact (throughout_of_step hstep requests (hasLimit_newProcesses ..)).last
    rcases hhas.2 with hpos | hempty
    · by_cases hwindow : window ≤ 0
      · refine withinLimit_of_ordered ?_ hwindow hpos
        have hsome := allowed_run requests (newProcesses count redisUrl window limit redis)
        have hall : (requests.map (·.2)).Pairwise (·.2 < ·.2) := List.pairwise_map.mpr hordered
        exact List.pairwise_map.mpr ((hall.sublist hsome).filter _)
      · have hcount : count ≤ 1 := by omega
        have hstep (now : ℚ) (s : Calls SharedLimit RedisRateLimiter) (m : ℕ × String × ℚ)
            (h : SingleProcess window limit now s) (hnow : now ≤ m.2.2) :
            SingleProcess window limit m.2.2 (Calls.step handleRequest s m) :=
          h.step (by omega) m hnow
        obtain ⟨now, hsingle⟩ := exists_run_of_ordered hstep
          (singleProcess_newProcesses hcount redisUrl window hlimit redis)
          (hordered.imp le_of_lt)
        exact hsingle.bound key
    · rw [timesOf, hempty]
      exact .nil hlimit

/-- One request per window is configured, and each of two processes allows one. -/
theorem shared_rate_limit_exceeded :
    timesOf (run (Calls.step handleRequest) (newProcesses 2 "redis://cache" 60 1 Dict.empty)
      [(0, "10.0.0.1", 0), (1, "10.0.0.1", 1)]).store.allowed "10.0.0.1" = [0, 1] := by
  decide +kernel

end OpenTrader.Api
