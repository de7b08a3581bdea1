import Mathlib.Data.Finset.Dedup
import Mathlib.Data.Finset.Order
import Mathlib.Algebra.Order.Ring.Int
import OpenTrader.Base.Dict
import OpenTrader.Base.Interleaving

/-!
# Refresh tokens under concurrent requests

Library `Api`. `services/api/auth.py:28-181`, any number of calls of `refresh_access_token` in any
number of processes over one Redis that answers. A call decodes its token, asks Redis whether the
token's id is revoked, revokes it, and issues a pair; the two commands in the middle are separate,
and other calls may come between them. Signatures are left out: what `jwt.decode` finds in a token
is part of the request. Times are seconds.
-/

namespace OpenTrader.Api
open Base

/-! ### Redis -/

/-- The keys of Redis with the time each of them expires. -/
structure TokenRedis where
  expiries : Dict String ℤ

namespace TokenRedis

/-- `EXISTS key`. -/
def existsKey (redis : TokenRedis) (key : String) (now : ℤ) : Bool :=
  match redis.expiries.get? key with
  | none => false
  | some expiry => now < expiry

/-- `SETEX key ttl "1"`. -/
def setex (redis : TokenRedis) (key : String) (ttlSeconds now : ℤ) : TokenRedis :=
  { expiries := redis.expiries.set key (now + ttlSeconds) }

end TokenRedis

/-- `_store_refresh_jti`; `auth.py:141-152`. -/
def storeRefreshJti (redis : TokenRedis) (jti : String) (ttlSeconds now : ℤ) : TokenRedis :=
  redis.setex ("jwt:refresh:" ++ jti) ttlSeconds now

/-- `_is_jti_revoked`; `auth.py:155-166`. -/
def isJtiRevoked (redis : TokenRedis) (jti : String) (now : ℤ) : Bool :=
  redis.existsKey ("jwt:revoked:" ++ jti) now

/-- `_revoke_jti`; `auth.py:169-181`. -/
def revokeJti (redis : TokenRedis) (jti : String) (now : ℤ) : TokenRedis :=
  redis.setex ("jwt:revoked:" ++ jti) (8 * 86400) now

/-! ### Tokens -/

/-- The key settings of a process; an empty key is not configured. -/
structure TokenSettings where
  jwtPublicKey : String
  jwtPrivateKey : String

/-- The claims of a token that is presented. -/
structure RefreshClaims where
  sub : String
  role : Option String
  exp : ℤ
  type : String
  jti : String

/-- What `jwt.decode` finds in a token, apart from its expiry. -/
inductive PresentedToken where
  | invalid (reason : String)
  | signed (claims : RefreshClaims)

/-- A call of `refresh_access_token`, with the two ids `uuid4` gives it. -/
structure RefreshRequest where
  settings : TokenSettings
  refreshToken : PresentedToken
  accessJti : String
  refreshJti : String

/-- `HTTPException`. -/
structure HttpException where
  status : ℕ
  detail : String
  deriving DecidableEq

/-- The claims of a token that is issued. -/
structure IssuedToken where
  sub : String
  role : String
  iat : ℤ
  exp : ℤ
  jti : String
  type : String
  accessJti : Option String := none

/-- What `generate_token_pair` returns. -/
structure TokenPair where
  accessToken : IssuedToken
  refreshToken : IssuedToken
  tokenType : String := "bearer"
  expiresIn : ℕ := 15 * 60

/-- The pair a call issues. -/
def tokenPair (request : RefreshRequest) (userId role : String) (now : ℤ) : TokenPair where
  accessToken :=
    { sub := userId, role, iat := now, exp := now + 15 * 60, jti := request.accessJti,
      type := "access" }
  refreshToken :=
    { sub := userId, role, iat := now, exp := now + 7 * 86400, jti := request.refreshJti,
      type := "refresh", accessJti := some request.accessJti }

/-- `generate_token_pair`; `auth.py:28-84`. -/
def generateTokenPair (redis : TokenRedis) (request : RefreshRequest) (userId role : String)
    (now : ℤ) : TokenRedis × Except HttpException TokenPair :=
  if request.settings.jwtPrivateKey = "" then
    (redis, .error ⟨500, "No JWT private key configured — cannot generate tokens"⟩)
  else
    (storeRefreshJti redis request.refreshJti (7 * 86400) now,
      .ok (tokenPair request userId role now))

/-- The part of `refresh_access_token` before Redis is asked; `auth.py:93-122`. -/
def readRefreshToken (request : RefreshRequest) (now : ℤ) : Except HttpException RefreshClaims :=
  if request.settings.jwtPublicKey = "" ∨ request.settings.jwtPrivateKey = "" then
    .error ⟨500, "JWT keys not configured"⟩
  else
    match request.refreshToken with
    | .invalid reason => .error ⟨401, "Invalid refresh token: " ++ reason⟩
    | .signed claims =>
      if claims.exp ≤ now then .error ⟨401, "Refresh token expired"⟩
      else if claims.type ≠ "refresh" then .error ⟨401, "Token is not a refresh token"⟩
      else .ok claims

/-! ### Concurrent calls -/

/-- Where a call of `refresh_access_token` is. -/
inductive RefreshPoint where
  | received
  | decoded (claims : RefreshClaims)
  | unrevoked (claims : RefreshClaims)
  | revoked (claims : RefreshClaims)
  | returned (claims : RefreshClaims) (pair : TokenPair)
  | raised (error : HttpException)

/-- A call with the point it has reached. -/
structure RefreshCall where
  request : RefreshRequest
  point : RefreshPoint := .received

/-- The next step of a call at a time; a call that has returned or raised stays;
`auth.py:87-138`. -/
def RefreshCall.next (redis : TokenRedis) (call : RefreshCall) (now : ℤ) :
    TokenRedis × RefreshCall :=
  match call.point with
  | .received =>
    match readRefreshToken call.request now with
    | .error error => (redis, { call with point := .raised error })
    | .ok claims => (redis, { call with point := .decoded claims })
  | .decoded claims =>
    if isJtiRevoked redis claims.jti now then
      (redis, { call with point := .raised ⟨401, "Refresh token has been revoked"⟩ })
    else (redis, { call with point := .unrevoked claims })
  | .unrevoked claims =>
    (revokeJti redis claims.jti now, { call with point := .revoked claims })
  | .revoked claims =>
    match generateTokenPair redis call.request claims.sub (claims.role.getD "viewer") now with
    | (redis, .error error) => (redis, { call with point := .raised error })
    | (redis, .ok pair) => (redis, { call with point := .returned claims pair })
  | .returned _ _ => (redis, call)
  | .raised _ => (redis, call)

/-- The calls before their first step. -/
def refreshCalls (redis : TokenRedis) (requests : List RefreshRequest) :
    Calls TokenRedis RefreshCall :=
  ⟨redis, requests.map fun request => { request }⟩

/-- The id of the token a call has returned a new pair for. -/
def RefreshCall.redeemedJti (call : RefreshCall) : Option String :=
  match call.point with
  | .returned claims _ => some claims.jti
  | _ => none

/-- The number of pairs the calls have returned for a token. -/
def pairsFor (s : Calls TokenRedis RefreshCall) (jti : String) : ℕ :=
  (s.calls.filterMap RefreshCall.redeemedJti).count jti

/-- The id of a token that is a valid refresh token at a time. -/
def validJti (now : ℤ) (request : RefreshRequest) : Option String :=
  (readRefreshToken request now).toOption.map (·.jti)

/-! ### Every interleaving -/

private theorem readRefreshToken_mono {request : RefreshRequest} {start now : ℤ} (h : start ≤ now)
    {claims : RefreshClaims} (hr : readRefreshToken request now = .ok claims) :
    readRefreshToken request start = .ok claims := by
  unfold readRefreshToken at hr ⊢
  split at hr
  · cases hr
  · next hkeys =>
    rw [if_neg hkeys]
    split at hr
    · cases hr
    · next presented =>
      split at hr
      · cases hr
      · next hexp => rwa [if_neg (by omega)]

private def StartedValid (start : ℤ) (origin call : RefreshCall) : Prop :=
  call.request = origin.request ∧
    match call.point with
    | .received | .raised _ => True
    | .decoded claims | .unrevoked claims | .revoked claims | .returned claims _ =>
      readRefreshToken origin.request start = .ok claims

variable {origin call : RefreshCall}

private theorem StartedValid.next {start now : ℤ} (hnow : start ≤ now)
    (h : StartedValid start origin call) (redis : TokenRedis) :
    StartedValid start origin (call.next redis now).2 := by
  obtain ⟨request, point⟩ := call
  obtain ⟨rfl, hpoint⟩ := h
  unfold RefreshCall.next
  cases point with
  | received =>
    dsimp only
    split
    · exact ⟨rfl, trivial⟩
    · next hr => exact ⟨rfl, readRefreshToken_mono hnow hr⟩
  | decoded claims =>
    dsimp only
    split
    · exact ⟨rfl, trivial⟩
    · exact ⟨rfl, hpoint⟩
  | unrevoked claims => exact ⟨rfl, hpoint⟩
  | revoked claims =>
    dsimp only
    split
    · exact ⟨rfl, trivial⟩
    · exact ⟨rfl, hpoint⟩
  | returned claims pair => exact ⟨rfl, hpoint⟩
  | raised error => exact ⟨rfl, trivial⟩

private theorem StartedValid.redeemedJti {start : ℤ} (h : StartedValid start origin call) :
    call.redeemedJti = none ∨ call.redeemedJti = validJti start origin.request := by
  obtain ⟨request, point⟩ := call
  cases point with
  | returned claims pair =>
    right
    rw [validJti, h.2]
    rfl
  | received | decoded | unrevoked | revoked | raised => exact .inl rfl

/-! ### All checks before all revocations -/

section

variable {start now : ℤ} {redis : TokenRedis} {request : RefreshRequest} {claims : RefreshClaims}

private theorem next_decoded (h : isJtiRevoked redis claims.jti now = false) :
    (⟨request, .decoded claims⟩ : RefreshCall).next redis now =
      (redis, ⟨request, .unrevoked claims⟩) := by
  change ite _ _ _ = _
  rw [h]
  rfl

private theorem next_revoked (h : readRefreshToken request start = .ok claims) :
    ((⟨request, .revoked claims⟩ : RefreshCall).next redis now).2 =
      ⟨request, .returned claims
        (tokenPair request claims.sub (claims.role.getD "viewer") now)⟩ := by
  have hk : request.settings.jwtPrivateKey ≠ "" := by
    intro hk
    rw [readRefreshToken, if_pos (.inr hk)] at h
    cases h
  unfold RefreshCall.next generateTokenPair
  dsimp only
  rw [if_neg hk]

private def atPoint (start : ℤ) (point : RefreshRequest → RefreshClaims → RefreshPoint)
    (request : RefreshRequest) : RefreshCall where
  request
  point :=
    match readRefreshToken request start with
    | .error error => .raised error
    | .ok claims => point request claims

private theorem round_atPoint (start now : ℤ) (redis : TokenRedis) (inv : TokenRedis → Prop)
    (point point' : RefreshRequest → RefreshClaims → RefreshPoint)
    (hnext : ∀ redis request claims, inv redis → readRefreshToken request start = .ok claims →
      inv ((⟨request, point request claims⟩ : RefreshCall).next redis now).1 ∧
        ((⟨request, point request claims⟩ : RefreshCall).next redis now).2 =
          ⟨request, point' request claims⟩)
    (hinv : inv redis) (requests : List RefreshRequest) :
    let s := Calls.round RefreshCall.next now redis (requests.map (atPoint start point))
    inv s.store ∧ s.calls = requests.map (atPoint start point') := by
  refine Calls.round_map inv (atPoint start point) (atPoint start point') ?_ hinv
  intro store hinv request _
  unfold atPoint
  cases hr : readRefreshToken request start with
  | error error => exact ⟨hinv, rfl⟩
  | ok claims => exact hnext store request claims hinv hr

private theorem round_received (redis : TokenRedis) (requests : List RefreshRequest) :
    Calls.round RefreshCall.next start redis (refreshCalls redis requests).calls =
      ⟨redis, requests.map (atPoint start fun _ => .decoded)⟩ := by
  apply Calls.round_map_of_fixed
  intro request
  unfold RefreshCall.next atPoint
  cases readRefreshToken request start <;> rfl

private theorem exists_expired (redis : TokenRedis) (start : ℤ) :
    ∃ later, start ≤ later ∧ ∀ key, redis.existsKey key later = false := by
  obtain ⟨later, hlater⟩ := (start :: redis.expiries.entries.map (·.2)).toFinset.exists_le
  refine ⟨later, hlater start (by simp), fun key => ?_⟩
  unfold TokenRedis.existsKey
  split
  · rfl
  · next expiry hk =>
    have hent := (Dict.get?_eq_some_iff redis.expiries key expiry).mp hk
    have hexpired := hlater expiry (by
      rw [List.mem_toFinset]
      exact List.mem_cons_of_mem _ (List.mem_map.mpr ⟨_, hent, rfl⟩))
    exact decide_eq_false (not_lt.mpr hexpired)

private theorem exists_redeemed (start : ℤ) (redis : TokenRedis) (requests : List RefreshRequest) :
    ∃ later, start ≤ later ∧
      ((run (Calls.step RefreshCall.next) (refreshCalls redis requests)
        (Calls.roundMoves requests.length [start, later, later, later])).calls.filterMap
          RefreshCall.redeemedJti) = requests.filterMap (validJti start) := by
  obtain ⟨later, hlater, hexpired⟩ := exists_expired redis start
  refine ⟨later, hlater, ?_⟩
  have hlen : requests.length = (refreshCalls redis requests).calls.length := by
    rw [refreshCalls, List.length_map]
  rw [hlen, Calls.run_roundMoves, List.foldl_cons, List.foldl_cons, List.foldl_cons,
    List.foldl_cons, List.foldl_nil]
  have hstore : (refreshCalls redis requests).store = redis := rfl
  rw [hstore, round_received]
  -- no check of the round sees a revocation, and none changes the store
  obtain ⟨-, hchecked⟩ := round_atPoint start later redis (fun store => store = redis)
    (fun _ => .decoded) (fun _ => .unrevoked)
    (by
      rintro store request claims rfl -
      rw [next_decoded (hexpired _)]
      exact ⟨rfl, rfl⟩)
    rfl requests
  -- the revocations come too late
  have hrevoked (redis : TokenRedis) := (round_atPoint start later redis (fun _ => True)
    (fun _ => .unrevoked) (fun _ => .revoked) (fun _ _ _ _ _ => ⟨trivial, rfl⟩) trivial requests).2
  have hreturned (redis : TokenRedis) := (round_atPoint start later redis (fun _ => True)
    (fun _ => .revoked) _ (fun _ _ _ _ hr => ⟨trivial, next_revoked hr⟩) trivial requests).2
  rw [hchecked, hrevoked, hreturned, List.filterMap_map]
  refine List.filterMap_congr fun request _ => ?_
  unfold atPoint validJti
  rw [Function.comp_apply]
  cases readRefreshToken request start <;> rfl

end

/-! ### Single use -/

/-- **Single use.** However the steps of the calls interleave, no refresh token is redeemed twice,
exactly when no two of the requests that present a valid one present the same. -/
theorem refresh_single_use_iff (redis : TokenRedis) (start : ℤ) (requests : List RefreshRequest) :
    (∀ moves : List (ℕ × ℤ), moves.Pairwise (·.2 ≤ ·.2) → (∀ m ∈ moves, start ≤ m.2) →
      ∀ jti, pairsFor (run (Calls.step RefreshCall.next) (refreshCalls redis requests) moves) jti
        ≤ 1) ↔
      (requests.filterMap (validJti start)).Nodup := by
  constructor
  · intro h
    obtain ⟨later, hlater, hredeemed⟩ := exists_redeemed start redis requests
    rw [List.nodup_iff_count_le_one, ← hredeemed]
    refine h _ (Calls.pairwise_roundMoves le_refl (by simp [hlater])) ?_
    intro m hm
    have hinput := Calls.mem_of_mem_roundMoves hm
    simp only [List.mem_cons, List.not_mem_nil, or_false, or_self] at hinput
    rcases hinput with h | h
    · exact h.ge
    · exact hlater.trans h.ge
  · intro h moves _ hstart jti
    have hrelated := (Calls.throughout_related (fun now => start ≤ now) (fun _ => True)
      (StartedValid start) (s := refreshCalls redis requests)
      (fun store origin call now hnow _ hcall => ⟨trivial, hcall.next hnow store⟩) hstart trivial
      (by
        intro call hcall
        obtain ⟨request, -, rfl⟩ := List.mem_map.mp hcall
        exact ⟨rfl, trivial⟩)).last.2
    have hsublist := Calls.filterMap_sublist hrelated
      (f := fun origin => validJti start origin.request) fun _ _ => StartedValid.redeemedJti
    rw [refreshCalls, List.filterMap_map] at hsublist
    exact List.nodup_iff_count_le_one.mp (h.sublist hsublist) jti

/-- A request that presents one refresh token. -/
def presentingRequest (accessJti refreshJti : String) : RefreshRequest where
  settings := { jwtPublicKey := "public key", jwtPrivateKey := "private key" }
  refreshToken := .signed
    { sub := "user-1", role := some "viewer", exp := 604800, type := "refresh", jti := "token-1" }
  accessJti
  refreshJti

/-- Two calls present one token. Both ask for the revocation before either revokes it, and both
return a pair. -/
theorem refresh_token_redeemed_twice :
    pairsFor (run (Calls.step RefreshCall.next)
      (refreshCalls ⟨Dict.empty⟩
        [presentingRequest "access-2" "token-2", presentingRequest "access-3" "token-3"])
      [(0, 0), (1, 0), (0, 1), (1, 1), (0, 1), (1, 1), (0, 1), (1, 1)]) "token-1" = 2 := by
  decide +kernel

end OpenTrader.Api
