import DeployGuard.Lib.Dict
import DeployGuard.Lib.Window
import Mathlib.Data.Int.Order.Basic
import Mathlib.Data.List.Induction

/-!
# The rate limiter of the request guard

`_is_rate_limited` of `request_guard.py` keeps one queue of admission times for each
client and path. A queue is pruned when its client asks again, and when the table has
grown beyond its limit, the queues without a recent time are dropped altogether. The
model takes that last step as an argument, so that the table the program keeps can be
compared with one that is never cleared.

> `isRateLimited_exact`: a request is admitted iff fewer than the limit were admitted
> in the window that ends with it, and dropping queues changes no decision.

The queues follow the history of admissions (`Window.Tracks`): after the start of
any window still to come they are the admissions of their key.
-/

namespace DeployGuard.Guard

/-- Clock readings. `time.monotonic()` gives floats, and a difference of floats is
rounded; the limiter needs of it only that rounding keeps the order. -/
class Clock (τ : Type) extends LinearOrder τ, Sub τ where
  sub_le_sub {s t : τ} (h : s ≤ t) (window : τ) : s - window ≤ t - window

instance : Clock Int where
  sub_le_sub h window := Int.sub_le_sub_right h window

/-- What the guard reads of a connection scope. -/
structure Scope where
  type : String
  method : Option String
  path : Option String
  headers : List (List UInt8 × List UInt8)
  client : Option (String × Int)
  deriving DecidableEq

/-- `str(scope.get("method", "GET"))`. -/
def Scope.methodText (scope : Scope) : String := scope.method.getD "GET"

/-- `str(scope.get("path", "/"))`. -/
def Scope.pathText (scope : Scope) : String := scope.path.getD "/"

/-- The configuration of `RequestGuardMiddleware`. -/
structure RequestGuard (τ : Type) where
  maxBodyBytes : Nat
  rateLimitRequests : Nat
  rateLimitWindowSeconds : τ

/-- The methods whose bodies are buffered and whose requests are counted. -/
def writeMethods : List String := ["POST", "PUT", "PATCH"]

def limitedPaths : List String :=
  ["/api/v1/auth/development-session", "/api/v1/webhooks/github", "/api/v1/telemetry/events"]

/-- `(str(client[0]), path)`. -/
def clientKey (scope : Scope) (path : String) : String × String :=
  ((scope.client.getD ("unknown", 0)).1, path)

/-- `self._buckets`. -/
abbrev Buckets (τ : Type) := Dict (String × String) (List τ)

/-- `self._buckets[key]` of a `defaultdict(deque)`. -/
def Buckets.queue {τ : Type} (buckets : Buckets τ) (key : String × String) : List τ :=
  (buckets.get? key).getD []

theorem queue_set {τ : Type} (buckets : Buckets τ) (key : String × String) (ts : List τ) :
    Buckets.queue (buckets.set key ts) = Function.update buckets.queue key ts := by
  funext k
  unfold Buckets.queue
  rw [Dict.get?_set]
  by_cases hk : key = k
  · subst hk
    rw [if_pos rfl, Function.update_self, Option.getD_some]
  · rw [if_neg hk, Function.update_of_ne (Ne.symm hk)]

def maxBuckets : Nat := 4096

section Limiter

variable {τ : Type} [Clock τ]

/-- The buckets whose last time is after the cutoff. -/
def recentBuckets (cutoff : τ) (buckets : Buckets τ) : Buckets τ :=
  buckets.filter fun item => match item.2.getLast? with
    | some last => cutoff < last
    | none => false

/-- What becomes of the table after an admission. -/
def dropStale (cutoff : τ) (buckets : Buckets τ) : Buckets τ :=
  if maxBuckets < buckets.length then recentBuckets cutoff buckets else buckets

/-- A table that is never cleared. -/
def keepAll (_ : τ) (buckets : Buckets τ) : Buckets τ := buckets

namespace RequestGuard

/-- `_is_rate_limited`: the answer, and the buckets it leaves. -/
def isRateLimited (guard : RequestGuard τ) (drop : τ → Buckets τ → Buckets τ) (scope : Scope)
    (path method : String) (now : τ) (buckets : Buckets τ) : Bool × Buckets τ :=
  if method ∉ writeMethods then (false, buckets)
  else if path ∉ limitedPaths then (false, buckets)
  else
    let key := clientKey scope path
    let cutoff := now - guard.rateLimitWindowSeconds
    let bucket := (buckets.queue key).dropWhile fun t => t ≤ cutoff
    -- the bucket is pruned in place, and entered if the key is new
    if guard.rateLimitRequests ≤ bucket.length then (true, buckets.set key bucket)
    else (false, drop cutoff (buckets.set key (bucket ++ [now])))

end RequestGuard

/-! ## Runs -/

/-- A request as it comes to the limiter, with the clock it reads. -/
structure Request (τ : Type) where
  scope : Scope
  now : τ

/-- The key a request is counted under; most requests are not counted. -/
def Request.key (r : Request τ) : Option (String × String) :=
  if r.scope.methodText ∈ writeMethods ∧ r.scope.pathText ∈ limitedPaths then
    some (clientKey r.scope r.scope.pathText)
  else none

/-- The buckets, and the admissions so far: what a run is about. -/
structure Log (τ : Type) where
  buckets : Buckets τ
  admitted : List ((String × String) × τ)

namespace RequestGuard

variable (guard : RequestGuard τ) (drop : τ → Buckets τ → Buckets τ)

/-- The limiter on one request. -/
def answer (log : Log τ) (r : Request τ) : Bool × Buckets τ :=
  guard.isRateLimited drop r.scope r.scope.pathText r.scope.methodText r.now log.buckets

/-- One request: the buckets it leaves, and the log with its admission. -/
def serve (log : Log τ) (r : Request τ) : Log τ where
  buckets := (guard.answer drop log r).2
  admitted := match r.key with
    | some key => if (guard.answer drop log r).1 then log.admitted else log.admitted ++ [(key, r.now)]
    | none => log.admitted

/-- The log after a sequence of requests. -/
def logAfter (requests : List (Request τ)) : Log τ := requests.foldl (guard.serve drop) ⟨[], []⟩

/-- Whether a request is limited that comes after others. -/
def limits (before : List (Request τ)) (r : Request τ) : Bool :=
  (guard.answer drop (guard.logAfter drop before) r).1

/-- The exact sliding window: fewer than the limit were admitted in the window that
ends now. -/
def admits (admitted : List ((String × String) × τ)) (key : String × String) (now : τ) : Prop :=
  (Window.events key (now - guard.rateLimitWindowSeconds) now admitted).length <
    guard.rateLimitRequests

instance (admitted : List ((String × String) × τ)) (key : String × String) (now : τ) :
    Decidable (guard.admits admitted key now) := inferInstanceAs (Decidable (_ < _))

/-- One request of a limiter that remembers every admission and keeps no queue. -/
def admitRequest (admitted : List ((String × String) × τ)) (r : Request τ) :
    List ((String × String) × τ) :=
  match r.key with
  | some key => if guard.admits admitted key r.now then admitted ++ [(key, r.now)] else admitted
  | none => admitted

end RequestGuard

/-! ## The queues follow the admissions -/

/-- What is dropped from a table is dropped whole, or was over before the cutoff. -/
structure Harmless (drop : τ → Buckets τ → Buckets τ) : Prop where
  keys {cutoff : τ} {buckets : Buckets τ} (h : buckets.keys.Nodup) :
    (drop cutoff buckets).keys.Nodup
  sublist {cutoff : τ} {buckets : Buckets τ} (h : buckets.keys.Nodup) (key : String × String) :
    ((drop cutoff buckets).queue key).Sublist (buckets.queue key)
  after {cutoff : τ} {buckets : Buckets τ} (h : buckets.keys.Nodup) (key : String × String)
    (hsorted : (buckets.queue key).Pairwise (· ≤ ·)) :
    Window.after cutoff ((drop cutoff buckets).queue key) =
      Window.after cutoff (buckets.queue key)

theorem harmless_keepAll : Harmless (keepAll : τ → Buckets τ → Buckets τ) :=
  ⟨fun h => h, fun _ _ => .refl _, fun _ _ _ => rfl⟩

/-- A queue of the cleared table is the old one, or none where the old one was over. -/
theorem queue_recentBuckets (cutoff : τ) {buckets : Buckets τ} (h : buckets.keys.Nodup)
    (key : String × String) :
    (recentBuckets cutoff buckets).queue key = buckets.queue key ∨
      ((recentBuckets cutoff buckets).queue key = [] ∧
        ∀ last, (buckets.queue key).getLast? = some last → last ≤ cutoff) := by
  unfold recentBuckets Buckets.queue
  rw [Dict.get?_filter h]
  cases buckets.get? key with
  | none => exact Or.inl rfl
  | some ts =>
    rw [Option.filter_some, Option.getD_some]
    cases hlast : ts.getLast? with
    | none => exact Or.inr ⟨rfl, fun last hnone => by cases hnone⟩
    | some last =>
      by_cases hrecent : cutoff < last
      · exact Or.inl (by simp [hrecent])
      · refine Or.inr ⟨by simp [hrecent], fun last' hlast' => ?_⟩
        rw [← Option.some.inj hlast']
        exact not_lt.mp hrecent

theorem harmless_dropStale : Harmless (dropStale : τ → Buckets τ → Buckets τ) := by
  constructor
  case keys =>
    intro cutoff buckets h
    unfold dropStale
    split
    · exact h.sublist (List.filter_sublist.map _)
    · exact h
  case sublist =>
    intro cutoff buckets h key
    unfold dropStale
    split
    · obtain hsame | ⟨hnil, -⟩ := queue_recentBuckets cutoff h key
      · rw [hsame]
      · rw [hnil]
        exact List.nil_sublist _
    · exact .refl _
  case after =>
    intro cutoff buckets h key hsorted
    unfold dropStale
    split
    · obtain hsame | ⟨hnil, hold⟩ := queue_recentBuckets cutoff h key
      · rw [hsame]
      · rw [hnil, Window.after_nil]
        -- a dropped queue is empty, or sorted with a last time that is over
        cases hlast : (buckets.queue key).getLast? with
        | none => rw [List.getLast?_eq_none_iff.mp hlast, Window.after_nil]
        | some last => rw [Window.after_eq_nil hsorted hlast (hold last hlast)]
    · rfl

/-- The queues follow the admissions, and no key has two. -/
structure Log.Tracks (floor latest : τ) (log : Log τ) : Prop where
  keys : log.buckets.keys.Nodup
  window : Window.Tracks floor latest log.buckets.queue log.admitted

theorem Log.Tracks.mono {floor latest floor' latest' : τ} {log : Log τ}
    (h : log.Tracks floor latest) (hfloor : floor ≤ floor') (hlatest : latest ≤ latest') :
    log.Tracks floor' latest' := ⟨h.keys, h.window.mono hfloor hlatest⟩

variable {guard : RequestGuard τ} {drop : τ → Buckets τ → Buckets τ} {log : Log τ} {r : Request τ}
  {key : String × String}

/-- What the limiter does with a request that is counted. -/
theorem answer_of_key (hkey : r.key = some key) :
    guard.answer drop log r =
      let cutoff := r.now - guard.rateLimitWindowSeconds
      let bucket := (log.buckets.queue key).dropWhile fun t => t ≤ cutoff
      if guard.rateLimitRequests ≤ bucket.length then (true, log.buckets.set key bucket)
      else (false, drop cutoff (log.buckets.set key (bucket ++ [r.now]))) := by
  unfold Request.key at hkey
  split at hkey
  · next hcounted =>
    obtain ⟨hmethod, hpath⟩ := hcounted
    obtain rfl := Option.some.inj hkey
    unfold RequestGuard.answer RequestGuard.isRateLimited
    rw [if_neg (not_not.mpr hmethod), if_neg (not_not.mpr hpath)]
  · cases hkey

/-- A request that is not counted passes, and leaves the table alone. -/
theorem answer_of_no_key (hkey : r.key = none) :
    guard.answer drop log r = (false, log.buckets) := by
  unfold Request.key at hkey
  split at hkey
  · cases hkey
  · next hcounted =>
    unfold RequestGuard.answer RequestGuard.isRateLimited
    by_cases hmethod : r.scope.methodText ∈ writeMethods
    · rw [if_neg (not_not.mpr hmethod), if_pos fun hpath => hcounted ⟨hmethod, hpath⟩]
    · rw [if_pos hmethod]

/-- The limiter counts the admissions in the window. -/
theorem Log.Tracks.answer (h : log.Tracks (r.now - guard.rateLimitWindowSeconds) r.now)
    (hkey : r.key = some key) :
    guard.answer drop log r =
      let cutoff := r.now - guard.rateLimitWindowSeconds
      let bucket := (log.buckets.queue key).dropWhile fun t => t ≤ cutoff
      if guard.admits log.admitted key r.now then
        (false, drop cutoff (log.buckets.set key (bucket ++ [r.now])))
      else (true, log.buckets.set key bucket) := by
  rw [answer_of_key hkey]
  dsimp only
  rw [h.window.length_prune]
  by_cases hadmits : guard.admits log.admitted key r.now
  · rw [if_pos hadmits]
    exact if_neg (Nat.not_le.mpr hadmits)
  · rw [if_neg hadmits]
    exact if_pos (Nat.not_lt.mp hadmits)

/-- After an admission the table follows the longer history: the time is recorded, and
what is dropped with it was over. -/
theorem Log.Tracks.admitted (h : log.Tracks (r.now - guard.rateLimitWindowSeconds) r.now)
    (hdrop : Harmless drop) (key : String × String) :
    Log.Tracks (r.now - guard.rateLimitWindowSeconds) r.now
      ⟨drop (r.now - guard.rateLimitWindowSeconds) (log.buckets.set key
        ((log.buckets.queue key).dropWhile (fun t => t ≤ r.now - guard.rateLimitWindowSeconds) ++
          [r.now])), log.admitted ++ [(key, r.now)]⟩ := by
  have hkeys := Dict.nodup_keys_set h.keys key
    ((log.buckets.queue key).dropWhile (fun t => t ≤ r.now - guard.rateLimitWindowSeconds) ++ [r.now])
  have hrecorded := (h.window.prune key).record key
  rw [Function.update_self, Function.update_idem, ← queue_set] at hrecorded
  exact ⟨hdrop.keys hkeys, hrecorded.replace (hdrop.sublist hkeys) fun k =>
    hdrop.after hkeys k (hrecorded.sorted k)⟩

/-- The step: the answer is that of the exact window, and the queues go on to follow
the admissions. -/
theorem Log.Tracks.serve {floor latest : τ} (h : log.Tracks floor latest) (hdrop : Harmless drop)
    (hfloor : floor ≤ r.now - guard.rateLimitWindowSeconds) (hlatest : latest ≤ r.now) :
    (∀ key, r.key = some key →
      ((guard.answer drop log r).1 = false ↔ guard.admits log.admitted key r.now)) ∧
    (guard.serve drop log r).admitted = guard.admitRequest log.admitted r ∧
    (guard.serve drop log r).Tracks (r.now - guard.rateLimitWindowSeconds) r.now := by
  have hnow := h.mono hfloor hlatest
  cases hkey : r.key with
  | none =>
    have hserve : guard.serve drop log r = log := by
      simp only [RequestGuard.serve, answer_of_no_key hkey, hkey]
    refine ⟨fun key hsome => (by cases hsome), ?_, ?_⟩
    · simp only [hserve, RequestGuard.admitRequest, hkey]
    · rw [hserve]
      exact hnow
  | some key =>
    have hanswer : guard.answer drop log r = _ := hnow.answer hkey
    by_cases hadmits : guard.admits log.admitted key r.now
    · rw [if_pos hadmits] at hanswer
      refine ⟨fun key' hkey' => ?_, ?_, ?_⟩
      · cases hkey'
        rw [hanswer]
        exact iff_of_true rfl hadmits
      · simp [RequestGuard.serve, RequestGuard.admitRequest, hkey, hanswer, hadmits]
      · have hserve := hnow.admitted hdrop key
        simpa [RequestGuard.serve, hkey, hanswer] using hserve
    · rw [if_neg hadmits] at hanswer
      refine ⟨fun key' hkey' => ?_, ?_, ?_⟩
      · cases hkey'
        rw [hanswer]
        exact iff_of_false (by simp) hadmits
      · simp [RequestGuard.serve, RequestGuard.admitRequest, hkey, hanswer, hadmits]
      · have hpruned := hnow.window.prune key
        rw [← queue_set] at hpruned
        have hserve : Log.Tracks (r.now - guard.rateLimitWindowSeconds) r.now
            ⟨_, log.admitted⟩ := ⟨Dict.nodup_keys_set h.keys key _, hpruned⟩
        simpa [RequestGuard.serve, hkey, hanswer] using hserve

/-- The run: after any requests of a clock that does not go back, the queues follow
the admissions, and these are the exact window's. -/
theorem logAfter_tracks (hdrop : Harmless drop) {requests : List (Request τ)}
    (hclock : requests.Pairwise fun q r => q.now ≤ r.now) {floor latest : τ}
    (hfloor : ∀ q ∈ requests, q.now - guard.rateLimitWindowSeconds ≤ floor)
    (hlatest : ∀ q ∈ requests, q.now ≤ latest) :
    (guard.logAfter drop requests).admitted = requests.foldl guard.admitRequest [] ∧
      (guard.logAfter drop requests).Tracks floor latest := by
  induction requests using List.reverseRecOn generalizing floor latest with
  | nil => exact ⟨rfl, List.nodup_nil, Window.Tracks.empty floor latest⟩
  | append_singleton requests r ih =>
    obtain ⟨hbefore, -, hlast⟩ := List.pairwise_append.mp hclock
    have hle : ∀ q ∈ requests, q.now ≤ r.now := fun q hq => hlast q hq r (List.mem_singleton_self r)
    obtain ⟨hadmitted, htracks⟩ := ih hbefore
      (fun q hq => Clock.sub_le_sub (hle q hq) guard.rateLimitWindowSeconds) hle
    obtain ⟨-, hserves, hserved⟩ := htracks.serve hdrop le_rfl le_rfl
    have hlog : guard.logAfter drop (requests ++ [r]) =
        guard.serve drop (guard.logAfter drop requests) r := List.foldl_concat ..
    have hmem : r ∈ requests ++ [r] := List.mem_append_right _ (List.mem_singleton_self r)
    rw [hlog, List.foldl_concat, ← hadmitted]
    exact ⟨hserves, hserved.mono (hfloor r hmem) (hlatest r hmem)⟩

/-- **The limiter is an exact sliding window.** In a run whose clock does not go back,
a counted request is admitted iff fewer than the limit were admitted under its key in
the window that ends with it. A table that is never cleared answers every request of
every such run as the program's does. -/
theorem isRateLimited_exact {before : List (Request τ)}
    (hclock : (before ++ [r]).Pairwise fun q r => q.now ≤ r.now) :
    (∀ key, r.key = some key → (guard.limits dropStale before r = false ↔
      (Window.events key (r.now - guard.rateLimitWindowSeconds) r.now
        (guard.logAfter dropStale before).admitted).length < guard.rateLimitRequests)) ∧
    guard.limits dropStale before r = guard.limits keepAll before r := by
  obtain ⟨hbefore, -, hlast⟩ := List.pairwise_append.mp hclock
  have hle : ∀ q ∈ before, q.now ≤ r.now := fun q hq => hlast q hq r (List.mem_singleton_self r)
  have hfloor : ∀ q ∈ before, q.now - guard.rateLimitWindowSeconds ≤
      r.now - guard.rateLimitWindowSeconds :=
    fun q hq => Clock.sub_le_sub (hle q hq) guard.rateLimitWindowSeconds
  obtain ⟨hadmitted, htracks⟩ := logAfter_tracks harmless_dropStale hbefore hfloor hle
  obtain ⟨hadmitted', htracks'⟩ := logAfter_tracks harmless_keepAll hbefore hfloor hle
  obtain ⟨hexact, -, -⟩ := htracks.serve harmless_dropStale le_rfl le_rfl
  obtain ⟨hexact', -, -⟩ := htracks'.serve harmless_keepAll le_rfl le_rfl
  refine ⟨hexact, ?_⟩
  unfold RequestGuard.limits
  cases hkey : r.key with
  | none => rw [answer_of_no_key hkey, answer_of_no_key hkey]
  | some key =>
    -- both answers are the exact window's, on one history
    have hsame := (hexact key hkey).trans (hadmitted.trans hadmitted'.symm ▸ (hexact' key hkey).symm)
    exact Bool.eq_iff_iff.mpr (by simpa using not_congr hsame)

end Limiter

/-- One login a minute, by a clock of whole seconds. -/
def loginGuard : RequestGuard Int where
  maxBodyBytes := 1024
  rateLimitRequests := 1
  rateLimitWindowSeconds := 60

/-- A login from one address. -/
def login (now : Int) : Request Int where
  scope :=
    { type := "http"
      method := some "POST"
      path := some "/api/v1/auth/development-session"
      headers := []
      client := some ("10.0.0.1", 50000) }
  now := now

/-- The login at `1` was refused, so the one at `60` is the first of its window. -/
theorem login_admitted_again :
    loginGuard.limits dropStale [login 0, login 1] (login 60) = false ∧
      loginGuard.limits dropStale [login 0, login 1] (login 60) =
        loginGuard.limits keepAll [login 0, login 1] (login 60) := by
  have hclock : ([login 0, login 1] ++ [login 60]).Pairwise fun q r => q.now ≤ r.now := by
    simp [login]
  have hkey : (login 60).key = some ("10.0.0.1", "/api/v1/auth/development-session") := by decide
  obtain ⟨hexact, hdropped⟩ := isRateLimited_exact hclock
  exact ⟨(hexact _ hkey).mpr (by decide), hdropped⟩

example : loginGuard.limits dropStale [login 0] (login 59) = true := by decide

end DeployGuard.Guard
