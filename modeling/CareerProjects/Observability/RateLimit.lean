import CareerProjects.Library.Windows
import Mathlib.Data.List.Induction
import Mathlib.Data.List.Sort
import Mathlib.Data.Rat.Floor

/-! The rate limit of the platform: each client has a queue of the times of its accepted requests, from
which the times that have left the window are dropped when the client's next request comes. The queue
is a record of the accepted requests of the window, so the decisions are those of a sliding window
over the whole history. -/

namespace CareerProjects.Observability.RateLimit

open Library

/-- A request, with the reading of the clock at which it is checked. -/
structure Request where
  now : ℚ
  client : Option String
  path : String

structure RateLimitMiddleware where
  enabled : Bool
  requestLimit : ℕ
  windowSeconds : ℕ
  requestLimitPositive : 0 < requestLimit
  windowSecondsPositive : 0 < windowSeconds

def RATE_LIMIT_EXEMPT_PATHS : List String := ["/docs", "/openapi.json", "/redoc"]

inductive Decision
  | exempt
  | rejected (retryAfter : ℤ)
  | accepted (remaining : ℕ) (resetAfter : ℤ)
  deriving DecidableEq

/-- The headers of a response; their names are kept in lower case. -/
abbrev Headers := List (String × String)

structure Response where
  statusCode : ℕ
  headers : Headers
  detail : String

def lowered (name : String) : String := String.ofList (name.toList.map Char.toLower)

abbrev RequestTimes := String → List ℚ

def clientKey (request : Request) : String := request.client.getD "unknown"

namespace RateLimitMiddleware

variable (middleware : RateLimitMiddleware)

def passes (request : Request) : Bool :=
  !middleware.enabled || "/health".toList.isPrefixOf request.path.toList ||
    request.path ∈ RATE_LIMIT_EXEMPT_PATHS

/-- The whole seconds until the oldest of some times leaves the window, at least one. -/
def secondsLeft (requestTimes : List ℚ) (now : ℚ) : ℤ :=
  max 1 ⌈requestTimes.headD now + middleware.windowSeconds - now⌉

/-- The decision on a request, from its client's times in the window. -/
def decide (requestTimes : List ℚ) (now : ℚ) : Decision :=
  if middleware.requestLimit ≤ requestTimes.length then .rejected (middleware.secondsLeft requestTimes now)
  else
    let appended := requestTimes ++ [now]
    .accepted (middleware.requestLimit - appended.length) (middleware.secondsLeft appended now)

/-- The part of `dispatch` before the request is passed on. -/
def inspect (state : RequestTimes) (request : Request) : RequestTimes × Decision :=
  if middleware.passes request then (state, .exempt)
  else
    let windowStartedAt := request.now - middleware.windowSeconds
    let requestTimes := (state (clientKey request)).dropWhile (· ≤ windowStartedAt)
    let kept := if middleware.requestLimit ≤ requestTimes.length then requestTimes
      else requestTimes ++ [request.now]
    (Function.update state (clientKey request) kept, middleware.decide requestTimes request.now)

def getHeader (headers : Headers) (name : String) : Option String := headers.lookup (lowered name)

def setdefault (headers : Headers) (name value : String) : Headers :=
  if (getHeader headers name).isSome then headers else headers ++ [(lowered name, value)]

/-- The response to a request, given what the application answers when it is passed on. -/
def respond (answer : Response) : Decision → Response
  | .exempt => answer
  | .rejected retryAfter =>
    { statusCode := 429
      headers := [(lowered "Retry-After", toString retryAfter),
        (lowered "X-RateLimit-Limit", toString middleware.requestLimit),
        (lowered "X-RateLimit-Remaining", "0"), (lowered "X-RateLimit-Reset", toString retryAfter)]
      detail := "Rate limit exceeded" }
  | .accepted remaining resetAfter =>
    { answer with
      headers := setdefault (setdefault (setdefault answer.headers
        "X-RateLimit-Limit" (toString middleware.requestLimit))
        "X-RateLimit-Remaining" (toString remaining)) "X-RateLimit-Reset" (toString resetAfter) }

def process (requests : List Request) : RequestTimes × List (Request × Decision) :=
  requests.foldl (fun so request =>
    let inspected := middleware.inspect so.1 request
    (inspected.1, so.2 ++ [(request, inspected.2)])) (fun _ => [], [])

/-- The decision on a request that comes after some others. -/
def decisionAfter (before : List Request) (request : Request) : Decision :=
  (middleware.inspect (middleware.process before).1 request).2

end RateLimitMiddleware

def Decision.isAccepted : Decision → Bool
  | .accepted _ _ => true
  | _ => false

def Decision.isRejected : Decision → Bool
  | .rejected _ => true
  | _ => false

namespace RateLimitMiddleware

variable (middleware : RateLimitMiddleware)

def acceptedTimes (key : String) (requests : List Request) : List ℚ :=
  (middleware.process requests).2.filterMap fun entry =>
    if clientKey entry.1 = key ∧ entry.2.isAccepted then some entry.1.now else none

def acceptedInWindow (key : String) (requests : List Request) (now : ℚ) : List ℚ :=
  window (middleware.windowSeconds : ℚ) now (middleware.acceptedTimes key requests)

def Chronological (requests : List Request) : Prop := requests.Pairwise fun a b => a.now ≤ b.now

variable {middleware} {requests before middle : List Request} {request : Request} {key : String}

theorem process_snoc : middleware.process (requests ++ [request]) =
    ((middleware.inspect (middleware.process requests).1 request).1,
      (middleware.process requests).2 ++ [(request, middleware.decisionAfter requests request)]) := by
  rw [process, List.foldl_append]
  rfl

theorem acceptedTimes_snoc : middleware.acceptedTimes key (requests ++ [request]) =
    middleware.acceptedTimes key requests ++
      if clientKey request = key ∧ (middleware.decisionAfter requests request).isAccepted then [request.now] else [] := by
  rw [acceptedTimes, process_snoc, List.filterMap_append]
  by_cases taken : clientKey request = key ∧ (middleware.decisionAfter requests request).isAccepted
  · simp [taken, acceptedTimes]
  · simp [taken, acceptedTimes]

theorem acceptedTimes_sublist : (middleware.acceptedTimes key requests).Sublist (requests.map Request.now) := by
  induction requests using List.reverseRecOn with
  | nil => exact .slnil
  | append_singleton requests request ih =>
    rw [acceptedTimes_snoc, List.map_append]
    refine ih.append ?_
    split
    · exact List.Sublist.refl _
    · exact List.nil_sublist _

theorem acceptedTimes_ordered (ordered : Chronological requests) :
    (middleware.acceptedTimes key requests).Pairwise (· ≤ ·) :=
  (List.pairwise_map.mpr ordered).sublist acceptedTimes_sublist

theorem acceptedTimes_past {now : ℚ} (past : ∀ other ∈ requests, other.now ≤ now) :
    ∀ t ∈ middleware.acceptedTimes key requests, t ≤ now := by
  intro t member
  obtain ⟨other, inside, rfl⟩ := List.mem_map.mp (acceptedTimes_sublist.subset member)
  exact past other inside

theorem acceptedInWindow_snoc {now : ℚ} (ordered : Chronological (requests ++ [request]))
    (order : request.now ≤ now) (same : clientKey request = key) :
    middleware.acceptedInWindow key (requests ++ [request]) now =
      (middleware.acceptedInWindow key requests request.now ++
        if (middleware.decisionAfter requests request).isAccepted then [request.now] else []).filter
          (now - middleware.windowSeconds < ·) := by
  have past : ∀ t ∈ middleware.acceptedTimes key requests, t ≤ request.now :=
    acceptedTimes_past fun other member => (List.pairwise_append.mp ordered).2.2 other member request (by simp)
  rw [acceptedInWindow, acceptedTimes_snoc, List.filter_append, acceptedInWindow, filter_window past order]
  by_cases taken : (middleware.decisionAfter requests request).isAccepted
  · simp [taken, same, window_snoc, order, List.filter_singleton]
  · simp [taken]

theorem inspect_own (limited : middleware.passes request = false) (state : RequestTimes) :
    (middleware.inspect state request).1 (clientKey request) =
      (state (clientKey request)).dropWhile (· ≤ request.now - middleware.windowSeconds) ++
        if (middleware.inspect state request).2.isAccepted then [request.now] else [] := by
  unfold inspect decide
  by_cases full : middleware.requestLimit ≤
      ((state (clientKey request)).dropWhile (· ≤ request.now - middleware.windowSeconds)).length
  · simp [limited, full, Decision.isAccepted]
  · simp [limited, full, Decision.isAccepted]

theorem inspect_other (other : clientKey request ≠ key) (state : RequestTimes) :
    (middleware.inspect state request).1 key = state key := by
  unfold inspect
  split
  · rfl
  · exact Function.update_of_ne other.symm _ _

theorem decisionAfter_exempt (exempt : middleware.passes request) :
    middleware.decisionAfter requests request = .exempt := by
  simp [decisionAfter, inspect, exempt]

theorem decisionAfter_exempt_iff : middleware.decisionAfter requests request = .exempt ↔ middleware.passes request := by
  constructor
  · intro exempt
    by_contra limited
    simp only [decisionAfter, inspect, if_neg limited, decide] at exempt
    split at exempt <;> cases exempt
  · exact decisionAfter_exempt

theorem queue_window (ordered : Chronological requests) {now : ℚ} (past : ∀ other ∈ requests, other.now ≤ now) :
    ((middleware.process requests).1 key).dropWhile (· ≤ now - middleware.windowSeconds) =
      middleware.acceptedInWindow key requests now := by
  induction requests using List.reverseRecOn generalizing now with
  | nil => simp [process, acceptedInWindow, acceptedTimes, window]
  | append_singleton requests request ih =>
    have before := List.pairwise_append.mp ordered
    have order : request.now ≤ now := past request (by simp)
    have earlier : ∀ other ∈ requests, other.now ≤ now := fun other member => past other (by simp [member])
    rw [process_snoc]
    by_cases other : clientKey request = key
    · by_cases exempt : middleware.passes request
      · rw [acceptedInWindow, acceptedTimes_snoc, decisionAfter_exempt exempt]
        simpa [inspect, exempt, Decision.isAccepted, acceptedInWindow] using ih before.1 earlier
      · have step := inspect_own (by simpa using exempt) (middleware.process requests).1
        have inner : _ = middleware.acceptedInWindow key requests request.now :=
          ih before.1 fun old member => before.2.2 old member request (by simp)
        rw [other, inner] at step
        rw [step, acceptedInWindow_snoc ordered order other]
        refine dropWhile_eq_filter ?_ _
        -- the queue is a part of the accepted times, which are in order
        have whole : (middleware.acceptedTimes key (requests ++ [request])).Pairwise (· ≤ ·) :=
          acceptedTimes_ordered ordered
        rw [acceptedTimes_snoc] at whole
        refine whole.sublist (List.filter_sublist.append ?_)
        simp [other, decisionAfter]
    · rw [inspect_other other, acceptedInWindow, acceptedTimes_snoc]
      simpa [other, acceptedInWindow] using ih before.1 earlier

theorem decisionAfter_eq (ordered : Chronological (before ++ [request])) (limited : middleware.passes request = false) :
    middleware.decisionAfter before request =
      middleware.decide (middleware.acceptedInWindow (clientKey request) before request.now) request.now := by
  have earlier := List.pairwise_append.mp ordered
  rw [← queue_window earlier.1 fun old member => earlier.2.2 old member request (by simp)]
  simp [decisionAfter, inspect, limited]

theorem decide_isAccepted {times : List ℚ} {now : ℚ} :
    (middleware.decide times now).isAccepted ↔ times.length < middleware.requestLimit := by
  unfold decide
  by_cases full : middleware.requestLimit ≤ times.length
  · simp [full, Decision.isAccepted]
  · simpa [full, Decision.isAccepted] using not_le.mp full

theorem decide_isRejected {times : List ℚ} {now : ℚ} :
    (middleware.decide times now).isRejected ↔ middleware.requestLimit ≤ times.length := by
  unfold decide
  by_cases full : middleware.requestLimit ≤ times.length
  · simp [full, Decision.isRejected]
  · simp [full, Decision.isRejected]

theorem acceptedInWindow_le (ordered : Chronological requests) (now : ℚ) :
    (middleware.acceptedInWindow key requests now).length ≤ middleware.requestLimit := by
  induction requests using List.reverseRecOn generalizing now with
  | nil => simp [acceptedInWindow, acceptedTimes, process, window]
  | append_singleton requests request ih =>
    have earlier := List.pairwise_append.mp ordered
    by_cases taken : clientKey request = key ∧ (middleware.decisionAfter requests request).isAccepted
    · have limited : middleware.passes request = false := by
        by_contra exempt
        simp [decisionAfter_exempt (by simpa using exempt), Decision.isAccepted] at taken
      have free := taken.2
      rw [decisionAfter_eq ordered limited, decide_isAccepted, taken.1] at free
      rw [acceptedInWindow, acceptedTimes_snoc, if_pos taken]
      refine window_snoc_le (acceptedTimes_past ?_) free (ih earlier.1) now
      exact fun old member => earlier.2.2 old member request (by simp)
    · rw [acceptedInWindow, acceptedTimes_snoc, if_neg taken, List.append_nil]
      exact ih earlier.1 now

theorem decision_congr {others : List Request} (ordered : Chronological (before ++ [request]))
    (ordered' : Chronological (others ++ [request]))
    (same : middleware.acceptedTimes (clientKey request) before = middleware.acceptedTimes (clientKey request) others) :
    middleware.decisionAfter before request = middleware.decisionAfter others request := by
  by_cases exempt : middleware.passes request
  · rw [decisionAfter_exempt exempt, decisionAfter_exempt exempt]
  · have limited : middleware.passes request = false := by simpa using exempt
    rw [decisionAfter_eq ordered limited, decisionAfter_eq ordered' limited, acceptedInWindow, acceptedInWindow, same]

theorem chronological_initial {others : List Request} (ordered : Chronological requests) (initial : others <+: requests) :
    Chronological others :=
  List.Pairwise.sublist initial.sublist ordered

theorem acceptedTimes_skip (ordered : Chronological (before ++ request :: middle))
    (refused : (middleware.decisionAfter before request).isAccepted = false) :
    middleware.acceptedTimes key (before ++ request :: middle) = middleware.acceptedTimes key (before ++ middle) := by
  induction middle using List.reverseRecOn generalizing key with
  | nil => rw [acceptedTimes_snoc, refused]; simp
  | append_singleton middle later ih =>
    rw [← List.cons_append, ← List.append_assoc] at ordered ⊢
    have shorter : Chronological (before ++ middle ++ [later]) :=
      List.Pairwise.sublist (((List.sublist_cons_self request middle).append_left before).append_right [later]) ordered
    have start := chronological_initial ordered (List.prefix_append _ _)
    rw [acceptedTimes_snoc, ← List.append_assoc, acceptedTimes_snoc, ih start, decision_congr ordered shorter (ih start)]

theorem acceptedTimes_own (ordered : Chronological requests) :
    middleware.acceptedTimes key (requests.filter (clientKey · = key)) = middleware.acceptedTimes key requests := by
  induction requests using List.reverseRecOn with
  | nil => rfl
  | append_singleton requests request ih =>
    have start := ih (chronological_initial ordered (List.prefix_append _ _))
    rw [List.filter_append, acceptedTimes_snoc]
    by_cases own : clientKey request = key
    · have alone : Chronological (requests.filter (clientKey · = key) ++ [request]) :=
        List.Pairwise.sublist (List.filter_sublist.append_right [request]) ordered
      have kept : [request].filter (clientKey · = key) = [request] := by simp [own]
      rw [kept, acceptedTimes_snoc, start, decision_congr alone ordered (by rw [own, start])]
    · simpa [own] using start

theorem acceptedTimes_silent (silent : ∀ other ∈ middle, clientKey other ≠ key ∨ middleware.passes other) :
    middleware.acceptedTimes key (requests ++ middle) = middleware.acceptedTimes key requests := by
  induction middle using List.reverseRecOn with
  | nil => rw [List.append_nil]
  | append_singleton middle last ih =>
    have start := ih fun other member => silent other (by simp [member])
    have missing : ¬(clientKey last = key ∧ (middleware.decisionAfter (requests ++ middle) last).isAccepted) := by
      intro taken
      have exempt := (silent last (by simp)).resolve_left (not_not.mpr taken.1)
      simp [decisionAfter_exempt exempt, Decision.isAccepted] at taken
    rw [← List.append_assoc, acceptedTimes_snoc, if_neg missing, List.append_nil, start]

theorem oldest_left {times : List ℚ} {now later : ℚ} {retryAfter : ℤ}
    (rejected : middleware.decide times now = .rejected retryAfter) (waited : now + retryAfter ≤ later) :
    (times.filter (later - middleware.windowSeconds < ·)).length < times.length := by
  have full : middleware.requestLimit ≤ times.length := decide_isRejected.mp (by rw [rejected]; rfl)
  rw [decide, if_pos full, Decision.rejected.injEq] at rejected
  cases times with
  | nil => exact absurd full (not_le.mpr middleware.requestLimitPositive)
  | cons oldest rest =>
    have wait : oldest + middleware.windowSeconds - now ≤ retryAfter := by
      have ceil : ⌈oldest + middleware.windowSeconds - now⌉ ≤ retryAfter := by
        rw [← rejected]
        exact le_max_right _ _
      exact Int.ceil_le.mp ceil
    refine List.length_filter_lt_length_iff_exists.mpr ⟨oldest, by simp, ?_⟩
    rw [decide_eq_true_iff]
    linarith

theorem accepted_of_waiting {later : Request} {retryAfter : ℤ}
    (ordered : Chronological (before ++ request :: middle ++ [later]))
    (rejected : middleware.decisionAfter before request = .rejected retryAfter)
    (silent : ∀ other ∈ middle, clientKey other ≠ clientKey request ∨ middleware.passes other)
    (same : clientKey later = clientKey request) (limited : middleware.passes later = false)
    (waited : request.now + retryAfter ≤ later.now) :
    (middleware.decisionAfter (before ++ request :: middle) later).isAccepted := by
  have start : Chronological (before ++ [request]) :=
    chronological_initial ordered ⟨middle ++ [later], by simp⟩
  have unpassed : middleware.passes request = false := by
    by_contra exempt
    simp [decisionAfter_exempt (by simpa using exempt)] at rejected
  have unchanged : middleware.acceptedTimes (clientKey request) (before ++ request :: middle) =
      middleware.acceptedTimes (clientKey request) before := by
    rw [List.append_cons, acceptedTimes_silent silent, acceptedTimes_snoc, rejected]
    simp [Decision.isAccepted]
  have past : ∀ t ∈ middleware.acceptedTimes (clientKey request) before, t ≤ request.now :=
    acceptedTimes_past fun old member => (List.pairwise_append.mp start).2.2 old member request (by simp)
  have order : request.now ≤ later.now := (List.pairwise_append.mp ordered).2.2 request (by simp) later (by simp)
  rw [decisionAfter_eq start unpassed] at rejected
  rw [decisionAfter_eq ordered limited, decide_isAccepted, same, acceptedInWindow, unchanged,
    ← filter_window past order]
  exact (oldest_left rejected waited).trans_le (acceptedInWindow_le (chronological_initial start (List.prefix_append _ _)) _)

theorem getHeader_setdefault (headers : Headers) (name value other : String) :
    getHeader (setdefault headers name value) other =
      if lowered other = lowered name then some ((getHeader headers name).getD value) else getHeader headers other := by
  unfold setdefault
  by_cases present : (getHeader headers name).isSome
  · obtain ⟨own, found⟩ := Option.isSome_iff_exists.mp present
    by_cases same : lowered other = lowered name
    · have value : headers.lookup (lowered name) = some own := found
      simp [getHeader, value, same]
    · simp [present, same]
  · have absent : headers.lookup (lowered name) = none := Option.not_isSome_iff_eq_none.mp present
    by_cases same : lowered other = lowered name
    · simp [getHeader, absent, same, List.lookup_append]
    · simp [getHeader, absent, same, List.lookup_append, List.lookup_cons, beq_eq_false_iff_ne.mpr same]

theorem respond_remaining (answer : Response) (remaining : ℕ) (resetAfter : ℤ) :
    getHeader (middleware.respond answer (.accepted remaining resetAfter)).headers "X-RateLimit-Remaining" =
      some ((getHeader answer.headers "X-RateLimit-Remaining").getD (toString remaining)) := by
  have limit : lowered "X-RateLimit-Remaining" ≠ lowered "X-RateLimit-Limit" := by decide +kernel
  have reset : lowered "X-RateLimit-Remaining" ≠ lowered "X-RateLimit-Reset" := by decide +kernel
  simp only [respond, getHeader_setdefault, if_neg limit, if_neg reset, if_true]

theorem remaining_add (ordered : Chronological (before ++ [request])) {remaining : ℕ} {resetAfter : ℤ}
    (accepted : middleware.decisionAfter before request = .accepted remaining resetAfter) :
    (middleware.acceptedInWindow (clientKey request) (before ++ [request]) request.now).length + remaining =
      middleware.requestLimit := by
  have limited : middleware.passes request = false := by
    by_contra exempt
    simp [decisionAfter_exempt (by simpa using exempt)] at accepted
  have positive : (0 : ℚ) < middleware.windowSeconds := by exact_mod_cast middleware.windowSecondsPositive
  have whole : middleware.acceptedInWindow (clientKey request) (before ++ [request]) request.now =
      middleware.acceptedInWindow (clientKey request) before request.now ++ [request.now] := by
    rw [acceptedInWindow, acceptedTimes_snoc, accepted, if_pos ⟨rfl, rfl⟩, window_snoc, acceptedInWindow]
    simp [positive]
  have free := decide_isAccepted.mp (by rw [← decisionAfter_eq ordered limited, accepted]; rfl)
  rw [decisionAfter_eq ordered limited, decide, if_neg (not_le.mpr free), Decision.accepted.injEq] at accepted
  rw [whole, ← accepted.1, List.length_append, List.length_singleton]
  omega

/-- The rate limit is a sliding window: what it decides on requests that come in order. -/
structure SlidingWindow (middleware : RateLimitMiddleware) (requests : List Request) : Prop where
  bounded : ∀ key now, (middleware.acceptedInWindow key requests now).length ≤ middleware.requestLimit
  exempt : ∀ before request, before ++ [request] <+: requests →
    (middleware.decisionAfter before request = .exempt ↔ middleware.passes request = true)
  accepted : ∀ before request, before ++ [request] <+: requests → middleware.passes request = false →
    ((middleware.decisionAfter before request).isAccepted ↔
      (middleware.acceptedInWindow (clientKey request) before request.now).length < middleware.requestLimit)
  rejected : ∀ before request, before ++ [request] <+: requests → middleware.passes request = false →
    ((middleware.decisionAfter before request).isRejected ↔
      (middleware.acceptedInWindow (clientKey request) before request.now).length = middleware.requestLimit)
  remaining : ∀ before request, before ++ [request] <+: requests → ∀ remaining resetAfter,
    middleware.decisionAfter before request = .accepted remaining resetAfter →
      (middleware.acceptedInWindow (clientKey request) (before ++ [request]) request.now).length + remaining =
        middleware.requestLimit ∧
      ∀ answer, getHeader (middleware.respond answer (.accepted remaining resetAfter)).headers
        "X-RateLimit-Remaining" =
          some ((getHeader answer.headers "X-RateLimit-Remaining").getD (toString remaining))
  recovers : ∀ before request middle later, before ++ request :: middle ++ [later] <+: requests →
    ∀ retryAfter, middleware.decisionAfter before request = .rejected retryAfter →
      (∀ other ∈ middle, clientKey other ≠ clientKey request ∨ middleware.passes other) →
      clientKey later = clientKey request → middleware.passes later = false →
      request.now + retryAfter ≤ later.now →
        (middleware.decisionAfter (before ++ request :: middle) later).isAccepted
  unchanged : ∀ before request middle later, before ++ request :: middle ++ [later] <+: requests →
    (middleware.decisionAfter before request).isAccepted = false →
      middleware.decisionAfter (before ++ request :: middle) later = middleware.decisionAfter (before ++ middle) later
  own : ∀ before request, before ++ [request] <+: requests →
    middleware.decisionAfter (before.filter (clientKey · = clientKey request)) request =
      middleware.decisionAfter before request

def sampleMiddleware : RateLimitMiddleware where
  enabled := true
  requestLimit := 2
  windowSeconds := 60
  requestLimitPositive := by decide
  windowSecondsPositive := by decide

def sampleRequest (now : ℚ) : Request := { now := now, client := "198.51.100.7", path := "/api/v1/services" }

def healthRequest (now : ℚ) : Request := { sampleRequest now with path := "/health/ready" }

/-- Two requests, a third that is rejected although a health check passes beside it, and a fourth one second later. -/
def sampleRequests : List Request :=
  [sampleRequest 0, sampleRequest 0, healthRequest 59, sampleRequest 59, sampleRequest 60]

end RateLimitMiddleware

end CareerProjects.Observability.RateLimit
