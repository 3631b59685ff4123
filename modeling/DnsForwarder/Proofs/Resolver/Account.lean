import DnsForwarder.Proofs.Resolver.Content
import DnsForwarder.Proofs.Resolver.Course

/-!
# Accounts of a request

The `Account` of a course says how often each counter was counted, and, read off the other
happenings, what the counters ought to show: how often the remote server was asked and how
often in vain (`faults`), how many responses were too large and could not be shortened
(`stuck`), and how many replies the socket was given and did not take.

## Strategy

The balance is a set of linear equations between the entries of an account (`Settled`), so
accounts that balance can be added (`Settled.add`), and it is enough that the course of a
single request balances.  For this each way through a request has its account written out:
`RefusalCourse.account`, `FitCourse.account`, and so on up to `HandleCourse.settled`.
-/

namespace DnsForwarder

@[ext]
structure Account where
  received : Nat := 0
  malformed : Nat := 0
  hits : Nat := 0
  misses : Nat := 0
  remoteErrors : Nat := 0
  truncated : Nat := 0
  refusals : Nat := 0
  sent : Nat := 0
  /-- How often the remote server was asked. -/
  questions : Nat := 0
  /-- The questions without an acceptable answer. -/
  faults : Nat := 0
  /-- The responses that were too large and could not be shortened. -/
  stuck : Nat := 0
  /-- Those of them that came from the cache. -/
  stuckHits : Nat := 0
  /-- The replies that were given to the socket. -/
  replies : Nat := 0
  /-- The replies that the socket did not take. -/
  lost : Nat := 0

namespace Account

@[simps]
def add (first second : Account) : Account where
  received := first.received + second.received
  malformed := first.malformed + second.malformed
  hits := first.hits + second.hits
  misses := first.misses + second.misses
  remoteErrors := first.remoteErrors + second.remoteErrors
  truncated := first.truncated + second.truncated
  refusals := first.refusals + second.refusals
  sent := first.sent + second.sent
  questions := first.questions + second.questions
  faults := first.faults + second.faults
  stuck := first.stuck + second.stuck
  stuckHits := first.stuckHits + second.stuckHits
  replies := first.replies + second.replies
  lost := first.lost + second.lost

@[simp]
theorem add_empty (account : Account) : account.add {} = account := rfl

@[simp]
theorem empty_add (account : Account) : add {} account = account := by
  ext <;> simp

theorem add_assoc (first second third : Account) :
    (first.add second).add third = first.add (second.add third) := by
  ext <;> simp [Nat.add_assoc]

theorem add_right_comm (first second third : Account) :
    (first.add second).add third = (first.add third).add second := by
  ext <;> simp [Nat.add_right_comm]

/-- The counters after all that is in the account was counted. -/
def metrics (account : Account) : Metrics where
  requestsReceived := .ofNat account.received
  responsesSent := .ofNat account.sent
  cacheHits := .ofNat account.hits
  cacheMisses := .ofNat account.misses
  remoteErrors := .ofNat account.remoteErrors
  malformedRequests := .ofNat account.malformed
  refusalsSent := .ofNat account.refusals
  truncatedResponses := .ofNat account.truncated

end Account

namespace Happening

open Resolver (acceptAnswer stuck)

def count : Counter → Account
  | .received => { received := 1 }
  | .sent => { sent := 1 }
  | .cacheHit => { hits := 1 }
  | .cacheMiss => { misses := 1 }
  | .remoteError => { remoteErrors := 1 }
  | .malformed => { malformed := 1 }
  | .refusal => { refusals := 1 }
  | .truncated => { truncated := 1 }

/-- A lookup is entered only if it found a response that can be aged for the request. -/
def account (options : Resolver.Options) (request : Bytes) : Happening → Account
  | counted counter => count counter
  | looked _ (.ok (some hit)) =>
    match (Message.decode? request).map (Message.age hit.data hit.age) with
    | some (.ok response) =>
      let stuck := (stuck options (Message.decode? request) response).toNat
      { stuck := stuck, stuckHits := stuck }
    | _ => {}
  | asked _ answer =>
    match acceptAnswer request answer with
    | .ok response =>
      { questions := 1, stuck := (stuck options (Message.decode? request) response).toNat }
    | .error _ => { questions := 1, faults := 1 }
  | sent _ left => { replies := 1, lost := (!left).toNat }
  | _ => {}

variable {options : Resolver.Options} {request : Bytes} {key : String}

theorem account_looked_nothing {found : Except Fault (Option Hit)}
    (h : ∀ hit, found ≠ .ok (some hit)) : account options request (.looked key found) = {} := by
  rcases found with fault | _ | entry
  · rfl
  · rfl
  · exact absurd rfl (h entry)

theorem account_looked_unusable {query : Message} {entry : Hit}
    (hquery : Message.decode? request = some query)
    (h : ∀ response, Message.age entry.data entry.age query ≠ .ok response) :
    account options request (.looked key (.ok (some entry))) = {} := by
  simp only [account, hquery, Option.map_some]
  split
  · rename_i response hage
    exact absurd (Option.some.inj hage) (h response)
  · rfl

theorem account_looked_aged {query : Message} {entry : Hit} {response : Bytes}
    (hquery : Message.decode? request = some query)
    (hage : Message.age entry.data entry.age query = .ok response)
    (hfits : stuck options (some query) response = false) :
    account options request (.looked key (.ok (some entry))) = {} := by
  simp only [account, hquery, Option.map_some, hage, hfits]
  rfl

theorem metrics_add_count (account : Account) (counter : Counter) :
    (account.add (count counter)).metrics = account.metrics.count counter := by
  cases counter <;> simp [Account.metrics, Metrics.count, count, UInt64.ofNat_add]

/-- Only what is counted shows in the counters. -/
theorem metrics_add (before : Account) (happening : Happening) :
    (before.add (happening.account options request)).metrics =
      match happening with
      | counted counter => before.metrics.count counter
      | _ => before.metrics := by
  cases happening with
  | counted counter => exact metrics_add_count before counter
  | looked key found =>
      rcases found with fault | _ | entry
      · rfl
      · rfl
      · simp only [account]
        split <;> rfl
  | asked query answer =>
      simp only [account]
      split <;> rfl
  | _ => rfl

end Happening

/-- The account of a course. -/
def accountOf (options : Resolver.Options) (request : Bytes) : List Happening → Account
  | [] => {}
  | happening :: course =>
    (happening.account options request).add (accountOf options request course)

theorem accountOf_append (options : Resolver.Options) (request : Bytes)
    (course rest : List Happening) :
    accountOf options request (course ++ rest) =
      (accountOf options request course).add (accountOf options request rest) := by
  induction course with
  | nil => simp [accountOf]
  | cons happening course ih => rw [List.cons_append, accountOf, ih, accountOf, Account.add_assoc]

namespace Resolver

variable {options : Options} {request response : Bytes} {query : Option Message}
  {key : Option String} {course : List Happening} {result : Option Bytes}

/-! ## The courses of a request -/

theorem not_stuck_of_le (hfits : ∀ asked ∈ query, response.length ≤ replyLimit options asked) :
    stuck options query response = false := by
  refine Bool.eq_false_iff.mpr fun hstuck => ?_
  obtain ⟨asked, hasked, hlarge, _⟩ := stuck_eq_true_iff.mp hstuck
  exact absurd (hfits asked hasked) (Nat.not_le.mpr hlarge)

theorem not_stuck_of_truncateFor {asked : Message} {reply : Bytes}
    (h : Message.truncateFor (replyLimit options asked) response = .ok reply) :
    stuck options (some asked) response = false := by
  refine Bool.eq_false_iff.mpr fun hstuck => ?_
  obtain ⟨other, hother, _, hnot⟩ := stuck_eq_true_iff.mp hstuck
  obtain rfl := Option.some.inj hother
  exact hnot reply h

/-- What was aged can be shortened. -/
theorem not_stuck_of_age {asked : Message} {name : String} {hit : Hit}
    (hquery : Message.decode? request = some asked) (hkey : Cache.requestKey? asked = some name)
    (hage : Message.age hit.data hit.age asked = .ok response) :
    stuck options (some asked) response = false := by
  obtain ⟨kept, hkept⟩ := Message.exists_kept_of_age hage
  obtain ⟨message, hmessage, hleft⟩ :=
    Message.exists_leftOf_of_age hkept (Message.decode?_readable hquery) hage
  have hquestions : message.questions = asked.questions := hleft.questions
  have hfew : message.questions.length ≤ 252 := hquestions ▸ questions_le_of_requestKey? hkey
  obtain ⟨reply, hreply⟩ := Message.exists_truncateFor hmessage (replyLimit options asked) hfew
  exact not_stuck_of_truncateFor hreply

theorem RefusalCourse.account (h : RefusalCourse options request course result) :
    accountOf options request course = { refusals := if options.refuseOnError then 1 else 0 } ∧
      result.toList.length + (if options.refuseOnError then 0 else 1) = 1 := by
  cases h with
  | silent hoff => simp [hoff, accountOf]
  | refused hon _ => simp [hon, accountOf, Happening.account, Happening.count]

/-- A response that is stuck is refused. -/
theorem FitCourse.account (h : FitCourse options request query response course result) :
    ∃ truncated, accountOf options request course =
        { truncated := truncated
          refusals := if options.refuseOnError then (stuck options query response).toNat else 0 } ∧
      result.toList.length +
        (if options.refuseOnError then 0 else (stuck options query response).toNat) = 1 := by
  cases h with
  | whole hfits =>
      rw [not_stuck_of_le hfits]
      exact ⟨0, by simp [accountOf], by simp⟩
  | shortened hquery _ hreply =>
      rw [hquery, not_stuck_of_truncateFor hreply]
      exact ⟨1, by simp [accountOf, Happening.account, Happening.count], by simp⟩
  | refused hstuck hrefused =>
      rw [hstuck]
      exact ⟨0, hrefused.account⟩

/-- The remote server is asked once.  There is a fault, or there is a response, which may be
stuck. -/
theorem ForwardCourse.account
    (h : ForwardCourse options request (Message.decode? request) key course result) :
    ∃ truncated faults stuck, accountOf options request course =
        { questions := 1, remoteErrors := faults, faults := faults, stuck := stuck
          truncated := truncated
          refusals := if options.refuseOnError then faults + stuck else 0 } ∧
      result.toList.length + (if options.refuseOnError then 0 else faults + stuck) = 1 := by
  cases h with
  | @failed answer rest _ hfault hrefused =>
      obtain ⟨haccount, hanswered⟩ := hrefused.account
      obtain ⟨fault, hfault⟩ : ∃ fault, acceptAnswer request answer = .error fault := by
        cases haccepted : acceptAnswer request answer with
        | error fault => exact ⟨fault, rfl⟩
        | ok response => exact absurd haccepted (hfault response)
      refine ⟨0, 1, 0, ?_, hanswered⟩
      simp [accountOf, Happening.account, Happening.count, hfault, haccount, Account.add]
  | passed haccepted hfit =>
      obtain ⟨truncated, haccount, hanswered⟩ := hfit.account
      refine ⟨truncated, 0, _, ?_, by simpa using hanswered⟩
      simp [accountOf, Happening.account, haccepted, haccount, Account.add]
  | kept haccepted _ _ hfit =>
      obtain ⟨truncated, haccount, hanswered⟩ := hfit.account
      refine ⟨truncated, 0, _, ?_, by simpa using hanswered⟩
      simp [accountOf, Happening.account, haccepted, haccount, Account.add]

/-- An account of as many requests, of which so many are too short for a header, have a key
and got a reply. -/
structure Settled (options : Options) (account : Account) (requests short keyed replies : Nat) :
    Prop where
  received : account.received = requests
  malformed : account.malformed = short
  looked : account.hits + account.misses = keyed
  asked : account.questions + account.malformed + account.hits = account.received
  failed : account.remoteErrors = account.faults
  refused : account.refusals = if options.refuseOnError then account.faults + account.stuck else 0
  answered : replies + account.malformed +
    (if options.refuseOnError then 0 else account.faults + account.stuck) = requests
  fromCache : account.stuckHits = 0
  sent : account.sent + account.lost = account.replies

def isShort (request : Bytes) : Bool := request.length < Datagram.headerLength

/-- The request has a header, can be read and has a key. -/
def isKeyed (request : Bytes) : Bool :=
  !isShort request && ((Message.decode? request).bind Cache.requestKey?).isSome

/-- What was received and possibly missed in the cache is forwarded. -/
theorem ForwardCourse.settled
    (h : ForwardCourse options request (Message.decode? request) key course result)
    (misses : Nat) :
    Settled options (.add { received := 1, misses := misses } (accountOf options request course))
        1 0 misses result.toList.length ∧
      (Account.add { received := 1, misses := misses }
        (accountOf options request course)).replies = 0 := by
  obtain ⟨truncated, faults, stuck, haccount, hanswered⟩ := h.account
  rw [haccount]
  refine ⟨⟨?_, ?_, ?_, ?_, ?_, ?_, ?_, ?_, ?_⟩, rfl⟩ <;> simp [hanswered]

theorem FitCourse.settled (h : FitCourse options request query response course result)
    (hstuck : stuck options query response = false) :
    Settled options (.add { received := 1, hits := 1 } (accountOf options request course))
        1 0 1 result.toList.length ∧
      (Account.add { received := 1, hits := 1 } (accountOf options request course)).replies =
        0 := by
  obtain ⟨truncated, haccount, hanswered⟩ := h.account
  rw [hstuck] at haccount hanswered
  rw [haccount]
  refine ⟨⟨?_, ?_, ?_, ?_, ?_, ?_, ?_, ?_, ?_⟩, rfl⟩ <;> simp_all

theorem HandleCourse.settled (h : HandleCourse options request course result) :
    Settled options (accountOf options request course) 1 (isShort request).toNat
        (isKeyed request).toNat result.toList.length ∧
      (accountOf options request course).replies = 0 := by
  have hkeyed : ∀ {query key}, Message.decode? request = some query →
      Cache.requestKey? query = some key → isShort request = false ∧ isKeyed request = true := by
    intro query key hquery hkey
    have hlong := Message.headerLength_le_of_decode? hquery
    simp [isShort, isKeyed, hlong, hquery, hkey]
  cases h with
  | short hshort =>
      refine ⟨⟨?_, ?_, ?_, ?_, ?_, ?_, ?_, ?_, ?_⟩, ?_⟩ <;>
        simp [accountOf, Happening.account, Happening.count, isShort, isKeyed, hshort]
  | @unkeyed rest _ hlong hkey hforward =>
      have haccount : accountOf options request (.counted .received :: rest) =
          .add { received := 1, misses := 0 } (accountOf options request rest) := rfl
      have hshort : isShort request = false := by simp [isShort, hlong]
      have hunkeyed : isKeyed request = false := by simp [isKeyed, hkey]
      -- without a key there is no miss to count
      rw [haccount, hshort, hunkeyed]
      exact hforward.settled 0
  | @hit query key entry response rest _ hquery hkey hage hfit =>
      have hfits := @not_stuck_of_age options request response query key entry hquery hkey hage
      have hlooked := @Happening.account_looked_aged options request key _ _ _ hquery hage hfits
      have haccount : accountOf options request (.counted .received ::
          .looked key (.ok (some entry)) :: .counted .cacheHit :: rest) =
          .add { received := 1, hits := 1 } (accountOf options request rest) := by
        simp only [accountOf, hlooked, Account.empty_add, ← Account.add_assoc]
        rfl
      rw [haccount, (hkeyed hquery hkey).1, (hkeyed hquery hkey).2]
      exact hfit.settled hfits
  | @miss query key found rest _ hquery hkey hnot hforward =>
      have hlooked := @Happening.account_looked_nothing options request key _ hnot
      have haccount : accountOf options request
          (.counted .received :: .looked key found :: .counted .cacheMiss :: rest) =
          .add { received := 1, misses := 1 } (accountOf options request rest) := by
        simp only [accountOf, hlooked, Account.empty_add, ← Account.add_assoc]
        rfl
      rw [← hquery] at hforward
      rw [haccount, (hkeyed hquery hkey).1, (hkeyed hquery hkey).2]
      exact hforward.settled 1
  | @unusable query key entry rest _ hquery hkey hage hforward =>
      have hlooked := @Happening.account_looked_unusable options request key _ _ hquery hage
      have haccount : accountOf options request (.counted .received ::
          .looked key (.ok (some entry)) :: .forgot key :: .counted .cacheMiss :: rest) =
          .add { received := 1, misses := 1 } (accountOf options request rest) := by
        simp only [accountOf, hlooked, Account.empty_add, ← Account.add_assoc]
        rfl
      rw [← hquery] at hforward
      rw [haccount, (hkeyed hquery hkey).1, (hkeyed hquery hkey).2]
      exact hforward.settled 1

/-! ## Sums -/

/-- A reply that was owed is given to the socket. -/
theorem Settled.send {account : Account} {requests short keyed sent lost : Nat}
    (h : Settled options account requests short keyed 1) (hnone : account.replies = 0)
    (hsent : sent + lost = 1) :
    Settled options (account.add { replies := 1, sent := sent, lost := lost }) requests short keyed
      (account.add { replies := 1, sent := sent, lost := lost }).replies := by
  have hreplies : (account.add { replies := 1, sent := sent, lost := lost }).replies = 1 := by
    simp [hnone]
  have hbefore := h.sent
  rw [hreplies]
  refine ⟨h.received, h.malformed, h.looked, h.asked, h.failed, h.refused, h.answered,
    h.fromCache, ?_⟩
  simp only [Account.add_sent, Account.add_lost, Account.add_replies]
  omega

theorem Settled.empty : Settled options {} 0 0 0 0 :=
  ⟨rfl, rfl, rfl, rfl, rfl, by simp, by simp, rfl, rfl⟩

/-- Accounts that balance can be added. -/
theorem Settled.add {first second : Account} {requests short keyed replies : Nat}
    {requests' short' keyed' replies' : Nat}
    (h : Settled options first requests short keyed replies)
    (h' : Settled options second requests' short' keyed' replies') :
    Settled options (first.add second) (requests + requests') (short + short') (keyed + keyed')
      (replies + replies') := by
  obtain ⟨hreceived, hmalformed, hlooked, hasked, hfailed, hrefused, hanswered, hcache, hsent⟩ := h
  obtain ⟨hreceived', hmalformed', hlooked', hasked', hfailed', hrefused', hanswered', hcache',
    hsent'⟩ := h'
  -- the same linear equations for both, once it is known whether refusals are sent
  cases hon : options.refuseOnError <;>
    simp only [hon, reduceIte, Bool.false_eq_true] at hrefused hanswered hrefused' hanswered' <;>
    constructor <;> simp only [Account.add, hon, reduceIte, Bool.false_eq_true] <;> omega

end Resolver

end DnsForwarder
