import DnsForwarder.Listener
import DnsForwarder.Proofs.Resolver.Account
import DnsForwarder.Proofs.Resolver.Identity

/-!
# The counters balance

A listener handles its datagrams as tasks side by side.  `Service` is what it looks like
while it works: what the tasks share, and for each task the request, its course so far and
what is left to do.  A move lets a datagram come in, lets one task take its next step in
surroundings of its own, or makes calls on the cache fail.

The accounts of two tasks can be added however their steps lie in between, so it is enough
that the course of a single datagram balances (`serve_courses`).  A run preserves two things,
`Accounted`: the counters show what the accounts of the courses so far add up to, modulo 2^64,
and the course of each task balances however it goes on.  When all tasks are finished nothing
is left to come (`counters_balance`).
-/

namespace DnsForwarder

namespace Listener

open Resolver (Settled isShort isKeyed)

variable {options : Resolver.Options} {buffer : Nat}

/-! ## A single datagram -/

/-- A reply is given to the socket, which takes it or does not. -/
theorem serve_courses (options : Resolver.Options) (buffer : Nat) (datagram : Bytes) :
    (serve options buffer datagram).Courses fun course _ =>
      Settled options (accountOf options (datagram.take buffer) course) 1
        (isShort (datagram.take buffer)).toNat (isKeyed (datagram.take buffer)).toNat
        (accountOf options (datagram.take buffer) course).replies := by
  refine Action.Courses.bind ((Resolver.handle_courses options _).mono fun course result h => ?_)
  obtain ⟨hsettled, hreplies⟩ := h.settled
  cases result with
  | none =>
      change Settled _ (accountOf _ _ (course ++ [])) _ _ _ (accountOf _ _ (course ++ [])).replies
      rw [List.append_nil, hreplies]
      exact hsettled
  | some reply =>
      rintro (_ | _)
      · change Settled _ (accountOf _ _ (course ++ [.sent reply false])) _ _ _
          (accountOf _ _ (course ++ [.sent reply false])).replies
        rw [accountOf_append]
        exact hsettled.send hreplies (Nat.zero_add 1)
      · change Settled _ (accountOf _ _ (course ++ [.sent reply true, .counted .sent])) _ _ _
          (accountOf _ _ (course ++ [.sent reply true, .counted .sent])).replies
        rw [accountOf_append]
        exact hsettled.send hreplies (Nat.add_zero 1)

/-! ## Tasks side by side -/

/-- A request that was received, what has happened about it and what is left to do. -/
structure Task where
  request : Bytes
  course : List Happening := []
  rest : Action (Option Bytes)

structure Service where
  shared : Shared
  tasks : List Task := []

inductive Move
  /-- A datagram comes in. -/
  | receive (datagram : Bytes)
  /-- The task with this number takes its next step. -/
  | advance (index : Nat) (around : Surroundings)
  /-- From now on this call on the cache fails, or none. -/
  | disturb (failing : Option CacheCall)

/-- The datagram that a move lets come in. -/
def Move.datagram? : Move → Option Bytes
  | receive datagram => some datagram
  | _ => none

namespace Service

/-- A listener that has done nothing yet. -/
def start (cache : Cache) : Service := { shared := { cache := cache } }

def move (options : Resolver.Options) (buffer : Nat) (service : Service) : Move → Service
  | .receive datagram =>
    { service with
      tasks := service.tasks ++
        [{ request := datagram.take buffer, rest := serve options buffer datagram }] }
  | .advance index around =>
    match service.tasks[index]? with
    | none => service
    | some task =>
      { shared := (task.rest.step around service.shared).2.1
        tasks := service.tasks.set index
          { task with
            course := task.course ++ (task.rest.happening around service.shared).toList
            rest := (task.rest.step around service.shared).1 } }
  | .disturb failing => { service with shared := { service.shared with failing := failing } }

def run (options : Resolver.Options) (buffer : Nat) (service : Service) (moves : List Move) :
    Service :=
  moves.foldl (move options buffer) service

/-- Nothing is left to do. -/
def Finished (service : Service) : Prop :=
  ∀ task ∈ service.tasks, ∃ result, task.rest = .done result

def requests (service : Service) : List Bytes := service.tasks.map Task.request

/-- What the courses of these tasks add up to. -/
def total (options : Resolver.Options) : List Task → Account
  | [] => {}
  | task :: tasks => (accountOf options task.request task.course).add (total options tasks)

/-- The task has come to a reply. -/
def replied (options : Resolver.Options) (task : Task) : Bool :=
  (accountOf options task.request task.course).replies != 0

variable {service : Service} {task : Task}

/-! ## What a run preserves -/

theorem total_append (tasks : List Task) (request : Bytes) (rest : Action (Option Bytes)) :
    total options (tasks ++ [{ request := request, rest := rest }]) = total options tasks := by
  induction tasks with
  | nil => rfl
  | cons task tasks ih => rw [List.cons_append, total, ih, total]

theorem total_set {tasks : List Task} {index : Nat} (htask : tasks[index]? = some task)
    (happened : List Happening) (rest : Action (Option Bytes)) :
    total options (tasks.set index { task with course := task.course ++ happened, rest := rest }) =
      (total options tasks).add (accountOf options task.request happened) := by
  induction tasks generalizing index with
  | nil => cases htask
  | cons first tasks ih =>
      cases index with
      | zero =>
          obtain rfl := Option.some.inj htask
          simp only [List.set_cons_zero, total, accountOf_append]
          exact Account.add_right_comm _ _ _
      | succ index =>
          rw [List.set_cons_succ, total, ih htask, total, Account.add_assoc]

/-- The course of a request balances. -/
def Balances (options : Resolver.Options) (request : Bytes) (course : List Happening) : Prop :=
  Settled options (accountOf options request course) 1 (isShort request).toNat
    (isKeyed request).toNat (accountOf options request course).replies

/-- The counters show what the courses so far add up to, and every course balances, however
it goes on. -/
structure Accounted (options : Resolver.Options) (service : Service) : Prop where
  counters : service.shared.metrics = (total options service.tasks).metrics
  courses : ∀ task ∈ service.tasks,
    task.rest.Courses fun course _ => Balances options task.request (task.course ++ course)

theorem start_accounted (cache : Cache) : Accounted options (start cache) :=
  ⟨rfl, fun _ htask => nomatch htask⟩

theorem receive_accounted (h : Accounted options service) (datagram : Bytes) :
    Accounted options (service.move options buffer (.receive datagram)) := by
  refine ⟨h.counters.trans (congrArg Account.metrics (total_append _ _ _).symm), ?_⟩
  intro task htask
  rcases List.mem_append.mp htask with htask | htask
  · exact h.courses task htask
  · rw [List.mem_singleton.mp htask]
    exact serve_courses options buffer datagram

theorem advance_accounted (h : Accounted options service) {index : Nat}
    (htask : service.tasks[index]? = some task) (around : Surroundings) :
    Accounted options (service.move options buffer (.advance index around)) := by
  simp only [move, htask]
  constructor
  · -- both sides change by what the step counts
    change (task.rest.step around service.shared).2.1.metrics = _
    rw [total_set htask, Action.metrics_step, h.counters]
    cases task.rest.happening around service.shared with
    | none => rfl
    | some happening =>
        simp only [Option.toList_some, accountOf, Account.add_empty, Happening.metrics_add]
        cases happening <;> rfl
  · intro other hother
    rcases List.mem_or_eq_of_mem_set hother with hother | rfl
    · exact h.courses other hother
    · have hstep := (h.courses task (List.mem_of_getElem? htask)).step around service.shared
      simpa only [List.append_assoc] using hstep

theorem move_accounted (h : Accounted options service) (move : Move) :
    Accounted options (service.move options buffer move) := by
  cases move with
  | receive datagram => exact receive_accounted h datagram
  | advance index around =>
      cases htask : service.tasks[index]? with
      | none => simpa only [Service.move, htask] using h
      | some task => exact advance_accounted h htask around
  | disturb failing => exact ⟨h.counters, h.courses⟩

theorem run_accounted (h : Accounted options service) (moves : List Move) :
    Accounted options (service.run options buffer moves) := by
  induction moves generalizing service with
  | nil => exact h
  | cons move moves ih => exact ih (move_accounted h move)

theorem requests_move (service : Service) (move : Move) :
    (service.move options buffer move).requests =
      service.requests ++ (move.datagram?.toList.map (·.take buffer)) := by
  cases move with
  | receive datagram => simp [Service.move, requests, Move.datagram?]
  | disturb failing => simp [Service.move, requests, Move.datagram?]
  | advance index around =>
      simp only [Service.move, Move.datagram?, Option.toList_none, List.map_nil, List.append_nil]
      split
      · rfl
      · rename_i task htask
        obtain ⟨hbound, rfl⟩ := List.getElem?_eq_some_iff.mp htask
        have hsame : (service.tasks.map Task.request).set index service.tasks[index].request =
            service.tasks.map Task.request := by
          rw [← List.getElem_map Task.request, List.set_getElem_self]
          simpa using hbound
        simpa only [requests, List.map_set] using hsame

theorem requests_run (service : Service) (moves : List Move) :
    (service.run options buffer moves).requests =
      service.requests ++ (moves.filterMap Move.datagram?).map (·.take buffer) := by
  induction moves generalizing service with
  | nil => simp [run]
  | cons move moves ih =>
      have hrest := ih (service.move options buffer move)
      rw [requests_move] at hrest
      refine hrest.trans ?_
      cases hdatagram : move.datagram? <;> simp [hdatagram]

/-! ## When all is done -/

theorem Accounted.balances (h : Accounted options service) (hfinished : service.Finished)
    (htask : task ∈ service.tasks) : Balances options task.request task.course := by
  have hcourses := h.courses task htask
  obtain ⟨result, hdone⟩ := hfinished task htask
  rw [hdone] at hcourses
  simpa [Action.Courses] using hcourses

theorem settled_total {tasks : List Task}
    (h : ∀ task ∈ tasks, Balances options task.request task.course) :
    Settled options (total options tasks) tasks.length
      ((tasks.map Task.request).countP isShort) ((tasks.map Task.request).countP isKeyed)
      (total options tasks).replies := by
  induction tasks with
  | nil => exact Resolver.Settled.empty
  | cons task tasks ih =>
      have hfirst : Settled _ _ _ _ _ _ := h task List.mem_cons_self
      have hsum := hfirst.add (ih fun other hother => h other (List.mem_cons_of_mem _ hother))
      have hcount : ∀ p : Bytes → Bool, ((task :: tasks).map Task.request).countP p =
          (p task.request).toNat + (tasks.map Task.request).countP p := by
        intro p
        cases hp : p task.request <;> simp [hp, Nat.add_comm]
      rw [hcount, hcount, List.length_cons, Nat.add_comm tasks.length 1]
      exact hsum

/-- A task comes to one reply at most. -/
theorem silent_add_replies {tasks : List Task}
    (h : ∀ task ∈ tasks, Balances options task.request task.course) :
    tasks.countP (fun task => !replied options task) + (total options tasks).replies =
      tasks.length := by
  induction tasks with
  | nil => rfl
  | cons task tasks ih =>
      have hrest := ih fun other hother => h other (List.mem_cons_of_mem _ hother)
      have hanswered := (h task List.mem_cons_self).answered
      have hsilent : (if (!replied options task) = true then 1 else 0) +
          (accountOf options task.request task.course).replies = 1 := by
        rcases Nat.eq_zero_or_pos (accountOf options task.request task.course).replies with
          hnone | hsome
        · simp [replied, hnone]
        · have hone : (accountOf options task.request task.course).replies = 1 := by omega
          simp [replied, hone]
      rw [List.countP_cons, List.length_cons, total, Account.add_replies]
      omega

/-- What the counters show and the accounts say about these requests. -/
structure Balanced (options : Resolver.Options) (requests : List Bytes) (service : Service)
    (account : Account) : Prop where
  received : service.shared.metrics.requestsReceived = .ofNat requests.length
  malformed : service.shared.metrics.malformedRequests = .ofNat (requests.countP isShort)
  looked : service.shared.metrics.cacheHits + service.shared.metrics.cacheMisses =
    .ofNat (requests.countP isKeyed)
  asked : .ofNat account.questions = service.shared.metrics.requestsReceived -
    service.shared.metrics.malformedRequests - service.shared.metrics.cacheHits
  failed : service.shared.metrics.remoteErrors = .ofNat account.faults
  refused : service.shared.metrics.refusalsSent =
    if options.refuseOnError then .ofNat (account.faults + account.stuck) else 0
  /-- So many requests are left without a reply. -/
  silent : service.tasks.countP (fun task => !replied options task) =
    requests.countP isShort + if options.refuseOnError then 0 else account.faults + account.stuck
  /-- All others have one reply each. -/
  answered : service.tasks.countP (fun task => !replied options task) + account.replies =
    requests.length
  fromCache : account.stuckHits = 0
  sent : service.shared.metrics.responsesSent = .ofNat account.replies - .ofNat account.lost

theorem balanced_of_settled {requests : List Bytes} {account : Account}
    (hcounters : service.shared.metrics = account.metrics)
    (hsettled : Settled options account requests.length (requests.countP isShort)
      (requests.countP isKeyed) account.replies)
    (hsilent : service.tasks.countP (fun task => !replied options task) + account.replies =
      requests.length) :
    Balanced options requests service account := by
  have hanswered := hsettled.answered
  rw [hsettled.malformed] at hanswered
  constructor
  · rw [hcounters]
    exact congrArg UInt64.ofNat hsettled.received
  · rw [hcounters]
    exact congrArg UInt64.ofNat hsettled.malformed
  · rw [hcounters, ← hsettled.looked]
    exact (UInt64.ofNat_add _ _).symm
  · rw [hcounters]
    change _ = UInt64.ofNat account.received - .ofNat account.malformed - .ofNat account.hits
    have hreceived : account.received = account.questions + account.hits + account.malformed := by
      rw [← hsettled.asked, Nat.add_right_comm]
    rw [hreceived, UInt64.ofNat_add, UInt64.ofNat_add, UInt64.add_sub_cancel,
      UInt64.add_sub_cancel]
  · rw [hcounters]
    exact congrArg UInt64.ofNat hsettled.failed
  · rw [hcounters]
    change UInt64.ofNat account.refusals = _
    rw [hsettled.refused]
    split <;> rfl
  · omega
  · exact hsilent
  · exact hsettled.fromCache
  · rw [hcounters, ← hsettled.sent, UInt64.ofNat_add, UInt64.add_sub_cancel]
    rfl

/-- **The counters balance.**  Whatever the cache holds at the beginning, whatever the remote
server and the socket do and however the steps of the tasks follow each other: when all tasks
are finished, the counters agree, modulo 2^64, with the datagrams that came in and with what
happened about them. -/
theorem counters_balance (options : Resolver.Options) (buffer : Nat) (cache : Cache)
    (moves : List Move) (hfinished : (Service.run options buffer (start cache) moves).Finished) :
    Balanced options ((moves.filterMap Move.datagram?).map (·.take buffer))
      (Service.run options buffer (start cache) moves)
      (total options (Service.run options buffer (start cache) moves).tasks) := by
  have haccounted := @run_accounted options buffer _ (start_accounted cache) moves
  have hbalances := fun task htask => @Accounted.balances options _ task haccounted
    hfinished htask
  have hrequests : (Service.run options buffer (start cache) moves).tasks.map Task.request =
      (moves.filterMap Move.datagram?).map (·.take buffer) :=
    (requests_run (start cache) moves).trans (List.nil_append _)
  have hlength : (Service.run options buffer (start cache) moves).tasks.length =
      ((moves.filterMap Move.datagram?).map (·.take buffer)).length := by
    rw [← hrequests, List.length_map]
  have hsettled := settled_total hbalances
  have hsilent := silent_add_replies hbalances
  rw [hrequests, hlength] at hsettled
  rw [hlength] at hsilent
  exact balanced_of_settled haccounted.counters hsettled hsilent

/-! ## Four datagrams -/

/-- What is done about a datagram that has a key. -/
theorem serve_of_keyed {datagram : Bytes} {query : Message} {key : String}
    (hlong : datagram.length ≤ buffer) (hquery : Message.decode? datagram = some query)
    (hkey : Cache.requestKey? query = some key) :
    serve options buffer datagram = .count .received (.lookup key fun found =>
      (Resolver.afterLookup options datagram query key found).bind answer) := by
  rw [serve, List.take_of_length_le hlong, Resolver.handle_of_keyed hquery hkey]
  rfl

open Resolver (strangeRequest wideOptions typeRequest typeResponse typeQuery afterLookup answering)

/-- The key of a request for the address of `a.`. -/
def addressText : String := "aufloes:q:a.:A:IN:edns=0:do=0:cd=0"

theorem serve_address :
    serve wideOptions 512 (typeRequest 1 1) = .count .received (.lookup addressText fun found =>
      (afterLookup wideOptions (typeRequest 1 1) (typeQuery 1 1) addressText found).bind answer) :=
  serve_of_keyed (by decide) (by cbv) (by decide +kernel)

theorem serve_addressAgain :
    serve wideOptions 512 (typeRequest 2 1) = .count .received (.lookup addressText fun found =>
      (afterLookup wideOptions (typeRequest 2 1) (typeQuery 2 1) addressText found).bind answer) :=
  serve_of_keyed (by decide) (by cbv) (by decide +kernel)

/-- The tasks overlap: a request that fails and is refused, a datagram that is too short, a
request whose response is kept and whose reply is lost, and one that is answered from the cache. -/
def fourMoves : List Move :=
  let failing : Surroundings := { now := 0, remote := fun _ => .error .undecodable }
  let losing : Surroundings := { answering (typeResponse 1 1) with sends := fun _ => false }
  [.receive strangeRequest, .advance 0 failing, .receive [1], .receive (typeRequest 1 1),
    .advance 0 failing, .advance 1 failing, .advance 2 losing, .advance 2 losing,
    .advance 2 losing, .advance 1 failing, .advance 2 losing, .advance 2 losing,
    .receive (typeRequest 2 1), .advance 2 losing, .advance 3 failing, .advance 3 failing,
    .advance 0 failing, .advance 3 failing, .advance 0 failing, .advance 0 failing,
    .advance 0 failing, .advance 3 failing, .advance 3 failing]

theorem tasks_fourMoves :
    (Service.run wideOptions 512 (start .emptyMemory) fourMoves).tasks =
      [{ request := strangeRequest
         course := [.counted .received, .asked strangeRequest (.error .undecodable),
          .counted .remoteError, .counted .refusal,
          .sent [7, 9, 248, 130, 0, 0, 0, 0, 0, 0, 0, 0] true, .counted .sent]
         rest := .done (some [7, 9, 248, 130, 0, 0, 0, 0, 0, 0, 0, 0]) },
        { request := [1]
          course := [.counted .received, .counted .malformed]
          rest := .done none },
        { request := typeRequest 1 1
          course := [.counted .received, .looked addressText (.ok none), .counted .cacheMiss,
            .asked (typeRequest 1 1) (.ok (typeResponse 1 1)),
            .kept addressText (typeResponse 1 1) (seconds 300), .sent (typeResponse 1 1) false]
          rest := .done none },
        { request := typeRequest 2 1
          course := [.counted .received,
            .looked addressText (.ok (some ⟨typeResponse 1 1, 0⟩)), .counted .cacheHit,
            .sent (typeResponse 2 1) true, .counted .sent]
          rest := .done (some (typeResponse 2 1)) }] := by
  simp only [fourMoves, run, List.foldl_cons, List.foldl_nil, move, serve_address,
    serve_addressAgain]
  cbv

/-- Two questions, one of them in vain, a hit and a miss, and three replies, one of them lost. -/
theorem counters_balance_four :
    let service := Service.run wideOptions 512 (start .emptyMemory) fourMoves
    service.Finished ∧
      total wideOptions service.tasks =
        { received := 4, malformed := 1, hits := 1, misses := 1, remoteErrors := 1, refusals := 1
          sent := 2, questions := 2, faults := 1, replies := 3, lost := 1 } ∧
      Balanced wideOptions [strangeRequest, [1], typeRequest 1 1, typeRequest 2 1] service
        (total wideOptions service.tasks) := by
  have hfinished : (Service.run wideOptions 512 (start .emptyMemory) fourMoves).Finished := by
    rw [Finished, tasks_fourMoves]
    simp
  refine ⟨hfinished, ?_, counters_balance wideOptions 512 .emptyMemory fourMoves hfinished⟩
  rw [tasks_fourMoves]
  cbv

end Service

end Listener

end DnsForwarder
