import DnsForwarder.Proofs.Resolver.Paths

/-!
# The course of a request

A `Happening` is what one step of an action does, together with its outcome, and the course
of a request is the list of all that happens from its arrival to its end.  Unlike the
`Event`s of a run it leaves nothing out: counting and sending are happenings too, and a
lookup or a question to the remote server says what came back.

`Action.Courses` says that every course of an action, whatever the outcomes of its steps,
satisfies a goal together with the result it ends in.  A step leaves an action whose courses
are the rest of the old ones (`Courses.step`), so what holds of all courses when a request
comes in still holds of what has happened and what is to come at any later time, however the
steps of other requests lie in between.

`handle_courses` lists the courses of a request.  The four inductive predicates follow
`refuse`, `fit`, `forward` and `handle`; each of their constructors is one way through the
function, with the conditions under which it is taken.
-/

namespace DnsForwarder

/-- What one step did, with its outcome. -/
inductive Happening
  | counted (counter : Counter)
  | looked (key : String) (found : Except Fault (Option Hit))
  | forgot (key : String)
  | kept (key : String) (data : Bytes) (lifetime : Duration)
  | asked (query : Bytes) (answer : Except Fault Bytes)
  | sent (reply : Bytes) (left : Bool)

namespace Action

variable {Result Other : Type}

/-- What the next step does. -/
def happening (around : Surroundings) (shared : Shared) : Action Result → Option Happening
  | done _ => none
  | count counter _ => some (.counted counter)
  | lookup key _ => some (.looked key (shared.lookup around.now key))
  | forget key _ => some (.forgot key)
  | keep key data lifetime _ => some (.kept key data lifetime)
  | ask query _ => some (.asked query (around.remote query))
  | send reply _ => some (.sent reply (around.sends reply))

/-- Every course of the action satisfies `goal`, together with the result in which it
ends. -/
def Courses : Action Result → (List Happening → Result → Prop) → Prop
  | done result, goal => goal [] result
  | count counter next, goal => next.Courses fun course => goal (.counted counter :: course)
  | lookup key next, goal =>
    ∀ found, (next found).Courses fun course => goal (.looked key found :: course)
  | forget key next, goal => next.Courses fun course => goal (.forgot key :: course)
  | keep key data lifetime next, goal =>
    next.Courses fun course => goal (.kept key data lifetime :: course)
  | ask query next, goal =>
    ∀ answer, (next answer).Courses fun course => goal (.asked query answer :: course)
  | send reply next, goal =>
    ∀ left, (next left).Courses fun course => goal (.sent reply left :: course)

theorem Courses.mono {action : Action Result} {goal weaker : List Happening → Result → Prop}
    (h : action.Courses goal) (hweaker : ∀ course result, goal course result →
      weaker course result) : action.Courses weaker := by
  induction action generalizing goal weaker with
  | done result => exact hweaker _ _ h
  | count counter next ih => exact ih h fun _ => hweaker _
  | lookup key next ih => exact fun found => ih found (h found) fun _ => hweaker _
  | forget key next ih => exact ih h fun _ => hweaker _
  | keep key data lifetime next ih => exact ih h fun _ => hweaker _
  | ask query next ih => exact fun answer => ih answer (h answer) fun _ => hweaker _
  | send reply next ih => exact fun left => ih left (h left) fun _ => hweaker _

/-- After a step the rest of the course is to come. -/
theorem Courses.step {action : Action Result} {goal : List Happening → Result → Prop}
    (h : action.Courses goal) (around : Surroundings) (shared : Shared) :
    (action.step around shared).1.Courses fun course =>
      goal ((action.happening around shared).toList ++ course) := by
  cases action with
  | done result => exact h
  | count counter next => exact h
  | lookup key next => exact h _
  | forget key next => exact h
  | keep key data lifetime next => exact h
  | ask query next => exact h _
  | send reply next => exact h _

/-- What comes after an action continues its courses. -/
theorem Courses.bind {action : Action Result} {next : Result → Action Other}
    {goal : List Happening → Other → Prop}
    (h : action.Courses fun course result =>
      (next result).Courses fun rest => goal (course ++ rest)) :
    (action.bind next).Courses goal := by
  induction action generalizing goal with
  | done result => exact h
  | count counter rest ih => exact ih h
  | lookup key rest ih => exact fun found => ih found (h found)
  | forget key rest ih => exact ih h
  | keep key data lifetime rest ih => exact ih h
  | ask query rest ih => exact fun answer => ih answer (h answer)
  | send reply rest ih => exact fun left => ih left (h left)

/-- A step counts what it says, and nothing else. -/
theorem metrics_step (action : Action Result) (around : Surroundings) (shared : Shared) :
    (action.step around shared).2.1.metrics =
      match action.happening around shared with
      | some (.counted counter) => shared.metrics.count counter
      | _ => shared.metrics := by
  cases action with
  | forget key next =>
      change (shared.forget key).metrics = shared.metrics
      unfold Shared.forget
      split <;> rfl
  | keep key data lifetime next =>
      change (shared.keep around.now key data lifetime).metrics = shared.metrics
      unfold Shared.keep
      split <;> rfl
  | _ => rfl

end Action

namespace Resolver

variable {options : Options} {request : Bytes}

/-! ## The ways through a request -/

/-- The request is refused, or left without a reply. -/
inductive RefusalCourse (options : Options) (request : Bytes) :
    List Happening → Option Bytes → Prop
  | silent (hoff : options.refuseOnError = false) : RefusalCourse options request [] none
  | refused {reply : Bytes} (hon : options.refuseOnError = true)
      (hreply : Datagram.refusal request = .ok reply) :
      RefusalCourse options request [.counted .refusal] (some reply)

/-- The response is too large for the sender of `query` and cannot be shortened. -/
def stuck (options : Options) (query : Option Message) (response : Bytes) : Bool :=
  query.any fun asked =>
    decide (replyLimit options asked < response.length) &&
      !(Message.truncateFor (replyLimit options asked) response).isOk

/-- The response is sent whole, or shortened, or the request is refused instead. -/
inductive FitCourse (options : Options) (request : Bytes) (query : Option Message)
    (response : Bytes) : List Happening → Option Bytes → Prop
  | whole (hfits : ∀ asked ∈ query, response.length ≤ replyLimit options asked) :
      FitCourse options request query response [] (some response)
  | shortened {asked : Message} {reply : Bytes} (hquery : query = some asked)
      (hlong : replyLimit options asked < response.length)
      (hreply : Message.truncateFor (replyLimit options asked) response = .ok reply) :
      FitCourse options request query response [.counted .truncated] (some reply)
  | refused {course : List Happening} {result : Option Bytes}
      (hstuck : stuck options query response = true)
      (hrefused : RefusalCourse options request course result) :
      FitCourse options request query response course result

/-- The remote server is asked; if the answer is accepted, the response is kept, if it may
be, and fitted. -/
inductive ForwardCourse (options : Options) (request : Bytes) (query : Option Message)
    (key : Option String) : List Happening → Option Bytes → Prop
  | failed {answer : Except Fault Bytes} {course : List Happening} {result : Option Bytes}
      (hfault : ∀ response, acceptAnswer request answer ≠ .ok response)
      (hrefused : RefusalCourse options request course result) :
      ForwardCourse options request query key
        (.asked request answer :: .counted .remoteError :: course) result
  | passed {answer : Except Fault Bytes} {response : Bytes} {course : List Happening}
      {result : Option Bytes} (haccepted : acceptAnswer request answer = .ok response)
      (hfit : FitCourse options request query response course result) :
      ForwardCourse options request query key (.asked request answer :: course) result
  | kept {answer : Except Fault Bytes} {response : Bytes} {name : String} {lifetime : Duration}
      {course : List Happening} {result : Option Bytes}
      (haccepted : acceptAnswer request answer = .ok response) (hkey : key = some name)
      (hlasting : (Message.decode? response).bind (Message.lifetime? options.lifetimes) =
        some lifetime)
      (hfit : FitCourse options request query response course result) :
      ForwardCourse options request query key
        (.asked request answer :: .kept name response lifetime :: course) result

/-- The request is dropped, forwarded, answered from the cache, or forwarded after a lookup
that did not help. -/
inductive HandleCourse (options : Options) (request : Bytes) :
    List Happening → Option Bytes → Prop
  | short (hshort : request.length < Datagram.headerLength) :
      HandleCourse options request [.counted .received, .counted .malformed] none
  | unkeyed {course : List Happening} {result : Option Bytes}
      (hlong : Datagram.headerLength ≤ request.length)
      (hkey : (Message.decode? request).bind Cache.requestKey? = none)
      (hforward : ForwardCourse options request (Message.decode? request) none course result) :
      HandleCourse options request (.counted .received :: course) result
  | hit {query : Message} {key : String} {hit : Hit} {response : Bytes}
      {course : List Happening} {result : Option Bytes}
      (hquery : Message.decode? request = some query) (hkey : Cache.requestKey? query = some key)
      (hage : Message.age hit.data hit.age query = .ok response)
      (hfit : FitCourse options request (some query) response course result) :
      HandleCourse options request
        (.counted .received :: .looked key (.ok (some hit)) :: .counted .cacheHit :: course) result
  | miss {query : Message} {key : String} {found : Except Fault (Option Hit)}
      {course : List Happening} {result : Option Bytes}
      (hquery : Message.decode? request = some query) (hkey : Cache.requestKey? query = some key)
      (hnot : ∀ hit, found ≠ .ok (some hit))
      (hforward : ForwardCourse options request (some query) (some key) course result) :
      HandleCourse options request
        (.counted .received :: .looked key found :: .counted .cacheMiss :: course) result
  | unusable {query : Message} {key : String} {hit : Hit} {course : List Happening}
      {result : Option Bytes}
      (hquery : Message.decode? request = some query) (hkey : Cache.requestKey? query = some key)
      (hage : ∀ response, Message.age hit.data hit.age query ≠ .ok response)
      (hforward : ForwardCourse options request (some query) (some key) course result) :
      HandleCourse options request
        (.counted .received :: .looked key (.ok (some hit)) :: .forgot key ::
          .counted .cacheMiss :: course) result

/-! ## There are no other ways -/

/-- What is as long as a header can be refused. -/
theorem exists_refusal (hlong : Datagram.headerLength ≤ request.length) :
    ∃ reply, Datagram.refusal request = .ok reply := by
  match request with
  | [] | [_] | [_, _] => simp [Datagram.headerLength] at hlong
  | hi :: lo :: flags :: rest => exact ⟨_, if_neg (Nat.not_lt.mpr hlong)⟩

theorem stuck_eq_true_iff {query : Option Message} {response : Bytes} :
    stuck options query response = true ↔ ∃ asked, query = some asked ∧
      replyLimit options asked < response.length ∧
      ∀ reply, Message.truncateFor (replyLimit options asked) response ≠ .ok reply := by
  have hfails : ∀ outcome : Except Fault Bytes,
      (!outcome.isOk) = true ↔ ∀ reply, outcome ≠ .ok reply := by
    intro outcome
    cases outcome <;> simp [Except.isOk, Except.toBool]
  rw [stuck, Option.any_eq_true]
  simp only [Bool.and_eq_true, decide_eq_true_eq, hfails]

theorem refuse_courses (hlong : Datagram.headerLength ≤ request.length) :
    (refuse options request).Courses (RefusalCourse options request) := by
  obtain ⟨reply, hreply⟩ := exists_refusal hlong
  unfold refuse
  split
  · rename_i hon
    rw [hreply]
    exact .refused hon hreply
  · rename_i hoff
    exact .silent (Bool.eq_false_iff.mpr hoff)

theorem fit_courses (hlong : Datagram.headerLength ≤ request.length) (query : Option Message)
    (response : Bytes) :
    (fit options request query response).Courses (FitCourse options request query response) := by
  rcases fit_cases options request query response with
    ⟨hfits, h⟩ | ⟨asked, hquery, hlarge, ⟨reply, hreply, h⟩ | ⟨hnot, h⟩⟩
  · rw [h]
    exact .whole hfits
  · rw [h]
    exact .shortened hquery hlarge hreply
  · have hstuck := stuck_eq_true_iff.mpr ⟨asked, hquery, hlarge, hnot⟩
    rw [h]
    exact (refuse_courses hlong).mono fun _ _ hrefused => .refused hstuck hrefused

theorem forward_courses (hlong : Datagram.headerLength ≤ request.length)
    (query : Option Message) (key : Option String) :
    (forward options request query key).Courses (ForwardCourse options request query key) := by
  intro answer
  dsimp only
  split
  · rename_i fault hfault
    change (refuse options request).Courses fun course => ForwardCourse options request query key
      (.asked request answer :: .counted .remoteError :: course)
    have hnot : ∀ response, acceptAnswer request answer ≠ .ok response := by simp [hfault]
    exact (refuse_courses hlong).mono fun _ _ hrefused => .failed hnot hrefused
  · rename_i response haccepted
    have hfit := @fit_courses options request hlong query response
    rcases keepResponse_cases options key response (fit options request query response) with
      h | ⟨name, lifetime, hkey, hlasting, h⟩
    · rw [h]
      exact hfit.mono fun _ _ hfit => .passed haccepted hfit
    · rw [h]
      change (fit options request query response).Courses fun course =>
        ForwardCourse options request query key
          (.asked request answer :: .kept name response lifetime :: course)
      exact hfit.mono fun _ _ hfit => .kept haccepted hkey hlasting hfit

theorem handle_courses (options : Options) (request : Bytes) :
    (handle options request).Courses (HandleCourse options request) := by
  by_cases hshort : request.length < Datagram.headerLength
  · rw [handle_of_short hshort]
    exact .short hshort
  have hlong := Nat.not_lt.mp hshort
  cases hkeyed : (Message.decode? request).bind Cache.requestKey? with
  | none =>
      rw [handle_of_keyless hlong hkeyed]
      change (forward options request (Message.decode? request) none).Courses fun course =>
        HandleCourse options request (.counted .received :: course)
      exact (forward_courses hlong _ none).mono fun _ _ hforward =>
        .unkeyed hlong hkeyed hforward
  | some key =>
      obtain ⟨query, hquery, hkey⟩ := Option.bind_eq_some_iff.mp hkeyed
      have hforward := @forward_courses options request hlong (some query) (some key)
      rw [handle_of_keyed hquery hkey]
      intro found
      by_cases hfound : ∃ hit, found = .ok (some hit)
      · obtain ⟨hit, rfl⟩ := hfound
        cases hage : Message.age hit.data hit.age query with
        | ok response =>
            simp only [afterLookup, hage]
            change (fit options request (some query) response).Courses fun course =>
              HandleCourse options request (.counted .received ::
                .looked key (.ok (some hit)) :: .counted .cacheHit :: course)
            exact (fit_courses hlong (some query) response).mono fun _ _ hfit =>
              .hit hquery hkey hage hfit
        | error fault =>
            have hnot : ∀ response, Message.age hit.data hit.age query ≠ .ok response := by
              simp [hage]
            simp only [afterLookup, hage]
            change (forward options request (some query) (some key)).Courses fun course =>
              HandleCourse options request (.counted .received ::
                .looked key (.ok (some hit)) :: .forgot key :: .counted .cacheMiss :: course)
            exact hforward.mono fun _ _ hforward => .unusable hquery hkey hnot hforward
      · have hnot := not_exists.mp hfound
        rw [afterLookup_of_not_hit hnot]
        change (forward options request (some query) (some key)).Courses fun course =>
          HandleCourse options request
            (.counted .received :: .looked key found :: .counted .cacheMiss :: course)
        exact hforward.mono fun _ _ hforward => .miss hquery hkey hnot hforward

end Resolver

end DnsForwarder
