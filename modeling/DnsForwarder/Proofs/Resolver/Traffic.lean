import DnsForwarder.Resolver.Handle

/-!
# Requests handled side by side

`Traffic` is what a resolver looks like from outside while it works: the requests
that came in, what is left to do about each of them, what they share, and what
the remote server has answered so far.  A move lets a request come in or lets one
of them take its next step; every step has surroundings of its own, so the clock
may read anything and the remote server may answer anything, at any time.

Two things are said of an action once and for all outcomes of its steps: which
results it may end in (`Action.EndsIn`) and which responses it may keep
(`Action.KeepsOnly`).  A step preserves both, so what holds of `handle` when a
request comes in holds of what is left of it after any moves.  An action that only
counts (`Action.Quiet`) keeps nothing.

`step_stored` is the only place where an entry comes into the cache.
-/

namespace DnsForwarder

/-! ## What an action may do, whatever the outcomes -/

namespace Action

variable {Result : Type}

/-- Every result that the action can end in satisfies `goal`. -/
def EndsIn (goal : Result → Prop) : Action Result → Prop
  | done result => goal result
  | count _ next => next.EndsIn goal
  | lookup _ next => ∀ found, (next found).EndsIn goal
  | forget _ next => next.EndsIn goal
  | keep _ _ _ next => next.EndsIn goal
  | ask _ next => ∀ answer, (next answer).EndsIn goal
  | send _ next => ∀ sent, (next sent).EndsIn goal

/-- Every response that the action can keep satisfies `rule`, which may refer to
the responses heard before, the latest first. -/
def KeepsOnly (rule : List Bytes → String → Bytes → Duration → Prop) (heard : List Bytes) :
    Action Result → Prop
  | done _ => True
  | count _ next => next.KeepsOnly rule heard
  | lookup _ next => ∀ found, (next found).KeepsOnly rule heard
  | forget _ next => next.KeepsOnly rule heard
  | keep key data lifetime next => rule heard key data lifetime ∧ next.KeepsOnly rule heard
  | ask _ next =>
    (∀ response, (next (.ok response)).KeepsOnly rule (response :: heard)) ∧
      ∀ fault, (next (.error fault)).KeepsOnly rule heard
  | send _ next => ∀ sent, (next sent).KeepsOnly rule heard

/-- The action does nothing but count. -/
def Quiet : Action Result → Prop
  | done _ => True
  | count _ next => next.Quiet
  | lookup _ _ => False
  | forget _ _ => False
  | keep _ _ _ _ => False
  | ask _ _ => False
  | send _ _ => False

/-- The response that the next step hears. -/
def hears (around : Surroundings) : Action Result → Option Bytes
  | ask query _ => (around.remote query).toOption
  | _ => none

theorem remote_of_hears {around : Surroundings} {action : Action Result} {response : Bytes}
    (h : action.hears around = some response) : ∃ query, around.remote query = .ok response := by
  cases action with
  | ask query next =>
      refine ⟨query, ?_⟩
      rw [hears] at h
      cases hanswer : around.remote query with
      | error fault =>
          rw [hanswer] at h
          cases h
      | ok given =>
          rw [hanswer] at h
          cases h
          rfl
  | _ => cases h

theorem EndsIn.step {goal : Result → Prop} {action : Action Result} (h : action.EndsIn goal)
    (around : Surroundings) (shared : Shared) : (action.step around shared).1.EndsIn goal := by
  cases action with
  | done result => exact h
  | count counter next => exact h
  | lookup key next => exact h _
  | forget key next => exact h
  | keep key data lifetime next => exact h
  | ask query next => exact h _
  | send reply next => exact h _

theorem KeepsOnly.step {rule : List Bytes → String → Bytes → Duration → Prop}
    {heard : List Bytes} {action : Action Result} (h : action.KeepsOnly rule heard)
    (around : Surroundings) (shared : Shared) :
    (action.step around shared).1.KeepsOnly rule ((action.hears around).toList ++ heard) := by
  cases action with
  | done result => exact h
  | count counter next => exact h
  | lookup key next => exact h _
  | forget key next => exact h
  | keep key data lifetime next => exact h.2
  | ask query next =>
      simp only [Action.step, hears]
      cases around.remote query with
      | ok response => exact h.1 response
      | error fault => exact h.2 fault
  | send reply next => exact h _

theorem Quiet.keepsOnly {action : Action Result} (h : action.Quiet)
    (rule : List Bytes → String → Bytes → Duration → Prop) (heard : List Bytes) :
    action.KeepsOnly rule heard := by
  induction action with
  | done result => trivial
  | count counter next ih => exact ih h
  | _ => exact h.elim

theorem Quiet.cache_run {action : Action Result} (h : action.Quiet) (around : Surroundings)
    (shared : Shared) : (action.run around shared).2.1.cache = shared.cache := by
  induction action generalizing shared with
  | done result => rfl
  | count counter next ih => exact ih h (shared.count counter)
  | _ => exact h.elim

/-- Others see nothing of it. -/
theorem Quiet.events_run {action : Action Result} (h : action.Quiet) (around : Surroundings)
    (shared : Shared) : (action.run around shared).2.2 = [] := by
  induction action generalizing shared with
  | done result => rfl
  | count counter next ih => exact ih h (shared.count counter)
  | _ => exact h.elim

/-- An entry that is in the cache after a step was there before, or the step has
just put it there. -/
theorem step_stored {action : Action Result} {around : Surroundings} {shared : Shared}
    {key : String} {entry : Entry}
    (h : (action.step around shared).2.1.cache.stored? key = some entry) :
    shared.cache.stored? key = some entry ∨
      ∃ next, action = .keep key entry.data entry.lifetime next ∧
        entry.storedAt = around.now := by
  cases action with
  | done result => exact Or.inl h
  | count counter next => exact Or.inl h
  | lookup asked next => exact Or.inl h
  | forget gone next =>
      left
      simp only [Action.step, Shared.forget] at h
      split at h
      · exact h
      · rw [Cache.stored?_remove] at h
        split at h
        · cases h
        · exact h
  | keep name data lifetime next =>
      simp only [Action.step, Shared.keep] at h
      split at h
      · exact Or.inl h
      · cases hcache : shared.cache with
        | disabled =>
            rw [hcache] at h
            cases h
        | memory entries =>
            rw [hcache, Cache.stored?_insert] at h
            split at h
            · rename_i hkey
              cases h
              exact Or.inr ⟨next, by rw [hkey], rfl⟩
            · exact Or.inl h
  | ask query next => exact Or.inl h
  | send reply next => exact Or.inl h

/-- Taking all steps is taking one and then all others. -/
theorem run_step (action : Action Result) (around : Surroundings) (shared : Shared) :
    (action.run around shared).1 =
        ((action.step around shared).1.run around (action.step around shared).2.1).1 ∧
      (action.run around shared).2.1 =
        ((action.step around shared).1.run around (action.step around shared).2.1).2.1 := by
  cases action <;> exact ⟨rfl, rfl⟩

end Action

namespace Resolver

/-! ## Traffic -/

/-- A request that came in, with what is left to do about it. -/
structure Call where
  request : Bytes
  rest : Action (Option Bytes)

/-- A response of the remote server to a request. -/
structure Answer where
  request : Bytes
  response : Bytes

structure Traffic where
  shared : Shared
  calls : List Call := []
  /-- What the remote server has answered so far, the latest answer first. -/
  answers : List Answer := []

inductive Move
  /-- A request comes in. -/
  | arrive (request : Bytes)
  /-- The call with this number takes its next step. -/
  | advance (index : Nat) (around : Surroundings)

namespace Traffic

/-- The requests that came in, in their order. -/
def requests (traffic : Traffic) : List Bytes := traffic.calls.map Call.request

/-- A resolver that has done nothing yet, with an empty cache in memory. -/
def start : Traffic := { shared := { cache := .emptyMemory } }

def move (options : Options) (traffic : Traffic) : Move → Traffic
  | .arrive request =>
    { traffic with calls := traffic.calls ++ [⟨request, handle options request⟩] }
  | .advance index around =>
    match traffic.calls[index]? with
    | none => traffic
    | some call =>
      { shared := (call.rest.step around traffic.shared).2.1
        calls :=
          traffic.calls.set index { call with rest := (call.rest.step around traffic.shared).1 }
        answers := (call.rest.hears around).toList.map (Answer.mk call.request) ++ traffic.answers }

def run (options : Options) (traffic : Traffic) (moves : List Move) : Traffic :=
  moves.foldl (move options) traffic

variable {options : Options} {traffic : Traffic}

theorem move_advance {index : Nat} {call : Call} (hcall : traffic.calls[index]? = some call)
    (around : Surroundings) :
    traffic.move options (.advance index around) =
      { shared := (call.rest.step around traffic.shared).2.1
        calls :=
          traffic.calls.set index { call with rest := (call.rest.step around traffic.shared).1 }
        answers := (call.rest.hears around).toList.map (Answer.mk call.request) ++
          traffic.answers } := by
  simp only [move, hcall]

theorem requests_advance (index : Nat) (around : Surroundings) :
    (traffic.move options (.advance index around)).requests = traffic.requests := by
  cases hcall : traffic.calls[index]? with
  | none => simp only [move, hcall]
  | some call =>
      rw [move_advance hcall]
      refine List.ext_getElem? fun place => ?_
      simp only [requests, List.getElem?_map, List.getElem?_set]
      split
      · rename_i hplace
        subst hplace
        split <;> simp_all
      · rfl

/-- What every move preserves, every run preserves. -/
theorem run_induction {motive : Traffic → Prop} (hstart : motive traffic)
    (hmove : ∀ traffic move, motive traffic → motive (Traffic.move options traffic move))
    (moves : List Move) : motive (traffic.run options moves) := by
  induction moves generalizing traffic with
  | nil => exact hstart
  | cons move moves ih => exact ih (hmove traffic move hstart)

/-- What holds of a request that comes in and is preserved by the steps taken for
it holds of every call. -/
theorem forall_calls_run {motive : Bytes → Action (Option Bytes) → Prop}
    (hquiet : traffic.calls = [])
    (harrive : ∀ request, motive request (handle options request))
    (hstep : ∀ request rest around shared, motive request rest →
      motive request (rest.step around shared).1)
    (moves : List Move) :
    ∀ call ∈ (traffic.run options moves).calls, motive call.request call.rest := by
  refine run_induction (motive := fun traffic => ∀ call ∈ traffic.calls,
    motive call.request call.rest) (by simp [hquiet]) ?_ moves
  intro traffic move hcalls
  cases move with
  | arrive request =>
      intro call hcall
      rcases List.mem_append.mp hcall with hcall | hcall
      · exact hcalls call hcall
      · rw [List.mem_singleton.mp hcall]
        exact harrive request
  | advance index around =>
      simp only [Traffic.move]
      split
      · exact hcalls
      · rename_i moved hmoved
        intro call hcall
        rcases List.mem_or_eq_of_mem_set hcall with hcall | rfl
        · exact hcalls call hcall
        · exact hstep _ _ _ _ (hcalls moved (List.mem_of_getElem? hmoved))

/-! ## One request at a time -/

/-- The call can be brought to its end by its own steps. -/
private def Finishes (options : Options) (around : Surroundings) (index : Nat)
    (request : Bytes) (rest : Action (Option Bytes)) : Prop :=
  ∀ traffic : Traffic, traffic.calls[index]? = some ⟨request, rest⟩ →
    ∃ moves, (∀ move ∈ moves, move = .advance index around) ∧
      (traffic.run options moves).shared = (rest.run around traffic.shared).2.1 ∧
      (traffic.run options moves).calls =
        traffic.calls.set index ⟨request, .done (rest.run around traffic.shared).1⟩ ∧
      ∀ answer ∈ (traffic.run options moves).answers, answer ∈ traffic.answers ∨
        answer.request = request ∧ ∃ query, around.remote query = .ok answer.response

private theorem finishes_of_step {around : Surroundings} {index : Nat} {request : Bytes}
    {rest : Action (Option Bytes)}
    (h : ∀ shared, Finishes options around index request (rest.step around shared).1) :
    Finishes options around index request rest := by
  intro traffic hcall
  have hmove := @move_advance options traffic index _ hcall around
  have hplace : index < traffic.calls.length := (List.getElem?_eq_some_iff.mp hcall).1
  obtain ⟨moves, hown, hshared, hend, hanswers⟩ := h traffic.shared
    (traffic.move options (.advance index around)) (by
      rw [hmove]
      exact List.getElem?_set_self hplace)
  obtain ⟨hresult, hafter⟩ := rest.run_step around traffic.shared
  refine ⟨.advance index around :: moves, ?_, ?_, ?_, fun answer hanswer => ?_⟩
  · exact List.forall_mem_cons.mpr ⟨rfl, hown⟩
  · rw [hafter]
    simpa [run, hmove] using hshared
  · rw [hresult]
    simpa [run, hmove] using hend
  · rcases hanswers answer hanswer with hold | hnew
    · rw [hmove] at hold
      rcases List.mem_append.mp hold with hheard | hold
      · obtain ⟨response, hresponse, rfl⟩ := List.mem_map.mp hheard
        obtain ⟨query, hquery⟩ := Action.remote_of_hears (Option.mem_toList.mp hresponse)
        exact Or.inr ⟨rfl, query, hquery⟩
      · exact Or.inl hold
    · exact Or.inr hnew

private theorem finishes (options : Options) (around : Surroundings) (index : Nat)
    (request : Bytes) (rest : Action (Option Bytes)) :
    Finishes options around index request rest := by
  induction rest with
  | done result =>
      intro traffic hcall
      obtain ⟨hplace, hdone⟩ := List.getElem?_eq_some_iff.mp hcall
      refine ⟨[], by simp, rfl, ?_, fun _ hanswer => Or.inl hanswer⟩
      exact (hdone ▸ List.set_getElem_self hplace).symm
  | count counter next ih => exact finishes_of_step fun shared => ih
  | lookup key next ih => exact finishes_of_step fun shared => ih _
  | forget key next ih => exact finishes_of_step fun shared => ih
  | keep key data lifetime next ih => exact finishes_of_step fun shared => ih
  | ask query next ih => exact finishes_of_step fun shared => ih _
  | send reply next ih => exact finishes_of_step fun shared => ih _

/-- Whatever else is going on, a call ends if it takes its steps. -/
theorem exists_moves_finish (options : Options) (around : Surroundings) {index : Nat}
    {request : Bytes} {rest : Action (Option Bytes)}
    (hcall : traffic.calls[index]? = some ⟨request, rest⟩) :
    ∃ moves, (∀ move ∈ moves, move = .advance index around) ∧ ∃ result,
      (traffic.run options moves).calls = traffic.calls.set index ⟨request, .done result⟩ := by
  obtain ⟨moves, hown, _, hcalls, _⟩ := finishes options around index request rest traffic hcall
  exact ⟨moves, hown, _, hcalls⟩

/-- Handling a request without interruption is one way to move.  It leaves behind what
`Action.run` says, the call ends with the same reply, and the new answers are those that
the surroundings give. -/
theorem exists_moves_handle_answers (options : Options) (traffic : Traffic) (request : Bytes)
    (around : Surroundings) :
    ∃ moves, (traffic.run options moves).shared =
        ((handle options request).run around traffic.shared).2.1 ∧
      (traffic.run options moves).calls = traffic.calls ++
        [⟨request, .done ((handle options request).run around traffic.shared).1⟩] ∧
      ∀ answer ∈ (traffic.run options moves).answers, answer ∈ traffic.answers ∨
        answer.request = request ∧ ∃ query, around.remote query = .ok answer.response := by
  obtain ⟨moves, _, hshared, hcalls, hanswers⟩ := finishes options around traffic.calls.length
    request (handle options request) (traffic.move options (.arrive request)) (by simp [move])
  refine ⟨.arrive request :: moves, hshared, ?_, hanswers⟩
  exact hcalls.trans (by simp [move])

theorem exists_moves_handle (options : Options) (traffic : Traffic) (request : Bytes)
    (around : Surroundings) :
    ∃ moves, (traffic.run options moves).shared =
        ((handle options request).run around traffic.shared).2.1 ∧
      (traffic.run options moves).calls = traffic.calls ++
        [⟨request, .done ((handle options request).run around traffic.shared).1⟩] := by
  obtain ⟨moves, hshared, hcalls, _⟩ := exists_moves_handle_answers options traffic request around
  exact ⟨moves, hshared, hcalls⟩

end Traffic

end Resolver

end DnsForwarder
