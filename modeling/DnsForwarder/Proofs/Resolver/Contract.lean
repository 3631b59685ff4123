import DnsForwarder.Proofs.Message.Shortening
import DnsForwarder.Proofs.Resolver.Origin

/-!
# What a request may rely on, and what it promises

What becomes of a request depends on what the remote server answers and on what a lookup
finds.  A `Contract` names both as assumptions, and with them what an action promises: what
it ends in, what is left to do when a hit is counted, and whether entries are taken out of
the cache.  `Action.Honours` says that the promises are kept on every way on which the
assumptions hold.

## Strategy

`handle_honours` and the lemmas before it are the case analysis over the paths of a request,
for any contract; what remains of a contract's proof is about single responses.

A step that meets the assumptions preserves `Honours` (`Honours.step`).  In a run they are
about its answers: the remote server gave them, and a lookup finds only what one of them was
accepted as.  So what `handle` honours when a request comes in is honoured after any moves
(`honours_run`), however the requests are interleaved.
-/

namespace DnsForwarder

namespace Action

variable {Result : Type}

structure Contract (Result : Type) where
  /-- The responses that the remote server may give. -/
  hears : Bytes → Prop
  /-- What a lookup may find under a key. -/
  finds : String → Hit → Prop
  ends : Result → Prop := fun _ => True
  /-- What may be left to do when a hit is counted. -/
  hits : Action Result → Prop := fun _ => True
  /-- Whether an entry may be taken out of the cache. -/
  forgets : Prop := True

/-- The action keeps the promises of the contract if its assumptions hold. -/
def Honours (contract : Contract Result) : Action Result → Prop
  | done result => contract.ends result
  | count counter next => (counter = .cacheHit → contract.hits next) ∧ next.Honours contract
  | lookup key next => ∀ found, (∀ hit, found = .ok (some hit) → contract.finds key hit) →
      (next found).Honours contract
  | forget _ next => contract.forgets ∧ next.Honours contract
  | keep _ _ _ next => next.Honours contract
  | ask _ next => ∀ answer, (∀ response, answer = .ok response → contract.hears response) →
      (next answer).Honours contract
  | send _ next => ∀ sent, (next sent).Honours contract

theorem Honours.step {contract : Contract Result} {action : Action Result}
    (h : action.Honours contract) {around : Surroundings} {shared : Shared}
    (hhears : ∀ response ∈ action.hears around, contract.hears response)
    (hfinds : ∀ key hit, shared.lookup around.now key = .ok (some hit) →
      contract.finds key hit) :
    (action.step around shared).1.Honours contract := by
  cases action with
  | done result => exact h
  | count counter next => exact h.2
  | lookup key next => exact h _ (hfinds key)
  | forget key next => exact h.2
  | keep key data lifetime next => exact h
  | ask query next =>
      refine h _ fun response hresponse => hhears response ?_
      rw [hears, hresponse]
      rfl
  | send reply next => exact h _

end Action

namespace Resolver

/-! ## The paths of a request -/

variable {options : Options} {request : Bytes} {contract : Action.Contract (Option Bytes)}

theorem refuse_honours (hnone : contract.ends none)
    (hreply : ∀ reply, Datagram.refusal request = .ok reply → contract.ends (some reply)) :
    (refuse options request).Honours contract := by
  rcases refuse_cases options request with h | ⟨reply, hrefusal, h⟩
  · rw [h]
    exact hnone
  · rw [h]
    exact ⟨nofun, hreply reply hrefusal⟩

theorem fit_honours {query : Option Message} {response : Bytes}
    (hwhole : (∀ asked ∈ query, response.length ≤ replyLimit options asked) →
      contract.ends (some response))
    (hshort : ∀ asked ∈ query, ∀ message reply, replyLimit options asked < response.length →
      Message.decode? response = some message → message.shortened.encode? = some reply →
      contract.ends (some reply))
    (hrefuse : ∀ asked ∈ query,
      (∀ shortened, Message.truncateFor (replyLimit options asked) response ≠ .ok shortened) →
      (refuse options request).Honours contract) :
    (fit options request query response).Honours contract := by
  rcases fit_cases options request query response with
    ⟨hfits, h⟩ | ⟨asked, hasked, hlong, ⟨shortened, hshortened, h⟩ | ⟨hnot, h⟩⟩
  · rw [h]
    exact hwhole hfits
  · rw [h]
    obtain ⟨message, hmessage, hencode⟩ := (Message.truncateFor_eq_ok_iff hlong).mp hshortened
    exact ⟨nofun, hshort asked hasked message shortened hlong hmessage hencode⟩
  · rw [h]
    exact hrefuse asked hasked hnot

theorem forward_honours {query : Option Message} {key : Option String}
    (hrefuse : (refuse options request).Honours contract)
    (hfit : ∀ response data, contract.hears response →
      acceptAnswer request (.ok response) = .ok data →
      (fit options request query data).Honours contract) :
    (forward options request query key).Honours contract := by
  intro answer hanswer
  dsimp only
  split
  · exact ⟨nofun, hrefuse⟩
  · rename_i data haccepted
    obtain ⟨_, response, rfl, _⟩ := acceptAnswer_eq_ok_iff.mp haccepted
    have hnext := hfit response data (hanswer response rfl) haccepted
    rcases keepResponse_cases options key data (fit options request query data) with
      h | ⟨name, lifetime, _, _, h⟩
    · rw [h]
      exact hnext
    · rw [h]
      exact hnext

theorem handle_honours (hnone : contract.ends none)
    (hforward : ∀ query key, Message.decode? request = query →
      (forward options request query key).Honours contract)
    (hfound : ∀ query key hit, Message.decode? request = some query →
      Cache.requestKey? query = some key → contract.finds key hit →
      (∃ response, Message.age hit.data hit.age query = .ok response ∧
        contract.hits (fit options request (some query) response) ∧
        (fit options request (some query) response).Honours contract) ∨
      (∃ fault, Message.age hit.data hit.age query = .error fault) ∧ contract.forgets) :
    (handle options request).Honours contract := by
  rcases handle_cases options request with hpath | ⟨query, hquery, hpath⟩ |
    ⟨query, key, hquery, hkey, hpath⟩
  · rw [hpath]
    exact ⟨nofun, nofun, hnone⟩
  · rw [hpath]
    exact ⟨nofun, hforward query none hquery⟩
  · rw [hpath]
    have hmiss := hforward (some query) (some key) hquery
    refine ⟨nofun, fun found hassumed => ?_⟩
    unfold afterLookup
    split
    · rename_i hit
      rcases hfound query key hit hquery hkey (hassumed hit rfl) with
        ⟨response, hage, hhit, hfit⟩ | ⟨⟨fault, hage⟩, hforgets⟩
      · rw [hage]
        exact ⟨fun _ => hhit, hfit⟩
      · rw [hage]
        exact ⟨hforgets, nofun, hmiss⟩
    · exact ⟨nofun, hmiss⟩

/-! ## Runs -/

/-- What is heard and found in a run with these answers. -/
structure Assumes (options : Options) (answers : List Answer) (request : Bytes)
    (contract : Action.Contract (Option Bytes)) : Prop where
  hears : ∀ response, ⟨request, response⟩ ∈ answers → contract.hears response
  finds : ∀ answer ∈ answers, ∀ key hit lifetime,
    Origin options answer.request answer.response key hit.data lifetime → contract.finds key hit

/-- What a lookup finds is what an answer of the remote server was accepted as. -/
theorem Sourced.origin_of_lookup {traffic : Traffic}
    (h : Sourced options traffic) {now : Instant} {key : String} {hit : Hit}
    (hfound : traffic.shared.lookup now key = .ok (some hit)) :
    ∃ answer ∈ traffic.answers, ∃ lifetime,
      Origin options answer.request answer.response key hit.data lifetime := by
  obtain ⟨entry, hentry, rfl⟩ := exists_entry_of_lookup hfound
  obtain ⟨answer, hanswer, horigin⟩ := h.entries key entry (stored_of_get hentry)
  exact ⟨answer, hanswer, entry.lifetime, horigin⟩

theorem honours_run {moves : List Move} {contract : Bytes → Action.Contract (Option Bytes)}
    (hassumes : ∀ request,
      Assumes options (Traffic.run options .start moves).answers request (contract request))
    (hhandle : ∀ request, (handle options request).Honours (contract request)) :
    ∀ call ∈ (Traffic.run options .start moves).calls,
      call.rest.Honours (contract call.request) := by
  obtain ⟨answers, hanswers⟩ : ∃ answers, (Traffic.run options .start moves).answers = answers :=
    ⟨_, rfl⟩
  rw [hanswers] at hassumes
  -- up to now there are no other answers than at the end
  have hrun : Sourced options (Traffic.run options .start moves) ∧
      ((Traffic.run options .start moves).answers ⊆ answers →
        ∀ call ∈ (Traffic.run options .start moves).calls,
          call.rest.Honours (contract call.request)) := by
    refine Traffic.run_induction (motive := fun traffic => Sourced options traffic ∧
      (traffic.answers ⊆ answers → ∀ call ∈ traffic.calls,
        call.rest.Honours (contract call.request)))
      ⟨start_sourced, fun _ call hcall => nomatch hcall⟩ ?_ moves
    rintro traffic move ⟨hsourced, hcalls⟩
    refine ⟨move_sourced hsourced move, fun hsubset => ?_⟩
    have hbefore := hcalls (List.Subset.trans (subset_answers_move options traffic move) hsubset)
    cases move with
    | arrive request =>
        intro call hcall
        rcases List.mem_append.mp hcall with hcall | hcall
        · exact hbefore call hcall
        · rw [List.mem_singleton.mp hcall]
          exact hhandle request
    | advance index around =>
        cases hindex : traffic.calls[index]? with
        | none => simpa only [Traffic.move, hindex] using hbefore
        | some moved =>
            rw [Traffic.move_advance hindex] at hsubset ⊢
            obtain ⟨hheard, hold⟩ := List.append_subset.mp hsubset
            intro call hcall
            rcases List.mem_or_eq_of_mem_set hcall with hcall | rfl
            · exact hbefore call hcall
            · refine (hbefore moved (List.mem_of_getElem? hindex)).step
                (fun response hresponse => ?_) fun key hit hfound => ?_
              · exact (hassumes moved.request).hears response (hheard (List.mem_map.mpr
                  ⟨response, Option.mem_toList.mpr hresponse, rfl⟩))
              · obtain ⟨answer, hanswer, lifetime, horigin⟩ := hsourced.origin_of_lookup hfound
                exact (hassumes moved.request).finds answer (hold hanswer) key hit lifetime
                  horigin
  exact hrun.2 (hanswers ▸ List.Subset.refl _)

end Resolver

end DnsForwarder
