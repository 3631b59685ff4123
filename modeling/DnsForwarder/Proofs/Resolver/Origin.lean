import DnsForwarder.Proofs.Resolver.Paths

/-!
# Where kept responses come from

Every entry of the cache stems from one answer of the remote server: `Origin`
says what ties an entry to that answer and to the request it answered.  The
invariant `Sourced` holds of every run, however its requests are interleaved
(`run_sourced`).

The invariant speaks about calls as well as entries.  A call that has its answer
but has not kept it yet may be interrupted by any number of other moves, so what
it is about to keep has to be tied to the answers already.

Each entry was kept by one of the moves, as a step of the call that had heard the
answer (`exists_answer_of_stored`).  Nothing but another response under the same key
changes an entry, so it makes no difference how often it was found since.
-/

namespace DnsForwarder.Resolver

/-- `data` was kept for `lifetime` under `key` when the remote server answered
`request` with `response`. -/
structure Origin (options : Options) (request response : Bytes) (key : String) (data : Bytes)
    (lifetime : Duration) : Prop where
  accepted : acceptAnswer request (.ok response) = .ok data
  keyed : (Message.decode? request).bind Cache.requestKey? = some key
  lasting : (Message.decode? data).bind (Message.lifetime? options.lifetimes) = some lifetime

/-- What may be kept for `request` after the responses heard so far. -/
def Keepable (options : Options) (request : Bytes) (heard : List Bytes) (key : String)
    (data : Bytes) (lifetime : Duration) : Prop :=
  ∃ response ∈ heard, Origin options request response key data lifetime

/-! ## What handling a request keeps -/

variable {options : Options}

theorem forward_keepsOnly (options : Options) (request : Bytes) (query : Option Message)
    (key : Option String)
    (hkey : ∀ name ∈ key, (Message.decode? request).bind Cache.requestKey? = some name) :
    (forward options request query key).KeepsOnly (Keepable options request) [] := by
  refine ⟨fun response => ?_, fun fault => ?_⟩ <;> dsimp only
  · split
    · exact (refuse_quiet options request).keepsOnly _ _
    · rename_i data haccepted
      have hfit := fit_quiet options request query data
      rcases keepResponse_cases options key data (fit options request query data) with
        hnot | ⟨name, lifetime, rfl, hlasting, hkept⟩
      · rw [hnot]
        exact hfit.keepsOnly _ _
      · have horigin : Origin options request response name data lifetime :=
          ⟨haccepted, hkey name rfl, hlasting⟩
        rw [hkept]
        exact ⟨⟨response, List.mem_cons_self, horigin⟩, hfit.keepsOnly _ _⟩
  · split
    · exact (refuse_quiet options request).keepsOnly _ _
    · rename_i haccepted
      -- a fault of the remote server is never accepted as an answer
      obtain ⟨_, data, hdata, _⟩ := acceptAnswer_eq_ok_iff.mp haccepted
      cases hdata

theorem handle_keepsOnly (options : Options) (request : Bytes) :
    (handle options request).KeepsOnly (Keepable options request) [] := by
  rcases handle_cases options request with hpath | ⟨query, _, hpath⟩ |
    ⟨query, key, hquery, hkey, hpath⟩
  · rw [hpath]
    trivial
  · rw [hpath]
    exact forward_keepsOnly options request query none (by simp)
  · rw [hpath]
    have hmiss := forward_keepsOnly options request (some query) (some key)
      (by simp [hquery, hkey])
    intro found
    unfold afterLookup
    split
    · split
      · exact (fit_quiet options request (some query) _).keepsOnly _ _
      · exact hmiss
    · exact hmiss

/-! ## The invariant -/

/-- Every entry has its origin among the answers so far, and so has everything
that a call may still keep; every answer went to a request that came in. -/
structure Sourced (options : Options) (traffic : Traffic) : Prop where
  entries : ∀ key entry, traffic.shared.cache.stored? key = some entry →
    ∃ answer ∈ traffic.answers,
      Origin options answer.request answer.response key entry.data entry.lifetime
  calls : ∀ call ∈ traffic.calls, ∃ heard : List Bytes,
    (∀ response ∈ heard, ⟨call.request, response⟩ ∈ traffic.answers) ∧
      call.rest.KeepsOnly (Keepable options call.request) heard
  answers : ∀ answer ∈ traffic.answers, answer.request ∈ traffic.requests

theorem start_sourced : Sourced options .start where
  entries := by
    intro key entry h
    cases h
  calls := by
    intro call h
    cases h
  answers := by
    intro answer h
    cases h

theorem arrive_sourced {traffic : Traffic} (h : Sourced options traffic) (request : Bytes) :
    Sourced options (traffic.move options (.arrive request)) := by
  refine ⟨h.entries, fun call hcall => ?_, fun answer hanswer => ?_⟩
  · rcases List.mem_append.mp hcall with hcall | hcall
    · exact h.calls call hcall
    · rw [List.mem_singleton.mp hcall]
      exact ⟨[], by simp, handle_keepsOnly options request⟩
  · have hcame : answer.request ∈ traffic.requests := h.answers answer hanswer
    simp only [Traffic.requests, Traffic.move, List.map_append, List.mem_append] at hcame ⊢
    exact Or.inl hcame

theorem advance_sourced {traffic : Traffic} (h : Sourced options traffic) {index : Nat}
    {call : Call} (hindex : traffic.calls[index]? = some call) (around : Surroundings) :
    Sourced options (traffic.move options (.advance index around)) := by
  rw [Traffic.move_advance hindex]
  have hcall : call ∈ traffic.calls := List.mem_of_getElem? hindex
  obtain ⟨heard, hheard, hkeeps⟩ := h.calls call hcall
  refine ⟨fun key entry hstored => ?_, fun other hother => ?_, fun answer hanswer => ?_⟩
  · -- a new entry is one that the call was about to keep
    rcases Action.step_stored hstored with hold | ⟨next, hnext, _⟩
    · obtain ⟨answer, hanswer, horigin⟩ := h.entries key entry hold
      exact ⟨answer, List.mem_append_right _ hanswer, horigin⟩
    · rw [hnext] at hkeeps
      obtain ⟨response, hresponse, horigin⟩ := hkeeps.1
      exact ⟨_, List.mem_append_right _ (hheard response hresponse), horigin⟩
  · rcases List.mem_or_eq_of_mem_set hother with hother | rfl
    · obtain ⟨heard, hheard, hkeeps⟩ := h.calls other hother
      exact ⟨heard, fun response hresponse => List.mem_append_right _ (hheard response hresponse),
        hkeeps⟩
    · refine ⟨_, fun response hresponse => ?_, hkeeps.step around traffic.shared⟩
      rcases List.mem_append.mp hresponse with hnew | hold
      · exact List.mem_append_left _ (List.mem_map.mpr ⟨response, hnew, rfl⟩)
      · exact List.mem_append_right _ (hheard response hold)
  · have hrequests : (traffic.move options (.advance index around)).requests = traffic.requests :=
      Traffic.requests_advance index around
    rw [Traffic.move_advance hindex] at hrequests
    rw [hrequests]
    rcases List.mem_append.mp hanswer with hnew | hold
    · obtain ⟨response, _, rfl⟩ := List.mem_map.mp hnew
      exact List.mem_map.mpr ⟨call, hcall, rfl⟩
    · exact h.answers answer hold

theorem move_sourced {traffic : Traffic} (h : Sourced options traffic) (move : Move) :
    Sourced options (traffic.move options move) := by
  cases move with
  | arrive request => exact arrive_sourced h request
  | advance index around =>
      cases hindex : traffic.calls[index]? with
      | none => simpa only [Traffic.move, hindex] using h
      | some call => exact advance_sourced h hindex around

theorem run_sourced (options : Options) (moves : List Move) :
    Sourced options (Traffic.run options .start moves) :=
  Traffic.run_induction start_sourced (fun _ move h => move_sourced h move) moves

/-! ## When an entry was kept -/

/-- One of the moves kept the entry for this request, and the entry says when. -/
def KeptBy (options : Options) (moves : List Move) (request : Bytes) (key : String)
    (entry : Entry) : Prop :=
  ∃ before index around after call next, moves = before ++ .advance index around :: after ∧
    (Traffic.run options .start before).calls[index]? = some call ∧ call.request = request ∧
    call.rest = .keep key entry.data entry.lifetime next ∧ entry.storedAt = around.now

variable {moves : List Move} {request : Bytes} {key : String} {entry : Entry}

theorem KeptBy.snoc (h : KeptBy options moves request key entry) (move : Move) :
    KeptBy options (moves ++ [move]) request key entry := by
  obtain ⟨before, index, around, after, call, next, rfl, hkept⟩ := h
  exact ⟨before, index, around, after ++ [move], call, next, by simp, hkept⟩

/-- The entry is this answer, which the call that had asked for it kept. -/
structure AnswerKept (options : Options) (moves : List Move) (key : String) (entry : Entry)
    (answer : Answer) : Prop where
  heard : answer ∈ (Traffic.run options .start moves).answers
  origin : Origin options answer.request answer.response key entry.data entry.lifetime
  kept : KeptBy options moves answer.request key entry

theorem run_snoc (options : Options) (moves : List Move) (move : Move) :
    Traffic.run options .start (moves ++ [move]) =
      (Traffic.run options .start moves).move options move := by
  rw [Traffic.run, List.foldl_append]
  rfl

theorem subset_answers_move (options : Options) (traffic : Traffic) (move : Move) :
    traffic.answers ⊆ (traffic.move options move).answers := by
  cases move with
  | arrive request => exact List.Subset.refl _
  | advance index around =>
      cases hcall : traffic.calls[index]? with
      | none =>
          simp only [Traffic.move, hcall]
          exact List.Subset.refl _
      | some call =>
          rw [Traffic.move_advance hcall]
          exact List.subset_append_right _ _

theorem AnswerKept.snoc {answer : Answer} (h : AnswerKept options moves key entry answer)
    (move : Move) : AnswerKept options (moves ++ [move]) key entry answer := by
  refine ⟨?_, h.origin, h.kept.snoc move⟩
  rw [run_snoc]
  exact subset_answers_move options _ move h.heard

theorem exists_answer_of_stored
    (h : (Traffic.run options .start moves).shared.cache.stored? key = some entry) :
    ∃ answer, AnswerKept options moves key entry answer := by
  -- on the last move: it kept the entry, or the entry was there before
  induction moves using List.reverseRecOn with
  | nil => cases h
  | append_singleton moves move ih =>
      have hbefore : (Traffic.run options .start moves).shared.cache.stored? key = some entry →
          ∃ answer, AnswerKept options (moves ++ [move]) key entry answer := by
        intro hold
        obtain ⟨answer, hanswer⟩ := ih hold
        exact ⟨answer, hanswer.snoc move⟩
      rw [run_snoc] at h
      cases move with
      | arrive request => exact hbefore h
      | advance index around =>
          cases hcall : (Traffic.run options .start moves).calls[index]? with
          | none =>
              simp only [Traffic.move, hcall] at h
              exact hbefore h
          | some call =>
              rw [Traffic.move_advance hcall] at h
              rcases Action.step_stored h with hold | ⟨next, hkeep, hnow⟩
              · exact hbefore hold
              · -- what the call was about to keep it had heard before
                obtain ⟨heard, hheard, hkeeps⟩ :=
                  (run_sourced options moves).calls call (List.mem_of_getElem? hcall)
                rw [hkeep] at hkeeps
                obtain ⟨response, hresponse, horigin⟩ := hkeeps.1
                refine ⟨⟨call.request, response⟩, ?_, horigin, moves, index, around, [], call, next,
                  rfl, hcall, rfl, hkeep, hnow⟩
                rw [run_snoc]
                exact subset_answers_move options _ _ (hheard response hresponse)

end DnsForwarder.Resolver
