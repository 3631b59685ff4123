import DnsForwarder.Proofs.Resolver.Identity
import DnsForwarder.Proofs.Resolver.Provenance

/-!
# Requests with different keys

Two requests that are handled at the same time share the cache and the counters.  If they do
not have a key in common, neither notices the other: however their steps lie in between, both
get the replies, and leave behind the entries and the counters, that handling one behind the
other gives, in either order.

## Strategy

What is shared is compared by its `View`, which forgets the order of the entries.  A step has an
`Effect` that does not depend on what is shared, and effects on different keys commute
(`View.after_comm`).  An action that is confined to a key (`Action.Confined`) calls the cache
with no other one, so a step of another action can be taken before or after all of its steps
(`Confined.passes`).

Let what is left of the two actions be run one behind the other (`inTurn`).  A step of the first
does not change what comes out, and a step of the second can be put behind the first; so
nothing changes along a schedule (`OnCourse`), and at its end nothing is left to run.
-/

namespace DnsForwarder

/-! ## What is shared, and what a step does to it -/

/-- What the requests share, whatever the order in which the entries came in. -/
@[ext]
structure View where
  stored : String → Option Entry
  enabled : Bool
  failing : Option CacheCall
  metrics : Metrics

def Shared.view (shared : Shared) : View where
  stored := shared.cache.stored?
  enabled := shared.cache != .disabled
  failing := shared.failing
  metrics := shared.metrics

/-- What a step does to what is shared. -/
inductive Effect
  | nothing
  | counted (counter : Counter)
  /-- From now on this is kept under the key. -/
  | wrote (call : CacheCall) (key : String) (value : Option Entry)

/-- The key that is written. -/
def Effect.key? : Effect → Option String
  | wrote _ key _ => some key
  | _ => none

/-- The two keys, if there are two, are different. -/
def Apart (key other : Option String) : Prop :=
  ∀ name, key = some name → other ≠ some name

theorem Apart.symm {key other : Option String} (h : Apart key other) : Apart other key :=
  fun name hother hkey => h name hkey hother

namespace View

/-- A call that changes the cache gets through. -/
def takes (view : View) (call : CacheCall) : Bool := view.enabled && view.failing != some call

def after (view : View) : Effect → View
  | .nothing => view
  | .counted counter => { view with metrics := view.metrics.count counter }
  | .wrote call key value =>
    { view with
      stored := fun name => if name = key ∧ view.takes call then value else view.stored name }

/-- Effects on different keys commute. -/
theorem after_comm (view : View) {effect other : Effect} (h : Apart effect.key? other.key?) :
    (view.after effect).after other = (view.after other).after effect := by
  cases effect with
  | nothing => rfl
  | counted counter =>
      cases other with
      | counted counter' => exact congrArg (View.mk _ _ _) (Metrics.count_comm _ _ _)
      | _ => rfl
  | wrote call key value =>
      cases other with
      | wrote call' key' value' =>
          have hkey : key ≠ key' := fun hsame => h key rfl (congrArg some hsame.symm)
          refine View.ext (funext fun name => ?_) rfl rfl rfl
          simp only [after, takes]
          by_cases hname : name = key
          · simp [hname, hkey]
          · simp [hname]
      | _ => rfl

theorem failing_after (view : View) (effect : Effect) :
    (view.after effect).failing = view.failing := by
  cases effect <;> rfl

/-- The entries under other keys stay as they are. -/
theorem stored_after (view : View) {effect : Effect} {name : String}
    (h : effect.key? ≠ some name) : (view.after effect).stored name = view.stored name := by
  cases effect with
  | wrote call key value =>
      have hname : name ≠ key := fun hsame => h (congrArg some hsame.symm)
      exact if_neg fun hwrites => hname hwrites.1
  | _ => rfl

end View

namespace Shared

theorem view_forget (shared : Shared) (key : String) :
    (shared.forget key).view = shared.view.after (.wrote .remove key none) := by
  obtain ⟨cache, metrics, failing⟩ := shared
  by_cases hfails : failing = some .remove
  · simp [forget, view, View.after, View.takes, hfails]
  · simp only [forget, hfails, if_false]
    cases cache with
    | disabled => simp [view, View.after, View.takes, Cache.remove]
    | memory entries =>
        refine View.ext (funext fun name => ?_) rfl rfl rfl
        simp [view, View.after, View.takes, hfails]

theorem view_keep (shared : Shared) (now : Instant) (key : String) (data : Bytes)
    (lifetime : Duration) :
    (shared.keep now key data lifetime).view =
      shared.view.after (.wrote .insert key (some ⟨data, now, lifetime⟩)) := by
  obtain ⟨cache, metrics, failing⟩ := shared
  by_cases hfails : failing = some .insert
  · simp [keep, view, View.after, View.takes, hfails]
  · simp only [keep, hfails, if_false]
    cases cache with
    | disabled => simp [view, View.after, View.takes, Cache.insert]
    | memory entries =>
        refine View.ext (funext fun name => ?_) rfl rfl rfl
        simp [view, View.after, View.takes, hfails]

theorem lookup_eq_of_stored {shared other : Shared} {key : String}
    (hfailing : shared.failing = other.failing)
    (hstored : shared.cache.stored? key = other.cache.stored? key) (now : Instant) :
    shared.lookup now key = other.lookup now key := by
  rw [lookup, lookup, Cache.get, Cache.get, hfailing, hstored]

theorem lookup_eq_of_view {shared other : Shared} (h : shared.view = other.view) (now : Instant)
    (key : String) : shared.lookup now key = other.lookup now key :=
  lookup_eq_of_stored (congrArg View.failing h) (congrFun (congrArg View.stored h) key) now

end Shared

/-! ## Actions that keep to one key -/

namespace Action

variable {Result Other : Type}

/-- What the next step does to what is shared. -/
def effect (around : Surroundings) : Action Result → Effect
  | count counter _ => .counted counter
  | forget key _ => .wrote .remove key none
  | keep key data lifetime _ => .wrote .insert key (some ⟨data, around.now, lifetime⟩)
  | _ => .nothing

theorem view_step (action : Action Result) (around : Surroundings) (shared : Shared) :
    (action.step around shared).2.1.view = shared.view.after (action.effect around) := by
  cases action with
  | forget key next => exact shared.view_forget key
  | keep key data lifetime next => exact shared.view_keep around.now key data lifetime
  | _ => rfl

/-- The action calls the cache with this key only, if with any. -/
def Confined (key : Option String) : Action Result → Prop
  | done _ => True
  | count _ next => next.Confined key
  | lookup asked next => key = some asked ∧ ∀ found, (next found).Confined key
  | forget gone next => key = some gone ∧ next.Confined key
  | keep name _ _ next => key = some name ∧ next.Confined key
  | ask _ next => ∀ answer, (next answer).Confined key
  | send _ next => ∀ sent, (next sent).Confined key

variable {key otherKey : Option String} {action : Action Result} {other : Action Other}

theorem Quiet.confined (h : action.Quiet) (key : Option String) : action.Confined key := by
  induction action with
  | done result => trivial
  | count counter next ih => exact ih h
  | _ => exact h.elim

theorem Confined.step (h : action.Confined key) (around : Surroundings) (shared : Shared) :
    (action.step around shared).1.Confined key := by
  cases action with
  | done result => trivial
  | count counter next => exact h
  | lookup asked next => exact h.2 _
  | forget gone next => exact h.2
  | keep name data lifetime next => exact h.2
  | ask query next => exact h _
  | send reply next => exact h _

/-- Only the key is written. -/
theorem Confined.key_of_effect (h : action.Confined key) {around : Surroundings} {name : String}
    (hname : (action.effect around).key? = some name) : key = some name := by
  cases action with
  | forget gone next => exact h.1.trans hname
  | keep gone data lifetime next => exact h.1.trans hname
  | _ => cases hname

/-! ## Steps of two actions -/

/-- Taking a step depends on the view alone. -/
theorem step_eq_of_view (action : Action Result) (around : Surroundings) {shared same : Shared}
    (h : shared.view = same.view) :
    (action.step around shared).1 = (action.step around same).1 ∧
      (action.step around shared).2.1.view = (action.step around same).2.1.view := by
  refine ⟨?_, by rw [view_step, view_step, h]⟩
  cases action with
  | lookup asked next => exact congrArg next (Shared.lookup_eq_of_view h around.now asked)
  | _ => rfl

theorem run_eq_of_view (action : Action Result) (around : Surroundings) {shared same : Shared}
    (h : shared.view = same.view) :
    (action.run around shared).1 = (action.run around same).1 ∧
      (action.run around shared).2.1.view = (action.run around same).2.1.view := by
  induction action generalizing shared same with
  | done result => exact ⟨rfl, h⟩
  | count counter next ih => exact ih (step_eq_of_view (.count counter next) around h).2
  | lookup asked next ih =>
      change ((next (shared.lookup around.now asked)).run around shared).1 =
          ((next (same.lookup around.now asked)).run around same).1 ∧
        ((next (shared.lookup around.now asked)).run around shared).2.1.view =
          ((next (same.lookup around.now asked)).run around same).2.1.view
      rw [Shared.lookup_eq_of_view h around.now asked]
      exact ih _ h
  | forget gone next ih => exact ih (step_eq_of_view (.forget gone next) around h).2
  | keep name data lifetime next ih =>
      exact ih (step_eq_of_view (.keep name data lifetime next) around h).2
  | ask query next ih => exact ih _ h
  | send reply next ih => exact ih _ h

variable {around otherAround : Surroundings}

/-- How an action goes on does not depend on a step of another one. -/
theorem Confined.step_of_apart (h : action.Confined key) (h' : other.Confined otherKey)
    (hapart : Apart key otherKey) (shared : Shared) :
    (action.step around (other.step otherAround shared).2.1).1 =
      (action.step around shared).1 := by
  have hview := other.view_step otherAround shared
  cases action with
  | lookup asked next =>
      have hspared : (other.effect otherAround).key? ≠ some asked := fun hname =>
        hapart asked h.1 (h'.key_of_effect hname)
      refine congrArg next (Shared.lookup_eq_of_stored ?_ ?_ around.now)
      · exact (congrArg View.failing hview).trans (View.failing_after _ _)
      · exact (congrFun (congrArg View.stored hview) asked).trans (View.stored_after _ hspared)
  | _ => rfl

/-- Steps of two actions commute. -/
theorem Confined.view_step_comm (h : action.Confined key) (h' : other.Confined otherKey)
    (hapart : Apart key otherKey) (shared : Shared) :
    (action.step around (other.step otherAround shared).2.1).2.1.view =
      (other.step otherAround (action.step around shared).2.1).2.1.view := by
  have heffects : Apart (other.effect otherAround).key? (action.effect around).key? :=
    fun name hother hname => hapart name (h.key_of_effect hname) (h'.key_of_effect hother)
  calc
    (action.step around (other.step otherAround shared).2.1).2.1.view
      = (shared.view.after (other.effect otherAround)).after (action.effect around) := by
        rw [view_step, view_step]
    _ = (shared.view.after (action.effect around)).after (other.effect otherAround) :=
        shared.view.after_comm heffects
    _ = (other.step otherAround (action.step around shared).2.1).2.1.view := by
        rw [view_step, view_step]

/-! ## A step of one action and all steps of another one -/

/-- A step of `other` can be taken before or after all steps of `action`, and `other` goes on
in the same way. -/
def Passes (around otherAround : Surroundings) (action : Action Result)
    (other : Action Other) : Prop :=
  ∀ shared, (action.run around (other.step otherAround shared).2.1).1 =
      (action.run around shared).1 ∧
    (action.run around (other.step otherAround shared).2.1).2.1.view =
      (other.step otherAround (action.run around shared).2.1).2.1.view ∧
    (other.step otherAround (action.run around shared).2.1).1 =
      (other.step otherAround shared).1

theorem passes_of_step (h : action.Confined key) (h' : other.Confined otherKey)
    (hapart : Apart key otherKey)
    (hrest : ∀ shared, Passes around otherAround (action.step around shared).1 other) :
    Passes around otherAround action other := by
  intro shared
  obtain ⟨hresult, hview, hnext⟩ := hrest shared (action.step around shared).2.1
  obtain ⟨hrunResult, hrunShared⟩ := action.run_step around shared
  obtain ⟨hlateResult, hlateShared⟩ :=
    action.run_step around (other.step otherAround shared).2.1
  rw [h.step_of_apart h' hapart] at hlateResult hlateShared
  -- the two first steps change places
  obtain ⟨hswapResult, hswapView⟩ :=
    run_eq_of_view (action.step around shared).1 around (h.view_step_comm h' hapart shared)
  rw [hlateResult, hlateShared, hrunResult, hrunShared]
  refine ⟨hswapResult.trans hresult, hswapView.trans hview, hnext.trans ?_⟩
  exact h'.step_of_apart h hapart.symm shared

theorem Confined.passes (h : action.Confined key) (h' : other.Confined otherKey)
    (hapart : Apart key otherKey) : Passes around otherAround action other := by
  induction action with
  | done result => exact fun shared => ⟨rfl, rfl, rfl⟩
  | count counter next ih => exact passes_of_step h h' hapart fun shared => ih h
  | lookup asked next ih => exact passes_of_step h h' hapart fun shared => ih _ (h.2 _)
  | forget gone next ih => exact passes_of_step h h' hapart fun shared => ih h.2
  | keep name data lifetime next ih => exact passes_of_step h h' hapart fun shared => ih h.2
  | ask query next ih => exact passes_of_step h h' hapart fun shared => ih _ (h _)
  | send reply next ih => exact passes_of_step h h' hapart fun shared => ih _ (h _)

/-! ## One action behind the other -/

/-- What comes of two actions if all steps of the first are taken before those of the second:
both results, and what is left behind. -/
def inTurn (around otherAround : Surroundings) (action : Action Result) (other : Action Other)
    (shared : Shared) : Result × Other × View :=
  let (result, between, _) := action.run around shared
  let (otherResult, after, _) := other.run otherAround between
  (result, otherResult, after.view)

theorem inTurn_step (action : Action Result) (other : Action Other) (shared : Shared) :
    inTurn around otherAround (action.step around shared).1 other
        (action.step around shared).2.1 =
      inTurn around otherAround action other shared := by
  obtain ⟨hresult, hshared⟩ := action.run_step around shared
  simp only [inTurn]
  rw [hresult, hshared]

theorem Confined.inTurn_step_other (h : action.Confined key) (h' : other.Confined otherKey)
    (hapart : Apart key otherKey) (shared : Shared) :
    inTurn around otherAround action (other.step otherAround shared).1
        (other.step otherAround shared).2.1 =
      inTurn around otherAround action other shared := by
  obtain ⟨hresult, hview, hnext⟩ :=
    @Confined.passes _ _ _ _ _ _ around otherAround h h' hapart shared
  obtain ⟨hotherResult, hotherShared⟩ :=
    other.run_step otherAround (action.run around shared).2.1
  obtain ⟨hsameResult, hsameView⟩ :=
    run_eq_of_view (other.step otherAround shared).1 otherAround hview
  simp only [inTurn]
  rw [hresult, hsameResult, hsameView, hotherResult, hotherShared, hnext]

end Action

namespace Resolver

variable {options : Options} {first second : Bytes} {around otherAround : Surroundings}

/-! ## Handling keeps to the key of the request -/

theorem forward_confined (options : Options) (request : Bytes) (query : Option Message)
    (key : Option String) : (forward options request query key).Confined key := by
  intro answer
  dsimp only
  split
  · exact (refuse_quiet options request).confined key
  · rename_i response _
    have hfit := (fit_quiet options request query response).confined key
    rcases keepResponse_cases options key response (fit options request query response) with
      hnot | ⟨name, lifetime, hkey, _, hkept⟩
    · rw [hnot]
      exact hfit
    · rw [hkept]
      exact ⟨hkey, hfit⟩

theorem handle_confined (options : Options) (request : Bytes) :
    (handle options request).Confined (keyOf request) := by
  by_cases hshort : request.length < Datagram.headerLength
  · rw [handle_of_short hshort]
    trivial
  cases hkeyed : keyOf request with
  | none =>
      rw [handle_of_keyless (Nat.not_lt.mp hshort) hkeyed]
      exact forward_confined options request _ none
  | some key =>
      obtain ⟨query, hquery, hkey⟩ := Option.bind_eq_some_iff.mp hkeyed
      have hforward := forward_confined options request (some query) (some key)
      rw [handle_of_keyed hquery hkey]
      refine ⟨rfl, fun found => ?_⟩
      unfold afterLookup
      split
      · split
        · exact (fit_quiet options request (some query) _).confined _
        · exact ⟨rfl, hforward⟩
      · exact hforward

/-! ## Two calls -/

/-- Two requests have come in. -/
def bothArrived (options : Options) (shared : Shared) (first second : Bytes) : Traffic :=
  Traffic.run options { shared } [.arrive first, .arrive second]

/-- The two calls take steps in some order, each of them in surroundings that stay the same. -/
def Interleaved (around otherAround : Surroundings) (moves : List Move) : Prop :=
  ∀ move ∈ moves, move = .advance 0 around ∨ move = .advance 1 otherAround

/-- What is left of the two calls comes to the same, one behind the other, as both requests
did at the beginning. -/
structure OnCourse (options : Options) (shared : Shared) (first second : Bytes)
    (around otherAround : Surroundings) (traffic : Traffic)
    (rest otherRest : Action (Option Bytes)) : Prop where
  calls : traffic.calls = [⟨first, rest⟩, ⟨second, otherRest⟩]
  confined : rest.Confined (keyOf first)
  otherConfined : otherRest.Confined (keyOf second)
  inTurn : Action.inTurn around otherAround rest otherRest traffic.shared =
    Action.inTurn around otherAround (handle options first) (handle options second) shared
  inOtherTurn : Action.inTurn otherAround around otherRest rest traffic.shared =
    Action.inTurn otherAround around (handle options second) (handle options first) shared

theorem OnCourse.move {shared : Shared} {traffic : Traffic}
    {rest otherRest : Action (Option Bytes)}
    (h : OnCourse options shared first second around otherAround traffic rest otherRest)
    (hapart : Apart (keyOf first) (keyOf second)) {move : Move}
    (hmove : move = .advance 0 around ∨ move = .advance 1 otherAround) :
    ∃ left otherLeft, OnCourse options shared first second around otherAround
      (traffic.move options move) left otherLeft := by
  have hcall : traffic.calls[0]? = some ⟨first, rest⟩ := by rw [h.calls]; rfl
  have hotherCall : traffic.calls[1]? = some ⟨second, otherRest⟩ := by rw [h.calls]; rfl
  rcases hmove with rfl | rfl
  · rw [Traffic.move_advance hcall]
    refine ⟨_, otherRest, by rw [h.calls]; rfl, h.confined.step around _, h.otherConfined, ?_, ?_⟩
    · exact (Action.inTurn_step rest otherRest traffic.shared).trans h.inTurn
    · exact (h.otherConfined.inTurn_step_other h.confined hapart.symm traffic.shared).trans
        h.inOtherTurn
  · rw [Traffic.move_advance hotherCall]
    refine ⟨rest, _, by rw [h.calls]; rfl, h.confined, h.otherConfined.step otherAround _, ?_, ?_⟩
    · exact (h.confined.inTurn_step_other h.otherConfined hapart traffic.shared).trans h.inTurn
    · exact (Action.inTurn_step otherRest rest traffic.shared).trans h.inOtherTurn

theorem OnCourse.run {shared : Shared} {traffic : Traffic}
    {rest otherRest : Action (Option Bytes)}
    (h : OnCourse options shared first second around otherAround traffic rest otherRest)
    (hapart : Apart (keyOf first) (keyOf second)) {moves : List Move}
    (hmoves : Interleaved around otherAround moves) :
    ∃ left otherLeft, OnCourse options shared first second around otherAround
      (traffic.run options moves) left otherLeft := by
  induction moves generalizing traffic rest otherRest with
  | nil => exact ⟨rest, otherRest, h⟩
  | cons move moves ih =>
      obtain ⟨hmove, hrest⟩ := List.forall_mem_cons.mp hmoves
      obtain ⟨left, otherLeft, hnext⟩ := h.move hapart hmove
      exact ih hnext hrest

/-- Two calls can be brought to their ends from wherever they are. -/
theorem exists_interleaved_finish {traffic : Traffic} {rest otherRest : Action (Option Bytes)}
    (hcalls : traffic.calls = [⟨first, rest⟩, ⟨second, otherRest⟩]) :
    ∃ moves, Interleaved around otherAround moves ∧ ∃ reply otherReply,
      (traffic.run options moves).calls = [⟨first, .done reply⟩, ⟨second, .done otherReply⟩] := by
  obtain ⟨moves, hmoves, reply, hend⟩ :=
    @Traffic.exists_moves_finish traffic options around 0 first rest (by rw [hcalls]; rfl)
  rw [hcalls] at hend
  obtain ⟨otherMoves, hotherMoves, otherReply, hotherEnd⟩ :=
    @Traffic.exists_moves_finish (traffic.run options moves) options otherAround 1 second otherRest
      (by rw [hend]; rfl)
  rw [hend] at hotherEnd
  refine ⟨moves ++ otherMoves, ?_, reply, otherReply, ?_⟩
  · refine List.forall_mem_append.mpr ⟨fun move hmove => ?_, fun move hmove => ?_⟩
    · exact Or.inl (hmoves move hmove)
    · exact Or.inr (hotherMoves move hmove)
  · rw [Traffic.run, List.foldl_append]
    exact hotherEnd

/-- **Requests with different keys do not interfere.**  Whatever is shared, let two requests
come in that have no key in common, and let their steps be taken in any order, each request
having its own time and its own answer of the remote server.  The two calls can always be brought
to their ends, and whenever both have ended, both replies, all entries and all counters are those
that handling the two requests one behind the other gives, in either order. -/
theorem requests_independent (options : Options) (shared : Shared) (first second : Bytes)
    (hapart : Apart (keyOf first) (keyOf second)) (around otherAround : Surroundings)
    (moves : List Move) (hmoves : Interleaved around otherAround moves) :
    (∃ more, Interleaved around otherAround more ∧ ∃ reply otherReply,
      ((bothArrived options shared first second).run options (moves ++ more)).calls =
        [⟨first, .done reply⟩, ⟨second, .done otherReply⟩]) ∧
    ∀ reply otherReply,
      ((bothArrived options shared first second).run options moves).calls =
        [⟨first, .done reply⟩, ⟨second, .done otherReply⟩] →
      Action.inTurn around otherAround (handle options first) (handle options second) shared =
        (reply, otherReply,
          ((bothArrived options shared first second).run options moves).shared.view) ∧
      Action.inTurn otherAround around (handle options second) (handle options first) shared =
        (otherReply, reply,
          ((bothArrived options shared first second).run options moves).shared.view) := by
  have hstart : OnCourse options shared first second around otherAround
      (bothArrived options shared first second) (handle options first) (handle options second) :=
    ⟨rfl, handle_confined options first, handle_confined options second, rfl, rfl⟩
  obtain ⟨rest, otherRest, hcourse⟩ := hstart.run hapart hmoves
  refine ⟨?_, fun reply otherReply hdone => ?_⟩
  · obtain ⟨more, hmore, hend⟩ := exists_interleaved_finish hcourse.calls
    refine ⟨more, hmore, ?_⟩
    rw [Traffic.run, List.foldl_append]
    exact hend
  · obtain ⟨hrest, hotherRest⟩ : rest = .done reply ∧ otherRest = .done otherReply := by
      simpa using hcourse.calls.symm.trans hdone
    subst hrest hotherRest
    exact ⟨hcourse.inTurn.symm, hcourse.inOtherTurn.symm⟩

/-- The request has this key, and what the remote server answers may be kept. -/
structure Keeps (options : Options) (around : Surroundings) (request : Bytes) (key : String)
    (data : Bytes) (lifetime : Duration) : Prop where
  keyed : ∃ query, Message.decode? request = some query ∧ Cache.requestKey? query = some key
  accepted : acceptAnswer request (around.remote request) = .ok data
  lasting : (Message.decode? data).bind (Message.lifetime? options.lifetimes) = some lifetime

/-- A request is kept under its key behind another one. -/
theorem Keeps.stored_inTurn {key otherKey : String} {data otherData : Bytes}
    {lifetime otherLifetime : Duration}
    (h : Keeps options around first key data lifetime)
    (h' : Keeps options otherAround second otherKey otherData otherLifetime)
    (hne : otherKey ≠ key) :
    (Action.inTurn around otherAround (handle options first) (handle options second)
      Traffic.start.shared).2.2.stored otherKey =
        some ⟨otherData, otherAround.now, otherLifetime⟩ := by
  obtain ⟨query, hquery, hkey⟩ := h.keyed
  obtain ⟨otherQuery, hotherQuery, hotherKey⟩ := h'.keyed
  obtain ⟨between, hbetween⟩ : ∃ between,
    ((handle options first).run around Traffic.start.shared).2.1 = between := ⟨_, rfl⟩
  have hcache : between.cache = .memory [(key, ⟨data, around.now, lifetime⟩)] :=
    hbetween ▸ cache_first hquery hkey h.accepted h.lasting
  have hworking : between.failing = none := hbetween ▸ Action.run_failing _ around _
  have hmiss : ∀ hit, between.lookup otherAround.now otherKey ≠ .ok (some hit) := by
    intro hit hfound
    obtain ⟨entry, hget, _⟩ := exists_entry_of_lookup hfound
    have hstored := stored_of_get hget
    rw [hcache, Cache.stored?, List.lookup_cons, beq_false_of_ne hne] at hstored
    cases hstored
  have hafter := cache_missed hotherQuery hotherKey hmiss h'.accepted h'.lasting
  calc
    _ = ((handle options second).run otherAround between).2.1.cache.stored? otherKey := by
        rw [← hbetween]
        rfl
    _ = some ⟨otherData, otherAround.now, otherLifetime⟩ := by
        rw [hafter, Shared.keep, hworking, hcache]
        simp

/-- The remote server answers seven seconds later. -/
def answeringLate (response : Bytes) : Surroundings := { answering response with now := seconds 7 }

theorem keeps_first :
    Keeps wideOptions (answering (typeResponse 1 1)) (typeRequest 1 1) (typeKey 1)
      (typeResponse 1 1) (seconds 300) :=
  ⟨⟨typeQuery 1 1, by cbv, rfl⟩, by cbv, by cbv⟩

theorem keeps_second :
    Keeps wideOptions (answeringLate (typeResponse 2 10)) (typeRequest 2 10) (typeKey 10)
      (typeResponse 2 10) (seconds 300) :=
  ⟨⟨typeQuery 2 10, by cbv, rfl⟩, by cbv, by cbv⟩

theorem typeKey_ne : typeKey 1 ≠ typeKey 10 := by
  intro hsame
  obtain ⟨⟨_, hkind, _⟩, _⟩ := (Question.alike_iff_questionKey_eq _ _ _ _ _ _ _ _).mp hsame
  revert hkind
  decide

/-- Both calls look for an entry before one of them asks the remote server. -/
def bothLookUp : List Move :=
  [.advance 1 (answeringLate (typeResponse 2 10)), .advance 0 (answering (typeResponse 1 1)),
    .advance 1 (answeringLate (typeResponse 2 10)), .advance 0 (answering (typeResponse 1 1))]

/-- Requests for two types of records take turns.  Each gets the reply that it gets alone, and
both responses are kept. -/
theorem requests_independent_types :
    Apart (keyOf (typeRequest 1 1)) (keyOf (typeRequest 2 10)) ∧ ∃ more traffic reply otherReply,
      (bothArrived wideOptions Traffic.start.shared (typeRequest 1 1) (typeRequest 2 10)).run
        wideOptions (bothLookUp ++ more) = traffic ∧
      traffic.calls = [⟨typeRequest 1 1, .done reply⟩, ⟨typeRequest 2 10, .done otherReply⟩] ∧
      ((handle wideOptions (typeRequest 1 1)).run (answering (typeResponse 1 1))
        Traffic.start.shared).1 = reply ∧
      ((handle wideOptions (typeRequest 2 10)).run (answeringLate (typeResponse 2 10))
        Traffic.start.shared).1 = otherReply ∧
      traffic.shared.cache.stored? (typeKey 1) = some ⟨typeResponse 1 1, 0, seconds 300⟩ ∧
      traffic.shared.cache.stored? (typeKey 10) =
        some ⟨typeResponse 2 10, seconds 7, seconds 300⟩ := by
  have hapart : Apart (keyOf (typeRequest 1 1)) (keyOf (typeRequest 2 10)) := by
    obtain ⟨query, hquery, hkey⟩ := keeps_first.keyed
    obtain ⟨otherQuery, hotherQuery, hotherKey⟩ := keeps_second.keyed
    intro name hname hother
    rw [keyOf, hquery, Option.bind_some, hkey] at hname
    rw [keyOf, hotherQuery, Option.bind_some, hotherKey, ← hname] at hother
    exact typeKey_ne (Option.some.inj hother).symm
  have hmoves : Interleaved (answering (typeResponse 1 1)) (answeringLate (typeResponse 2 10))
      bothLookUp := by
    simp [Interleaved, bothLookUp]
  obtain ⟨more, hmore, reply, otherReply, hend⟩ := (requests_independent wideOptions
    Traffic.start.shared (typeRequest 1 1) (typeRequest 2 10) hapart _ _ _ hmoves).1
  obtain ⟨hturn, hotherTurn⟩ := (requests_independent wideOptions Traffic.start.shared
    (typeRequest 1 1) (typeRequest 2 10) hapart _ _ _
    (List.forall_mem_append.mpr ⟨hmoves, hmore⟩)).2 reply otherReply hend
  have hfirst := keeps_second.stored_inTurn keeps_first typeKey_ne
  have hsecond := keeps_first.stored_inTurn keeps_second typeKey_ne.symm
  rw [hotherTurn] at hfirst
  rw [hturn] at hsecond
  exact ⟨hapart, more, _, reply, otherReply, rfl, hend, congrArg Prod.fst hturn,
    congrArg Prod.fst hotherTurn, hfirst, hsecond⟩

end Resolver

end DnsForwarder
