import DnsForwarder.Cache.Expiry

/-!
# The answers of a cache follow from its history

A history is a list of operations with the clock readings at which they were done.
`Latest` reads off a history which entry a key has: the one that came in last under it,
if nothing took it out again.  The main statement is that at every place of every history
the memory cache answers with the latest entry as long as that lives, and with nothing
else.

## Strategy

Two things take an entry away when its lifetime is over, the store that holds it and the
look at its age when it is asked for.  That the two agree is settled for a single
insertion (`granted_iff`): what is left of the lifetime, counted from the insertion, ends
when the whole lifetime, counted from the time of storing, does.

Everything else is about what a cache shows of its keys at the times to come.  `Follows`
says that this is what the history calls for, `Operation.seen` how an operation changes
it, and `Follows.step` that then it still is what the history calls for.  A cache whose
operations act like that (`Displays`) answers as its history says
(`Displays.getElem?_answers`).  Both the memory cache over a store and the cache that the
settings name are of this kind, so they give the same answers (`Displays.answers_eq`).

That stores of the kind exist is shown by one that notes the deadline of each entry
(`Deadlines.store_obeys`).
-/

namespace DnsForwarder.Cache

/-- Operations with the readings of the clock, the first one first. -/
abbrev History := List (Instant × Operation)

namespace Operation

/-- The operations that may change what is held under a key. -/
def Touches (key : String) : Operation → Prop
  | insert changed _ => changed = key
  | get _ => False
  | remove changed => changed = key
  | clear => True

/-- No entry comes in that was stored in the future. -/
def Timely (now : Instant) : Operation → Prop
  | insert _ entry => entry.storedAt ≤ now
  | _ => True

/-- What is seen of a key at `later` behind an operation, if `before` would have been seen
without it. -/
def seen (later : Instant) (key : String) (before : Option Entry) : Operation → Option Entry
  | insert changed entry =>
    if key = changed then (some entry).filter fun entry => !entry.expired later else before
  | get _ => before
  | remove changed => if key = changed then none else before
  | clear => none

end Operation

/-! ## The latest entry -/

/-- The entry that came in last under a key and was not taken out. -/
def Latest (history : History) (key : String) (entry : Entry) : Prop :=
  ∃ before now after, history = before ++ (now, .insert key entry) :: after ∧
    ∀ done ∈ after, ¬ done.2.Touches key

theorem not_latest_nil (key : String) (entry : Entry) : ¬ Latest [] key entry := by
  rintro ⟨before, now, after, h, _⟩
  exact absurd h.symm (by simp)

theorem latest_snoc {history : History} {now : Instant} {operation : Operation} {key : String}
    {entry : Entry} :
    Latest (history ++ [(now, operation)]) key entry ↔
      operation = .insert key entry ∨ (¬ operation.Touches key ∧ Latest history key entry) := by
  constructor
  · rintro ⟨before, time, after, h, hafter⟩
    -- the last operation either is the insertion or one of those that came after it
    rcases List.eq_nil_or_concat after with rfl | ⟨middle, last, rfl⟩
    · obtain ⟨_, hlast⟩ := List.append_inj' h rfl
      cases hlast
      exact Or.inl rfl
    · rw [List.concat_eq_append, ← List.cons_append, ← List.append_assoc] at h
      obtain ⟨rfl, hlast⟩ := List.append_inj' h rfl
      cases hlast
      refine Or.inr ⟨hafter (now, operation) (by simp), before, time, middle, rfl, ?_⟩
      exact fun done hdone => hafter done (by simp [hdone])
  · rintro (rfl | ⟨hspared, before, time, after, rfl, hafter⟩)
    · exact ⟨history, now, [], rfl, by simp⟩
    · refine ⟨before, time, after ++ [(now, operation)], by simp, fun done hdone => ?_⟩
      rcases List.mem_append.mp hdone with hdone | hdone
      · exact hafter done hdone
      · rw [List.mem_singleton.mp hdone]
        exact hspared

/-! ## What is seen of a cache -/

/-- From `now` on, what is seen of each key is its latest entry as long as that lives. -/
def Follows (history : History) (now : Instant)
    (view : Instant → String → Option Entry) : Prop :=
  ∀ later key entry, now ≤ later →
    (view later key = some entry ↔
      Latest history key entry ∧ later - entry.storedAt < entry.lifetime)

theorem not_expired_iff {entry : Entry} {now : Instant} :
    (!entry.expired now) = true ↔ now - entry.storedAt < entry.lifetime := by
  rw [Bool.not_eq_true', Entry.expired_eq_false_iff, Entry.age]

theorem Follows.step {history : History} {now next : Instant} {operation : Operation}
    {view changed : Instant → String → Option Entry} (h : Follows history now view)
    (hle : now ≤ next)
    (hchanged : ∀ later key, next ≤ later →
      changed later key = operation.seen later key (view later key)) :
    Follows (history ++ [(next, operation)]) next changed := by
  intro later key entry hlater
  have hview := h later key entry (Nat.le_trans hle hlater)
  rw [hchanged later key hlater, latest_snoc]
  cases operation with
  | insert name given =>
      by_cases hkey : key = name
      · subst hkey
        simp only [Operation.seen, Operation.Touches, if_true, Option.filter_eq_some_iff,
          Option.some.injEq, not_expired_iff, Operation.insert.injEq, true_and, not_true,
          false_and, or_false]
      · simp [Operation.seen, Operation.Touches, hkey, Ne.symm hkey, hview]
  | get name => simp [Operation.seen, Operation.Touches, hview]
  | remove name =>
      by_cases hkey : key = name
      · simp [Operation.seen, Operation.Touches, hkey]
      · simp [Operation.seen, Operation.Touches, hkey, Ne.symm hkey, hview]
  | clear => simp [Operation.seen, Operation.Touches]

/-! ## Answers -/

/-- No clock reading lies before an earlier one, and each entry is stored when it comes in
or earlier. -/
structure Orderly (history : History) : Prop where
  ordered : history.Pairwise fun earlier later => earlier.1 ≤ later.1
  timely : ∀ done ∈ history, done.2.Timely done.1

theorem Orderly.tail {done : Instant × Operation} {history : History}
    (h : Orderly (done :: history)) :
    Orderly history ∧ ∀ later ∈ history, done.1 ≤ later.1 := by
  obtain ⟨hbehind, hordered⟩ := List.pairwise_cons.mp h.ordered
  exact ⟨⟨hordered, fun other hother => h.timely other (List.mem_cons_of_mem done hother)⟩, hbehind⟩

section Answers

variable {State : Type} {perform : State → Instant → Operation → Option Entry × State}
  {good : State → Prop} {view : State → Instant → String → Option Entry}

/-- The answers to the operations of a history, one for each. -/
def answers (perform : State → Instant → Operation → Option Entry × State) :
    State → History → List (Option Entry)
  | _, [] => []
  | state, (now, operation) :: history =>
    (perform state now operation).1 :: answers perform (perform state now operation).2 history

theorem length_answers (state : State) (history : History) :
    (answers perform state history).length = history.length := by
  induction history generalizing state with
  | nil => rfl
  | cons done history ih => exact congrArg (· + 1) (ih _)

/-- What is seen of a good state answers the operations and changes as they call for. -/
structure Displays (perform : State → Instant → Operation → Option Entry × State)
    (good : State → Prop) (view : State → Instant → String → Option Entry) : Prop where
  answer {state : State} (hgood : good state) (now : Instant) (operation : Operation)
    (entry : Entry) : (perform state now operation).1 = some entry ↔
      ∃ key, operation = .get key ∧ view state now key = some entry
  keeps {state : State} (hgood : good state) (now : Instant) (operation : Operation) :
    good (perform state now operation).2
  changes {state : State} (hgood : good state) {now later : Instant} {operation : Operation}
    (key : String) (htimely : operation.Timely now) (hle : now ≤ later) :
    view (perform state now operation).2 later key =
      operation.seen later key (view state later key)

/-- Behind a past that is followed, each answer is the one that past and history call
for. -/
theorem Displays.getElem?_answers (h : Displays perform good view) {past history : History}
    {now : Instant} {state : State} (hgood : good state)
    (hfollows : Follows past now (view state)) (horderly : Orderly history)
    (hbehind : ∀ done ∈ history, now ≤ done.1) {place : Nat} {time : Instant}
    {operation : Operation} (hplace : history[place]? = some (time, operation)) :
    ∃ answer, (answers perform state history)[place]? = some answer ∧
      ∀ entry, answer = some entry ↔
        ∃ key, operation = .get key ∧ Latest (past ++ history.take place) key entry ∧
          time - entry.storedAt < entry.lifetime := by
  -- each operation moves from the history to the past, and the state keeps up with it
  induction history generalizing past now state place with
  | nil => cases hplace
  | cons done history ih =>
      obtain ⟨first, begun⟩ := done
      have hle : now ≤ first := hbehind (first, begun) List.mem_cons_self
      cases place with
      | zero =>
          cases hplace
          refine ⟨_, rfl, fun entry => ?_⟩
          rw [h.answer hgood, List.take_zero, List.append_nil]
          exact exists_congr fun key => and_congr_right fun _ => hfollows time key entry hle
      | succ place =>
          have hnext : Follows (past ++ [(first, begun)]) first
              (view (perform state first begun).2) :=
            hfollows.step hle fun later key hlater =>
              h.changes hgood key (horderly.timely (first, begun) List.mem_cons_self) hlater
          obtain ⟨hrest, hlater⟩ := horderly.tail
          obtain ⟨answer, hanswer, hspec⟩ :=
            ih (h.keeps hgood first begun) hnext hrest hlater hplace
          refine ⟨answer, hanswer, fun entry => ?_⟩
          rw [hspec, List.take_succ_cons, List.append_assoc, List.singleton_append]

theorem follows_nil {view : Instant → String → Option Entry}
    (hempty : ∀ now key, view now key = none) : Follows [] 0 view := by
  intro later key entry _
  simp [hempty, not_latest_nil]

/-- Two caches that start empty give the same answers. -/
theorem Displays.answers_eq {Other : Type}
    {perform' : Other → Instant → Operation → Option Entry × Other} {good' : Other → Prop}
    {view' : Other → Instant → String → Option Entry} {state : State} {other : Other}
    {history : History} (h : Displays perform good view) (h' : Displays perform' good' view')
    (hgood : good state) (hgood' : good' other) (hempty : ∀ now key, view state now key = none)
    (hempty' : ∀ now key, view' other now key = none) (horderly : Orderly history) :
    answers perform state history = answers perform' other history := by
  apply List.ext_getElem?
  intro place
  cases hplace : history[place]? with
  | none =>
      have hend := List.getElem?_eq_none_iff.mp hplace
      rw [List.getElem?_eq_none (by rwa [length_answers]),
        List.getElem?_eq_none (by rwa [length_answers])]
  | some done =>
      obtain ⟨answer, hanswer, hspec⟩ := h.getElem?_answers hgood (follows_nil hempty) horderly
        (fun _ _ => Nat.zero_le _) hplace
      obtain ⟨answer', hanswer', hspec'⟩ := h'.getElem?_answers hgood' (follows_nil hempty')
        horderly (fun _ _ => Nat.zero_le _) hplace
      rw [hanswer, hanswer', Option.ext fun entry => (hspec entry).trans (hspec' entry).symm]

end Answers

/-! ## The memory cache over a store -/

/-- What is left of a span at `now` ends when the span does. -/
theorem lt_add_left_iff {span storedAt now later : Nat} (hstored : storedAt ≤ now)
    (hle : now ≤ later) : later < now + (span - (now - storedAt)) ↔ later - storedAt < span := by
  omega

/-- The time given to an entry that comes in ends with its lifetime. -/
theorem granted_iff {entry : Entry} {now later : Instant} (hstored : entry.storedAt ≤ now)
    (hle : now ≤ later) : later < now + (entry.lifetime - entry.age now) ↔
      !entry.expired later :=
  (lt_add_left_iff hstored hle).trans not_expired_iff.symm

theorem Expiry.Grants.stay_eq {key : String} {entry : Entry} {now : Instant}
    {shown : Option Entry} {stay : Option Duration}
    (h : entryExpiry.Grants key entry now shown stay) :
    stay = some (entry.lifetime - entry.age now) := by
  cases h <;> rfl

namespace ExpiringStore

variable {State : Type} {store : ExpiringStore State}

theorem lookup_fst (state : State) (now : Instant) (key : String) :
    (store.lookup state now key).1 =
      (store.shown state now key).filter fun entry => !entry.expired now :=
  rfl

theorem lookup_insert (hstore : store.Obeys entryExpiry) (state : State) {now later : Instant}
    (key : String) {entry : Entry} (hstored : entry.storedAt ≤ now) (hle : now ≤ later) :
    (store.lookup (store.insert state now key entry) later key).1 =
      (some entry).filter fun entry => !entry.expired later := by
  obtain ⟨stay, hgrants, hshown⟩ := hstore.insert state now key entry
  rw [lookup_fst, hshown later hle, hgrants.stay_eq]
  -- the store hides the entry from the same time on as the look at its age
  by_cases hlives : !entry.expired later
  · simp [(granted_iff hstored hle).mpr hlives]
  · simp [mt (granted_iff hstored hle).mp hlives, Option.filter_some, hlives]

theorem Obeys.displays_perform (hstore : store.Obeys entryExpiry) :
    Displays store.perform (fun _ => True) fun state now key => (store.lookup state now key).1 where
  answer {state} _ now operation entry := by
    cases operation <;> simp [perform]
  keeps _ _ _ := trivial
  changes {state} _ {now later operation} key htimely hle := by
    cases operation with
    | insert changed entry =>
        by_cases hkey : key = changed
        · subst hkey
          simpa [perform, Operation.seen] using lookup_insert hstore state key htimely hle
        · simp [perform, Operation.seen, hkey, lookup_fst, hstore.insertOther state entry hkey hle]
    | get asked =>
        rw [lookup_fst]
        exact congrArg _ (hstore.get state asked key hle)
    | remove changed =>
        rw [lookup_fst]
        simp only [perform, hstore.invalidate state changed key hle]
        by_cases hkey : key = changed <;> simp [Operation.seen, hkey, lookup_fst]
    | clear => simp [perform, Operation.seen, lookup_fst, hstore.invalidateAll state key hle]

end ExpiringStore

/-! ## The cache that the settings name -/

theorem displays_perform :
    Displays perform (fun cache => ∃ entries, cache = memory entries) get where
  answer _ now operation entry := by
    cases operation <;> simp [perform]
  keeps {state} hgood now operation := by
    obtain ⟨entries, rfl⟩ := hgood
    cases operation with
    | insert key entry => exact ⟨_, rfl⟩
    | get key => exact ⟨entries, rfl⟩
    | remove key => exact ⟨_, rfl⟩
    | clear => exact ⟨[], rfl⟩
  changes {state} hgood {now later operation} key _ _ := by
    obtain ⟨entries, rfl⟩ := hgood
    cases operation with
    | insert changed entry =>
        by_cases hkey : key = changed <;> simp [perform, get, Operation.seen, hkey]
    | get asked => rfl
    | remove changed =>
        by_cases hkey : key = changed <;> simp [perform, get, Operation.seen, hkey]
    | clear => simp [perform, get, Operation.seen]

/-- Over any store that lets entries go when it should, the memory cache answers with the
latest entry as long as that lives and with nothing else.  The cache that the settings
name gives the same answers. -/
theorem memory_answers {State : Type} {store : ExpiringStore State}
    (hstore : store.Obeys entryExpiry) {history : History} (horderly : Orderly history) :
    (∀ place time key, history[place]? = some (time, .get key) →
      ∃ answer, (answers store.perform store.start history)[place]? = some answer ∧
        ∀ entry, answer = some entry ↔
          Latest (history.take place) key entry ∧ time - entry.storedAt < entry.lifetime) ∧
    ∃ cache, ofProvider "memory" = .ok cache ∧
      answers perform cache history = answers store.perform store.start history := by
  have hstart (now : Instant) (key : String) : (store.lookup store.start now key).1 = none := by
    rw [ExpiringStore.lookup_fst, hstore.start, Option.filter_none]
  constructor
  · intro place time key hplace
    obtain ⟨answer, hanswer, hspec⟩ := hstore.displays_perform.getElem?_answers trivial
      (follows_nil hstart) horderly (fun _ _ => Nat.zero_le _) hplace
    refine ⟨answer, hanswer, fun entry => ?_⟩
    simp [hspec]
  · exact ⟨emptyMemory, rfl, displays_perform.answers_eq hstore.displays_perform ⟨[], rfl⟩ trivial
      (fun _ _ => rfl) hstart horderly⟩

/-! ## A store with deadlines -/

namespace Deadlines

theorem find?_drop (held : Deadlines) (now : Instant) (key other : String) :
    (held.drop key).find? now other = if other = key then none else held.find? now other := by
  unfold find? drop
  rw [lookup_filter_ne]
  by_cases hother : other = key <;> simp [hother]

theorem find?_keep (held : Deadlines) (now : Instant) (key other : String) (entry : Entry)
    (deadline : Option Instant) : (held.keep key entry deadline).find? now other =
      if other = key then if deadline.all fun time => now < time then some entry else none
      else held.find? now other := by
  by_cases hother : other = key
  · simp [find?, keep, hother]
  · have hdrop := find?_drop held now key other
    rw [if_neg hother] at hdrop
    rw [if_neg hother, ← hdrop]
    simp only [find?, keep, List.lookup_cons, beq_eq_false_iff_ne.mpr hother]

theorem stay_grants (expiry : Expiry) (held : Deadlines) (now : Instant) (key : String)
    (entry : Entry) :
    expiry.Grants key entry now (held.find? now key) (stay expiry held now key entry) := by
  unfold find? stay
  cases held.lookup key with
  | none => exact .created
  | some kept => exact .replaced _ _

theorem store_obeys (expiry : Expiry) : (store expiry).Obeys expiry where
  start _ _ := rfl
  get _ _ _ _ _ _ := rfl
  insert held now key entry := by
    refine ⟨stay expiry held now key entry, stay_grants expiry held now key entry, ?_⟩
    intro later _
    refine (find?_keep ..).trans ?_
    rw [if_pos rfl, Option.all_map]
  insertOther _ _ _ _ _ _ hother _ := (find?_keep ..).trans (if_neg hother)
  invalidate held _ later key other _ := find?_drop held later key other
  invalidateAll _ _ _ _ _ := rfl

end Deadlines

/-- Two entries under one key, the second of which stays shorter, then one that comes in
ten seconds late. -/
def overwriting : History :=
  [(0, .insert "a" ⟨[1], 0, seconds 60⟩), (seconds 10, .insert "a" ⟨[2], seconds 10, seconds 5⟩),
    (seconds 14, .get "a"), (seconds 15, .get "a"),
    (seconds 20, .insert "a" ⟨[3], seconds 10, seconds 15⟩), (seconds 20, .remove "b"),
    (seconds 24, .get "a"), (seconds 25, .get "a"), (seconds 30, .clear)]

theorem memory_answers_overwritten : Orderly overwriting ∧
    answers (Deadlines.store entryExpiry).perform [] overwriting =
      [none, none, some ⟨[2], seconds 10, seconds 5⟩, none, none, none,
        some ⟨[3], seconds 10, seconds 15⟩, none, none] ∧
    Latest (overwriting.take 6) "a" ⟨[3], seconds 10, seconds 15⟩ ∧
    answers perform emptyMemory overwriting =
      answers (Deadlines.store entryExpiry).perform [] overwriting := by
  have horderly : Orderly overwriting :=
    ⟨by decide, by simp [overwriting, Operation.Timely, seconds, nanosecondsPerSecond]⟩
  have hanswers : answers (Deadlines.store entryExpiry).perform [] overwriting =
      [none, none, some ⟨[2], seconds 10, seconds 5⟩, none, none, none,
        some ⟨[3], seconds 10, seconds 15⟩, none, none] := by decide
  obtain ⟨hspec, cache, hcache, hsame⟩ :=
    memory_answers (Deadlines.store_obeys entryExpiry) horderly
  obtain ⟨answer, hanswer, hlatest⟩ := hspec 6 (seconds 24) "a" rfl
  rw [show (Deadlines.store entryExpiry).start = [] from rfl, hanswers] at hanswer
  refine ⟨horderly, hanswers, ((hlatest _).mp (Option.some.inj hanswer.symm)).1, ?_⟩
  cases hcache
  exact hsame

end DnsForwarder.Cache
