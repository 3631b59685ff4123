import DnsForwarder.Proofs.Message.Aging

/-!
# Responses that pass through several caches

A kept response is aged for the request that it answers, and what the client of that request
gets may be kept once more and aged again.  `age_age` says that this makes no difference: the
bytes are those of the response aged once, for the whole time and for the last request.

What was read of a message is written as the message was (`encode?_carried`).  So ageing what was
read is ageing what was written, and two stages of ageing are one with the sum of the seconds,
since a TTL that has reached zero stays there.  This needs that all of the message was written:
the records that did not fit are missing in every later stage.
-/

namespace DnsForwarder

open Wire

namespace Record

/-- The TTL stays at zero once it is there. -/
theorem aged_aged (record : Record) (earlier later : Nat) :
    (record.aged (seconds earlier)).aged (seconds later) =
      record.aged (seconds (earlier + later)) := by
  have hbound := record.ttl.toNat_lt
  have hfirst : (UInt32.ofNat (record.ttl.toNat - earlier)).toNat = record.ttl.toNat - earlier := by
    rw [UInt32.toNat_ofNat']
    omega
  simp only [aged, wholeSeconds_seconds, hfirst, Nat.sub_sub]

end Record

namespace Message

theorem aged_carried (elapsed : Duration) (request kept : Message) :
    aged elapsed request kept.carried = (aged elapsed request kept).carried := by
  simp only [aged, carried, List.map_map]
  rfl

/-- The request that was answered in between leaves no trace. -/
theorem aged_aged (earlier later : Nat) (first second kept : Message) :
    aged (seconds later) second (aged (seconds earlier) first kept) =
      aged (seconds (earlier + later)) second kept := by
  simp only [aged, List.map_map, Function.comp_def, Record.aged_aged]

/-! ## Sizes -/

theorem behind_aged (records : List Record) (elapsed : Duration) (place : Place) :
    (Writer.concat ((records.map (Record.aged elapsed)).map Record.write)).behind place =
      (Writer.concat (records.map Record.write)).behind place := by
  induction records generalizing place with
  | nil => rfl
  | cons record records ih =>
      -- the TTL takes four bytes and is no name
      have hrecord : (record.aged elapsed).write.behind place = record.write.behind place := by
        simp only [Record.write, Writer.behind_append]
        rfl
      simp only [List.map_cons, Writer.concat, Writer.behind_append, hrecord, ih]

/-- How large an aged response is does not depend on its age. -/
theorem length_write_aged (elapsed other : Duration) (request kept : Message) :
    ((aged elapsed request kept).write.run 0 []).1.length =
      ((aged other request kept).write.run 0 []).1.length := by
  simp only [length_write, aged, allAdditionals, List.map_append, Writer.concat_append,
    Writer.behind_append, behind_aged]

/-! ## Stages -/

/-- A response that was aged for one request and then for another is, byte for byte, the
response aged for the other one alone. -/
theorem age_age {data middle : Bytes} {kept first : Message} {earlier : Nat}
    (hkept : decode? data = some kept) (hfirst : first.Readable)
    (hfits : ((aged (seconds earlier) first kept).write.run 0 []).1.length ≤ largestSize)
    (hmiddle : age data (seconds earlier) first = .ok middle) (later : Nat) (second : Message) :
    age middle (seconds later) second = age data (seconds (earlier + later)) second := by
  have hread := decode?_of_age hkept hfirst hmiddle
  have hwritten :
      (aged (seconds later) second (aged (seconds earlier) first kept).carried).encode? =
        (aged (seconds (earlier + later)) second kept).encode? := by
    rw [aged_carried, encode?_carried, aged_aged]
  rw [trimmed_of_length_le hfits] at hread
  simp only [age, hread, hkept, hwritten]

/-- A cache that holds a response for some seconds and then answers a request with it. -/
structure Stage where
  held : Nat
  request : Message

/-- The stage has a request that can be read, and the response fits into a message with it. -/
structure Stage.Passes (kept : Message) (stage : Stage) : Prop where
  asked : ∃ bytes, decode? bytes = some stage.request
  fits : ((aged (seconds stage.held) stage.request kept).write.run 0 []).1.length ≤ largestSize

/-- What a stage hands on passes wherever the response passes. -/
theorem Stage.Passes.carried_aged {kept first : Message} {stage : Stage} (h : stage.Passes kept)
    (earlier : Nat) : stage.Passes (aged (seconds earlier) first kept).carried := by
  refine ⟨h.asked, ?_⟩
  rw [aged_carried, write_carried, aged_aged, length_write_aged _ (seconds stage.held)]
  exact h.fits

/-- What becomes of a response that passes through some caches. -/
def pass (data : Bytes) : List Stage → Except Fault Bytes
  | [] => .ok data
  | stage :: stages => (age data (seconds stage.held) stage.request).bind fun aged =>
    pass aged stages

/-- The seconds for which the stages hold a response. -/
def heldFor (stages : List Stage) : Nat := (stages.map Stage.held).sum

/-- A response passes through any number of caches, and behind them ageing gives what it gives in
front of them, for as many seconds more. -/
theorem exists_pass {data : Bytes} {kept : Message} {stages : List Stage}
    (hkept : decode? data = some kept) (hstages : ∀ stage ∈ stages, stage.Passes kept) :
    ∃ last, pass data stages = .ok last ∧ ∀ (later : Nat) (request : Message),
      age last (seconds later) request = age data (seconds (heldFor stages + later)) request := by
  induction stages generalizing data kept with
  | nil =>
      refine ⟨data, rfl, fun later request => ?_⟩
      rw [heldFor, List.map_nil, List.sum_nil, Nat.zero_add]
  | cons stage stages ih =>
      obtain ⟨⟨bytes, hasked⟩, hfits⟩ := hstages stage List.mem_cons_self
      have hreadable := decode?_readable hasked
      have hmiddle := age_of_length_le hkept hfits
      have hread := decode?_of_age hkept hreadable hmiddle
      rw [trimmed_of_length_le hfits] at hread
      obtain ⟨last, hlast, hrest⟩ := ih hread fun other hother =>
        (hstages other (List.mem_cons_of_mem _ hother)).carried_aged stage.held
      refine ⟨last, by rw [pass, hmiddle]; exact hlast, fun later request => ?_⟩
      calc
        age last (seconds later) request
            = age _ (seconds (heldFor stages + later)) request := hrest later request
        _ = age data (seconds (stage.held + (heldFor stages + later))) request :=
            age_age hkept hreadable hfits hmiddle _ request
        _ = age data (seconds (heldFor (stage :: stages) + later)) request := by
            rw [heldFor, heldFor, List.map_cons, List.sum_cons, Nat.add_assoc]

/-- What was written for a message that reading can give is written again when it is read. -/
theorem encode?_of_encode? {message : Message} (hreadable : message.Readable) {out : Bytes}
    (h : message.encode? = some out) : (decode? out).bind encode? = some out := by
  obtain ⟨hout, hsize⟩ := encode?_eq_some_iff.mp h
  rw [decode?_of_encode? hreadable h, Option.bind_some, encode?_carried,
    encode?_of_length_le (hout ▸ hsize), hout]

/-- **Ageing composes, byte for byte.**  A response was aged for the first request, and the result
fits into a message.  Then the result is the written form of what is read in it.  Aged for a
second request it is the same as the response aged once, for the sum of the seconds, and so it is
behind any caches that it passes through in between, if it fits into a message there too. -/
theorem ageing_composes {data asked : Bytes} {kept first : Message} (earlier : Nat)
    (hkept : decode? data = some kept) (hfirst : decode? asked = some first)
    (hfits : ((aged (seconds earlier) first kept).write.run 0 []).1.length ≤ largestSize) :
    ∃ middle, age data (seconds earlier) first = .ok middle ∧
      (decode? middle).bind encode? = some middle ∧
      (∀ (later : Nat) (second : Message),
        age middle (seconds later) second = age data (seconds (earlier + later)) second ∧
          (((aged (seconds (earlier + later)) second kept).write.run 0 []).1.length ≤ largestSize →
            ∃ last, age middle (seconds later) second = .ok last)) ∧
      ∀ stages : List Stage, (∀ stage ∈ stages, stage.Passes kept) →
        ∃ last, pass middle stages = .ok last ∧
          ∀ (later : Nat) (second : Message), age last (seconds later) second =
            age data (seconds (earlier + (heldFor stages + later))) second := by
  have hreadable := decode?_readable hfirst
  have hmiddle := age_of_length_le hkept hfits
  refine ⟨_, hmiddle, ?_, fun later second => ⟨age_age hkept hreadable hfits hmiddle later second,
    ?_⟩, ?_⟩
  · exact encode?_of_encode? (aged_readable (decode?_readable hkept) hreadable _)
      (encode?_of_age hkept hmiddle)
  · intro hlast
    exact ⟨_, (age_age hkept hreadable hfits hmiddle later second).trans
      (age_of_length_le hkept hlast)⟩
  · intro stages hstages
    have hread := decode?_of_age hkept hreadable hmiddle
    rw [trimmed_of_length_le hfits] at hread
    obtain ⟨last, hlast, hsame⟩ := exists_pass hread fun stage hstage =>
      (hstages stage hstage).carried_aged earlier
    refine ⟨last, hlast, fun later second => ?_⟩
    rw [hsame, age_age hkept hreadable hfits hmiddle]

/-- The service record is kept for a minute, and then for longer than any TTL. -/
theorem ageing_composes_service :
    ∃ middle last, age serviceResponse (seconds 60) serviceQuery = .ok middle ∧
      age middle (seconds 5000000000) serviceQuery = .ok last ∧
      age serviceResponse (seconds 5000000060) serviceQuery = .ok last := by
  obtain ⟨middle, hmiddle, _, htwice, _⟩ :=
    @ageing_composes serviceResponse serviceRequest serviceReply serviceQuery 60 (by cbv) (by cbv)
      (by cbv)
  obtain ⟨hsame, hlast⟩ := htwice 5000000000 serviceQuery
  obtain ⟨last, hlast⟩ := hlast (by cbv)
  exact ⟨middle, last, hmiddle, hlast, hsame.symm.trans hlast⟩

end Message

end DnsForwarder
