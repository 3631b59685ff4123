import DnsForwarder.Proofs.Record.Data
import DnsForwarder.Message.Wire

/-!
# Questions, records and the OPT record read back

A question reads back as it was written.  So does a record that reading can give,
up to its data (`Record.carried`), and the extension that stands in the OPT record
of the additional section.
-/

namespace DnsForwarder

open Wire

theorem Question.write_faithful (question : Question) :
    Faithful question.write Question.read question := by
  simp only [Question.write, Writer.append_assoc]
  exact (question.name.write_faithful .shared).bind <| (Faithful.word question.kind.code).bind <|
    (Faithful.word question.cls.code).last fun _ => rfl

theorem le_raisePayload (size : UInt16) : smallestPayload ≤ (raisePayload size).toNat := by
  unfold raisePayload
  split
  · decide
  · omega

theorem raisePayload_of_le {size : UInt16} (h : smallestPayload ≤ size.toNat) :
    raisePayload size = size :=
  if_neg (Nat.not_lt.mpr h)

theorem RecordData.write_lowered (data : RecordData) : data.lowered.write = data.write := by
  cases data with
  | aname name => simp only [lowered, write, Name.lower_lower]
  | service priority weight socket target => simp only [lowered, write, Name.lower_lower]
  | _ => rfl

namespace Record

/-- A record that reading can give. -/
structure Readable (record : Record) : Prop where
  fits : ∀ data ∈ record.data, data.Fits record.kind
  owner : record.kind = .opt → record.owner.isRoot = true
  payload : record.kind = .opt → smallestPayload ≤ record.cls.code.toNat

/-- What is read back for a record that was written. -/
def carried (record : Record) : Record :=
  { record with data := record.data.bind RecordData.carried }

/-- What was read is written as it was. -/
theorem write_carried (record : Record) : record.carried.write = record.write := by
  obtain ⟨owner, kind, cls, ttl, data⟩ := record
  cases data with
  | none => rfl
  | some data =>
      by_cases hnil : data = .options []
      · subst hnil
        rfl
      · simp only [write, carried, Option.bind_some, RecordData.carried, if_neg hnil,
          Option.map_some, Option.getD_some, RecordData.write_lowered]

theorem map_write_carried (records : List Record) :
    (records.map carried).map write = records.map write := by
  rw [List.map_map]
  exact List.map_congr_left fun record _ => record.write_carried

theorem read_readable {message : Bytes} {cursor after : Cursor} {record : Record}
    (h : Record.read message cursor = some (record, after)) : record.Readable := by
  obtain ⟨⟨owner, behind⟩, _, h⟩ := Option.bind_eq_some_iff.mp h
  obtain ⟨⟨kind, behind⟩, _, h⟩ := Option.bind_eq_some_iff.mp h
  obtain ⟨⟨cls, behind⟩, _, h⟩ := Option.bind_eq_some_iff.mp h
  obtain ⟨⟨ttl, behind⟩, _, h⟩ := Option.bind_eq_some_iff.mp h
  obtain ⟨⟨size, behind⟩, _, h⟩ := Option.bind_eq_some_iff.mp h
  dsimp only at h
  split at h
  · cases h
  · rename_i howner
    obtain ⟨⟨data, behind⟩, hdata, h⟩ := Option.bind_eq_some_iff.mp h
    cases h
    refine ⟨fun given hgiven => ?_, fun hopt => ?_, fun hopt => ?_⟩
    · obtain rfl : data = some given := hgiven
      exact RecordData.read_fits hdata
    · have hroot : RecordType.mk kind = .opt → owner.isRoot = true := by simpa using howner
      exact hroot hopt
    · obtain rfl : kind = RecordType.opt.code := congrArg RecordType.code hopt
      exact le_raisePayload cls

theorem write_faithful {record : Record} (h : record.Readable) :
    Faithful record.write Record.read record.carried := by
  have hsound : ((record.data.map RecordData.write).getD .nothing).KeepsSound := by
    cases record.data with
    | none => exact Writer.bytes_keepsSound []
    | some data => exact data.write_keepsSound
  have howner : ¬ (RecordType.mk record.kind.code == .opt && !record.owner.isRoot) = true := by
    intro hfails
    obtain ⟨hopt, hnotRoot⟩ := Bool.and_eq_true_iff.mp hfails
    rw [h.owner (eq_of_beq hopt)] at hnotRoot
    cases hnotRoot
  have hpayload : (if RecordType.mk record.kind.code == .opt then raisePayload record.cls.code
      else record.cls.code) = record.cls.code := by
    split
    · rename_i hopt
      exact raisePayload_of_le (h.payload (eq_of_beq hopt))
    · rfl
  simp only [Record.write, Writer.append_assoc]
  refine (record.owner.write_faithful .shared).bind <| (Faithful.word record.kind.code).bind <|
    (Faithful.word record.cls.code).bind <| (Faithful.long record.ttl).bind <|
    Faithful.sized hsound fun size front known tail hknown hsize => ?_
  have hread := RecordData.read_write h.fits front known tail hknown (hsize ▸ size.toNat_lt)
  dsimp only
  rw [if_neg howner, hsize, hread]
  simp only [Option.bind_eq_bind, Option.bind_some, hpayload]
  rfl

end Record

namespace Edns

/-- An extension that reading can give. -/
structure Readable (edns : Edns) : Prop where
  payload : smallestPayload ≤ edns.payload.toNat
  options : edns.options.Readable

theorem toRecord_readable {edns : Edns} (h : edns.Readable) : edns.toRecord.Readable := by
  refine ⟨?_, fun _ => rfl, fun _ => le_raisePayload edns.payload⟩
  rintro data ⟨⟩
  exact ⟨rfl, h.options⟩

theorem ofRecord_readable {record : Record} (h : record.Readable) (hopt : record.kind = .opt) :
    (ofRecord record).Readable := by
  refine ⟨h.payload hopt, ?_⟩
  unfold ofRecord
  dsimp only
  split
  · rename_i options hdata
    exact (h.fits _ hdata).2
  · exact Options.readable_nil

/-- The OPT record gives back the extension it was made of. -/
theorem ofRecord_toRecord {edns : Edns} (h : edns.Readable) :
    ofRecord edns.toRecord.carried = edns := by
  obtain ⟨payload, version, codeHigh, dnssecOk, options⟩ := edns
  have hversion := version.toNat_lt
  have hcode := codeHigh.toNat_lt
  have hflag := dnssecOk.toNat_lt
  obtain ⟨ttl, httl⟩ : ∃ ttl, codeHigh.toNat * 16777216 + version.toNat * 65536 +
      dnssecOk.toNat * 32768 = ttl := ⟨_, rfl⟩
  have hword : (UInt32.ofNat ttl).toNat = ttl := by
    rw [UInt32.toNat_ofNat']
    omega
  have hfirst : UInt8.ofNat (ttl / 16777216) = codeHigh := by
    apply UInt8.toNat_inj.mp
    rw [UInt8.toNat_ofNat']
    omega
  have hsecond : UInt8.ofNat (ttl / 65536) = version := by
    apply UInt8.toNat_inj.mp
    rw [UInt8.toNat_ofNat']
    omega
  have hbit : ttl / 2 ^ 15 % 2 = dnssecOk.toNat := by omega
  have hthird : ttl.testBit 15 = dnssecOk := by
    rw [Nat.testBit_eq_decide_div_mod_eq, hbit]
    cases dnssecOk <;> rfl
  simp only [ofRecord, toRecord, Record.carried, httl, hword, raisePayload_of_le h.payload, hfirst,
    hsecond, hthird]
  -- without options the OPT record comes back without data
  by_cases hnil : options = []
  · simp [RecordData.carried, hnil]
  · simp [RecordData.carried, hnil, RecordData.lowered]

/-! ## Lifting the OPT record out -/

theorem extract?_readable {records others : List Record} {edns : Option Edns}
    (hrecords : ∀ record ∈ records, record.Readable)
    (h : extract? records = some (others, edns)) :
    (∀ record ∈ others, record.Readable ∧ record.kind ≠ .opt) ∧
      (∀ given ∈ edns, given.Readable) ∧
      others.length + edns.toList.length = records.length := by
  have hothers : ∀ record ∈ records.filter (fun record => record.kind != .opt),
      record.Readable ∧ record.kind ≠ .opt := by
    intro record hrecord
    obtain ⟨hmem, hkind⟩ := List.mem_filter.mp hrecord
    exact ⟨hrecords record hmem, by simpa using hkind⟩
  have hlengths : (records.filter fun record => record.kind != .opt).length +
      (records.filter fun record => record.kind == .opt).length = records.length := by
    have hperm := List.filter_append_perm (fun record : Record => record.kind == .opt) records
    have hlength := hperm.length_eq
    rw [List.length_append, Nat.add_comm] at hlength
    exact hlength
  unfold extract? at h
  dsimp only at h
  split at h
  · rename_i hnone
    cases h
    rw [hnone] at hlengths
    exact ⟨hothers, by simp, hlengths⟩
  · rename_i record hone
    cases h
    have hrecord : record ∈ records.filter fun record => record.kind == .opt := by simp [hone]
    obtain ⟨hmem, hkind⟩ := List.mem_filter.mp hrecord
    rw [hone] at hlengths
    refine ⟨hothers, ?_, hlengths⟩
    rintro given ⟨⟩
    exact ofRecord_readable (hrecords record hmem) (by simpa using hkind)
  · cases h

/-- The OPT record that is put behind the other records is the one lifted out. -/
theorem extract?_append {others : List Record} {edns : Option Edns}
    (hothers : ∀ record ∈ others, record.kind ≠ .opt)
    (hedns : ∀ given ∈ edns, given.Readable) :
    extract? ((others ++ (edns.map toRecord).toList).map Record.carried) =
      some (others.map Record.carried, edns) := by
  have hkept : ((others.map Record.carried).filter fun record => record.kind != .opt) =
      others.map Record.carried := by
    refine List.filter_eq_self.mpr fun record hrecord => ?_
    obtain ⟨other, hother, rfl⟩ := List.mem_map.mp hrecord
    simpa [Record.carried] using hothers other hother
  have hnone : ((others.map Record.carried).filter fun record => record.kind == .opt) = [] := by
    refine List.filter_eq_nil_iff.mpr fun record hrecord => ?_
    obtain ⟨other, hother, rfl⟩ := List.mem_map.mp hrecord
    simpa [Record.carried] using hothers other hother
  cases edns with
  | none => simp [extract?, hkept, hnone]
  | some given =>
      have hlifted := ofRecord_toRecord (hedns given rfl)
      have hkind : given.toRecord.carried.kind = .opt := rfl
      simp [extract?, hkept, hnone, hkind, hlifted]

end Edns

end DnsForwarder
