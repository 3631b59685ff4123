import DnsForwarder.Proofs.Wire.Faithful
import DnsForwarder.Record.Data

/-!
# Options read back from the wire

`Options.Readable` describes the options that reading can give (`read_readable`):
every code once, every value in the form its code demands.  Exactly these survive
being written and read again (`read_write`); a client subnet, for one, loses the
bytes behind its address on the first reading, and nothing on any later one.
-/

namespace DnsForwarder.Options

open Wire

/-! ## Values -/

theorem subnetData?_of_subnetData? {data kept : Bytes} (h : subnetData? data = some kept) :
    subnetData? kept = some kept ∧ kept.length ≤ data.length := by
  unfold subnetData? at h
  split at h
  · rename_i familyHigh familyLow source scope address
    obtain ⟨hfits, hkept⟩ := Option.ite_none_left_eq_some.mp h
    obtain rfl := Option.some.inj hkept
    have hlength : (address.take ((source.toNat + 7) / 8)).length = (source.toNat + 7) / 8 := by
      rw [List.length_take]
      omega
    refine ⟨?_, ?_⟩
    · simp only [subnetData?, hlength]
      rw [if_neg (by omega), List.take_take, Nat.min_self]
    · simp only [List.length_cons, hlength]
      omega
  · cases h

/-- A kept value is kept as it is, and is not longer than what it was read from. -/
theorem data?_of_data? {code : UInt16} {data kept : Bytes} (h : data? code data = some kept) :
    data? code kept = some kept ∧ kept.length ≤ data.length := by
  unfold data? at h ⊢
  split at h
  · rename_i hcode
    rw [if_pos hcode]
    exact subnetData?_of_subnetData? h
  · rename_i hcode
    obtain rfl := Option.some.inj h
    rw [if_neg hcode]
    exact ⟨rfl, Nat.le_refl _⟩

/-! ## What reading gives -/

structure Readable (options : Options) : Prop where
  distinct : (options.map Prod.fst).Nodup
  kept : ∀ entry ∈ options, data? entry.1 entry.2 = some entry.2
  short : ∀ entry ∈ options, entry.2.length < 65536

theorem readable_nil : Readable [] :=
  ⟨List.nodup_nil, by simp, by simp⟩

theorem Readable.set {options : Options} (h : options.Readable) {code : UInt16} {data : Bytes}
    (hkept : data? code data = some data) (hshort : data.length < 65536) :
    (options.set code data).Readable := by
  have hentries : ∀ entry ∈ options.set code data, entry ∈ options ∨ entry = (code, data) := by
    intro entry hentry
    rcases List.mem_append.mp hentry with hold | hnew
    · exact Or.inl ((List.mem_filter.mp hold).1)
    · exact Or.inr (List.mem_singleton.mp hnew)
  refine ⟨?_, fun entry hentry => ?_, fun entry hentry => ?_⟩
  · rw [Options.set, List.map_append, List.nodup_append]
    refine ⟨h.distinct.sublist (List.filter_sublist.map Prod.fst), by simp, ?_⟩
    intro other hother new hnew hsame
    obtain ⟨entry, hentry, rfl⟩ := List.mem_map.mp hother
    obtain rfl := List.mem_singleton.mp hnew
    have hdiffers := (List.mem_filter.mp hentry).2
    rw [hsame] at hdiffers
    simp at hdiffers
  · rcases hentries entry hentry with hold | rfl
    · exact h.kept entry hold
    · exact hkept
  · rcases hentries entry hentry with hold | rfl
    · exact h.short entry hold
    · exact hshort

/-- Only a whole option is added to those that were found before. -/
theorem read_readable {stop size : Nat} {found options : Options} {cursor after : Cursor}
    (h : read stop size found cursor = some (options, after)) (hfound : found.Readable) :
    options.Readable := by
  rw [read.eq_def] at h
  split at h
  case isFalse =>
    cases h
    exact hfound
  case isTrue hmore =>
    split at h
    case h_2 => cases h
    case h_1 codeHigh codeLow rest hrest =>
      dsimp only at h
      split at h
      case isTrue =>
        cases h
        exact readable_nil
      case isFalse =>
        split at h
        case h_2 => cases h
        case h_1 lengthHigh lengthLow rest =>
          split at h
          case isTrue => cases h
          case isFalse =>
            split at h
            case isTrue =>
              cases h
              exact readable_nil
            case isFalse =>
              split at h
              case isFalse => cases h
              case isTrue htaken =>
                split at h
                case h_2 => cases h
                case h_1 data hdata =>
                  obtain ⟨hkept, hshorter⟩ := data?_of_data? hdata
                  have hlength := (word16 lengthHigh lengthLow).toNat_lt
                  rw [htaken] at hshorter
                  exact read_readable h (hfound.set hkept (Nat.lt_of_le_of_lt hshorter hlength))
termination_by stop - cursor.offset

/-! ## Reading back -/

theorem write_cons (code : UInt16) (data : Bytes) (options : Options) :
    Options.write ((code, data) :: options) =
      bytes16 code ++ (bytes16 (UInt16.ofNat data.length) ++ (data ++ options.write)) := by
  simp [Options.write]

/-- Options are read one by one behind those that were found already. -/
theorem read_write {stop size : Nat} (options found : Options)
    (hreadable : Readable (found ++ options)) (offset : Nat) (tail : Bytes)
    (hstop : stop = offset + options.write.length) (hsize : options.write.length ≤ size) :
    read stop size found ⟨offset, options.write ++ tail⟩ =
      some (found ++ options, ⟨stop, tail⟩) := by
  induction options generalizing found offset with
  | nil =>
      rw [read.eq_def, if_neg (by simp [hstop, write]), hstop, List.append_nil]
      rfl
  | cons entry options ih =>
      obtain ⟨code, data⟩ := entry
      rw [write_cons] at hstop hsize ⊢
      simp only [List.length_append, length_bytes16] at hstop hsize
      have hentry : (code, data) ∈ found ++ (code, data) :: options := by simp
      have hkept : data? code data = some data := hreadable.kept _ hentry
      have hlength : (UInt16.ofNat data.length).toNat = data.length :=
        UInt16.toNat_ofNat_of_lt' (hreadable.short _ hentry)
      have hset : found.set code data = found ++ [(code, data)] := by
        have hdistinct := hreadable.distinct
        rw [List.map_append, List.nodup_append] at hdistinct
        rw [Options.set, List.filter_eq_self.mpr]
        intro other hother
        simpa using hdistinct.2.2 other.1 (List.mem_map_of_mem hother) code (by simp)
      have hrest := ih (found ++ [(code, data)]) (by simpa using hreadable)
        (offset + 4 + data.length) (by omega) (by omega)
      rw [List.append_assoc, List.singleton_append] at hrest
      rw [read.eq_def, if_pos (by dsimp only; omega)]
      simp only [bytes16, List.cons_append, List.nil_append, word16_bytes16, List.append_assoc]
      simp only [hlength, List.take_left, List.drop_left, hkept, hset]
      rw [if_neg (by omega), if_neg (by omega), if_neg (by omega), if_pos trivial]
      exact hrest

end DnsForwarder.Options
