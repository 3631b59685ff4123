import DnsForwarder.Proofs.Name.RoundTrip
import DnsForwarder.Proofs.Record.Options

/-!
# Record data read back from the wire

`RecordData.Fits` describes the data that reading can give for a type
(`read_fits`).  Data that fits its type survives being written and read again, up
to `lowered`: the target of a service record and the name of an ANAME record come
back in lowercase (`readFields_write`).

Data without bytes reads back as no data.  Among what fits, that is an OPT record
without options and nothing else (`output_eq_nil_iff`).
-/

namespace DnsForwarder.RecordData

open Wire

/-- The types whose data is taken apart, or is never there. -/
def structured : List RecordType :=
  [.a, .aaaa, .ns, .cname, .ptr, .aname, .mx, .soa, .srv, .txt, .hinfo, .naptr, .opt, .zero, .any,
    .axfr, .ixfr]

/-- Data that can be read for a record of type `kind`. -/
def Fits (kind : RecordType) : RecordData → Prop
  | address octets => (kind = .a ∧ octets.length = 4) ∨ (kind = .aaaa ∧ octets.length = 16)
  | host _ => kind = .ns ∨ kind = .cname ∨ kind = .ptr
  | aname _ => kind = .aname
  | mail _ _ => kind = .mx
  | authority _ _ _ _ _ _ _ => kind = .soa
  | service _ _ _ _ => kind = .srv
  | text strings => kind = .txt ∧ strings ≠ [] ∧ ∀ string ∈ strings, string.length < 256
  | machine processor system => kind = .hinfo ∧ processor.length < 256 ∧ system.length < 256
  | rewriting _ _ flags services pattern _ =>
    kind = .naptr ∧ flags.all isFlag = true ∧ flags.length < 256 ∧ services.length < 256 ∧
      pattern.length < 256
  | options found => kind = .opt ∧ found.Readable
  | raw bytes => kind ∉ structured ∧ bytes ≠ []

/-- The data with those names in lowercase that are written so. -/
def lowered : RecordData → RecordData
  | aname name => aname name.lower
  | service priority weight socket target => service priority weight socket target.lower
  | data => data

/-! ## What reading gives -/

theorem length_of_take {count : Nat} {cursor after : Cursor} {bytes : Bytes}
    (h : cursor.take count = some (bytes, after)) : bytes.length = count := by
  unfold Cursor.take at h
  dsimp only at h
  split at h
  · rename_i hlength
    cases h
    exact hlength
  · cases h

theorem length_of_characterString {cursor after : Cursor} {string : Bytes}
    (h : cursor.characterString = some (string, after)) : string.length < 256 := by
  obtain ⟨⟨size, behind⟩, _, hstring⟩ := Option.bind_eq_some_iff.mp h
  rw [length_of_take hstring]
  exact size.toNat_lt

theorem length_of_readStrings {stop : Nat} {cursor after : Cursor} {strings : List Bytes}
    (h : readStrings stop cursor = some (strings, after)) :
    (∀ string ∈ strings, string.length < 256) ∧ (cursor.offset < stop → strings ≠ []) := by
  fun_induction readStrings stop cursor generalizing strings after with
  | case1 => cases h
  | case2 cursor _ size rest _ string hstring strings behind hbehind =>
      rename_i ih
      cases h
      refine ⟨fun other hother => ?_, fun _ => List.cons_ne_nil _ _⟩
      rcases List.mem_cons.mp hother with rfl | hother
      · rw [hstring]
        exact size.toNat_lt
      · exact (ih hbehind).1 other hother
  | case3 => cases h
  | case4 => cases h
  | case5 cursor houtside =>
      cases h
      exact ⟨by simp, fun hinside => absurd hinside houtside⟩

theorem readFields_fits {message : Bytes} {kind : RecordType} {size : Nat} {cursor after : Cursor}
    {data : RecordData} (hsize : size ≠ 0)
    (h : readFields message kind size cursor = some (data, after)) : data.Fits kind := by
  unfold readFields at h
  -- the types in the order in which the reader asks for them
  by_cases haddress : kind = .a
  · rw [if_pos haddress] at h
    obtain ⟨⟨octets, behind⟩, hoctets, h⟩ := Option.bind_eq_some_iff.mp h
    cases h
    exact Or.inl ⟨haddress, length_of_take hoctets⟩
  rw [if_neg haddress] at h
  by_cases hlong : kind = .aaaa
  · rw [if_pos hlong] at h
    obtain ⟨⟨octets, behind⟩, hoctets, h⟩ := Option.bind_eq_some_iff.mp h
    cases h
    exact Or.inr ⟨hlong, length_of_take hoctets⟩
  rw [if_neg hlong] at h
  by_cases hhost : kind = .ns ∨ kind = .cname ∨ kind = .ptr
  · rw [if_pos hhost] at h
    obtain ⟨⟨name, behind⟩, _, h⟩ := Option.bind_eq_some_iff.mp h
    cases h
    exact hhost
  rw [if_neg hhost] at h
  by_cases haname : kind = .aname
  · rw [if_pos haname] at h
    obtain ⟨⟨name, behind⟩, _, h⟩ := Option.bind_eq_some_iff.mp h
    cases h
    exact haname
  rw [if_neg haname] at h
  by_cases hmx : kind = .mx
  · rw [if_pos hmx] at h
    obtain ⟨⟨preference, behind⟩, _, h⟩ := Option.bind_eq_some_iff.mp h
    obtain ⟨⟨exchange, behind⟩, _, h⟩ := Option.bind_eq_some_iff.mp h
    cases h
    exact hmx
  rw [if_neg hmx] at h
  by_cases hsoa : kind = .soa
  · rw [if_pos hsoa] at h
    obtain ⟨⟨primary, behind⟩, _, h⟩ := Option.bind_eq_some_iff.mp h
    obtain ⟨⟨contact, behind⟩, _, h⟩ := Option.bind_eq_some_iff.mp h
    obtain ⟨⟨serial, behind⟩, _, h⟩ := Option.bind_eq_some_iff.mp h
    obtain ⟨⟨refresh, behind⟩, _, h⟩ := Option.bind_eq_some_iff.mp h
    obtain ⟨⟨retry, behind⟩, _, h⟩ := Option.bind_eq_some_iff.mp h
    obtain ⟨⟨expire, behind⟩, _, h⟩ := Option.bind_eq_some_iff.mp h
    obtain ⟨⟨minimum, behind⟩, _, h⟩ := Option.bind_eq_some_iff.mp h
    cases h
    exact hsoa
  rw [if_neg hsoa] at h
  by_cases hsrv : kind = .srv
  · rw [if_pos hsrv] at h
    obtain ⟨⟨priority, behind⟩, _, h⟩ := Option.bind_eq_some_iff.mp h
    obtain ⟨⟨weight, behind⟩, _, h⟩ := Option.bind_eq_some_iff.mp h
    obtain ⟨⟨socket, behind⟩, _, h⟩ := Option.bind_eq_some_iff.mp h
    obtain ⟨⟨target, behind⟩, _, h⟩ := Option.bind_eq_some_iff.mp h
    cases h
    exact hsrv
  rw [if_neg hsrv] at h
  by_cases htxt : kind = .txt
  · rw [if_pos htxt] at h
    obtain ⟨⟨strings, behind⟩, hstrings, h⟩ := Option.bind_eq_some_iff.mp h
    cases h
    obtain ⟨hshort, hsome⟩ := length_of_readStrings hstrings
    exact ⟨htxt, hsome (by omega), hshort⟩
  rw [if_neg htxt] at h
  by_cases hhinfo : kind = .hinfo
  · rw [if_pos hhinfo] at h
    obtain ⟨⟨processor, behind⟩, hprocessor, h⟩ := Option.bind_eq_some_iff.mp h
    obtain ⟨⟨system, behind⟩, hsystem, h⟩ := Option.bind_eq_some_iff.mp h
    cases h
    exact ⟨hhinfo, length_of_characterString hprocessor, length_of_characterString hsystem⟩
  rw [if_neg hhinfo] at h
  by_cases hnaptr : kind = .naptr
  · rw [if_pos hnaptr] at h
    obtain ⟨⟨order, behind⟩, _, h⟩ := Option.bind_eq_some_iff.mp h
    obtain ⟨⟨preference, behind⟩, _, h⟩ := Option.bind_eq_some_iff.mp h
    obtain ⟨⟨flags, behind⟩, hflags, h⟩ := Option.bind_eq_some_iff.mp h
    dsimp only at h
    split at h
    · cases h
    · rename_i hletters
      obtain ⟨⟨services, behind⟩, hservices, h⟩ := Option.bind_eq_some_iff.mp h
      obtain ⟨⟨pattern, behind⟩, hpattern, h⟩ := Option.bind_eq_some_iff.mp h
      obtain ⟨⟨replacement, behind⟩, _, h⟩ := Option.bind_eq_some_iff.mp h
      cases h
      exact ⟨hnaptr, by simpa using hletters, length_of_characterString hflags,
        length_of_characterString hservices, length_of_characterString hpattern⟩
  rw [if_neg hnaptr] at h
  by_cases hopt : kind = .opt
  · rw [if_pos hopt] at h
    obtain ⟨⟨found, behind⟩, hfound, h⟩ := Option.bind_eq_some_iff.mp h
    cases h
    exact ⟨hopt, Options.read_readable hfound Options.readable_nil⟩
  rw [if_neg hopt] at h
  split at h
  · cases h
  · obtain ⟨⟨bytes, behind⟩, hbytes, h⟩ := Option.bind_eq_some_iff.mp h
    cases h
    refine ⟨?_, fun hnil => hsize ?_⟩
    · simp_all [structured]
    · rw [← length_of_take hbytes, hnil]
      rfl

/-! ## Reading back -/

theorem write_keepsSound (data : RecordData) : data.write.KeepsSound := by
  have hname := fun form (name : Name) => (name.write_faithful form).sound
  have hbytes := Writer.bytes_keepsSound
  cases data with
  | address octets => exact hbytes octets
  | host name => exact hname .shared name
  | aname name => exact hname .whole name.lower
  | mail preference exchange => exact (hbytes _).append (hname .shared exchange)
  | authority primary contact serial refresh retry expire minimum =>
      exact ((((((hname .shared primary).append (hname .shared contact)).append
        (hbytes _)).append (hbytes _)).append (hbytes _)).append (hbytes _)).append (hbytes _)
  | service priority weight socket target =>
      exact (((hbytes _).append (hbytes _)).append (hbytes _)).append (hname .whole target.lower)
  | text strings => exact hbytes _
  | machine processor system => exact hbytes _
  | rewriting order preference flags services pattern replacement =>
      exact (((hbytes _).append (hbytes _)).append (hbytes _)).append (hname .whole replacement)
  | options found => exact hbytes _
  | raw bytes => exact hbytes bytes

theorem readStrings_write (strings : List Bytes)
    (hstrings : ∀ string ∈ strings, string.length < 256) (offset : Nat) (tail : Bytes) :
    readStrings (offset + (strings.flatMap characterBytes).length)
        ⟨offset, strings.flatMap characterBytes ++ tail⟩ =
      some (strings, ⟨offset + (strings.flatMap characterBytes).length, tail⟩) := by
  induction strings generalizing offset with
  | nil => rw [readStrings.eq_def, if_neg (by simp)]; rfl
  | cons string strings ih =>
      have hsize : (UInt8.ofNat string.length).toNat = string.length :=
        UInt8.toNat_ofNat_of_lt' (hstrings string List.mem_cons_self)
      have hrest := ih (fun other hother => hstrings other (List.mem_cons_of_mem string hother))
        (offset + 1 + string.length)
      have hstop : offset + 1 + string.length + (strings.flatMap characterBytes).length =
          offset + ((string :: strings).flatMap characterBytes).length := by
        simp [characterBytes]
        omega
      rw [hstop] at hrest
      rw [readStrings.eq_def, if_pos (by simp [characterBytes])]
      simp only [List.flatMap_cons, characterBytes, List.cons_append, List.append_assoc, hsize,
        List.take_left, List.drop_left] at hrest ⊢
      rw [if_pos trivial, hrest]

/-- Data that fits its type is read back from what is written, in lowercase where
that is how it is written. -/
theorem readFields_write {kind : RecordType} {data : RecordData} (hfits : data.Fits kind)
    (front : Bytes) (known : Suffixes) (tail : Bytes) (hknown : known.Sound front)
    (hlength : (data.write.output front known).length < 65536) :
    readFields (front ++ data.write.output front known ++ tail) kind
        (data.write.output front known).length
        ⟨front.length, data.write.output front known ++ tail⟩ =
      some (data.lowered, ⟨(front ++ data.write.output front known).length, tail⟩) := by
  -- apart from strings and options the size of the data does not matter to the reader
  have hback : ∀ size, Faithful data.write
      (fun message cursor => readFields message kind size cursor) data.lowered →
      readFields (front ++ data.write.output front known ++ tail) kind size
        ⟨front.length, data.write.output front known ++ tail⟩ =
      some (data.lowered, ⟨(front ++ data.write.output front known).length, tail⟩) :=
    fun size hfaithful => hfaithful.reads front known tail hknown hlength
  cases data with
  | address octets =>
      rcases hfits with ⟨rfl, hoctets⟩ | ⟨rfl, hoctets⟩
      · exact hback _ (((hoctets ▸ Faithful.take octets :)).last fun _ => rfl)
      · exact hback _ (((hoctets ▸ Faithful.take octets :)).last fun _ => rfl)
  | host name =>
      rcases hfits with rfl | rfl | rfl <;>
        exact hback _ ((name.write_faithful .shared).last fun _ => rfl)
  | aname name =>
      cases hfits
      exact hback _ ((name.lower.write_faithful .whole).last fun _ => rfl)
  | mail preference exchange =>
      cases hfits
      exact hback _ ((Faithful.word preference).bind
        ((exchange.write_faithful .shared).last fun _ => rfl))
  | authority primary contact serial refresh retry expire minimum =>
      cases hfits
      refine hback _ ?_
      simp only [write, Writer.append_assoc]
      exact (primary.write_faithful .shared).bind <| (contact.write_faithful .shared).bind <|
        (Faithful.long serial).bind <| (Faithful.long refresh).bind <|
        (Faithful.long retry).bind <| (Faithful.long expire).bind <|
        (Faithful.long minimum).last fun _ => rfl
  | service priority weight socket target =>
      cases hfits
      refine hback _ ?_
      simp only [write, Writer.append_assoc]
      exact (Faithful.word priority).bind <| (Faithful.word weight).bind <|
        (Faithful.word socket).bind <| (target.lower.write_faithful .whole).last fun _ => rfl
  | text strings =>
      obtain ⟨rfl, _, hstrings⟩ := hfits
      have hread := readStrings_write strings hstrings front.length tail
      refine Option.bind_eq_some_iff.mpr ⟨_, hread, ?_⟩
      rw [List.length_append]
      rfl
  | machine processor system =>
      obtain ⟨rfl, hprocessor, hsystem⟩ := hfits
      refine hback _ ?_
      simp only [write, Writer.bytes_append]
      exact (Faithful.characterString hprocessor).bind <|
        (Faithful.characterString hsystem).last fun _ => rfl
  | rewriting order preference flags services pattern replacement =>
      obtain ⟨rfl, hletters, hflags, hservices, hpattern⟩ := hfits
      refine hback _ ?_
      simp only [write, Writer.bytes_append, Writer.append_assoc]
      exact (Faithful.word order).bind <| (Faithful.word preference).bind <|
        (Faithful.characterString hflags).bind <| Faithful.passing (by simp [hletters]) <|
        (Faithful.characterString hservices).bind <|
        (Faithful.characterString hpattern).bind <|
        (replacement.write_faithful .whole).last fun _ => rfl
  | options found =>
      obtain ⟨rfl, hreadable⟩ := hfits
      have hread := Options.read_write found [] hreadable front.length tail rfl (Nat.le_refl _)
      refine Option.bind_eq_some_iff.mpr ⟨_, hread, ?_⟩
      rw [List.length_append]
      rfl
  | raw bytes =>
      obtain ⟨hkind, _⟩ := hfits
      refine hback _ ?_
      simp only [structured, List.mem_cons, List.not_mem_nil, not_or] at hkind
      simp only [readFields, hkind, or_self, ↓reduceIte]
      exact (Faithful.take bytes).last fun _ => rfl

/-! ## Data without bytes -/

theorem output_name_ne_nil (form : NameForm) (name : Name) (front : Bytes) (known : Suffixes) :
    (name.write form).output front known ≠ [] :=
  writeLabels_ne_nil form _ name.labels front.length known

theorem output_eq_nil_iff {kind : RecordType} {data : RecordData} (hfits : data.Fits kind)
    (front : Bytes) (known : Suffixes) :
    data.write.output front known = [] ↔ data = options [] := by
  cases data with
  | address octets =>
      refine iff_of_false (fun hnil => ?_) (by simp)
      obtain rfl : octets = [] := hnil
      rcases hfits with ⟨_, hoctets⟩ | ⟨_, hoctets⟩ <;> cases hoctets
  | host name => exact iff_of_false (output_name_ne_nil _ name front known) (by simp)
  | aname name => exact iff_of_false (output_name_ne_nil _ name.lower front known) (by simp)
  | mail preference exchange => simp [write, Writer.word, bytes16]
  | authority primary contact serial refresh retry expire minimum =>
      simp [write, Writer.long, bytes32]
  | service priority weight socket target => simp [write, Writer.word, bytes16]
  | text strings =>
      obtain ⟨_, hsome, _⟩ := hfits
      obtain ⟨string, strings, rfl⟩ := List.exists_cons_of_ne_nil hsome
      simp [write, characterBytes]
  | machine processor system => simp [write, characterBytes]
  | rewriting order preference flags services pattern replacement =>
      simp [write, Writer.word, bytes16]
  | options found =>
      cases found with
      | nil => simp [write, Options.write]
      | cons entry found => simp [write, Options.write, bytes16]
  | raw bytes => simpa [write] using hfits.2

/-- What is read back for data that was written. -/
def carried (data : RecordData) : Option RecordData :=
  if data = options [] then none else some data.lowered

theorem read_fits {message : Bytes} {kind : RecordType} {size : Nat} {cursor after : Cursor}
    {data : RecordData} (h : RecordData.read message kind size cursor = some (some data, after)) :
    data.Fits kind := by
  unfold RecordData.read at h
  by_cases hsize : size = 0
  · rw [if_pos hsize] at h
    cases h
  · rw [if_neg hsize] at h
    obtain ⟨taken, _, h⟩ := Option.bind_eq_some_iff.mp h
    obtain ⟨⟨found, behind⟩, hfound, h⟩ := Option.bind_eq_some_iff.mp h
    dsimp only at h
    split at h
    · cases h
      exact readFields_fits hsize hfound
    · cases h

/-- The data of a record, if it has any, is read back from what is written. -/
theorem read_write {kind : RecordType} {data : Option RecordData}
    (hfits : ∀ given ∈ data, given.Fits kind) (front : Bytes) (known : Suffixes) (tail : Bytes)
    (hknown : known.Sound front)
    (hlength : (((data.map write).getD .nothing).output front known).length < 65536) :
    RecordData.read (front ++ ((data.map write).getD .nothing).output front known ++ tail) kind
        (((data.map write).getD .nothing).output front known).length
        ⟨front.length, ((data.map write).getD .nothing).output front known ++ tail⟩ =
      some (data.bind carried,
        ⟨(front ++ ((data.map write).getD .nothing).output front known).length, tail⟩) := by
  cases data with
  | none => simp [RecordData.read, Writer.nothing]
  | some data =>
      have hfits := hfits data rfl
      have hread := readFields_write hfits front known tail hknown hlength
      simp only [Option.map_some, Option.getD_some, Option.bind_some, carried] at hlength ⊢
      by_cases hnil : data = options []
      · rw [if_pos hnil, (output_eq_nil_iff hfits front known).mpr hnil]
        simp [RecordData.read]
      · have hsome := mt (output_eq_nil_iff hfits front known).mp hnil
        unfold RecordData.read
        rw [if_neg hnil, if_neg (mt List.eq_nil_of_length_eq_zero hsome), Cursor.take_append]
        simp only [Option.bind_eq_bind, Option.bind_some, hread]
        rw [if_pos (by rw [List.length_append])]
        rfl

end DnsForwarder.RecordData
