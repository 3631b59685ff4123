import DnsForwarder.Net.Address
import Mathlib

/-!
# Addresses read back from their text

The text of an address is read as that address (`IpAddress.ofString?_text`), and the text of a
socket address as that socket address (`SocketAddress.ofString?_text`), whatever their bits are.

## Strategy

Numbers are settled first: their digits are read back, there are not too many of them, and a
decimal one has no zero in front.  A digit is none of the characters that separate numbers, so
each separator is found where it was written.

An IPv6 address is written in one of three ways.

* All eight groups are written out, and no two colons stand together.
* A gap stands for the longest run of zeros.  What is written in front of it has no gap and does
  not end in a colon, so the gap is the first pair of colons (`splitGap_groupsText_append`), and
  the groups that are missing are the zeros (`longestZeros_spec`, `parse?_gap`).
* An address that maps an IPv4 address is a gap of five zeros, the group `ffff`, and that address.

A text is tried as an IPv4 address first.  No text of an IPv6 address is one: it has no dots, or
more than a number in front of the first of them.
-/

namespace DnsForwarder

/-! ## Digits -/

namespace Text

theorem length_reversedDigits_le {base count value : Nat} (hvalue : value < base ^ count) :
    (reversedDigits base value).length ≤ count := by
  induction count generalizing value with
  | zero =>
      have hzero : value = 0 := by simpa using hvalue
      rw [hzero, reversedDigits]
      simp
  | succ count ih =>
      rw [reversedDigits]
      split
      · have hrest : value / base < base ^ count :=
          Nat.div_lt_of_lt_mul (pow_succ' base count ▸ hvalue)
        exact Nat.succ_le_succ (ih hrest)
      · exact Nat.zero_le _

/-- A number below a power of the base has no more digits than that power. -/
theorem length_digits_le {base count value : Nat} (hcount : 0 < count)
    (hvalue : value < base ^ count) : (digits base value).length ≤ count := by
  unfold digits
  split
  · exact hcount
  · rw [List.length_reverse]
    exact length_reversedDigits_le hvalue

end Text

theorem decimalBelow?_digits {bound value : Nat} (hvalue : value < bound) :
    decimalBelow? bound (Text.digits 10 value) = some value := by
  rw [decimalBelow?, Text.ofDigits?_digits (by decide) (by decide)]
  simp [hvalue]

/-! ## IPv4 -/

namespace Ipv4

theorem octet?_digits (octet : UInt8) : octet? (Text.digits 10 octet.toNat) = some octet := by
  have hbound := octet.toNat_lt
  have hshort : (Text.digits 10 octet.toNat).length ≤ 3 :=
    Text.length_digits_le (by decide) (by omega)
  have hplain : ¬ (1 < (Text.digits 10 octet.toNat).length ∧
      (Text.digits 10 octet.toNat).head? = some '0') := by
    rintro ⟨hlong, hzero⟩
    by_cases hnone : octet.toNat = 0
    · rw [hnone] at hlong
      exact absurd hlong (by decide)
    · exact Text.head?_digits_ne (by decide) (by decide) hnone hzero
  rw [octet?, if_neg (not_or.mpr ⟨Nat.not_lt.mpr hshort, hplain⟩), decimalBelow?_digits hbound]
  simp

/-- The characters of an address are digits and dots. -/
theorem not_mem_chars (address : Ipv4) {c : Char} (hdigit : Text.isHex c = false)
    (hdot : c ≠ '.') : c ∉ address.chars := by
  have hdigits : ∀ octet : UInt8, c ∉ Text.digits 10 octet.toNat :=
    fun octet => Text.not_mem_digits (by decide) (by decide) hdigit
  simp [chars, Text.joinWith, hdigits, hdot]

theorem parse?_chars (address : Ipv4) : parse? address.chars = some address := by
  have hclean : ∀ part ∈ [address.a, address.b, address.c, address.d].map
      fun octet => Text.digits 10 octet.toNat, '.' ∉ part := by
    intro part hpart
    obtain ⟨octet, _, rfl⟩ := List.mem_map.mp hpart
    exact Text.not_mem_digits (by decide) (by decide) (by decide)
  rw [parse?, chars, Text.splitOn_joinWith (by simp) hclean]
  simp only [List.map_cons, List.map_nil, octet?_digits]
  rfl

/-- What has no dot is no IPv4 address. -/
theorem parse?_eq_none {text : List Char} (hdot : '.' ∉ text) : parse? text = none := by
  rw [parse?, Text.splitOn_clean hdot]

/-- A text is no IPv4 address if too much stands in front of its first dot. -/
theorem parse?_append_eq_none {front : List Char} (hdot : '.' ∉ front) (hlong : 3 < front.length)
    (rest : List Char) : parse? (front ++ '.' :: rest) = none := by
  have hoctet : octet? front = none := by
    rw [octet?, if_pos (Or.inl hlong)]
  unfold parse?
  rw [Text.splitOn_append hdot]
  split
  · rename_i hparts
    rw [(List.cons.inj hparts).1] at hoctet
    rw [hoctet]
    rfl
  · rfl

end Ipv4

/-! ## IPv6 -/

namespace Ipv6

theorem group?_digits (group : UInt16) : group? (Text.digits 16 group.toNat) = some group := by
  have hbound := group.toNat_lt
  have hshort : (Text.digits 16 group.toNat).length ≤ 4 :=
    Text.length_digits_le (by decide) (by omega)
  rw [group?, if_neg (Nat.not_lt.mpr hshort), Text.ofDigits?_digits (by decide) (by decide)]
  simp

/-! ### Groups of digits -/

theorem groupsText_cons (group : UInt16) {groups : List UInt16} (hmore : groups ≠ []) :
    groupsText (group :: groups) =
      Text.digits 16 group.toNat ++ ':' :: groupsText groups := by
  cases groups with
  | nil => exact absurd rfl hmore
  | cons other groups => simp [groupsText, Text.joinWith]

theorem exists_groupsText_eq (group : UInt16) (groups : List UInt16) :
    ∃ rest, groupsText (group :: groups) = Text.digits 16 group.toNat ++ rest := by
  cases groups with
  | nil => exact ⟨[], (List.append_nil _).symm⟩
  | cons other groups => exact ⟨_, groupsText_cons group (List.cons_ne_nil other groups)⟩

/-- Groups that are written out begin with a digit. -/
theorem exists_head_groupsText (group : UInt16) (groups : List UInt16) :
    ∃ c rest, groupsText (group :: groups) = c :: rest ∧ c ≠ ':' := by
  obtain ⟨rest, hrest⟩ := exists_groupsText_eq group groups
  have hsome : Text.digits 16 group.toNat ≠ [] := Text.digits_ne_nil (by decide)
  obtain ⟨c, digits, hdigits⟩ := List.exists_cons_of_ne_nil hsome
  refine ⟨c, digits ++ rest, by rw [hrest, hdigits, List.cons_append], ?_⟩
  rintro rfl
  have hcolon : ':' ∉ Text.digits 16 group.toNat :=
    Text.not_mem_digits (by decide) (by decide) (by decide)
  exact hcolon (hdigits ▸ List.mem_cons_self)

theorem groups?_digits (ending : Bool) (groups : List UInt16) :
    groups? ending (groups.map fun group => Text.digits 16 group.toNat) = some groups := by
  induction groups with
  | nil => rfl
  | cons group groups ih =>
      cases groups with
      | nil =>
          -- without a dot the last part is a group, even where an IPv4 address may stand
          have hplain : Ipv4.parse? (Text.digits 16 group.toNat) = none :=
            Ipv4.parse?_eq_none (Text.not_mem_digits (by decide) (by decide) (by decide))
          simp only [List.map_cons, List.map_nil, groups?, hplain, ite_self, group?_digits]
          rfl
      | cons other groups =>
          simp only [List.map_cons] at ih ⊢
          simp only [groups?, group?_digits, ih]
          rfl

theorem run?_groupsText (ending : Bool) (groups : List UInt16) :
    run? ending (groupsText groups) = some groups := by
  cases groups with
  | nil => rfl
  | cons group groups =>
      have hclean : ∀ part ∈ (group :: groups).map fun group => Text.digits 16 group.toNat,
          ':' ∉ part := by
        intro part hpart
        obtain ⟨group, _, rfl⟩ := List.mem_map.mp hpart
        exact Text.not_mem_digits (by decide) (by decide) (by decide)
      have hsome : (groupsText (group :: groups)).isEmpty = false := by
        obtain ⟨c, rest, hhead, _⟩ := exists_head_groupsText group groups
        rw [hhead]
        rfl
      rw [run?, hsome, groupsText, Text.splitOn_joinWith (by simp) hclean, groups?_digits]
      rfl

/-! ### The gap -/

/-- A character that is not the first of two colons belongs to the front. -/
theorem splitGap_cons {c : Char} {rest : List Char} (h : c ≠ ':' ∨ rest.head? ≠ some ':') :
    splitGap (c :: rest) = (splitGap rest).map fun found => (c :: found.1, found.2) := by
  refine splitGap.eq_3 c rest fun tail hcolon htail => ?_
  subst hcolon htail
  exact h.elim (fun hfirst => hfirst rfl) fun hsecond => hsecond rfl

theorem splitGap_append_of_clean {front : List Char} (hclean : ':' ∉ front) (rest : List Char) :
    splitGap (front ++ rest) =
      (splitGap rest).map fun found => (front ++ found.1, found.2) := by
  induction front with
  | nil => simp
  | cons c front ih =>
      have hc : c ≠ ':' := fun h => hclean (h ▸ List.mem_cons_self)
      have hfront : ':' ∉ front := fun h => hclean (List.mem_cons_of_mem c h)
      rw [List.cons_append, splitGap_cons (Or.inl hc), ih hfront, Option.map_map]
      rfl

/-- There is no gap between groups that are written out, nor does one begin in them. -/
theorem splitGap_groupsText_append (groups : List UInt16) (rest : List Char) :
    splitGap (groupsText groups ++ rest) =
      (splitGap rest).map fun found => (groupsText groups ++ found.1, found.2) := by
  have hclean : ∀ group : UInt16, ':' ∉ Text.digits 16 group.toNat :=
    fun group => Text.not_mem_digits (by decide) (by decide) (by decide)
  induction groups with
  | nil => simp [groupsText, Text.joinWith]
  | cons group groups ih =>
      by_cases hmore : groups = []
      · subst hmore
        exact splitGap_append_of_clean (hclean group) rest
      · -- the colon between two groups is followed by a digit
        have hdigit : (groupsText groups ++ rest).head? ≠ some ':' := by
          obtain ⟨other, others, rfl⟩ := List.exists_cons_of_ne_nil hmore
          obtain ⟨c, tail, hhead, hc⟩ := exists_head_groupsText other others
          rw [hhead]
          simpa using hc
        rw [groupsText_cons group hmore, List.append_assoc, splitGap_append_of_clean (hclean group),
          List.cons_append, splitGap_cons (Or.inr hdigit), ih, Option.map_map, Option.map_map]
        simp [Function.comp_def]

/-! ### The longest run of zeros -/

theorem eq_leadingZeros_append (groups : List UInt16) :
    groups = List.replicate (leadingZeros groups) 0 ++ groups.drop (leadingZeros groups) := by
  have hzeros : groups.takeWhile (· == 0) = List.replicate (leadingZeros groups) 0 := by
    refine List.eq_replicate_iff.mpr ⟨rfl, fun group hgroup => ?_⟩
    simpa using List.mem_takeWhile_imp hgroup
  rw [← hzeros]
  exact (List.prefix_iff_eq_append.mp (List.takeWhile_prefix _)).symm

/-- The run that is found really consists of zeros, and it lies within the groups. -/
theorem longestZeros_spec (index : Nat) (groups : List UInt16) :
    ∃ start, (longestZeros index groups).1 = index + start ∧
      groups = groups.take start ++ List.replicate (longestZeros index groups).2 0 ++
        groups.drop (start + (longestZeros index groups).2) := by
  induction groups generalizing index with
  | nil => exact ⟨0, rfl, rfl⟩
  | cons group groups ih =>
      rw [longestZeros]
      split
      · refine ⟨0, rfl, ?_⟩
        rw [List.take_zero, List.nil_append, Nat.zero_add]
        exact eq_leadingZeros_append _
      · obtain ⟨start, hstart, hgroups⟩ := ih (index + 1)
        refine ⟨start + 1, by rw [hstart]; omega, ?_⟩
        rw [List.take_succ_cons, Nat.add_right_comm, List.drop_succ_cons, List.cons_append,
          List.cons_append, ← hgroups]

/-! ### The text -/

theorem ofGroups?_groups (address : Ipv6) : ofGroups? address.groups = some address :=
  dif_pos address.eight

theorem parse?_groupsText (address : Ipv6) :
    parse? (groupsText address.groups) = some address := by
  have hgap : splitGap (groupsText address.groups) = none := by
    have h := splitGap_groupsText_append address.groups []
    rwa [List.append_nil] at h
  rw [parse?, hgap]
  dsimp only
  rw [run?_groupsText, Option.bind_some, ofGroups?_groups]

/-- A gap stands for the zeros that are missing. -/
theorem parse?_gap {address : Ipv6} {front back : List Char} {first last : List UInt16}
    {zeros : Nat} (hgap : splitGap (front ++ ':' :: ':' :: back) = some (front, back))
    (hfront : run? false front = some first) (hback : run? true back = some last)
    (hzeros : 0 < zeros)
    (hgroups : address.groups = first ++ List.replicate zeros 0 ++ last) :
    parse? (front ++ ':' :: ':' :: back) = some address := by
  have hlength : first.length + zeros + last.length = 8 := by
    have h := address.eight
    rwa [hgroups, List.length_append, List.length_append, List.length_replicate] at h
  have hcount : 8 - first.length - last.length = zeros := by omega
  rw [parse?, hgap]
  simp only [hfront, hback, Option.bind_eq_bind, Option.bind_some, hcount, ← hgroups,
    ofGroups?_groups]
  rw [if_neg (by omega)]

theorem parse?_compressed (address : Ipv6) : parse? address.compressed = some address := by
  obtain ⟨start, hstart, hgroups⟩ := longestZeros_spec 0 address.groups
  rw [compressed]
  dsimp only
  split
  · rename_i hlong
    rw [hstart, Nat.zero_add, List.append_assoc]
    have hgap := splitGap_groupsText_append (address.groups.take start)
      (':' :: ':' :: groupsText (address.groups.drop (start + (longestZeros 0 address.groups).2)))
    refine parse?_gap ?_ (run?_groupsText false _) (run?_groupsText true _) ?_ hgroups
    · simpa [splitGap] using hgap
    · omega
  · exact parse?_groupsText address

/-- A group is made of its two bytes. -/
theorem ofNat_octets (group : UInt16) :
    UInt16.ofNat ((UInt8.ofNat (group.toNat / 256)).toNat * 256 +
      (UInt8.ofNat group.toNat).toNat) = group := by
  have hbound := group.toNat_lt
  apply UInt16.toNat_inj.mp
  rw [UInt16.toNat_ofNat', UInt8.toNat_ofNat', UInt8.toNat_ofNat']
  omega

theorem groups_of_mapped? {address : Ipv6} {inner : Ipv4} (h : address.mapped? = some inner) :
    address.groups = [0, 0, 0, 0, 0, 0xffff] ++ embedded inner := by
  unfold mapped? at h
  split at h
  · rename_i high low hgroups
    obtain rfl := Option.some.inj h
    rw [hgroups, embedded, ofNat_octets, ofNat_octets]
    rfl
  · cases h

theorem parse?_chars (address : Ipv6) : parse? address.chars = some address := by
  unfold chars
  split
  · rename_i inner hmapped
    have hgroups := groups_of_mapped? hmapped
    have hparts : Text.splitOn ':' ("ffff".toList ++ ':' :: inner.chars) =
        ["ffff".toList, inner.chars] := by
      rw [Text.splitOn_append (by decide),
        Text.splitOn_clean (inner.not_mem_chars (by decide) (by decide))]
    have hback : run? true ("ffff".toList ++ ':' :: inner.chars) =
        some (0xffff :: embedded inner) := by
      have hgroup : group? "ffff".toList = some 0xffff := by decide
      have hsome : ("ffff".toList ++ ':' :: inner.chars).isEmpty = false := rfl
      rw [run?, hsome, hparts]
      simp only [Bool.false_eq_true, reduceIte, groups?, hgroup, Ipv4.parse?_chars]
      rfl
    exact @parse?_gap address [] _ [] _ 5 rfl rfl hback (by decide) hgroups
  · exact parse?_compressed address

theorem not_mem_groupsText {c : Char} (hdigit : Text.isHex c = false) (hcolon : c ≠ ':')
    (groups : List UInt16) : c ∉ groupsText groups := by
  have hdigits : ∀ group : UInt16, c ∉ Text.digits 16 group.toNat :=
    fun group => Text.not_mem_digits (by decide) (by decide) hdigit
  induction groups with
  | nil => simp [groupsText, Text.joinWith]
  | cons group groups ih =>
      by_cases hmore : groups = []
      · subst hmore
        exact hdigits group
      · rw [groupsText_cons group hmore]
        simp [hdigits, hcolon, ih]

theorem not_mem_compressed (address : Ipv6) {c : Char} (hdigit : Text.isHex c = false)
    (hcolon : c ≠ ':') : c ∉ address.compressed := by
  have hgroups := @not_mem_groupsText c hdigit hcolon
  unfold compressed
  dsimp only
  split
  · simp [hgroups, hcolon]
  · exact hgroups _

/-- The characters of an address are digits, colons and dots. -/
theorem not_mem_chars (address : Ipv6) {c : Char} (hdigit : Text.isHex c = false)
    (hcolon : c ≠ ':') (hdot : c ≠ '.') : c ∉ address.chars := by
  unfold chars
  split
  · rename_i inner _
    have hmark : c ∉ "::ffff:".toList := by
      intro hmem
      have hmarks : "::ffff:".toList.all (fun mark => Text.isHex mark || mark == ':') = true := by
        decide
      have hhex := List.all_eq_true.mp hmarks c hmem
      simp [hdigit, hcolon] at hhex
    exact List.not_mem_append hmark (inner.not_mem_chars hdigit hdot)
  · exact address.not_mem_compressed hdigit hcolon

/-- The text of an IPv6 address is no IPv4 address, not even with one at its end. -/
theorem ipv4_parse?_chars (address : Ipv6) : Ipv4.parse? address.chars = none := by
  unfold chars
  split
  · rename_i inner _
    have hclean : '.' ∉ "::ffff:".toList ++ Text.digits 10 inner.a.toNat := by
      have hdigits : '.' ∉ Text.digits 10 inner.a.toNat :=
        Text.not_mem_digits (by decide) (by decide) (by decide)
      exact List.not_mem_append (by decide) hdigits
    have hlong : 3 < ("::ffff:".toList ++ Text.digits 10 inner.a.toNat).length := by
      rw [List.length_append]
      exact Nat.lt_add_right _ (by decide)
    have htext : "::ffff:".toList ++ inner.chars =
        ("::ffff:".toList ++ Text.digits 10 inner.a.toNat) ++ '.' ::
          Text.joinWith ['.'] ([inner.b, inner.c, inner.d].map fun octet =>
            Text.digits 10 octet.toNat) := by
      simp [Ipv4.chars, Text.joinWith]
    rw [htext]
    exact Ipv4.parse?_append_eq_none hclean hlong _
  · exact Ipv4.parse?_eq_none (address.not_mem_compressed (by decide) (by decide))

end Ipv6

/-! ## Addresses of either version -/

namespace IpAddress

/-- The text of an address is read as that address. -/
theorem ofString?_text (address : IpAddress) : ofString? address.text = some address := by
  cases address with
  | v4 address =>
      rw [ofString?, parse?, text, Ipv4.text, String.toList_ofList, Ipv4.parse?_chars]
  | v6 address =>
      rw [ofString?, parse?, text, Ipv6.text, String.toList_ofList, Ipv6.ipv4_parse?_chars,
        Ipv6.parse?_chars]
      rfl

end IpAddress

/-! ## Socket addresses -/

namespace SocketAddress

theorem portNumber?_digits (number : UInt16) :
    portNumber? (Text.digits 10 number.toNat) = some number := by
  rw [portNumber?, decimalBelow?_digits number.toNat_lt]
  simp

theorem scoped?_chars (address : Ipv6) (scope : UInt32) :
    scoped? (address.chars ++ if scope = 0 then [] else '%' :: Text.digits 10 scope.toNat) =
      some (address, scope) := by
  have hclean : '%' ∉ address.chars := address.not_mem_chars (by decide) (by decide) (by decide)
  split
  · rename_i hzero
    rw [List.append_nil, scoped?, Text.splitOnce_clean hclean]
    simp only [Ipv6.parse?_chars, Option.map_some, hzero]
  · rw [scoped?, Text.splitOnce_append hclean]
    simp only [Ipv6.parse?_chars, decimalBelow?_digits scope.toNat_lt]
    simp

/-- The text of a socket address is read as that address. -/
theorem parse?_chars (address : SocketAddress) : parse? address.chars = some address := by
  cases address with
  | v4 address number =>
      have hbracket : '[' ∉ address.chars ++ ':' :: Text.digits 10 number.toNat := by
        have hfront : '[' ∉ address.chars := address.not_mem_chars (by decide) (by decide)
        have hback : '[' ∉ Text.digits 10 number.toNat :=
          Text.not_mem_digits (by decide) (by decide) (by decide)
        simp [hfront, hback]
      have hcolon : ':' ∉ address.chars := address.not_mem_chars (by decide) (by decide)
      have hnumber : ':' ∉ Text.digits 10 number.toNat :=
        Text.not_mem_digits (by decide) (by decide) (by decide)
      have hparts : Text.splitOn ':' (address.chars ++ ':' :: Text.digits 10 number.toNat) =
          [address.chars, Text.digits 10 number.toNat] := by
        rw [Text.splitOn_append hcolon, Text.splitOn_clean hnumber]
      rw [chars]
      unfold parse?
      split
      · rename_i hopen
        exact absurd (hopen ▸ List.mem_cons_self) hbracket
      · rw [hparts]
        simp only [Ipv4.parse?_chars, portNumber?_digits]
        rfl
  | v6 address scope number =>
      have hinner : ']' ∉ address.chars ++
          if scope = 0 then [] else '%' :: Text.digits 10 scope.toNat := by
        have hclean : ']' ∉ address.chars :=
          address.not_mem_chars (by decide) (by decide) (by decide)
        have hscope : ']' ∉ Text.digits 10 scope.toNat :=
          Text.not_mem_digits (by decide) (by decide) (by decide)
        split <;> simp [hclean, hscope]
      have hsplit := Text.splitOnce_append hinner (':' :: Text.digits 10 number.toNat)
      have hchars : chars (.v6 address scope number) = '[' :: ((address.chars ++
          if scope = 0 then [] else '%' :: Text.digits 10 scope.toNat) ++ ']' :: ':' ::
            Text.digits 10 number.toNat) := by
        simp [chars]
      rw [hchars, parse?, hsplit]
      simp only [scoped?_chars, portNumber?_digits]
      rfl

theorem ofString?_text (address : SocketAddress) : ofString? address.text = some address := by
  rw [ofString?, text, String.toList_ofList, parse?_chars]

end SocketAddress

end DnsForwarder
