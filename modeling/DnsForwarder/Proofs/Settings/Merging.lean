import DnsForwarder.Proofs.Settings.Setting
import DnsForwarder.Settings.Path

/-!
# Values put into configuration data

Names lead from a table to the values in it (`find?`).  A value that is put at a path of names is
found there (`find?_alterAt_self`), on the way to it there are tables (`find?_alterAt_of_prefix`),
and what lies beside the path stays as it was (`find?_alterAt_of_ne`).

Data that is put together by `putAll` never has two fields of one name in one table
(`Tidy.putAll`), so that it does not matter whether the first or the last of them is taken
(`lookup_reverse`).
-/

namespace DnsForwarder

/-! ## Fields of data -/

/-- The value of a field; only tables have fields. -/
def Datum.field? (datum : Datum) (name : String) : Option Datum := datum.fields.lookup name

theorem map_fst_alterField {Value : Type} (name : String) (change : Option Value → Value)
    (fields : List (String × Value)) :
    (alterField name change fields).map Prod.fst =
      if name ∈ fields.map Prod.fst then fields.map Prod.fst
      else fields.map Prod.fst ++ [name] := by
  induction fields with
  | nil => simp [alterField]
  | cons field rest ih =>
      rw [alterField]
      by_cases hname : field.1 = name
      · simp [hname]
      · rw [if_neg hname, List.map_cons, ih]
        simp only [List.map_cons, List.mem_cons, Ne.symm hname, false_or]
        split <;> rfl

/-- Where no name comes twice, the last field of a name is the first. -/
theorem lookup_reverse {Value : Type} {fields : List (String × Value)}
    (hnames : (fields.map Prod.fst).Nodup) (name : String) :
    fields.reverse.lookup name = fields.lookup name := by
  induction fields with
  | nil => rfl
  | cons field rest ih =>
      obtain ⟨key, value⟩ := field
      obtain ⟨hkey, hrest⟩ := List.nodup_cons.mp hnames
      rw [List.reverse_cons, List.lookup_append, ih hrest]
      by_cases hname : name = key
      · subst hname
        have hnone : rest.lookup name = none := by
          refine List.lookup_eq_none_iff.mpr fun field hfield => ?_
          exact bne_iff_ne.mpr fun h => hkey (h ▸ List.mem_map.mpr ⟨field, hfield, rfl⟩)
        rw [hnone]
        simp
      · simp [List.lookup_cons, beq_false_of_ne hname]

namespace Settings

/-! ## Names that come once -/

/-- Data in which no table has two fields of one name, as far as names lead. -/
inductive Tidy : Datum → Prop
  | table {fields : List (String × Datum)} (hnames : (fields.map Prod.fst).Nodup)
      (hfields : ∀ name, ∀ value ∈ fields.lookup name, Tidy value) : Tidy (.table fields)
  | other {datum : Datum} (hnone : ∀ fields, datum ≠ .table fields) : Tidy datum

namespace Tidy

theorem nothing : Tidy .nothing := other (by simp)

variable {datum inner : Datum}

theorem fields (h : Tidy datum) : Tidy (.table datum.fields) := by
  cases datum with
  | table fields => exact h
  | _ => exact table List.nodup_nil (by simp [Datum.fields])

theorem nodup (h : Tidy datum) : (datum.fields.map Prod.fst).Nodup := by
  cases h.fields with
  | table hnames _ => exact hnames
  | other hnone => exact absurd rfl (hnone _)

theorem field? (h : Tidy datum) {name : String} (hinner : inner ∈ datum.field? name) :
    Tidy inner := by
  cases h.fields with
  | table _ hfields => exact hfields name inner hinner
  | other hnone => exact absurd rfl (hnone _)

theorem find? (h : Tidy datum) {path : List String}
    (hinner : inner ∈ find? Datum.field? datum path) : Tidy inner := by
  induction path generalizing datum with
  | nil => exact Option.some.inj hinner ▸ h
  | cons name path ih =>
      obtain ⟨value, hvalue, hrest⟩ := Option.bind_eq_some_iff.mp hinner
      exact ih (h.field? hvalue) hrest

variable {change : Datum → Datum}

/-- A field that is changed or made leaves a table tidy, if the change leaves its value tidy. -/
theorem alterField (h : Tidy datum) (name : String)
    (hchange : ∀ old, Tidy old → Tidy (change old)) :
    Tidy (.table (alterField name (fun old => change (old.getD .nothing)) datum.fields)) := by
  refine table ?_ fun other value hvalue => ?_
  · rw [map_fst_alterField]
    split
    · exact h.nodup
    · rename_i hfresh
      rw [← List.concat_eq_append]
      exact (List.nodup_concat _ _).mpr ⟨hfresh, h.nodup⟩
  · rw [lookup_alterField] at hvalue
    split at hvalue
    · obtain rfl := Option.some.inj hvalue
      cases hold : datum.fields.lookup name with
      | none => exact hchange _ nothing
      | some old => exact hchange old (h.field? hold)
    · exact h.field? hvalue

theorem alterAt (hchange : ∀ old, Tidy old → Tidy (change old)) (path : List Step)
    (h : Tidy datum) : Tidy (alterAt change path datum) := by
  induction path generalizing datum with
  | nil => exact hchange datum h
  | cons step path ih =>
      cases step with
      | field name => exact h.alterField name fun _ => ih
      | item place => exact other (by simp [Settings.alterAt, Step.alter])

mutual

theorem overlay : ∀ (new : Datum) {old : Datum}, Tidy old → Tidy (overlay new old)
  | .table fields, _, h => overlayFields fields h.fields
  | .nothing, _, _ | .flag _, _, _ | .integer _, _, _ | .number _, _, _ | .text _, _, _
  | .list _, _, _ => other (by simp [Settings.overlay])

theorem overlayFields : ∀ (fields : List (String × Datum)) {old : List (String × Datum)},
    Tidy (.table old) → Tidy (.table (overlayFields fields old))
  | [], _, h => h
  | (name, new) :: rest, _, h =>
    overlayFields rest (h.alterField name fun _ hold => overlay new hold)

end

/-- Whatever is put into data and wherever, no name comes twice. -/
theorem putAll (values : List (String × Datum)) (h : Tidy datum) : Tidy (putAll values datum) := by
  induction values generalizing datum with
  | nil => exact h
  | cons value rest ih =>
      exact ih (alterAt (fun _ hold => overlay value.2 hold) (pathOf value.1) h)

end Tidy

/-! ## Putting a value at a path -/

section AlterAt

variable {change : Datum → Datum} {path : List String}

theorem field?_alterAt (name other : String) (datum : Datum) :
    (alterAt change (.field name :: path.map .field) datum).field? other =
      if other = name then
        some (alterAt change (path.map .field) ((datum.field? name).getD .nothing))
      else datum.field? other := by
  rw [alterAt, Step.alter, Datum.field?, Datum.fields, lookup_alterField]
  rfl

/-- What is put is found where it was put. -/
theorem find?_alterAt_self {value : Datum} (hvalue : ∀ old, change old = value) (datum : Datum) :
    find? Datum.field? (alterAt change (path.map .field) datum) path = some value := by
  induction path generalizing datum with
  | nil => exact congrArg some (hvalue datum)
  | cons name path ih => rw [find?, List.map_cons, field?_alterAt, if_pos rfl, Option.bind_some, ih]

/-- Around it there are tables. -/
theorem find?_alterAt_of_prefix {front : List String} (hfront : front <+: path)
    (hne : front ≠ path) (datum : Datum) :
    ∃ fields, find? Datum.field? (alterAt change (path.map .field) datum) front =
      some (.table fields) := by
  induction path generalizing front datum with
  | nil => exact absurd (List.prefix_nil.mp hfront) hne
  | cons name path ih =>
      cases front with
      | nil => exact ⟨_, rfl⟩
      | cons first front =>
          obtain ⟨rfl, hrest⟩ := List.cons_prefix_cons.mp hfront
          rw [find?, List.map_cons, field?_alterAt, if_pos rfl, Option.bind_some]
          exact ih hrest (fun h => hne (congrArg (first :: ·) h)) _

/-- Elsewhere nothing changes. -/
theorem find?_alterAt_of_ne {other : List String} (hone : ¬ path <+: other)
    (hother : ¬ other <+: path) (datum : Datum) :
    find? Datum.field? (alterAt change (path.map .field) datum) other =
      find? Datum.field? datum other := by
  induction path generalizing other datum with
  | nil => exact absurd List.nil_prefix hone
  | cons name path ih =>
      cases other with
      | nil => exact absurd List.nil_prefix hother
      | cons first other =>
          rw [find?, find?, List.map_cons, field?_alterAt]
          split
          · rename_i hsame
            subst hsame
            simp only [List.cons_prefix_cons, true_and] at hone hother
            rw [Option.bind_some, ih hone hother]
            -- a table that is made on the way is as empty beside the path as nothing is
            cases datum.field? first with
            | none =>
              cases other with
              | nil => exact absurd List.nil_prefix hother
              | cons second rest => rfl
            | some inner => rfl
          · rfl

end AlterAt

end Settings
end DnsForwarder
