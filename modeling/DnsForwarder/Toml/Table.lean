import DnsForwarder.Toml.Document

/-!
# What a TOML document means

The sections of a document are entered one by one into a table of tables.  A
table remembers how it came about, for that decides what may still be added.  A
table that was only passed through by a header may get its own header later, a
table with a header may not get a second one and no dotted keys from outside, and
a table that dotted keys put values into gets no header of its own, though tables
below it do.  A list of tables stands for its last table, which has a header.
Values, inline tables and lists are closed.  No key has more than 80 parts.
-/

namespace DnsForwarder.Toml

/-- How a table came about. -/
inductive Origin
  /-- A header further down names it on the way. -/
  | passed
  | headed
  /-- A dotted key made it or put a value into it. -/
  | dotted
deriving DecidableEq, Repr

inductive Node
  | closed (value : Datum)
  | table (origin : Origin) (fields : List (String × Node))
  /-- The tables of a list of tables, the last one first. -/
  | rows (rows : List (List (String × Node)))

instance : Inhabited Node := ⟨.closed .nothing⟩

abbrev Fields := List (String × Node)

def setField (fields : Fields) (name : String) (node : Node) : Fields :=
  alterField name (fun _ => node) fields

/-! ## Entering values -/

/-- How a table came about through which a dotted key leads, where `path` is left of
the key. -/
def Origin.behind (origin : Origin) (path : List String) : Origin :=
  if path.length = 1 then dotted else origin

/-- Enters a value under a dotted key. -/
def assign? (value : Datum) : List String → Fields → Option Fields
  | [], _ => none
  | [name], fields =>
    match fields.lookup name with
    | none => some (setField fields name (.closed value))
    | some _ => none
  | name :: path, fields =>
    match fields.lookup name with
    | none =>
      (assign? value path []).map fun inner => setField fields name (.table .dotted inner)
    | some (.table .headed _) => none
    | some (.table origin inner) =>
      (assign? value path inner).map fun inner =>
        setField fields name (.table (origin.behind path) inner)
    | some (.rows (row :: rows)) =>
      if path.length = 1 then none
      else
        (assign? value path row).map fun row => setField fields name (.rows (row :: rows))
    | some _ => none

/-- The most parts of a key. -/
def largestKey : Nat := 80

def assignAll? : List (List String × Datum) → Fields → Option Fields
  | [], fields => some fields
  | (path, value) :: rest, fields =>
    if largestKey < path.length then none
    else (assign? value path fields).bind (assignAll? rest)

/-- Enters a section under its header. -/
def define? (many : Bool) (entries : List (List String × Datum)) :
    List String → Fields → Option Fields
  | [], _ => none
  | [name], fields =>
    match many, fields.lookup name with
    | false, none =>
      (assignAll? entries []).map fun inner => setField fields name (.table .headed inner)
    | false, some (.table .passed inner) =>
      (assignAll? entries inner).map fun inner => setField fields name (.table .headed inner)
    | true, none => (assignAll? entries []).map fun row => setField fields name (.rows [row])
    | true, some (.rows rows) =>
      (assignAll? entries []).map fun row => setField fields name (.rows (row :: rows))
    | _, _ => none
  | name :: path, fields =>
    match fields.lookup name with
    | none =>
      (define? many entries path []).map fun inner => setField fields name (.table .passed inner)
    | some (.table origin inner) =>
      (define? many entries path inner).map fun inner =>
        setField fields name (.table origin inner)
    | some (.rows (row :: rows)) =>
      (define? many entries path row).map fun row => setField fields name (.rows (row :: rows))
    | some _ => none

/-! ## What is entered -/

mutual

def Node.datum : Node → Datum
  | .closed value => value
  | .table _ fields => .table (fieldData fields)
  | .rows rows => .list (rowData rows).reverse

def fieldData : Fields → List (String × Datum)
  | [] => []
  | (name, node) :: rest => (name, node.datum) :: fieldData rest

def rowData : List Fields → List Datum
  | [] => []
  | row :: rest => .table (fieldData row) :: rowData rest

end

mutual

def Value.datum? : Value → Option Datum
  | .word value => some value
  | .list items => (itemData? items).map .list
  | .table entries => do
    let fields ← assignAll? (← entryData? entries) []
    return .table (fieldData fields)

def itemData? : List Value → Option (List Datum)
  | [] => some []
  | item :: rest => do return (← item.datum?) :: (← itemData? rest)

def entryData? : List (List String × Value) → Option (List (List String × Datum))
  | [] => some []
  | (path, value) :: rest => do return (path, ← value.datum?) :: (← entryData? rest)

end

def Document.defineAll? : List Headed → Fields → Option Fields
  | [], fields => some fields
  | headed :: rest, fields => do
    if largestKey < headed.path.length then none
    defineAll? rest (← define? headed.many (← entryData? headed.entries) headed.path fields)

def Document.fields? (document : Document) : Option (List (String × Datum)) := do
  let root ← assignAll? (← entryData? document.entries) []
  return fieldData (← defineAll? document.sections root)

/-- The fields that a text names, if it is a TOML document. -/
def fields? (text : String) : Option (List (String × Datum)) :=
  (document? text).bind Document.fields?

end DnsForwarder.Toml
