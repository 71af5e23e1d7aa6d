import HouseRules.Check.Filter
import HouseRules.Settings.Value
import HouseRules.Text.Case
import HouseRules.Text.Utf8

/-! # Settings

The settings of a run, and how they are made from a value. Every field has a default; fields that are
not known are ignored; all fields with faults are reported together, in the order of the fields. -/

namespace HouseRules

/-- The settings of a run. -/
structure Settings where
  /-- The checks to run, by identifier; none means all. -/
  checks : List String := []
  /-- Patterns of paths to ignore. -/
  ignorePaths : List String := []
  /-- Patterns of namespaces to ignore. -/
  ignoreNamespaces : List String := []
  /-- The history is checked, too. -/
  history : Bool := false
  /-- The output format. -/
  format : String := "terminal"
  deriving DecidableEq, Repr

/-- The filters of the settings, for patterns that there is room to read. -/
def Settings.filters (s : Settings) (room : String → Bool) : Except FilterError (List Filter) :=
  Filter.build room s.ignorePaths s.ignoreNamespaces

namespace Settings

/-- What is wrong with a field. -/
inductive Problem where
  /-- It is no list. -/
  | noList
  /-- It is no text. -/
  | noString
  /-- It is a byte string that is no text. -/
  | noUnicode
  /-- It is of a type without truth values. -/
  | noBool
  /-- It is of a type with truth values, but none of them. -/
  | unclearBool
  deriving DecidableEq, Repr

/-- The short name of a problem. -/
def Problem.kind : Problem → String
  | noList => "list_type"
  | noString => "string_type"
  | noUnicode => "string_unicode"
  | noBool => "bool_type"
  | unclearBool => "bool_parsing"

/-- A problem in words. -/
def Problem.words : Problem → String
  | noList => "Input should be a valid list"
  | noString => "Input should be a valid string"
  | noUnicode => "Input should be a valid string, unable to parse raw data as a unicode string"
  | noBool => "Input should be a valid boolean"
  | unclearBool => "Input should be a valid boolean, unable to interpret input"

/-- A problem at a place: a field, or an item of it. -/
structure Fault where
  /-- The field, and the number of the item. -/
  place : List String
  /-- What is wrong there. -/
  problem : Problem
  deriving DecidableEq, Repr

/-- Why a value is no settings. -/
inductive Error where
  /-- The value has a type that can hold nothing. -/
  | noContainer (type : String)
  /-- The value is a list that holds the name of the checks. -/
  | listOfNames
  /-- The value is a text that holds the name of the checks. -/
  | textOfNames
  /-- The value is a set that holds the name of the checks. -/
  | setOfNames
  /-- The value is a byte string. -/
  | byteString
  /-- The checks are of a type without elements. -/
  | noElements (type : String)
  /-- The value is no mapping. -/
  | noMapping (type : String)
  /-- A key is no text. -/
  | keyNotText
  /-- Fields have faults. -/
  | invalid (faults : List Fault)
  deriving DecidableEq, Repr

/-- The wording of an error, apart from faults of fields. -/
def Error.message : Error → String
  | noContainer type => s!"argument of type '{type}' is not iterable"
  | listOfNames => "list indices must be integers or slices, not str"
  | textOfNames => "string indices must be integers, not 'str'"
  | setOfNames => "'set' object is not subscriptable"
  | byteString => "a bytes-like object is required, not 'str'"
  | noElements type => s!"'{type}' object is not iterable"
  | noMapping type =>
    s!"stricture.config.settings.Settings() argument after ** must be a mapping, not {type}"
  | keyNotText => "keywords must be strings"
  | invalid _ => ""

/-! ### Fields -/

/-- A text field. -/
def stringOf : Value → Except Problem String
  | .string s => .ok s
  | .bytes b =>
    match Utf8.decode b with
    | .ok s => .ok s
    | .error _ => .error .noUnicode
  | _ => .error .noString

/-- The words for truth, in small letters. -/
def trueWords : List String := ["1", "on", "t", "true", "y", "yes"]

/-- The words for falsehood, in small letters. -/
def falseWords : List String := ["0", "off", "f", "false", "n", "no"]

/-- A truth value in words, whatever the case of the letters. -/
def boolOfWord (s : String) : Except Problem Bool :=
  let word := String.ofList (s.toList.map Char.toLower)
  if trueWords.contains word then .ok true
  else if falseWords.contains word then .ok false
  else .error .unclearBool

/-- A truth value as a number. -/
def boolOfInt (n : Int) : Except Problem Bool :=
  if n = 0 then .ok false else if n = 1 then .ok true else .error .unclearBool

/-- A truth field. -/
def boolOf : Value → Except Problem Bool
  | .bool b => .ok b
  | .string s => boolOfWord s
  | .bytes b =>
    match Utf8.decode b with
    | .ok s => boolOfWord s
    | .error _ => .error .unclearBool
  | .int n => boolOfInt n
  | .real x =>
    if x == 0 then .ok false
    else if x == 1 then .ok true
    else if x.isFinite && x.floor == x then .error .unclearBool
    else .error .noBool
  | _ => .error .noBool

/-- The faults of the items of a list, from number `i` on. -/
def itemFaults (field : String) (i : Nat) : List Value → List Fault
  | [] => []
  | v :: r =>
    match stringOf v with
    | .ok _ => itemFaults field (i + 1) r
    | .error p => ⟨[field, toString i], p⟩ :: itemFaults field (i + 1) r

/-- A field that is a list of texts. -/
def stringsOf (field : String) (v : Value) : Except (List Fault) (List String) :=
  match v with
  | .list items | .set items =>
    match itemFaults field 0 items with
    | [] => .ok (items.filterMap fun v => (stringOf v).toOption)
    | faults => .error faults
  | .itself true => .error [⟨[field, "0"], .noString⟩]
  | _ => .error [⟨[field], .noList⟩]

/-- A field of one value. -/
def single {α : Type} (read : Value → Except Problem α) (field : String) (v : Value) :
    Except (List Fault) α :=
  match read v with
  | .ok a => .ok a
  | .error p => .error [⟨[field], p⟩]

/-- A field with its default. -/
def fieldOr {α : Type} (read : String → Value → Except (List Fault) α) (entries : List (Value × Value))
    (name : String) (missing : α) : Except (List Fault) α :=
  match Value.field? entries name with
  | some v => read name v
  | none => .ok missing

/-- The faults of a field. -/
def faultsOf {α : Type} : Except (List Fault) α → List Fault
  | .ok _ => []
  | .error fs => fs

/-- The settings that entries state. -/
def ofEntries (entries : List (Value × Value)) : Except Error Settings :=
  let checks := fieldOr stringsOf entries "checks" []
  let paths := fieldOr stringsOf entries "ignore_paths" []
  let namespaces := fieldOr stringsOf entries "ignore_namespaces" []
  let history := fieldOr (single boolOf) entries "history" false
  let format := fieldOr (single stringOf) entries "format" "terminal"
  match checks, paths, namespaces, history, format with
  | .ok checks, .ok ignorePaths, .ok ignoreNamespaces, .ok history, .ok format =>
    .ok { checks, ignorePaths, ignoreNamespaces, history, format }
  | _, _, _, _, _ =>
    .error (.invalid (faultsOf checks ++ faultsOf paths ++ faultsOf namespaces ++
      faultsOf history ++ faultsOf format))

/-! ### Values -/

/-- The elements of a value: of a mapping its keys, of a text its characters. -/
def elements : Value → Except Error (List Value)
  | .list items | .set items => .ok items
  | .mapping entries => .ok (entries.map (·.1))
  | .string s => .ok (s.toList.map fun c => .string (String.ofList [c]))
  | .bytes b => .ok (b.map fun x => .int x.toNat)
  | .pair a b => .ok [a, b]
  | .itself b => .ok [.itself b]
  | v => .error (.noElements v.typeName)

/-- The field of the checks. -/
def checksName : String := "checks"

/-- The entries with the checks written in capitals. -/
def withChecks (entries : List (Value × Value)) : Except Error (List (Value × Value)) := do
  match Value.field? entries checksName with
  | none => return entries
  | some v =>
    let names := (← elements v).map fun c => Value.string (Text.upper c.text)
    return Value.setKey (.string checksName) (.list names) entries

/-- One of the values is the given text. -/
def holdsText (name : String) (items : List Value) : Bool :=
  items.any fun
    | .string s => s == name
    | _ => false

/-- The settings that a value states. -/
def ofValue (v : Value) : Except Error Settings :=
  match v with
  | .mapping entries => do
    let entries ← withChecks entries
    if entries.all fun (k, _) => match k with
      | .string _ => true
      | _ => false
    then ofEntries entries
    else throw .keyNotText
  | .list items =>
    if holdsText checksName items then .error .listOfNames else .error (.noMapping v.typeName)
  | .set items =>
    if holdsText checksName items then .error .setOfNames else .error (.noMapping v.typeName)
  | .string s =>
    if Search.occurs checksName.toList s.toList then .error .textOfNames
    else .error (.noMapping v.typeName)
  | .bytes _ => .error .byteString
  | .pair .. | .itself _ => .error (.noMapping v.typeName)
  | _ => .error (.noContainer v.typeName)

end Settings
end HouseRules
