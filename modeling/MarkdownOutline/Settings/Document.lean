import MarkdownOutline.Settings.Basic
import MarkdownOutline.Toml.Reader

/-!
# Settings as TOML

The fields of a settings file. Fields that are not known are passed over, and the entries of a
table are taken in the order of their keys. A table may also be given as an array of its fields.
-/

namespace MarkdownOutline

open Toml

namespace Toml

mutual

/-- All numbers in the value lie in the ranges that numbers are read in. -/
def Value.isInRange : Value → Bool
  | .integer n => -(2 ^ 127) ≤ n && n < 2 ^ 128
  | .float x => x.isFinite
  | .array elements => areInRange elements
  | .table _ entries => entriesInRange entries
  | .tables elements => tablesInRange elements
  | _ => true

def areInRange : List Value → Bool
  | [] => true
  | value :: rest => value.isInRange && areInRange rest

def entriesInRange : List (String × Value) → Bool
  | [] => true
  | (_, value) :: rest => value.isInRange && entriesInRange rest

def tablesInRange : List (List (String × Value)) → Bool
  | [] => true
  | entries :: rest => entriesInRange entries && tablesInRange rest

end

end Toml

/-- The entries of a table in the order of their keys. -/
def byKey (table : Table) : Table := table.mergeSort fun a b => !(decide (b.1 < a.1))

/-- What `read` makes of the fields of a record one after the other. A date counts as a table
without fields that are known. -/
def readRecord {σ : Type} (fields : List String)
    (read : σ → String → Value → Except SettingsFault σ) (start : σ) : Value → Except SettingsFault σ
  | .table _ entries => (byKey entries).foldlM (fun s (key, value) =>
      if fields.contains key then read s key value
      else if value.isInRange then .ok s
      else .error .numberTooLarge) start
  | .array elements => inOrder elements
  | .tables elements => inOrder (elements.map (.table .header))
  | .dateTime _ => .ok start
  | _ => .error .wrongType
where
  inOrder (elements : List Value) : Except SettingsFault σ :=
    (fields.zip elements).foldlM (fun s (key, value) => read s key value) start

def readString : Value → Except SettingsFault String
  | .string value => .ok value
  | _ => .error .wrongType

def readNatBelow (bound : Nat) : Value → Except SettingsFault Nat
  | .integer n => if 0 ≤ n ∧ n < bound then .ok n.toNat else .error .wrongType
  | _ => .error .wrongType

def readIndexFrom (value : Value) : Except SettingsFault IndexFrom := do
  match IndexFrom.ofNat (← readNatBelow UInt8.size value) with
  | .ok indexFrom => .ok indexFrom
  | .error cause => .error (.invalidIndex cause)

def readNumbering : FormatOptions → Value → Except SettingsFault FormatOptions :=
  readRecord ["add_heading_index_from", "list_index_handle_method"] fun options key value =>
    if key = "add_heading_index_from" then
      return { options with indexFrom := ← readIndexFrom value }
    else return { options with lists := .ofName (← readString value) }

def readExports : ExportOptions → Value → Except SettingsFault ExportOptions :=
  readRecord ["invalid_note_prefix", "invalid_folder_prefix"] fun options key value =>
    if key = "invalid_note_prefix" then return { options with notePrefix := ← readString value }
    else return { options with folderPrefix := ← readString value }

def readLog : LogSettings → Value → Except SettingsFault LogSettings :=
  readRecord ["level", "file_level", "file"] fun log key value =>
    if key = "level" then return { log with level := ← readString value }
    else if key = "file_level" then return { log with fileLevel? := some (← readString value) }
    else return { log with file? := some ⟨← readString value⟩ }

/-- A settings file: its version, if it has one, and the settings as they are written. -/
structure SettingsDocument where
  version? : Option Nat := none
  settings : Settings := {}

namespace SettingsDocument

def readField (document : SettingsDocument) (key : String) (value : Value) :
    Except SettingsFault SettingsDocument := do
  let settings := document.settings
  if key = "version" then return { document with version? := some (← readNatBelow UInt32.size value) }
  else if key = "index" then
    return { document with
      settings := { settings with numbering := ← readNumbering settings.numbering value } }
  else if key = "export" then
    return { document with
      settings := { settings with exports := ← readExports settings.exports value } }
  else return { document with settings := { settings with log := ← readLog settings.log value } }

def ofToml (text : String) : Except SettingsFault SettingsDocument :=
  match Table.ofText? text with
  | none => .error .notToml
  | some table =>
    readRecord ["version", "index", "export", "logging"] readField {} (.table .header table)

end SettingsDocument

end MarkdownOutline
