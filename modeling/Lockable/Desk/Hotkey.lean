/-!
# Hotkeys

The keys that the desk listens to, wherever the user is on it. Two of them are also letters: while a
note is being written, these belong to the **note**.
-/

namespace Lockable.Desk

/-- What a key is for. -/
inductive Hotkey where
  | refresh
  | reload
  | selectAll
  | clearSelection
  | quit
  deriving DecidableEq, Repr

namespace Hotkey

/-- The hotkeys in the order in which they are shown. -/
def all : List Hotkey := [refresh, reload, selectAll, clearSelection, quit]

/-- Every hotkey is in the list of all. -/
@[simp] theorem mem_all (k : Hotkey) : k ∈ all := by cases k <;> decide

/-- The key. -/
def key : Hotkey → String
  | refresh => "r"
  | reload => "ctrl+l"
  | selectAll => "a"
  | clearSelection => "escape"
  | quit => "ctrl+q"

/-- The name of what the key does. -/
def action : Hotkey → String
  | refresh => "refresh_resources"
  | reload => "reload_config"
  | selectAll => "select_all"
  | clearSelection => "clear_selection"
  | quit => "quit"

/-- What the key does, as it is shown. -/
def description : Hotkey → String
  | refresh => "Refresh"
  | reload => "Reload Config"
  | selectAll => "Select All"
  | clearSelection => "Clear Selection"
  | quit => "Quit"

/-- The letter that the key writes where text is written. -/
def letter? : Hotkey → Option Char
  | refresh => some 'r'
  | selectAll => some 'a'
  | _ => none

/-- The hotkey of a key. -/
def ofKey? (k : String) : Option Hotkey := all.find? fun h => h.key = k

/-- A key is the key of its hotkey. -/
@[simp] theorem ofKey?_key (h : Hotkey) : ofKey? h.key = some h := by cases h <;> decide

end Hotkey

end Lockable.Desk
