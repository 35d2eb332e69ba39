import PropertyConfig.Number.Digits
import PropertyConfig.Store.Watched
import PropertyConfig.Text.Quoted.Basic

/-!
# Descriptions of stores

A description of a watched store for people who look for faults: what is in it, and what it goes by.
-/

namespace PropertyConfig

def flagText (b : Bool) : Text := (if b then "true" else "false").toList

def Store.describedEntry (e : Entry) : Text :=
  Text.Quoted.quote e.1 ++ ": ".toList ++ Text.Quoted.quote e.2

/-- The entries with quotes, between braces. -/
def Store.describedEntries (s : Store) : Text :=
  '\x7b' :: Text.join ", ".toList (s.entries.map describedEntry) ++ ['\x7d']

def Watched.description {α : Type} (w : Watched α) : Text :=
  "PropertyStore \x7b entries: ".toList ++ w.store.describedEntries ++
    ", ignore_case: ".toList ++ flagText w.store.policy.ignoreCase ++
    ", allow_blank_values: ".toList ++ flagText w.store.policy.allowBlank ++
    ", observers: ".toList ++ decimalDigits w.observers.length ++ " \x7d".toList

end PropertyConfig
