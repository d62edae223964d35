import PgVitals.Settings
import PgVitals.Fault

/-!
# Catalogues of collectors

A catalogue lists collectors under distinct names, in the order of their registration, each with
whether it runs by default and how it is made. The settings may switch collectors on and off; a
switch for a name that is not listed is a fault of the configuration.
-/

namespace PgVitals

/-- A collector that can be made. -/
structure Entry (γ : Type) where
  name : String
  /-- Whether it runs unless it is switched off. -/
  onByDefault : Bool
  make : Settings → Except Fault γ

def Entry.describe {γ : Type} (e : Entry γ) : String :=
  "ProbeDescriptor \x7b name: " ++ Text.quoted e.name ++ ", default_enabled: " ++
    toString e.onByDefault ++ " \x7d"

/-- The collectors that can be made, in the order of their registration. -/
structure Catalogue (γ : Type) where
  entries : List (Entry γ)

namespace Catalogue

variable {γ : Type}

def empty : Catalogue γ := ⟨[]⟩

def get? (c : Catalogue γ) (name : String) : Option (Entry γ) :=
  c.entries.find? fun e => e.name = name

def names (c : Catalogue γ) : List String := c.entries.map Entry.name

/-- Adds an entry, unless its name is taken. -/
def register (c : Catalogue γ) (e : Entry γ) : Except Fault (Catalogue γ) :=
  if c.entries.any fun other => other.name = e.name then
    .error (.configuration ("probe " ++ Text.quoted e.name ++ " registered twice"))
  else .ok ⟨c.entries ++ [e]⟩

/-- Whether a collector runs under the settings. -/
def isEnabled (c : Catalogue γ) (name : String) (settings : Settings) : Bool :=
  match settings.overrides.get? name with
  | some on => on
  | none => ((c.get? name).map Entry.onByDefault).getD false

/-- The fault of a switch for a name that is not listed. -/
def unknownName (c : Catalogue γ) (name : String) : Fault :=
  .configuration ("unknown collector " ++ Text.quoted name ++ " (known: " ++
    String.intercalate ", " c.names ++ ")")

/-- Rejects settings that switch a collector that is not listed. -/
def validate (c : Catalogue γ) (settings : Settings) : Except Fault Unit :=
  -- Keys ascend, so the unknown name reported is the first in the order of texts.
  match settings.overrides.keys.find? fun name => (c.get? name).isNone with
  | some name => .error (c.unknownName name)
  | none => .ok ()

/-- Makes the enabled collectors among the entries. -/
def makeEnabled (c : Catalogue γ) (settings : Settings) :
    List (Entry γ) → Except Fault (List (String × γ))
  | [] => .ok []
  | e :: rest =>
    if c.isEnabled e.name settings then
      match e.make settings with
      | .error fault =>
        .error (.configuration ("collector " ++ e.name ++ ": " ++ fault.message))
      | .ok collector => (c.makeEnabled settings rest).map ((e.name, collector) :: ·)
    else c.makeEnabled settings rest

/-- Makes every enabled collector, in the order of registration. -/
def instantiate (c : Catalogue γ) (settings : Settings) :
    Except Fault (List (String × γ)) :=
  match c.validate settings with
  | .error fault => .error fault
  | .ok () => c.makeEnabled settings c.entries

end Catalogue

end PgVitals
